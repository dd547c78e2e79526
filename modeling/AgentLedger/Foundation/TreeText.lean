import AgentLedger.Foundation.JsonNotation

namespace Foundation

/-! JSON texts without white space, of trees whose members stand in any order.
They tell all trees apart. -/

open JsonText

/-- How numbers and the characters of strings are written. -/
structure TreeStyle (Number : Type) where
  numerals : Numerals Number
  escape : Char → List Char
  reads : ∀ char rest, stringBody (escape char ++ rest) =
    (stringBody rest).map (pushChar char)

namespace TreeStyle

variable {Number : Type} (style : TreeStyle Number)

def string (text : String) : List Char :=
  '"' :: (text.toList.flatMap style.escape ++ ['"'])

mutual
def print : JsonTree Number → List Char
  | .null => "null".toList
  | .bool value => (toString value).toList
  | .number number => style.numerals.print number
  | .string text => style.string text
  | .array items => Spelling.enclose '[' ']' (printItems items)
  | .object entries =>
      Spelling.enclose '\x7b' '\x7d' (printEntries entries)

def printItems : List (JsonTree Number) → List (List Char)
  | [] => []
  | item :: rest => print item :: printItems rest

def printEntries : List (String × JsonTree Number) → List (List Char)
  | [] => []
  | (key, value) :: rest =>
      (style.string key ++ ':' :: print value) :: printEntries rest
end

def printEntry (entry : String × JsonTree Number) : List Char :=
  style.string entry.1 ++ ':' :: style.print entry.2

theorem printItems_eq (items : List (JsonTree Number)) :
    style.printItems items = items.map style.print := by
  induction items with
  | nil => rfl
  | cons item rest ih => rw [printItems, ih, List.map_cons]

theorem printEntries_eq (entries : List (String × JsonTree Number)) :
    style.printEntries entries = entries.map style.printEntry := by
  induction entries with
  | nil => rfl
  | cons entry rest ih =>
      rw [printEntries, ih, List.map_cons]
      rfl

/-! ### Lists of texts -/

section Lists

variable {α : Type} {shown : α → List Char} {closing : Char}

/-- The text of the value tells it from all others, whatever comes behind. -/
def Apart (shown : α → List Char) (value : α) : Prop :=
  ∀ other rest behind, Follows rest → Follows behind →
    shown value ++ rest = shown other ++ behind → value = other ∧ rest = behind

private theorem follows_tail {items : List α}
    (other : isNumeral closing = false) (rest : List Char) :
    Follows ((items.map shown).flatMap (fun text => ',' :: text) ++
      closing :: rest) := by
  cases items with
  | nil => exact follows_cons other rest
  | cons item items => exact follows_cons (by decide) _

private theorem tail_apart (solid : isNumeral closing = false)
    (other : closing ≠ ',') {items others : List α}
    (each : ∀ item ∈ items, Apart shown item) {rest behind : List Char}
    (same : (items.map shown).flatMap (fun text => ',' :: text) ++
        closing :: rest =
      (others.map shown).flatMap (fun text => ',' :: text) ++
        closing :: behind) : items = others ∧ rest = behind := by
  induction items generalizing others with
  | nil =>
      cases others with
      | nil => exact ⟨rfl, (List.cons.inj same).2⟩
      | cons item others => exact absurd (List.cons.inj same).1 other
  | cons item items ih =>
      cases others with
      | nil => exact absurd (List.cons.inj same).1.symm other
      | cons held others =>
          obtain ⟨own, later⟩ := List.forall_mem_cons.mp each
          simp only [List.map_cons, List.flatMap_cons, List.cons_append,
            List.append_assoc, List.cons.injEq, true_and] at same
          obtain ⟨rfl, left⟩ := own held _ _ (follows_tail solid rest)
            (follows_tail solid behind) same
          obtain ⟨rfl, last⟩ := ih later left
          exact ⟨rfl, last⟩

/-- A list is told apart if its items are, and none is taken for its end. -/
theorem enclose_apart (opening : Char) (solid : isNumeral closing = false)
    (other : closing ≠ ',') {items others : List α}
    (each : ∀ item ∈ items, Apart shown item)
    (starts : ∀ item, ∃ first later, shown item = first :: later ∧
      first ≠ closing) {rest behind : List Char}
    (same : Spelling.enclose opening closing (items.map shown) ++ rest =
      Spelling.enclose opening closing (others.map shown) ++ behind) :
    items = others ∧ rest = behind := by
  simp only [Spelling.enclose, List.cons_append, List.append_assoc,
    List.cons.injEq, true_and, List.nil_append] at same
  cases items with
  | nil =>
      cases others with
      | nil => exact ⟨rfl, (List.cons.inj same).2⟩
      | cons held others =>
          obtain ⟨first, later, begins, open_⟩ := starts held
          rw [List.map_cons, Spelling.intercalate_cons, begins] at same
          exact absurd (List.cons.inj same).1.symm open_
  | cons item items =>
      cases others with
      | nil =>
          obtain ⟨first, later, begins, open_⟩ := starts item
          rw [List.map_cons, Spelling.intercalate_cons, begins] at same
          exact absurd (List.cons.inj same).1 open_
      | cons held others =>
          obtain ⟨own, later⟩ := List.forall_mem_cons.mp each
          simp only [List.map_cons, Spelling.intercalate_cons,
            List.append_assoc] at same
          obtain ⟨rfl, left⟩ := own held _ _ (follows_tail solid rest)
            (follows_tail solid behind) same
          obtain ⟨rfl, last⟩ := tail_apart solid other later left
          exact ⟨rfl, last⟩

end Lists

/-! ### Trees -/

def kindOf : JsonTree Number → Nat
  | .null => 0
  | .bool true => 1
  | .bool false => 2
  | .string _ => 3
  | .array _ => 4
  | .object _ => 5
  | .number _ => 6

theorem print_starts (tree : JsonTree Number) :
    ∃ first later, style.print tree = first :: later ∧
      Spelling.kind first = kindOf tree ∧ first ≠ ']' := by
  cases tree with
  | null => exact ⟨_, _, rfl, rfl, by decide⟩
  | bool value =>
      cases value
      · exact ⟨_, _, rfl, rfl, by decide⟩
      · exact ⟨_, _, rfl, rfl, by decide⟩
  | string text => exact ⟨_, _, rfl, rfl, by decide⟩
  | array items => exact ⟨_, _, rfl, rfl, by decide⟩
  | object entries => exact ⟨_, _, rfl, rfl, by decide⟩
  | number number =>
      have nonempty := style.numerals.nonempty number
      have numeral := style.numerals.numeral number
      rw [print]
      cases written : style.numerals.print number with
      | nil => exact absurd written nonempty
      | cons first later =>
          rw [written, List.all_cons, Bool.and_eq_true] at numeral
          refine ⟨first, later, rfl, ?_, ?_⟩
          · have numeral := numeral.1
            unfold Spelling.kind
            split <;> first
              | rfl
              | (exfalso; revert numeral; decide)
          · rintro rfl
            exact absurd numeral.1 (by decide)

/-- Trees whose texts begin alike are of one kind. -/
private theorem kindOf_same {tree other : JsonTree Number}
    {rest behind : List Char}
    (same : style.print tree ++ rest = style.print other ++ behind) :
    kindOf tree = kindOf other := by
  obtain ⟨first, _, shown, own, _⟩ := style.print_starts tree
  obtain ⟨second, _, seen, kinds, _⟩ := style.print_starts other
  rw [shown, seen] at same
  rw [← own, ← kinds, (List.cons.inj same).1]

/-- A tree that is the only one of its kind. -/
private theorem apart_of_kind {tree : JsonTree Number}
    (only : ∀ other, kindOf tree = kindOf other → tree = other) :
    Apart style.print tree := by
  intro other rest behind _ _ same
  obtain rfl := only other (style.kindOf_same same)
  exact ⟨rfl, List.append_cancel_left same⟩

theorem number_apart {first second : Number} {rest behind : List Char}
    (follows : Follows rest) (ends : Follows behind)
    (same : style.numerals.print first ++ rest =
      style.numerals.print second ++ behind) :
    first = second ∧ rest = behind := by
  obtain ⟨taken, left⟩ := span_numeral (style.numerals.numeral first) follows
  obtain ⟨other, last⟩ := span_numeral (style.numerals.numeral second) ends
  rw [same] at taken left
  have texts : style.numerals.print first = style.numerals.print second :=
    taken.symm.trans other
  have read := congrArg style.numerals.parse texts
  rw [style.numerals.parse_print, style.numerals.parse_print] at read
  exact ⟨Option.some.inj read, left.symm.trans last⟩

theorem stringBody_string (text rest : List Char) :
    stringBody (text.flatMap style.escape ++ '"' :: rest) =
      some (text, rest) := by
  induction text with
  | nil => rfl
  | cons char later ih =>
      rw [List.flatMap_cons, List.append_assoc, style.reads, ih]
      rfl

theorem string_apart {first second : String} {rest behind : List Char}
    (same : style.string first ++ rest = style.string second ++ behind) :
    first = second ∧ rest = behind := by
  simp only [string, List.cons_append, List.append_assoc, List.nil_append,
    List.cons.injEq, true_and] at same
  have read := congrArg stringBody same
  rw [stringBody_string, stringBody_string] at read
  obtain ⟨texts, last⟩ := Prod.mk.inj (Option.some.inj read)
  exact ⟨String.toList_injective texts, last⟩

private theorem entry_apart {entry : String × JsonTree Number}
    (own : Apart style.print entry.2) : Apart style.printEntry entry := by
  intro other rest behind follows ends same
  rw [printEntry, printEntry, List.append_assoc, List.append_assoc] at same
  obtain ⟨keys, later⟩ := style.string_apart same
  obtain ⟨values, last⟩ :=
    own other.2 _ _ follows ends (List.cons.inj later).2
  exact ⟨Prod.ext keys values, last⟩

mutual
/-- The text of a tree and what comes behind it are told apart, by induction
over the tree. -/
theorem print_apart : (tree : JsonTree Number) → Apart style.print tree
  | .null => by
      apply style.apart_of_kind
      intro other alike
      cases other with
      | null => rfl
      | bool value => cases value <;> cases alike
      | number _ | string _ | array _ | object _ => cases alike
  | .bool true => by
      apply style.apart_of_kind
      intro other alike
      cases other with
      | bool value => cases value <;> first | rfl | cases alike
      | null | number _ | string _ | array _ | object _ => cases alike
  | .bool false => by
      apply style.apart_of_kind
      intro other alike
      cases other with
      | bool value => cases value <;> first | rfl | cases alike
      | null | number _ | string _ | array _ | object _ => cases alike
  | .number value => by
      intro other rest behind follows ends same
      have alike := style.kindOf_same same
      cases other with
      | number second =>
          obtain ⟨rfl, last⟩ := style.number_apart follows ends same
          exact ⟨rfl, last⟩
      | bool value => cases value <;> cases alike
      | null | string _ | array _ | object _ => cases alike
  | .string value => by
      intro other rest behind follows ends same
      have alike := style.kindOf_same same
      cases other with
      | string second =>
          obtain ⟨rfl, last⟩ := style.string_apart same
          exact ⟨rfl, last⟩
      | bool value => cases value <;> cases alike
      | null | number _ | array _ | object _ => cases alike
  | .array items => by
      intro other rest behind follows ends same
      have alike := style.kindOf_same same
      cases other with
      | array others =>
          rw [print, print, printItems_eq, printItems_eq] at same
          have starts (item : JsonTree Number) : ∃ first later,
              style.print item = first :: later ∧ first ≠ ']' := by
            obtain ⟨first, later, shown, _, open_⟩ := style.print_starts item
            exact ⟨first, later, shown, open_⟩
          obtain ⟨rfl, last⟩ := enclose_apart '[' (by decide) (by decide)
            (items_apart items) starts same
          exact ⟨rfl, last⟩
      | bool value => cases value <;> cases alike
      | null | number _ | string _ | object _ => cases alike
  | .object entries => by
      intro other rest behind follows ends same
      have alike := style.kindOf_same same
      cases other with
      | object others =>
          rw [print, print, printEntries_eq, printEntries_eq] at same
          have starts (entry : String × JsonTree Number) : ∃ first later,
              style.printEntry entry = first :: later ∧ first ≠ '\x7d' :=
            ⟨_, _, rfl, by decide⟩
          obtain ⟨rfl, last⟩ := enclose_apart '\x7b' (by decide) (by decide)
            (entries_apart entries) starts same
          exact ⟨rfl, last⟩
      | bool value => cases value <;> cases alike
      | null | number _ | string _ | array _ => cases alike

theorem items_apart : (items : List (JsonTree Number)) →
    ∀ item ∈ items, Apart style.print item
  | [], _, member => by cases member
  | item :: rest, other, member => by
      rcases List.mem_cons.mp member with same | later
      · rw [same]
        exact print_apart item
      · exact items_apart rest other later

theorem entries_apart : (entries : List (String × JsonTree Number)) →
    ∀ entry ∈ entries, Apart style.printEntry entry
  | [], _, member => by cases member
  | (key, value) :: rest, other, member => by
      rcases List.mem_cons.mp member with rfl | later
      · exact style.entry_apart (print_apart value)
      · exact entries_apart rest other later
end

theorem print_injective : Function.Injective style.print := by
  intro first second same
  have texts : style.print first ++ [] = style.print second ++ [] := by
    rw [same]
  exact (style.print_apart first second [] [] follows_nil follows_nil texts).1

end TreeStyle

theorem Entries.ext_get? {Key Value : Type} [LinearOrder Key]
    {first second : List (Key × Value)} (ordered : Entries.Ordered first)
    (other : Entries.Ordered second)
    (same : ∀ key, Entries.get? key first = Entries.get? key second) :
    first = second := by
  have members : ∀ entry, entry ∈ first ↔ entry ∈ second := by
    intro entry
    constructor
    · intro member
      have found := Entries.get?_of_mem ordered member
      rw [same] at found
      exact Entries.mem_of_get? found
    · intro member
      have found := Entries.get?_of_mem other member
      rw [← same] at found
      exact Entries.mem_of_get? found
  have distinct {entries : List (Key × Value)}
      (ordered : Entries.Ordered entries) : entries.Nodup := by
    refine ordered.imp ?_
    intro first second before alike
    rw [alike] at before
    exact lt_irrefl _ before
  have perm :=
    (List.perm_ext_iff_of_nodup (distinct ordered) (distinct other)).mpr members
  exact perm.eq_of_pairwise
    (fun _ _ _ _ before behind => absurd before (lt_asymm behind)) ordered other

namespace JsonTree

variable {Number : Type}

mutual
/-- Every object with its members in key order. -/
def sorted : JsonTree Number → JsonTree Number
  | .array items => .array (sortedItems items)
  | .object entries => .object (sortedEntries entries)
  | tree => tree

def sortedItems : List (JsonTree Number) → List (JsonTree Number)
  | [] => []
  | item :: rest => item.sorted :: sortedItems rest

def sortedEntries : List (String × JsonTree Number) →
    List (String × JsonTree Number)
  | [] => []
  | (key, value) :: rest =>
      Entries.insert key value.sorted (sortedEntries rest)
end

end JsonTree

/-! ### The trees of JSON values -/

namespace Json

mutual
/-- The value, its numbers as what they are. -/
def tree : Json → JsonTree Rat
  | .null => .null
  | .bool value => .bool value
  | .int value => .number value
  | .float value => .number value
  | .str value => .string value
  | .arr items => .array (treeItems items)
  | .obj fields => .object (treeFields fields)

def treeItems : List Json → List (JsonTree Rat)
  | [] => []
  | item :: rest => item.tree :: treeItems rest

def treeFields : List (String × Json) → List (String × JsonTree Rat)
  | [] => []
  | (key, value) :: rest => (key, value.tree) :: treeFields rest
end

theorem treeFields_eq (fields : Fields) :
    treeFields fields = fields.map fun field => (field.1, field.2.tree) := by
  induction fields with
  | nil => rfl
  | cons field rest ih =>
      rw [treeFields, ih]
      rfl

theorem get?_treeFields (fields : Fields) (key : String) :
    Entries.get? key (treeFields fields) =
      (Fields.get? fields key).map tree := by
  induction fields with
  | nil => rfl
  | cons field rest ih =>
      obtain ⟨name, value⟩ := field
      rw [treeFields, Fields.get?, Entries.get?, ih]
      split <;> rfl

theorem ordered_treeFields {fields : Fields}
    (canonical : CanonicalFields fields) :
    Entries.Ordered (treeFields fields) := by
  induction fields with
  | nil => exact List.Pairwise.nil
  | cons field rest ih =>
      obtain ⟨name, value⟩ := field
      obtain ⟨above, _, later⟩ := canonical
      refine List.pairwise_cons.mpr ⟨?_, ih later⟩
      intro entry listed
      rw [treeFields_eq] at listed
      obtain ⟨field, held, rfl⟩ := List.mem_map.mp listed
      exact above field held

theorem treeFields_set (fields : Fields) (key : String) (value : Json) :
    treeFields (Fields.set fields key value) =
      Entries.insert key value.tree (treeFields fields) := by
  induction fields with
  | nil => rfl
  | cons field rest ih =>
      obtain ⟨first, held⟩ := field
      simp only [Fields.set, treeFields, Entries.insert]
      split
      · rfl
      · split
        · rfl
        · rw [treeFields, ih]

mutual
theorem tree_normal : (value : Json) →
    value.normal.tree = value.tree.sorted
  | .null => rfl
  | .bool _ => rfl
  | .int _ => rfl
  | .float _ => rfl
  | .str _ => rfl
  | .arr items => congrArg JsonTree.array (treeItems_normal items)
  | .obj fields => congrArg JsonTree.object (treeFields_normal fields)

theorem treeItems_normal : (items : List Json) →
    treeItems (normalItems items) = JsonTree.sortedItems (treeItems items)
  | [] => rfl
  | item :: rest => by
      rw [normalItems, treeItems, treeItems, JsonTree.sortedItems,
        tree_normal item, treeItems_normal rest]

theorem treeFields_normal : (fields : List (String × Json)) →
    treeFields (normalFields fields) =
      JsonTree.sortedEntries (treeFields fields)
  | [] => rfl
  | (key, value) :: rest => by
      rw [normalFields, treeFields_set, treeFields, JsonTree.sortedEntries,
        tree_normal value, treeFields_normal rest]
end

/-- Two objects in key order are one where they have the same members. -/
theorem treeFields_eq_iff {first second : Fields}
    (canonical : CanonicalFields first) (other : CanonicalFields second) :
    treeFields first = treeFields second ↔
      ∀ key, (Fields.get? first key).map tree =
        (Fields.get? second key).map tree := by
  constructor
  · intro same key
    rw [← get?_treeFields, ← get?_treeFields, same]
  · intro same
    apply Entries.ext_get? (ordered_treeFields canonical)
      (ordered_treeFields other)
    intro key
    rw [get?_treeFields, get?_treeFields, same]

end Json

end Foundation
