import AgentLedger.Foundation.Decimal
import AgentLedger.Foundation.JsonNormal
import AgentLedger.Foundation.JsonText

namespace Foundation

/-! Ways to write JSON values as texts, and which of them tell values apart.
The members of an object are written in the order in which they are held. -/

/-! ### Values made of some numbers, strings and keys -/

namespace Json

section Composed

variable (int : Int → Prop) (string key : String → Prop)

mutual
/-- All numbers are integers, and these and the strings and keys are as they
should. -/
def Composed : Json → Prop
  | .int value => int value
  | .float _ => False
  | .str value => string value
  | .arr items => ComposedItems items
  | .obj fields => ComposedFields fields
  | _ => True

def ComposedItems : List Json → Prop
  | [] => True
  | item :: rest => Composed item ∧ ComposedItems rest

def ComposedFields : List (String × Json) → Prop
  | [] => True
  | (name, value) :: rest =>
      key name ∧ Composed value ∧ ComposedFields rest
end

end Composed

variable {int : Int → Prop} {string key : String → Prop}

theorem composedItems_iff {items : List Json} :
    ComposedItems int string key items ↔
      ∀ item ∈ items, Composed int string key item := by
  induction items with
  | nil => simp [ComposedItems]
  | cons item rest ih => rw [ComposedItems, ih, List.forall_mem_cons]

theorem composedFields_iff {fields : List (String × Json)} :
    ComposedFields int string key fields ↔
      ∀ field ∈ fields, key field.1 ∧ Composed int string key field.2 := by
  induction fields with
  | nil => simp [ComposedFields]
  | cons field rest ih =>
      rw [ComposedFields, ih, List.forall_mem_cons, and_assoc]

mutual
theorem Composed.mono {wider : Int → Prop} {strings keys : String → Prop}
    (ints : ∀ value, int value → wider value)
    (texts : ∀ value, string value → strings value)
    (names : ∀ value, key value → keys value) : (value : Json) →
      Composed int string key value → Composed wider strings keys value
  | .arr items, composed => ComposedItems.mono ints texts names items composed
  | .obj fields, composed => ComposedFields.mono ints texts names fields composed
  | .null, _ => trivial
  | .bool _, _ => trivial
  | .int value, composed => ints value composed
  | .float _, composed => composed
  | .str value, composed => texts value composed

theorem ComposedItems.mono {wider : Int → Prop} {strings keys : String → Prop}
    (ints : ∀ value, int value → wider value)
    (texts : ∀ value, string value → strings value)
    (names : ∀ value, key value → keys value) : (items : List Json) →
      ComposedItems int string key items → ComposedItems wider strings keys items
  | [], _ => trivial
  | item :: rest, composed =>
      ⟨Composed.mono ints texts names item composed.1,
        ComposedItems.mono ints texts names rest composed.2⟩

theorem ComposedFields.mono {wider : Int → Prop} {strings keys : String → Prop}
    (ints : ∀ value, int value → wider value)
    (texts : ∀ value, string value → strings value)
    (names : ∀ value, key value → keys value) :
    (fields : List (String × Json)) → ComposedFields int string key fields →
      ComposedFields wider strings keys fields
  | [], _ => trivial
  | (name, value) :: rest, composed =>
      ⟨names name composed.1, Composed.mono ints texts names value composed.2.1,
        ComposedFields.mono ints texts names rest composed.2.2⟩
end

mutual
theorem Composed.normal : (value : Json) → Composed int string key value →
    Composed int string key value.normal
  | .arr items, composed => ComposedItems.normal items composed
  | .obj fields, composed => ComposedFields.normal fields composed
  | .null, _ => trivial
  | .bool _, _ => trivial
  | .int _, composed => composed
  | .float _, composed => composed
  | .str _, composed => composed

theorem ComposedItems.normal : (items : List Json) →
    ComposedItems int string key items →
      ComposedItems int string key (normalItems items)
  | [], _ => trivial
  | item :: rest, composed =>
      ⟨Composed.normal item composed.1, ComposedItems.normal rest composed.2⟩

theorem ComposedFields.normal : (fields : List (String × Json)) →
    ComposedFields int string key fields →
      ComposedFields int string key (normalFields fields)
  | [], _ => trivial
  | (name, value) :: rest, composed => by
      rw [normalFields, composedFields_iff]
      intro field member
      rcases Fields.mem_set member with rfl | held
      · exact ⟨composed.1, Composed.normal value composed.2.1⟩
      · exact composedFields_iff.mp (ComposedFields.normal rest composed.2.2)
          field held
end

end Json

/-! ### Notations -/

structure Spelling where
  int : Int → List Char
  float : Rat → List Char
  string : String → List Char
  /-- A key, with what stands between it and the value. -/
  key : String → List Char

namespace Spelling

variable (spelling : Spelling)

/-- The texts between an opening and a closing sign. -/
def enclose (opening closing : Char) (texts : List (List Char)) : List Char :=
  opening :: ([','].intercalate texts ++ [closing])

mutual
def text : Json → List Char
  | .null => "null".toList
  | .bool value => (toString value).toList
  | .int value => spelling.int value
  | .float value => spelling.float value
  | .str value => spelling.string value
  | .arr items => enclose '[' ']' (itemTexts items)
  | .obj fields => enclose '\x7b' '\x7d' (fieldTexts fields)

def itemTexts : List Json → List (List Char)
  | [] => []
  | item :: rest => text item :: itemTexts rest

def fieldTexts : List (String × Json) → List (List Char)
  | [] => []
  | (key, value) :: rest =>
      (spelling.key key ++ text value) :: fieldTexts rest
end

/-! ### Values that are told apart -/

/-- No number goes on behind the text. -/
def Stops (rest : List Char) : Prop :=
  ∀ char later, rest = char :: later → char.isDigit = false

theorem stops_cons {char : Char} (other : char.isDigit = false)
    (rest : List Char) : Stops (char :: rest) := by
  intro first later same
  cases same
  exact other

end Spelling

private theorem takeWhile_digits {digits rest : List Char}
    (all : ∀ char ∈ digits, char.isDigit = true) (stops : Spelling.Stops rest) :
    (digits ++ rest).takeWhile Char.isDigit = digits := by
  induction digits with
  | nil =>
      cases rest with
      | nil => rfl
      | cons char later =>
          rw [List.nil_append, List.takeWhile_cons, stops char later rfl]
          rfl
  | cons char digits ih =>
      obtain ⟨own, others⟩ := List.forall_mem_cons.mp all
      rw [List.cons_append, List.takeWhile_cons, own, if_pos rfl, ih others]

theorem natural_separated {first second : Nat} {rest behind : List Char}
    (stops : Spelling.Stops rest) (ends : Spelling.Stops behind)
    (same : first.repr.toList ++ rest = second.repr.toList ++ behind) :
    first = second ∧ rest = behind := by
  have digits := congrArg (List.takeWhile Char.isDigit) same
  rw [takeWhile_digits (fun _ member => Decimal.isDigit_of_mem member) stops,
    takeWhile_digits (fun _ member => Decimal.isDigit_of_mem member) ends]
    at digits
  have numbers := congrArg Decimal.parseNat (String.toList_injective digits)
  rw [Decimal.parseNat_repr, Decimal.parseNat_repr] at numbers
  cases numbers
  exact ⟨rfl, List.append_cancel_left same⟩

theorem toList_negSucc (number : Nat) :
    (toString (Int.negSucc number)).toList =
      '-' :: (number + 1).repr.toList := by
  have written : toString (Int.negSucc number) =
      "-" ++ (number + 1).repr := rfl
  rw [written, String.toList_append]
  rfl

private theorem unsigned (number : Nat) {rest later : List Char} :
    number.repr.toList ++ rest ≠ '-' :: later := by
  obtain ⟨first, digits, written, digit⟩ := Decimal.head_repr number
  rw [written]
  intro same
  rw [(List.cons.inj same).1] at digit
  exact absurd digit (by decide)

theorem integer_separated {first second : Int} {rest behind : List Char}
    (stops : Spelling.Stops rest) (ends : Spelling.Stops behind)
    (same : (toString first).toList ++ rest =
      (toString second).toList ++ behind) :
    first = second ∧ rest = behind := by
  have positive (number : Nat) :
      (toString (Int.ofNat number)).toList = number.repr.toList := rfl
  cases first with
  | ofNat first =>
      cases second with
      | ofNat second =>
          rw [positive, positive] at same
          obtain ⟨rfl, last⟩ := natural_separated stops ends same
          exact ⟨rfl, last⟩
      | negSucc second =>
          rw [positive, toList_negSucc] at same
          exact absurd same (unsigned first)
  | negSucc first =>
      cases second with
      | ofNat second =>
          rw [positive, toList_negSucc] at same
          exact absurd same.symm (unsigned second)
      | negSucc second =>
          rw [toList_negSucc, toList_negSucc] at same
          obtain ⟨numbers, last⟩ :=
            natural_separated stops ends (List.cons.inj same).2
          cases numbers
          exact ⟨rfl, last⟩

theorem integer_starts (value : Int) : ∃ first later,
    (toString value).toList = first :: later ∧
      (first.isDigit = true ∨ first = '-') := by
  cases value with
  | ofNat number =>
      obtain ⟨first, digits, written, digit⟩ := Decimal.head_repr number
      exact ⟨first, digits, written, .inl digit⟩
  | negSucc number => exact ⟨_, _, toList_negSucc number, .inr rfl⟩

/-- The numbers, strings and keys that a notation is used for.  A string begins
with a quote, and a number with a digit or a sign. -/
structure Spelling.Clear (spelling : Spelling) where
  int : Int → Prop
  string : String → Prop
  key : String → Prop
  int_separated : ∀ first second rest behind, int first → int second →
    Stops rest → Stops behind →
    spelling.int first ++ rest = spelling.int second ++ behind →
      first = second ∧ rest = behind
  string_separated : ∀ first second rest behind, string first →
    string second →
    spelling.string first ++ rest = spelling.string second ++ behind →
      first = second ∧ rest = behind
  key_separated : ∀ first second rest behind, key first → key second →
    spelling.key first ++ rest = spelling.key second ++ behind →
      first = second ∧ rest = behind
  int_starts : ∀ value, int value → ∃ first later,
    spelling.int value = first :: later ∧
      (first.isDigit = true ∨ first = '-')
  string_starts : ∀ value, ∃ later, spelling.string value = '"' :: later
  key_open : ∀ value rest later, key value →
    spelling.key value ++ rest ≠ '\x7d' :: later

namespace Spelling

/-! ### Lists of texts -/

theorem intercalate_cons (first : List Char) (rest : List (List Char)) :
    [','].intercalate (first :: rest) =
      first ++ rest.flatMap fun text => ',' :: text := by
  induction rest generalizing first with
  | nil => simp [List.intercalate]
  | cons second rest ih =>
      have cut : [','].intercalate (first :: second :: rest) =
          first ++ ',' :: [','].intercalate (second :: rest) := by
        simp [List.intercalate]
      rw [cut, ih second, List.flatMap_cons]
      simp

section Lists

variable {α : Type} {shown : α → List Char} {good : α → Prop} {closing : Char}

/-- What the text of a value tells of it, wherever it stands in a list. -/
def Separated (shown : α → List Char) (good : α → Prop) (value : α) : Prop :=
  ∀ other rest behind, good other → Stops rest → Stops behind →
    shown value ++ rest = shown other ++ behind → value = other ∧ rest = behind

private theorem stops_tail {items : List α}
    (solid : closing.isDigit = false) (rest : List Char) :
    Stops ((items.map shown).flatMap (fun text => ',' :: text) ++
      closing :: rest) := by
  cases items with
  | nil => exact stops_cons solid rest
  | cons item items => exact stops_cons (by decide) _

private theorem tail_separated (solid : closing.isDigit = false)
    (other : closing ≠ ',') {items : List α}
    (each : ∀ item ∈ items, Separated shown good item)
    {others : List α} (fit : ∀ item ∈ others, good item)
    {rest behind : List Char}
    (same : (items.map shown).flatMap (fun text => ',' :: text) ++
        closing :: rest =
      (others.map shown).flatMap (fun text => ',' :: text) ++
        closing :: behind) : items = others ∧ rest = behind := by
  induction items generalizing others with
  | nil =>
      cases others with
      | nil => exact ⟨rfl, (List.cons.inj same).2⟩
      | cons item others => exact absurd (List.cons.inj same).1 other
  | cons item items ih =>
      cases others with
      | nil => exact absurd (List.cons.inj same).1.symm other
      | cons held others =>
          obtain ⟨own, later⟩ := List.forall_mem_cons.mp each
          obtain ⟨fits, fitting⟩ := List.forall_mem_cons.mp fit
          simp only [List.map_cons, List.flatMap_cons, List.cons_append,
            List.append_assoc, List.cons.injEq, true_and] at same
          obtain ⟨rfl, left⟩ := own held _ _ fits (stops_tail solid rest)
            (stops_tail solid behind) same
          obtain ⟨rfl, last⟩ := ih later fitting left
          exact ⟨rfl, last⟩

/-- A list is told apart if its items are, and none is taken for its end. -/
theorem enclose_separated (opening : Char) (solid : closing.isDigit = false)
    (other : closing ≠ ',') {items : List α}
    (each : ∀ item ∈ items, Separated shown good item) {others : List α}
    (fit : ∀ item ∈ others, good item)
    (starts : ∀ item, item ∈ items ∨ item ∈ others → ∀ rest later,
      shown item ++ rest ≠ closing :: later)
    {rest behind : List Char}
    (same : enclose opening closing (items.map shown) ++ rest =
      enclose opening closing (others.map shown) ++ behind) :
    items = others ∧ rest = behind := by
  simp only [enclose, List.cons_append, List.append_assoc, List.cons.injEq,
    true_and, List.nil_append] at same
  cases items with
  | nil =>
      cases others with
      | nil => exact ⟨rfl, (List.cons.inj same).2⟩
      | cons held others =>
          rw [List.map_cons, intercalate_cons, List.append_assoc] at same
          exact absurd same.symm (starts held (.inr List.mem_cons_self) _ _)
  | cons item items =>
      cases others with
      | nil =>
          rw [List.map_cons, intercalate_cons, List.append_assoc] at same
          exact absurd same (starts item (.inl List.mem_cons_self) _ _)
      | cons held others =>
          obtain ⟨own, later⟩ := List.forall_mem_cons.mp each
          obtain ⟨fits, fitting⟩ := List.forall_mem_cons.mp fit
          simp only [List.map_cons, intercalate_cons, List.append_assoc] at same
          obtain ⟨rfl, left⟩ := own held _ _ fits (stops_tail solid rest)
            (stops_tail solid behind) same
          obtain ⟨rfl, last⟩ := tail_separated solid other later fitting left
          exact ⟨rfl, last⟩

end Lists

/-! ### Values -/

section Values

variable {spelling : Spelling} (clear : spelling.Clear)

/-- The value has the numbers, strings and keys that are told apart. -/
def Clear.Holds (value : Json) : Prop :=
  value.Composed clear.int clear.string clear.key

/-- The text of one member. -/
def fieldText (spelling : Spelling) (field : String × Json) : List Char :=
  spelling.key field.1 ++ spelling.text field.2

theorem itemTexts_eq (items : List Json) :
    spelling.itemTexts items = items.map spelling.text := by
  induction items with
  | nil => rfl
  | cons item rest ih => rw [itemTexts, ih, List.map_cons]

theorem fieldTexts_eq (fields : List (String × Json)) :
    spelling.fieldTexts fields = fields.map spelling.fieldText := by
  induction fields with
  | nil => rfl
  | cons field rest ih =>
      rw [fieldTexts, ih, List.map_cons]
      rfl

/-- What the first sign of a text says of the value. -/
def kind : Char → Nat
  | 'n' => 0
  | 't' => 1
  | 'f' => 2
  | '"' => 3
  | '[' => 4
  | '\x7b' => 5
  | _ => 6

def kindOf : Json → Nat
  | .null => 0
  | .bool true => 1
  | .bool false => 2
  | .str _ => 3
  | .arr _ => 4
  | .obj _ => 5
  | _ => 6

theorem text_starts : (value : Json) → clear.Holds value →
    ∃ first later, spelling.text value = first :: later ∧
      kind first = kindOf value ∧ first ≠ ']'
  | .null, _ => ⟨_, _, rfl, rfl, by decide⟩
  | .bool true, _ => ⟨_, _, rfl, rfl, by decide⟩
  | .bool false, _ => ⟨_, _, rfl, rfl, by decide⟩
  | .int value, holds => by
      obtain ⟨first, later, same, numeral⟩ := clear.int_starts value holds
      refine ⟨first, later, same, ?_, ?_⟩
      · unfold kind
        split <;> first
          | rfl
          | (exfalso; revert numeral; decide)
      · rintro rfl
        revert numeral
        decide
  | .str value, _ => by
      obtain ⟨later, same⟩ := clear.string_starts value
      exact ⟨_, later, same, rfl, by decide⟩
  | .arr _, _ => ⟨_, _, rfl, rfl, by decide⟩
  | .obj _, _ => ⟨_, _, rfl, rfl, by decide⟩

/-- Values whose texts begin alike are of one kind. -/
private theorem kindOf_eq {value other : Json} (holds : clear.Holds value)
    (fits : clear.Holds other) {rest behind : List Char}
    (same : spelling.text value ++ rest = spelling.text other ++ behind) :
    kindOf value = kindOf other := by
  obtain ⟨first, _, shown, own, _⟩ := text_starts clear value holds
  obtain ⟨second, _, seen, kinds, _⟩ := text_starts clear other fits
  rw [shown, seen] at same
  rw [← own, ← kinds, (List.cons.inj same).1]

/-- A value that is the only one of its kind. -/
private theorem separated_of_kind {value : Json} (holds : clear.Holds value)
    (only : ∀ other, kindOf value = kindOf other → value = other) :
    Separated spelling.text clear.Holds value := by
  intro other rest behind fits _ _ same
  obtain rfl := only other (kindOf_eq clear holds fits same)
  exact ⟨rfl, List.append_cancel_left same⟩

private theorem key_separated {field : String × Json}
    (holds : clear.key field.1)
    (own : Separated spelling.text clear.Holds field.2) :
    Separated spelling.fieldText
      (fun field => clear.key field.1 ∧ clear.Holds field.2) field := by
  intro other rest behind fits stops ends same
  rw [fieldText, fieldText, List.append_assoc, List.append_assoc] at same
  obtain ⟨keys, later⟩ := clear.key_separated _ _ _ _ holds fits.1 same
  obtain ⟨values, last⟩ := own other.2 _ _ fits.2 stops ends later
  exact ⟨Prod.ext keys values, last⟩

mutual
/-- The text of a value and what comes behind it are told apart, by induction
over the value. -/
theorem separated_text : (value : Json) → clear.Holds value →
    Separated spelling.text clear.Holds value
  | .null, holds => by
      apply separated_of_kind clear holds
      intro other alike
      cases other with
      | null => rfl
      | bool value => cases value <;> cases alike
      | int _ | float _ | str _ | arr _ | obj _ => cases alike
  | .bool true, holds => by
      apply separated_of_kind clear holds
      intro other alike
      cases other with
      | bool value => cases value <;> first | rfl | cases alike
      | null | int _ | float _ | str _ | arr _ | obj _ => cases alike
  | .bool false, holds => by
      apply separated_of_kind clear holds
      intro other alike
      cases other with
      | bool value => cases value <;> first | rfl | cases alike
      | null | int _ | float _ | str _ | arr _ | obj _ => cases alike
  | .int value, holds => by
      intro other rest behind fits stops ends same
      have alike := kindOf_eq clear holds fits same
      cases other with
      | int second =>
          obtain ⟨rfl, last⟩ := clear.int_separated value second rest behind
            holds fits stops ends same
          exact ⟨rfl, last⟩
      | float _ => exact fits.elim
      | bool value => cases value <;> cases alike
      | null | str _ | arr _ | obj _ => cases alike
  | .str value, holds => by
      intro other rest behind fits stops ends same
      have alike := kindOf_eq clear holds fits same
      cases other with
      | str second =>
          obtain ⟨rfl, last⟩ := clear.string_separated value second rest
            behind holds fits same
          exact ⟨rfl, last⟩
      | bool value => cases value <;> cases alike
      | null | int _ | float _ | arr _ | obj _ => cases alike
  | .arr items, holds => by
      intro other rest behind fits stops ends same
      have alike := kindOf_eq clear holds fits same
      cases other with
      | arr others =>
          have own := Json.composedItems_iff.mp holds
          have fit := Json.composedItems_iff.mp fits
          rw [text, text, itemTexts_eq, itemTexts_eq] at same
          obtain ⟨rfl, last⟩ := enclose_separated '[' (by decide) (by decide)
            (separated_items items holds) fit (by
              intro item listed rest later same
              obtain ⟨first, _, shown, _, open_⟩ := text_starts clear item
                (listed.elim (own item) (fit item))
              rw [shown] at same
              exact open_ (List.cons.inj same).1) same
          exact ⟨rfl, last⟩
      | bool value => cases value <;> cases alike
      | null | int _ | float _ | str _ | obj _ => cases alike
  | .obj fields, holds => by
      intro other rest behind fits stops ends same
      have alike := kindOf_eq clear holds fits same
      cases other with
      | obj others =>
          have own := Json.composedFields_iff.mp holds
          have fit := Json.composedFields_iff.mp fits
          rw [text, text, fieldTexts_eq, fieldTexts_eq] at same
          obtain ⟨rfl, last⟩ := enclose_separated '\x7b' (by decide) (by decide)
            (separated_fields fields holds) fit (by
              intro field listed rest later same
              rw [fieldText, List.append_assoc] at same
              exact clear.key_open field.1 _ later
                (listed.elim (own field) (fit field)).1 same) same
          exact ⟨rfl, last⟩
      | bool value => cases value <;> cases alike
      | null | int _ | float _ | str _ | arr _ => cases alike

theorem separated_items : (items : List Json) →
    Json.ComposedItems clear.int clear.string clear.key items → ∀ item ∈ items, Separated spelling.text clear.Holds item
  | [], _, _, member => by cases member
  | item :: rest, holds, other, member => by
      rcases List.mem_cons.mp member with same | later
      · rw [same]
        exact separated_text item holds.1
      · exact separated_items rest holds.2 other later

theorem separated_fields : (fields : List (String × Json)) →
    Json.ComposedFields clear.int clear.string clear.key fields →
      ∀ field ∈ fields,
      Separated spelling.fieldText
        (fun field => clear.key field.1 ∧ clear.Holds field.2) field
  | [], _, _, member => by cases member
  | (key, value) :: rest, holds, other, member => by
      rcases List.mem_cons.mp member with rfl | later
      · exact key_separated clear holds.1 (separated_text value holds.2.1)
      · exact separated_fields rest holds.2.2 other later
end

/-- Two values with one text are the same. -/
theorem text_injective {first second : Json} (first_holds : clear.Holds first)
    (second_holds : clear.Holds second)
    (same : spelling.text first = spelling.text second) : first = second :=
  (separated_text clear first first_holds second [] [] second_holds nofun
    nofun (by rw [same])).1

end Values

/-! ### JSON texts -/

section Texts

variable (escape : Char → List Char) (float : Rat → List Char)

/-- Without white space. -/
def json : Spelling where
  int value := (toString value).toList
  float := float
  string value := '"' :: (value.toList.flatMap escape ++ ['"'])
  key value := '"' :: (value.toList.flatMap escape ++ ['"', ':'])

variable {escape}
  (reads : ∀ char rest, JsonText.stringBody (escape char ++ rest) =
    (JsonText.stringBody rest).map (JsonText.pushChar char))

include reads

private theorem stringBody_escaped (text rest : List Char) :
    JsonText.stringBody (text.flatMap escape ++ '"' :: rest) =
      some (text, rest) := by
  induction text with
  | nil => rfl
  | cons char later ih =>
      rw [List.flatMap_cons, List.append_assoc, reads, ih]
      rfl

private theorem escaped_separated {first second : String}
    {rest behind : List Char}
    (same : first.toList.flatMap escape ++ '"' :: rest =
      second.toList.flatMap escape ++ '"' :: behind) :
    first = second ∧ rest = behind := by
  have read := congrArg JsonText.stringBody same
  rw [stringBody_escaped reads, stringBody_escaped reads] at read
  cases Prod.mk.inj (Option.some.inj read) with
  | intro texts last => exact ⟨String.toList_injective texts, last⟩

omit reads in
/-- All integers, strings and keys are told apart. -/
def jsonClear (float : Rat → List Char)
    (reads : ∀ char rest, JsonText.stringBody (escape char ++ rest) =
      (JsonText.stringBody rest).map (JsonText.pushChar char)) :
    (json escape float).Clear where
  int _ := True
  string _ := True
  key _ := True
  int_separated _ _ _ _ _ _ stops ends same :=
    integer_separated stops ends same
  string_separated first second rest behind _ _ same := by
    simp only [json, List.cons_append, List.append_assoc, List.nil_append,
      List.cons.injEq, true_and] at same
    exact escaped_separated reads same
  key_separated first second rest behind _ _ same := by
    simp only [json, List.cons_append, List.append_assoc, List.nil_append,
      List.cons.injEq, true_and] at same
    obtain ⟨keys, later⟩ := escaped_separated reads same
    exact ⟨keys, (List.cons.inj later).2⟩
  int_starts value _ := integer_starts value
  string_starts _ := ⟨_, rfl⟩
  key_open _ _ _ _ same := absurd (List.cons.inj same).1 (by decide)

end Texts

end Spelling

end Foundation
