import Mathlib.Data.List.Basic
import Mathlib.Data.List.Induction
import Mathlib.Order.Lattice

namespace Foundation

/-! Maps as lists of entries in the order of their keys, so that two maps with
the same entries are equal. -/

namespace Entries

variable {Key Value Other : Type} [LinearOrder Key]

def Ordered (entries : List (Key × Value)) : Prop :=
  entries.Pairwise fun first second => first.1 < second.1

instance (entries : List (Key × Value)) : Decidable (Ordered entries) :=
  inferInstanceAs (Decidable (entries.Pairwise _))

def get? (key : Key) : List (Key × Value) → Option Value
  | [] => none
  | (first, value) :: rest => if first = key then some value else get? key rest

/-- A key that is taken has its value replaced. -/
def insert (key : Key) (value : Value) :
    List (Key × Value) → List (Key × Value)
  | [] => [(key, value)]
  | (first, held) :: rest =>
      if key < first then (key, value) :: (first, held) :: rest
      else if key = first then (key, value) :: rest
      else (first, held) :: insert key value rest

/-- The map that is built from entries, of two with the same key from the
later one. -/
def collect (entries : List (Key × Value)) : List (Key × Value) :=
  entries.foldl (fun held entry => insert entry.1 entry.2 held) []

theorem mem_insert {key : Key} {value : Value} {entries : List (Key × Value)}
    {entry : Key × Value} (member : entry ∈ insert key value entries) :
    entry = (key, value) ∨ entry ∈ entries := by
  induction entries with
  | nil => exact .inl (List.eq_of_mem_singleton member)
  | cons head rest ih =>
      simp only [insert] at member
      split at member
      · exact List.mem_cons.mp member
      · split at member
        · rcases List.mem_cons.mp member with same | later
          · exact .inl same
          · exact .inr (List.mem_cons_of_mem _ later)
        · rcases List.mem_cons.mp member with same | later
          · exact .inr (same ▸ List.mem_cons_self ..)
          · rcases ih later with same | held
            · exact .inl same
            · exact .inr (List.mem_cons_of_mem _ held)

theorem Ordered.insert {entries : List (Key × Value)}
    (ordered : Ordered entries) (key : Key) (value : Value) :
    Ordered (insert key value entries) := by
  induction entries with
  | nil => exact List.pairwise_singleton _ _
  | cons head rest ih =>
      obtain ⟨first, held⟩ := head
      obtain ⟨above, later⟩ := List.pairwise_cons.mp ordered
      simp only [Entries.insert]
      split
      case isTrue before =>
          refine List.pairwise_cons.mpr ⟨fun entry member => ?_, ordered⟩
          rcases List.mem_cons.mp member with rfl | member
          · exact before
          · exact before.trans (above entry member)
      case isFalse notBefore =>
          split
          case isTrue same =>
              subst same
              exact List.pairwise_cons.mpr ⟨above, later⟩
          case isFalse different =>
              refine List.pairwise_cons.mpr ⟨fun entry member => ?_, ih later⟩
              rcases mem_insert member with rfl | member
              · exact lt_of_le_of_ne (not_lt.mp notBefore) (Ne.symm different)
              · exact above entry member

private theorem mem_of_inserted {entries held : List (Key × Value)}
    {entry : Key × Value} (member : entry ∈ entries.foldl
      (fun held entry => insert entry.1 entry.2 held) held) :
    entry ∈ held ∨ entry ∈ entries := by
  induction entries generalizing held with
  | nil => exact .inl member
  | cons first rest ih =>
      rcases ih member with early | late
      · rcases mem_insert early with same | before
        · exact .inr (same ▸ List.mem_cons_self ..)
        · exact .inl before
      · exact .inr (List.mem_cons_of_mem _ late)

theorem mem_of_collect {entries : List (Key × Value)} {entry : Key × Value}
    (member : entry ∈ collect entries) : entry ∈ entries := by
  rcases mem_of_inserted member with early | late
  · cases early
  · exact late

theorem ordered_collect (entries : List (Key × Value)) :
    Ordered (collect entries) := by
  have built (held : List (Key × Value)) (ordered : Ordered held) :
      Ordered (entries.foldl (fun held entry => Entries.insert entry.1 entry.2
        held) held) := by
    induction entries generalizing held with
    | nil => exact ordered
    | cons entry rest ih => exact ih _ (ordered.insert entry.1 entry.2)
  exact built [] List.Pairwise.nil

theorem insert_of_above {key : Key} {value : Value}
    {entries : List (Key × Value)} (above : ∀ entry ∈ entries, entry.1 < key) :
    insert key value entries = entries ++ [(key, value)] := by
  induction entries with
  | nil => rfl
  | cons head rest ih =>
      obtain ⟨first, held⟩ := head
      have before : first < key := above (first, held) (List.mem_cons_self ..)
      rw [insert, if_neg (lt_asymm before), if_neg (ne_of_gt before),
        ih fun entry member => above entry (List.mem_cons_of_mem _ member),
        List.cons_append]

theorem collect_append (first second : List (Key × Value)) :
    collect (first ++ second) =
      second.foldl (fun held entry => insert entry.1 entry.2 held)
        (collect first) := by
  rw [collect, List.foldl_append, collect]

/-- Entries that are in order are the map. -/
theorem collect_of_ordered {entries : List (Key × Value)}
    (ordered : Ordered entries) : collect entries = entries := by
  induction entries using List.reverseRecOn with
  | nil => rfl
  | append_singleton rest entry ih =>
      obtain ⟨front, _, above⟩ := List.pairwise_append.mp ordered
      rw [collect_append, ih front]
      exact insert_of_above fun other member =>
        above other member entry (List.mem_singleton_self _)

theorem get?_insert (key other : Key) (value : Value)
    (entries : List (Key × Value)) :
    get? other (insert key value entries) =
      if other = key then some value else get? other entries := by
  induction entries with
  | nil => simp [insert, get?, eq_comm]
  | cons head rest ih =>
      obtain ⟨first, held⟩ := head
      by_cases before : key < first
      · simp only [insert, if_pos before, get?, eq_comm]
      · by_cases same : key = first
        · subst same
          by_cases asked : other = key
          · simp [insert, get?, asked]
          · simp [insert, get?, asked, Ne.symm asked]
        · simp only [insert, if_neg before, if_neg same, get?, ih]
          by_cases found : first = other
          · subst found
            simp [Ne.symm same]
          · simp [found]

/-- Every key of the entries is a key of the map. -/
theorem get?_collect_ne_none {entries : List (Key × Value)}
    {entry : Key × Value} (member : entry ∈ entries) :
    get? entry.1 (collect entries) ≠ none := by
  induction entries using List.reverseRecOn with
  | nil => cases member
  | append_singleton rest last ih =>
      rw [collect_append, List.foldl_cons, List.foldl_nil, get?_insert]
      by_cases same : entry.1 = last.1
      · rw [if_pos same]
        exact Option.some_ne_none _
      · rw [if_neg same]
        rcases List.mem_append.mp member with before | new
        · exact ih before
        · rw [List.mem_singleton.mp new] at same
          exact absurd rfl same

theorem insert_insert (key : Key) (first second : Value)
    (entries : List (Key × Value)) :
    insert key second (insert key first entries) = insert key second entries := by
  induction entries with
  | nil => simp [insert]
  | cons head rest ih =>
      obtain ⟨held, value⟩ := head
      by_cases before : key < held
      · simp [insert, before]
      · by_cases same : key = held
        · subst same
          simp [insert]
        · simp [insert, before, same, ih]

theorem mem_of_get? {key : Key} {value : Value}
    {entries : List (Key × Value)} (found : get? key entries = some value) :
    (key, value) ∈ entries := by
  induction entries with
  | nil => cases found
  | cons head rest ih =>
      obtain ⟨first, held⟩ := head
      rw [get?] at found
      split at found
      case isTrue same =>
          cases found
          subst same
          exact List.mem_cons_self ..
      case isFalse => exact List.mem_cons_of_mem _ (ih found)

theorem get?_of_mem {key : Key} {value : Value}
    {entries : List (Key × Value)} (ordered : Ordered entries)
    (member : (key, value) ∈ entries) : get? key entries = some value := by
  induction entries with
  | nil => cases member
  | cons head rest ih =>
      obtain ⟨first, held⟩ := head
      obtain ⟨above, later⟩ := List.pairwise_cons.mp ordered
      rcases List.mem_cons.mp member with same | member
      · cases same
        exact if_pos rfl
      · rw [get?, if_neg (ne_of_lt (above _ member)), ih later member]

theorem insert_same {key : Key} {value : Value} {entries : List (Key × Value)}
    (ordered : Ordered entries) (found : get? key entries = some value) :
    insert key value entries = entries := by
  induction entries with
  | nil => cases found
  | cons head rest ih =>
      obtain ⟨first, held⟩ := head
      obtain ⟨above, later⟩ := List.pairwise_cons.mp ordered
      rw [get?] at found
      by_cases same : first = key
      · rw [if_pos same] at found
        cases found
        subst same
        rw [insert, if_neg (lt_irrefl _), if_pos rfl]
      · rw [if_neg same] at found
        have after : first < key := above _ (mem_of_get? found)
        rw [insert, if_neg (lt_asymm after), if_neg (Ne.symm same),
          ih later found]

def erase (key : Key) (entries : List (Key × Value)) : List (Key × Value) :=
  entries.filter fun entry => entry.1 ≠ key

theorem Ordered.erase {entries : List (Key × Value)}
    (ordered : Ordered entries) (key : Key) : Ordered (erase key entries) :=
  List.Pairwise.filter _ ordered

theorem mem_of_erase {key : Key} {entries : List (Key × Value)}
    {entry : Key × Value} (member : entry ∈ erase key entries) :
    entry ∈ entries :=
  (List.mem_filter.mp member).1

end Entries

/-- A map. -/
structure Dictionary (Key Value : Type) [LinearOrder Key] where
  entries : List (Key × Value)
  ordered : Entries.Ordered entries

namespace Dictionary

variable {Key Value : Type} [LinearOrder Key]

@[ext] theorem ext {first second : Dictionary Key Value}
    (same : first.entries = second.entries) : first = second := by
  cases first
  cases second
  cases same
  rfl

def empty : Dictionary Key Value := ⟨[], List.Pairwise.nil⟩

def get? (map : Dictionary Key Value) (key : Key) : Option Value :=
  Entries.get? key map.entries

def insert (map : Dictionary Key Value) (key : Key) (value : Value) :
    Dictionary Key Value :=
  ⟨Entries.insert key value map.entries, map.ordered.insert key value⟩

/-- A value that is there is changed. -/
def modify (map : Dictionary Key Value) (key : Key) (change : Value → Value) :
    Dictionary Key Value :=
  match map.get? key with
  | some value => map.insert key (change value)
  | none => map

/-- A value behind the others of its key. -/
def push (map : Dictionary Key (List Value)) (key : Key) (value : Value) :
    Dictionary Key (List Value) :=
  map.insert key ((map.get? key).getD [] ++ [value])

def keys (map : Dictionary Key Value) : List Key := map.entries.map Prod.fst

def values (map : Dictionary Key Value) : List Value :=
  map.entries.map Prod.snd

@[simp] theorem get?_empty (key : Key) :
    (empty : Dictionary Key Value).get? key = none := rfl

theorem get?_insert (map : Dictionary Key Value) (key other : Key)
    (value : Value) :
    (map.insert key value).get? other =
      if other = key then some value else map.get? other :=
  Entries.get?_insert key other value map.entries

theorem insert_same {map : Dictionary Key Value} {key : Key} {value : Value}
    (found : map.get? key = some value) : map.insert key value = map :=
  ext (Entries.insert_same map.ordered found)

theorem push_ne (map : Dictionary Key (List Value)) (key : Key)
    (value : Value) : map.push key value ≠ map := by
  intro same
  have pushed := get?_insert map key key ((map.get? key).getD [] ++ [value])
  rw [if_pos rfl] at pushed
  have held := (congrArg (fun map => map.get? key) same).symm.trans pushed
  have longer := congrArg (fun found => (Option.getD found []).length) held
  simp only [Option.getD_some, List.length_append, List.length_singleton]
    at longer
  exact Nat.succ_ne_self _ longer.symm

theorem mem_insert {map : Dictionary Key Value} {key : Key} {value : Value}
    {entry : Key × Value} (member : entry ∈ (map.insert key value).entries) :
    entry = (key, value) ∨ entry ∈ map.entries :=
  Entries.mem_insert member

theorem mem_of_get? {map : Dictionary Key Value} {key : Key} {value : Value}
    (found : map.get? key = some value) : (key, value) ∈ map.entries :=
  Entries.mem_of_get? found

theorem get?_of_mem {map : Dictionary Key Value} {entry : Key × Value}
    (member : entry ∈ map.entries) : map.get? entry.1 = some entry.2 :=
  Entries.get?_of_mem map.ordered member

theorem forall_insert {map : Dictionary Key Value}
    {good : Key × Value → Prop} (each : ∀ entry ∈ map.entries, good entry)
    {key : Key} {value : Value} (own : good (key, value)) :
    ∀ entry ∈ (map.insert key value).entries, good entry := by
  intro entry member
  rcases mem_insert member with rfl | before
  · exact own
  · exact each entry before

theorem forall_modify {map : Dictionary Key Value}
    {good : Key × Value → Prop} (each : ∀ entry ∈ map.entries, good entry)
    {key : Key} {change : Value → Value}
    (own : ∀ value, good (key, value) → good (key, change value)) :
    ∀ entry ∈ (map.modify key change).entries, good entry := by
  rw [modify]
  cases found : map.get? key with
  | none => exact each
  | some value =>
      exact forall_insert each
        (own value (each _ (mem_of_get? found)))

theorem forall_push {map : Dictionary Key (List Value)}
    {keyOf : Value → Key}
    (each : ∀ entry ∈ map.entries, entry.2 ≠ [] ∧
      ∀ value ∈ entry.2, keyOf value = entry.1) (value : Value) :
    ∀ entry ∈ (map.push (keyOf value) value).entries, entry.2 ≠ [] ∧
      ∀ value ∈ entry.2, keyOf value = entry.1 := by
  have own : ∀ held ∈ (map.get? (keyOf value)).getD [] ++ [value],
      keyOf held = keyOf value := by
    intro held member
    rcases List.mem_append.mp member with before | last
    · cases found : map.get? (keyOf value) with
      | none =>
          rw [found] at before
          cases before
      | some values =>
          rw [found] at before
          exact (each _ (mem_of_get? found)).2 held before
    · rw [List.mem_singleton.mp last]
  rw [push]
  intro entry member
  rcases mem_insert member with rfl | before
  · exact ⟨List.append_ne_nil_of_right_ne_nil _ (List.cons_ne_nil _ _), own⟩
  · exact each entry before

theorem foldl_insert (map : Dictionary Key Value) {key : Value → Key}
    (keyed : ∀ entry ∈ map.entries, key entry.2 = entry.1) :
    map.values.foldl (fun held value => held.insert (key value) value) empty =
      map := by
  have built (entries : List (Key × Value))
      (own : ∀ entry ∈ entries, key entry.2 = entry.1)
      (held : Dictionary Key Value) :
      ((entries.map Prod.snd).foldl
        (fun held value => held.insert (key value) value) held).entries =
      entries.foldl (fun held entry => Entries.insert entry.1 entry.2 held)
        held.entries := by
    induction entries generalizing held with
    | nil => rfl
    | cons entry rest ih =>
        rw [List.map_cons, List.foldl_cons, List.foldl_cons,
          ih fun other member => own other (List.mem_cons_of_mem _ member)]
        rw [own entry (List.mem_cons_self ..)]
        rfl
  ext1
  rw [values, built map.entries keyed empty]
  exact Entries.collect_of_ordered map.ordered

private theorem foldl_push_same (map : Dictionary Key (List Value)) (key : Key)
    (first later : List Value) :
    later.foldl (fun held value => held.push key value) (map.insert key first) =
      map.insert key (first ++ later) := by
  induction later generalizing first with
  | nil => rw [List.append_nil, List.foldl_nil]
  | cons value rest ih =>
      have pushed : (map.insert key first).push key value =
          map.insert key (first ++ [value]) := by
        rw [push, get?_insert, if_pos rfl]
        ext1
        exact Entries.insert_insert key first (first ++ [value]) map.entries
      rw [List.foldl_cons, pushed, ih, List.append_assoc,
        List.singleton_append]

theorem foldl_push (map : Dictionary Key (List Value)) {key : Value → Key}
    (keyed : ∀ entry ∈ map.entries, entry.2 ≠ [] ∧
      ∀ value ∈ entry.2, key value = entry.1) :
    (map.entries.flatMap Prod.snd).foldl
      (fun held value => held.push (key value) value) empty = map := by
  obtain ⟨entries, ordered⟩ := map
  induction entries using List.reverseRecOn with
  | nil => rfl
  | append_singleton front entry ih =>
      obtain ⟨before, _, above⟩ := List.pairwise_append.mp ordered
      obtain ⟨nonempty, own⟩ := keyed entry (by simp)
      have first := ih before fun other member =>
        keyed other (List.mem_append_left _ member)
      obtain ⟨name, values⟩ := entry
      cases values with
      | nil => exact absurd rfl nonempty
      | cons value later =>
          have absent : Entries.get? name front = none := by
            cases found : Entries.get? name front with
            | none => rfl
            | some held =>
                exact absurd (above _ (Entries.mem_of_get? found) _
                  (List.mem_singleton_self _)) (lt_irrefl name)
          have started : (⟨front, before⟩ : Dictionary Key (List Value)).push
              (key value) value =
              (⟨front, before⟩ : Dictionary Key (List Value)).insert name
                [value] := by
            rw [own value (List.mem_cons_self ..), push]
            simp only [get?, absent, Option.getD_none, List.nil_append]
          have same : ∀ held : Dictionary Key (List Value),
              later.foldl (fun held value => held.push (key value) value) held =
              later.foldl (fun held value => held.push name value) held := by
            intro held
            apply List.foldl_ext
            intro held other member
            rw [own other (List.mem_cons_of_mem _ member)]
          rw [List.flatMap_append, List.foldl_append, first,
            List.flatMap_singleton, List.foldl_cons, started, same,
            foldl_push_same, List.singleton_append]
          ext1
          exact Entries.insert_of_above fun other member =>
            above other member _ (List.mem_singleton_self _)

end Dictionary

end Foundation
