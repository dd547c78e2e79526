import Mathlib.Data.String.Basic
import Mathlib.Data.Rat.Defs

namespace Foundation

/-! JSON values.  The fields of an object are kept in key order, so that two
values are equal as JSON exactly when they are equal. -/

inductive Json
  | null
  | bool (value : Bool)
  | int (value : Int)
  | float (value : Rat)
  | str (value : String)
  | arr (items : List Json)
  | obj (fields : List (String × Json))
  deriving Repr

abbrev Fields := List (String × Json)

namespace Fields

def get? (fields : Fields) (key : String) : Option Json :=
  match fields with
  | [] => none
  | (first, value) :: rest => if first = key then some value else get? rest key

/-- Assignment of one key, in key order. -/
def set (fields : Fields) (key : String) (value : Json) : Fields :=
  match fields with
  | [] => [(key, value)]
  | (first, held) :: rest =>
      if key < first then (key, value) :: (first, held) :: rest
      else if key = first then (key, value) :: rest
      else (first, held) :: set rest key value

def erase (fields : Fields) (key : String) : Fields :=
  fields.filter fun field => field.1 ≠ key

/-- Every key of `fields` lies after `key`. -/
def Above (key : String) (fields : Fields) : Prop :=
  ∀ field ∈ fields, key < field.1

theorem above_of_keys {key : String} {fields : Fields} (keys : List String)
    (named : fields.map Prod.fst = keys) (above : ∀ other ∈ keys, key < other) :
    Above key fields := by
  subst named
  intro field member
  exact above field.1 (List.mem_map_of_mem member)

theorem set_append_of_above {fields : Fields} {key : String} (value : Json)
    (below : ∀ field ∈ fields, field.1 < key) :
    set fields key value = fields ++ [(key, value)] := by
  induction fields with
  | nil => rfl
  | cons field rest ih =>
      obtain ⟨first, held⟩ := field
      have before : first < key := below (first, held) (by simp)
      simp only [set, if_neg (lt_asymm before), if_neg (ne_of_gt before),
        List.cons_append, List.cons.injEq, true_and]
      exact ih fun field member => below field (by simp [member])

theorem get?_none_of_below {fields : Fields} {key : String}
    (below : ∀ field ∈ fields, field.1 < key) : get? fields key = none := by
  induction fields with
  | nil => rfl
  | cons field rest ih =>
      obtain ⟨first, held⟩ := field
      have before : first < key := below (first, held) (by simp)
      simp only [get?, if_neg (ne_of_lt before)]
      exact ih fun field member => below field (by simp [member])

theorem get?_set (fields : Fields) (key other : String) (value : Json) :
    get? (set fields key value) other =
      if other = key then some value else get? fields other := by
  induction fields with
  | nil => simp [set, get?, eq_comm]
  | cons field rest ih =>
      obtain ⟨first, held⟩ := field
      simp only [set]
      split
      · simp only [get?, eq_comm]
      · split
        · rename_i same
          subst same
          simp only [get?, eq_comm]
          split <;> rfl
        · rename_i different
          simp only [get?, ih]
          split
          · rename_i found
            rw [if_neg (found ▸ fun same => different same.symm)]
          · rfl

theorem get?_erase (fields : Fields) (key other : String) :
    get? (erase fields key) other =
      if other = key then none else get? fields other := by
  induction fields with
  | nil => simp [erase, get?]
  | cons field rest ih =>
      obtain ⟨first, held⟩ := field
      simp only [erase, List.filter_cons, ne_eq, decide_not] at ih ⊢
      by_cases same : first = key
      · subst same
        simp only [decide_true, Bool.not_true, Bool.false_eq_true, if_false,
          ih, get?]
        split
        · rfl
        · rename_i different
          rw [if_neg fun found => different found.symm]
      · simp only [same, decide_false, Bool.not_false, if_true, get?, ih]
        split
        · rename_i found
          rw [if_neg (found ▸ same)]
        · rfl

theorem mem_of_get? {fields : Fields} {key : String} {value : Json}
    (found : get? fields key = some value) : (key, value) ∈ fields := by
  induction fields with
  | nil => cases found
  | cons field rest ih =>
      obtain ⟨first, held⟩ := field
      simp only [get?] at found
      split at found
      · rename_i same
        cases found
        subst same
        exact List.mem_cons_self ..
      · exact List.mem_cons_of_mem _ (ih found)

theorem get?_none_of_above {fields : Fields} {key : String}
    (above : Above key fields) : get? fields key = none := by
  apply Option.eq_none_iff_forall_ne_some.mpr
  intro value found
  exact lt_irrefl _ (above _ (mem_of_get? found))

theorem mem_set {fields : Fields} {key : String} {value : Json}
    {field : String × Json} (member : field ∈ set fields key value) :
    field = (key, value) ∨ field ∈ fields := by
  induction fields with
  | nil => exact .inl (List.eq_of_mem_singleton member)
  | cons first rest ih =>
      simp only [set] at member
      split at member
      · exact List.mem_cons.mp member
      · split at member
        · rcases List.mem_cons.mp member with same | later
          · exact .inl same
          · exact .inr (List.mem_cons_of_mem _ later)
        · rcases List.mem_cons.mp member with same | later
          · exact .inr (same ▸ List.mem_cons_self ..)
          · rcases ih later with same | held
            · exact .inl same
            · exact .inr (List.mem_cons_of_mem _ held)

end Fields

namespace Json

/-- The fields of an object; of any other value, none. -/
def fields : Json → Fields
  | .obj fields => fields
  | _ => []

mutual
def beq : Json → Json → Bool
  | .null, .null => true
  | .bool left, .bool right => left == right
  | .int left, .int right => left == right
  | .float left, .float right => decide (left = right)
  | .str left, .str right => left == right
  | .arr left, .arr right => beqItems left right
  | .obj left, .obj right => beqFields left right
  | _, _ => false

def beqItems : List Json → List Json → Bool
  | [], [] => true
  | left :: lefts, right :: rights => beq left right && beqItems lefts rights
  | _, _ => false

def beqFields : List (String × Json) → List (String × Json) → Bool
  | [], [] => true
  | (key, left) :: lefts, (other, right) :: rights =>
      key == other && (beq left right && beqFields lefts rights)
  | _, _ => false
end

mutual
theorem beq_iff : ∀ left right : Json, beq left right = true ↔ left = right
  | .null, right => by cases right <;> simp [beq]
  | .bool left, right => by cases right <;> simp [beq]
  | .int left, right => by cases right <;> simp [beq]
  | .float left, right => by cases right <;> simp [beq]
  | .str left, right => by cases right <;> simp [beq]
  | .arr left, right => by
      cases right <;> simp [beq, beqItems_iff left]
  | .obj left, right => by
      cases right <;> simp [beq, beqFields_iff left]

theorem beqItems_iff : ∀ left right : List Json,
    beqItems left right = true ↔ left = right
  | [], right => by cases right <;> simp [beqItems]
  | left :: lefts, right => by
      cases right <;> simp [beqItems, beq_iff left, beqItems_iff lefts]

theorem beqFields_iff : ∀ left right : List (String × Json),
    beqFields left right = true ↔ left = right
  | [], right => by cases right <;> simp [beqFields]
  | (key, left) :: lefts, right => by
      cases right with
      | nil => simp [beqFields]
      | cons field rights =>
          obtain ⟨other, right⟩ := field
          simp [beqFields, beq_iff left, beqFields_iff lefts, and_assoc]
end

instance : DecidableEq Json := fun left right =>
  decidable_of_iff _ (beq_iff left right)

/-! Canonical values: the keys of every object ascend strictly. -/

mutual
def Canonical : Json → Prop
  | .arr items => CanonicalItems items
  | .obj fields => CanonicalFields fields
  | _ => True

def CanonicalItems : List Json → Prop
  | [] => True
  | item :: rest => Canonical item ∧ CanonicalItems rest

def CanonicalFields : List (String × Json) → Prop
  | [] => True
  | (key, value) :: rest =>
      Fields.Above key rest ∧ Canonical value ∧ CanonicalFields rest
end

theorem canonicalFields_iff {key : String} {value : Json} {rest : Fields} :
    CanonicalFields ((key, value) :: rest) ↔
      Fields.Above key rest ∧ Canonical value ∧ CanonicalFields rest := by
  rw [CanonicalFields]

theorem CanonicalFields.value {fields : Fields}
    (canonical : CanonicalFields fields) {field : String × Json}
    (member : field ∈ fields) : Canonical field.2 := by
  induction fields with
  | nil => cases member
  | cons first rest ih =>
      obtain ⟨key, value⟩ := first
      rw [canonicalFields_iff] at canonical
      rcases List.mem_cons.mp member with same | later
      · rw [same]
        exact canonical.2.1
      · exact ih canonical.2.2 later

theorem CanonicalFields.set {fields : Fields} {key : String} {value : Json}
    (canonical : CanonicalFields fields) (own : Canonical value) :
    CanonicalFields (Fields.set fields key value) := by
  induction fields with
  | nil => exact ⟨nofun, own, trivial⟩
  | cons field rest ih =>
      obtain ⟨first, held⟩ := field
      rw [canonicalFields_iff] at canonical
      obtain ⟨above, inner, later⟩ := canonical
      simp only [Fields.set]
      split
      · rename_i before
        refine ⟨?_, own, above, inner, later⟩
        intro field member
        rcases List.mem_cons.mp member with same | follows
        · rw [same]
          exact before
        · exact lt_trans before (above field follows)
      · split
        · rename_i same
          subst same
          exact ⟨above, own, later⟩
        · rename_i notBefore different
          refine ⟨?_, inner, ih later⟩
          intro field member
          rcases Fields.mem_set member with same | follows
          · rw [same]
            exact lt_of_le_of_ne (not_lt.mp notBefore) (Ne.symm different)
          · exact above field follows

theorem CanonicalFields.erase {fields : Fields} {key : String}
    (canonical : CanonicalFields fields) :
    CanonicalFields (Fields.erase fields key) := by
  induction fields with
  | nil => trivial
  | cons field rest ih =>
      obtain ⟨first, held⟩ := field
      rw [canonicalFields_iff] at canonical
      obtain ⟨above, inner, later⟩ := canonical
      simp only [Fields.erase, List.filter_cons]
      split
      · refine ⟨?_, inner, ih later⟩
        intro field member
        exact above field (List.mem_filter.mp member).1
      · exact ih later

/-- A canonical object is known by what it holds under each key. -/
theorem CanonicalFields.ext : ∀ {left right : Fields},
    CanonicalFields left → CanonicalFields right →
    (∀ key, Fields.get? left key = Fields.get? right key) → left = right
  | [], [], _, _, _ => rfl
  | [], (key, value) :: rest, _, _, same => by
      have held := same key
      simp [Fields.get?] at held
  | (key, value) :: rest, [], _, _, same => by
      have held := same key
      simp [Fields.get?] at held
  | (key, value) :: rest, (other, held) :: others, left, right, same => by
      rw [canonicalFields_iff] at left right
      have first := same key
      have second := same other
      simp only [Fields.get?, if_pos] at first second
      have keys : key = other := by
        apply Classical.byContradiction
        intro different
        rw [if_neg (Ne.symm different)] at first
        rw [if_neg different] at second
        have above := right.1 _ (Fields.mem_of_get? first.symm)
        have below := left.1 _ (Fields.mem_of_get? second)
        exact lt_asymm above below
      subst keys
      simp only [if_pos, Option.some.injEq] at first
      subst first
      have rests : rest = others := by
        apply CanonicalFields.ext left.2.2 right.2.2
        intro wanted
        have found := same wanted
        simp only [Fields.get?] at found
        split at found
        · rename_i here
          subst here
          rw [Fields.get?_none_of_above left.1,
            Fields.get?_none_of_above right.1]
        · exact found
      rw [rests]

end Json

end Foundation
