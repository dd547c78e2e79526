import AgentLedger.Foundation.JsonNormal
import AgentLedger.Foundation.Magnitude

namespace AgentLedger.Go

open Foundation

/-! What `encoding/json` leaves of a value that is written and read again: every
number becomes a `float64`. -/

/-- `strconv.ParseFloat`; the sign is read before the digits. -/
@[irreducible]
def parseFloat (value : Rat) : Option Rat :=
  if value < 0 then (Binary64.nearest (-value)).map (- ·)
  else Binary64.nearest value

mutual
/-- `cloneAny`.  A number beyond the doubles is not decoded, and what was to
hold it stays `nil`. -/
def cloneAny : Json → Json
  | .int value =>
      match parseFloat value with
      | some number => .int ⌊number⌋
      | none => .null
  | .float value =>
      match parseFloat value with
      | some number => .float number
      | none => .null
  | .arr items => .arr (cloneItems items)
  | .obj fields => .obj (cloneFields fields)
  | value => value

def cloneItems : List Json → List Json
  | [] => []
  | item :: rest => cloneAny item :: cloneItems rest

def cloneFields : List (String × Json) → Fields
  | [] => []
  | (key, value) :: rest => (key, cloneAny value) :: cloneFields rest
end

/-- The number is a `float64`. -/
def IsFloat64 (value : Rat) : Prop := parseFloat value = some value

mutual
/-- Every number is a `float64`. -/
def Doubles : Json → Prop
  | .int value => IsFloat64 value
  | .float value => IsFloat64 value
  | .arr items => DoublesItems items
  | .obj fields => DoublesFields fields
  | _ => True

def DoublesItems : List Json → Prop
  | [] => True
  | item :: rest => Doubles item ∧ DoublesItems rest

def DoublesFields : List (String × Json) → Prop
  | [] => True
  | (_, value) :: rest => Doubles value ∧ DoublesFields rest
end

/-! ### Numbers -/

theorem parseFloat_parseFloat {value number : Rat}
    (parsed : parseFloat value = some number) : IsFloat64 number := by
  unfold parseFloat at parsed
  unfold IsFloat64 parseFloat
  split at parsed
  · rename_i negative
    obtain ⟨size, near, rfl⟩ := Option.map_eq_some_iff.mp parsed
    have nonneg := Binary64.nonneg_of_nearest (by linarith) near
    have again := Binary64.nearest_nearest (by linarith) near
    split
    · rw [neg_neg, again]
      rfl
    · have zero : size = 0 := by linarith
      rw [zero, neg_zero, Binary64.nearest_zero]
  · rename_i nonnegative
    have nonneg := Binary64.nonneg_of_nearest (not_lt.mp nonnegative) parsed
    rw [if_neg (not_lt.mpr nonneg)]
    exact Binary64.nearest_nearest (not_lt.mp nonnegative) parsed

/-- The double of an integer is an integer. -/
theorem parseFloat_intCast {value : Int} {number : Rat}
    (parsed : parseFloat value = some number) : (⌊number⌋ : Rat) = number := by
  have whole {size : Nat} {other : Rat}
      (near : Binary64.nearest size = some other) :
      ∃ whole : Int, other = whole :=
    Magnitude.integral_of_ofNat near
  suffices ∃ whole : Int, number = whole by
    obtain ⟨whole, rfl⟩ := this
    rw [Int.floor_intCast]
  unfold parseFloat at parsed
  split at parsed
  · rename_i negative
    obtain ⟨size, near, rfl⟩ := Option.map_eq_some_iff.mp parsed
    have negative : value < 0 := by exact_mod_cast negative
    have same : -(value : Rat) = ((-value).toNat : Nat) := by
      have own : ((-value).toNat : Int) = -value := Int.toNat_of_nonneg
        (by omega)
      exact_mod_cast congrArg (Int.cast : Int → Rat) own.symm
    rw [same] at near
    obtain ⟨digits, rfl⟩ := whole near
    exact ⟨-digits, by push_cast; rfl⟩
  · rename_i nonnegative
    have nonnegative : 0 ≤ value := by exact_mod_cast not_lt.mp nonnegative
    have same : (value : Rat) = (value.toNat : Nat) := by
      have own : (value.toNat : Int) = value := Int.toNat_of_nonneg nonnegative
      exact_mod_cast congrArg (Int.cast : Int → Rat) own.symm
    rw [same] at parsed
    exact whole parsed

/-! ### Values -/

theorem cloneAny_int_eq_iff (value : Int) :
    cloneAny (.int value) = .int value ↔ IsFloat64 value := by
  unfold cloneAny IsFloat64
  cases parsed : parseFloat value with
  | none => exact iff_of_false nofun nofun
  | some number =>
      have whole := parseFloat_intCast parsed
      simp only [Json.int.injEq, Option.some.injEq]
      rw [← whole]
      exact_mod_cast Iff.rfl

theorem cloneAny_float_eq_iff (value : Rat) :
    cloneAny (.float value) = .float value ↔ IsFloat64 value := by
  unfold cloneAny IsFloat64
  cases parseFloat value with
  | none => exact iff_of_false nofun nofun
  | some number => simp only [Json.float.injEq, Option.some.injEq]

mutual
theorem cloneAny_eq_iff : (value : Json) →
    (cloneAny value = value ↔ Doubles value)
  | .int value => cloneAny_int_eq_iff value
  | .float value => cloneAny_float_eq_iff value
  | .arr items => by
      rw [cloneAny, Doubles, Json.arr.injEq]
      exact cloneItems_eq_iff items
  | .obj fields => by
      rw [cloneAny, Doubles, Json.obj.injEq]
      exact cloneFields_eq_iff fields
  | .null => iff_of_true rfl trivial
  | .bool _ => iff_of_true rfl trivial
  | .str _ => iff_of_true rfl trivial

theorem cloneItems_eq_iff : (items : List Json) →
    (cloneItems items = items ↔ DoublesItems items)
  | [] => iff_of_true rfl trivial
  | item :: rest => by
      rw [cloneItems, DoublesItems, List.cons.injEq, cloneAny_eq_iff item,
        cloneItems_eq_iff rest]

theorem cloneFields_eq_iff : (fields : List (String × Json)) →
    (cloneFields fields = fields ↔ DoublesFields fields)
  | [] => iff_of_true rfl trivial
  | (key, value) :: rest => by
      rw [cloneFields, DoublesFields, List.cons.injEq, Prod.mk.injEq,
        eq_self_iff_true, true_and, cloneAny_eq_iff value,
        cloneFields_eq_iff rest]
end

mutual
theorem doubles_cloneAny : (value : Json) → Doubles (cloneAny value)
  | .int value => by
      rw [cloneAny]
      cases parsed : parseFloat value with
      | none => trivial
      | some number =>
          rw [Doubles, parseFloat_intCast parsed]
          exact parseFloat_parseFloat parsed
  | .float value => by
      rw [cloneAny]
      cases parsed : parseFloat value with
      | none => trivial
      | some number => exact parseFloat_parseFloat parsed
  | .arr items => doubles_cloneItems items
  | .obj fields => doubles_cloneFields fields
  | .null => trivial
  | .bool _ => trivial
  | .str _ => trivial

theorem doubles_cloneItems : (items : List Json) →
    DoublesItems (cloneItems items)
  | [] => trivial
  | item :: rest => ⟨doubles_cloneAny item, doubles_cloneItems rest⟩

theorem doubles_cloneFields : (fields : List (String × Json)) →
    DoublesFields (cloneFields fields)
  | [] => trivial
  | (_, value) :: rest => ⟨doubles_cloneAny value, doubles_cloneFields rest⟩
end

/-- A clone is cloned as it is. -/
theorem cloneFields_cloneFields (fields : List (String × Json)) :
    cloneFields (cloneFields fields) = cloneFields fields :=
  (cloneFields_eq_iff _).mpr (doubles_cloneFields fields)

/-! ### Members -/

section Members

variable (fields : List (String × Json)) (key : String)

theorem get?_cloneFields : Fields.get? (cloneFields fields) key =
    (Fields.get? fields key).map cloneAny := by
  induction fields with
  | nil => rfl
  | cons field rest ih =>
      obtain ⟨first, value⟩ := field
      rw [cloneFields, Fields.get?, Fields.get?, ih]
      split <;> rfl

theorem cloneFields_set (value : Json) :
    cloneFields (Fields.set fields key value) =
      Fields.set (cloneFields fields) key (cloneAny value) := by
  induction fields with
  | nil => rfl
  | cons field rest ih =>
      obtain ⟨first, held⟩ := field
      rw [cloneFields, Fields.set, Fields.set, ← ih]
      split_ifs <;> rfl

theorem cloneFields_erase : cloneFields (Fields.erase fields key) =
    Fields.erase (cloneFields fields) key := by
  induction fields with
  | nil => rfl
  | cons field rest ih =>
      obtain ⟨first, held⟩ := field
      rw [Fields.erase] at ih ⊢
      rw [cloneFields, Fields.erase, List.filter_cons, List.filter_cons]
      rw [Fields.erase] at ih
      by_cases same : first = key
      · simpa [same] using ih
      · simpa [same, cloneFields] using ih

end Members

theorem cloneFields_eq_map (fields : List (String × Json)) :
    cloneFields fields =
      fields.map fun field => (field.1, cloneAny field.2) := by
  induction fields with
  | nil => rfl
  | cons field rest ih => rw [cloneFields, List.map_cons, ih]

theorem keys_cloneFields (fields : List (String × Json)) :
    (cloneFields fields).map Prod.fst = fields.map Prod.fst := by
  induction fields with
  | nil => rfl
  | cons field rest ih => rw [cloneFields, List.map_cons, List.map_cons, ih]

mutual
theorem canonical_cloneAny : (value : Json) → value.Canonical →
    (cloneAny value).Canonical
  | .int value, _ => by
      rw [cloneAny]
      split <;> trivial
  | .float value, _ => by
      rw [cloneAny]
      split <;> trivial
  | .arr items, own => canonical_cloneItems items own
  | .obj fields, own => canonical_cloneFields fields own
  | .null, _ => trivial
  | .bool _, _ => trivial
  | .str _, _ => trivial

theorem canonical_cloneItems : (items : List Json) →
    Json.CanonicalItems items → Json.CanonicalItems (cloneItems items)
  | [], _ => trivial
  | item :: rest, own =>
      ⟨canonical_cloneAny item own.1, canonical_cloneItems rest own.2⟩

theorem canonical_cloneFields : (fields : List (String × Json)) →
    Json.CanonicalFields fields → Json.CanonicalFields (cloneFields fields)
  | [], _ => trivial
  | (key, value) :: rest, own => by
      refine ⟨?_, canonical_cloneAny value own.2.1,
        canonical_cloneFields rest own.2.2⟩
      apply Fields.above_of_keys (rest.map Prod.fst)
      · exact keys_cloneFields rest
      · exact List.forall_mem_map.mpr own.1
end

end AgentLedger.Go
