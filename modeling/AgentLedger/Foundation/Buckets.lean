import Mathlib.Algebra.BigOperators.Group.List.Basic

namespace Foundation

/-! A dictionary whose values are changed in place, each from a default value
on, and what its values add up to. -/

namespace Buckets

variable {Key Value Row Amount : Type} [DecidableEq Key]

/-- `change` of `entries.setdefault(key, initial)`. -/
def alter (initial : Value) (change : Value → Value) (key : Key) :
    List (Key × Value) → List (Key × Value)
  | [] => [(key, change initial)]
  | (first, held) :: rest =>
      if first = key then (first, change held) :: rest
      else (first, held) :: alter initial change key rest

/-- `entries.get(key, initial)`. -/
def get (initial : Value) (key : Key) : List (Key × Value) → Value
  | [] => initial
  | (first, held) :: rest =>
      if first = key then held else get initial key rest

theorem get_alter (initial : Value) (change : Value → Value)
    (key other : Key) (entries : List (Key × Value)) :
    get initial other (alter initial change key entries) =
      if other = key then change (get initial key entries)
      else get initial other entries := by
  induction entries with
  | nil => simp [alter, get, eq_comm]
  | cons entry rest ih =>
      obtain ⟨first, held⟩ := entry
      by_cases own : first = key
      · subst own
        simp only [alter, get, if_true, eq_comm]
        split <;> rfl
      · simp only [alter, get, if_neg own, ih]
        by_cases here : first = other
        · subst here
          simp [own]
        · simp [here]

variable [AddCommMonoid Amount]

/-- What the values under all keys add up to. -/
def total (measure : Value → Amount) (entries : List (Key × Value)) :
    Amount :=
  (entries.map fun entry => measure entry.2).sum

/-- A change that adds to every value alike adds that to the sum, under
whichever key it falls. -/
theorem total_alter {measure : Value → Amount} {initial : Value}
    (empty : measure initial = 0) {change : Value → Value} {amount : Amount}
    (adds : ∀ value, measure (change value) = measure value + amount)
    (key : Key) (entries : List (Key × Value)) :
    total measure (alter initial change key entries) =
      total measure entries + amount := by
  induction entries with
  | nil => simp [alter, total, adds, empty]
  | cons entry rest ih =>
      obtain ⟨first, held⟩ := entry
      simp only [total, alter] at ih ⊢
      split
      · simp only [List.map_cons, List.sum_cons, adds]
        rw [add_right_comm]
      · simp only [List.map_cons, List.sum_cons, ih, add_assoc]

end Buckets

end Foundation
