import AgentLedger.Foundation.Json
import Mathlib.Data.List.Dedup
import Mathlib.Data.List.Sort

namespace AgentLedger

open Foundation

/-! `diff.py`: which keys of two objects differ. -/

/-- The value of a number; `True` is `1`. -/
def number? : Json → Option Rat
  | .bool value => some (if value then 1 else 0)
  | .int value => some value
  | .float value => some value
  | _ => none

mutual
/-- Python's `==` on JSON values. -/
def pyEq : Json → Json → Bool
  | .null, .null => true
  | .str left, .str right => left == right
  | .arr left, .arr right => pyEqItems left right
  | .obj left, .obj right => pyEqFields left right
  | left, right =>
      match number? left, number? right with
      | some first, some second => decide (first = second)
      | _, _ => false

def pyEqItems : List Json → List Json → Bool
  | [], [] => true
  | left :: lefts, right :: rights => pyEq left right && pyEqItems lefts rights
  | _, _ => false

def pyEqFields : List (String × Json) → List (String × Json) → Bool
  | [], [] => true
  | (key, left) :: lefts, (other, right) :: rights =>
      key == other && (pyEq left right && pyEqFields lefts rights)
  | _, _ => false
end

structure Change where
  left : Json
  right : Json

structure DictDiff where
  changedCount : Nat
  changed : List (String × Change)

/-- `sorted(set(left) | set(right))`. -/
def unionKeys (left right : Fields) : List String :=
  ((left ++ right).map Prod.fst).dedup.insertionSort (· ≤ ·)

/-- A key that is missing counts as one that holds null. -/
def diffDict (left right : Fields) : DictDiff :=
  let changed := (unionKeys left right).filterMap fun key =>
    let first := (left.get? key).getD .null
    let second := (right.get? key).getD .null
    if pyEq first second then none else some (key, ⟨first, second⟩)
  ⟨changed.length, changed⟩

end AgentLedger
