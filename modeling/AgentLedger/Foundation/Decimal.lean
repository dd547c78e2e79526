import Mathlib.Data.Nat.Notation
import Mathlib.Data.List.Basic

namespace Foundation

/-! Numbers in decimal notation. -/

namespace Decimal

/-- One digit or more, and nothing else. -/
def parseNat (text : String) : Option Nat :=
  if text.toList ≠ [] ∧ text.toList.all Char.isDigit then
    some (Nat.ofDigitChars 10 text.toList 0)
  else none

/-- The same behind a sign, which may be left out. -/
def parseSigned (text : String) : Option Int :=
  match text.toList with
  | '-' :: digits => (parseNat (String.ofList digits)).map fun n => -(n : Int)
  | '+' :: digits => (parseNat (String.ofList digits)).map Int.ofNat
  | _ => (parseNat text).map Int.ofNat

def parseUnsigned (text : String) : Option Nat :=
  match text.toList with
  | '+' :: digits => parseNat (String.ofList digits)
  | _ => parseNat text

theorem isDigit_of_mem {number : Nat} {char : Char}
    (member : char ∈ number.repr.toList) : char.isDigit := by
  rw [Nat.toList_repr] at member
  exact Nat.isDigit_of_mem_toDigits (by omega) (by omega) member

theorem parseNat_repr (number : Nat) : parseNat number.repr = some number := by
  have digits : number.repr.toList ≠ [] ∧
      number.repr.toList.all Char.isDigit = true := by
    refine ⟨?_, List.all_eq_true.mpr fun char member => isDigit_of_mem member⟩
    rw [Nat.toList_repr]
    exact Nat.toDigits_ne_nil
  rw [parseNat, if_pos digits, Nat.toList_repr, Nat.ofDigitChars_ten_toDigits]

theorem head_repr (number : Nat) : ∃ first rest,
    number.repr.toList = first :: rest ∧ first.isDigit := by
  cases written : number.repr.toList with
  | nil =>
      rw [Nat.toList_repr] at written
      exact absurd written Nat.toDigits_ne_nil
  | cons first rest =>
      refine ⟨first, rest, rfl, @isDigit_of_mem number first ?_⟩
      rw [written]
      exact List.mem_cons_self ..

theorem parseUnsigned_repr (number : Nat) :
    parseUnsigned number.repr = some number := by
  obtain ⟨first, rest, written, digit⟩ := head_repr number
  have unsigned : first ≠ '+' := by
    rintro rfl
    exact absurd digit (by decide)
  rw [parseUnsigned, written]
  split
  case h_1 digits same => exact absurd (List.cons.inj same).1 unsigned
  case h_2 => exact parseNat_repr number

theorem parseSigned_repr (number : Int) :
    parseSigned (toString number) = some number := by
  cases number with
  | ofNat number =>
      obtain ⟨first, rest, written, digit⟩ := head_repr number
      have text : (toString (Int.ofNat number)) = number.repr := rfl
      have unsigned : first ≠ '+' ∧ first ≠ '-' := by
        constructor
        · rintro rfl
          exact absurd digit (by decide)
        · rintro rfl
          exact absurd digit (by decide)
      rw [parseSigned, text, written]
      split
      case h_1 digits same => exact absurd (List.cons.inj same).1 unsigned.2
      case h_2 digits same => exact absurd (List.cons.inj same).1 unsigned.1
      case h_3 =>
          rw [parseNat_repr]
          rfl
  | negSucc number =>
      have text : (toString (Int.negSucc number)).toList =
          '-' :: (number + 1).repr.toList := by
        have written : toString (Int.negSucc number) =
            "-" ++ (number + 1).repr := rfl
        rw [written, String.toList_append]
        rfl
      rw [parseSigned, text]
      simp only [String.ofList_toList, parseNat_repr]
      rfl

end Decimal

end Foundation
