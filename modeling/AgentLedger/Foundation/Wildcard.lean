import Mathlib.Data.List.Basic
import Mathlib.Data.List.Infix

namespace Foundation

/-! Patterns of letters and wildcards, and the texts that fit them. -/

inductive Wildcard (Letter : Type)
  | letter (wanted : Letter)
  /-- Any one letter. -/
  | one
  /-- Any text. -/
  | many

namespace Wildcard

variable {Letter : Type} (same : Letter → Letter → Bool)

inductive Fits : List (Wildcard Letter) → List Letter → Prop
  | nil : Fits [] []
  | letter {wanted found : Letter} {pattern : List (Wildcard Letter)}
      {text : List Letter} (alike : same wanted found = true)
      (rest : Fits pattern text) : Fits (.letter wanted :: pattern) (found :: text)
  | one {found : Letter} {pattern : List (Wildcard Letter)}
      {text : List Letter} (rest : Fits pattern text) :
      Fits (.one :: pattern) (found :: text)
  | many {pattern : List (Wildcard Letter)} {front text : List Letter}
      (rest : Fits pattern text) : Fits (.many :: pattern) (front ++ text)

def fits : List (Wildcard Letter) → List Letter → Bool
  | [], text => text.isEmpty
  | .many :: pattern, text => text.tails.any (fits pattern)
  | _ :: _, [] => false
  | .letter wanted :: pattern, found :: text =>
      same wanted found && fits pattern text
  | .one :: pattern, _ :: text => fits pattern text

variable {same} {pattern : List (Wildcard Letter)} {text : List Letter}

theorem fits_many_iff : Fits same (.many :: pattern) text ↔
    ∃ rest, rest <:+ text ∧ Fits same pattern rest := by
  constructor
  · intro fits
    generalize whole : text = letters at fits
    cases fits with
    | many rest => exact ⟨_, List.suffix_append _ _, rest⟩
  · rintro ⟨rest, ⟨front, rfl⟩, fits⟩
    exact .many fits

theorem fits_iff : fits same pattern text = true ↔ Fits same pattern text := by
  induction pattern generalizing text with
  | nil =>
      rw [fits, List.isEmpty_iff]
      constructor
      · rintro rfl
        exact .nil
      · rintro ⟨⟩
        rfl
  | cons first pattern ih =>
      cases first with
      | many =>
          rw [fits, fits_many_iff, List.any_eq_true]
          simp only [List.mem_tails, ih]
      | letter wanted =>
          cases text with
          | nil =>
              refine iff_of_false Bool.false_ne_true ?_
              rintro ⟨⟩
          | cons found text =>
              rw [fits, Bool.and_eq_true, ih]
              constructor
              · rintro ⟨alike, rest⟩
                exact .letter alike rest
              · rintro ⟨⟩
                exact ⟨‹_›, ‹_›⟩
      | one =>
          cases text with
          | nil =>
              refine iff_of_false Bool.false_ne_true ?_
              rintro ⟨⟩
          | cons found text =>
              rw [fits, ih]
              constructor
              · exact .one
              · rintro ⟨⟩
                assumption

end Wildcard

end Foundation
