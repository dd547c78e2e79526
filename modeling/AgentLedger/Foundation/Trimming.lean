import Mathlib.Data.List.DropRight
import Mathlib.Data.List.TakeWhile

namespace Foundation

/-! Texts whose ends are cleared of some letters, and texts that begin and end
with a letter of a class. -/

section Trimming

variable {Letter : Type}

/-- Without the letters at either end that are to go. -/
def trim (goes : Letter → Bool) (text : List Letter) : List Letter :=
  (text.dropWhile goes).rdropWhile goes

/-- `edge((edge|joint)*edge)?`. -/
inductive Anchored (edge joint : Letter → Prop) : List Letter → Prop
  | single {letter : Letter} (own : edge letter) : Anchored edge joint [letter]
  | ends {first last : Letter} {middle : List Letter} (front : edge first)
      (within : ∀ letter ∈ middle, edge letter ∨ joint letter)
      (back : edge last) : Anchored edge joint (first :: (middle ++ [last]))

variable {edge joint : Letter → Prop} {goes : Letter → Bool}
  {text : List Letter}

theorem Anchored.letters (anchored : Anchored edge joint text) {letter : Letter}
    (member : letter ∈ text) : edge letter ∨ joint letter := by
  cases anchored with
  | single own =>
      rw [List.mem_singleton.mp member]
      exact .inl own
  | ends front within back =>
      rcases List.mem_cons.mp member with rfl | later
      · exact .inl front
      · rcases List.mem_append.mp later with inside | final
        · exact within letter inside
        · rw [List.mem_singleton.mp final]
          exact .inl back

theorem anchored_of_ends (letters : ∀ letter ∈ text, edge letter ∨ joint letter)
    (present : text ≠ []) (front : ¬ joint (text.head present))
    (back : ¬ joint (text.getLast present)) : Anchored edge joint text := by
  cases text with
  | nil => exact absurd rfl present
  | cons first rest =>
      have own : edge first :=
        (letters first List.mem_cons_self).resolve_right front
      rcases List.eq_nil_or_concat' rest with rfl | ⟨middle, last, rfl⟩
      · exact .single own
      · rw [List.getLast_cons (by simp), List.getLast_append_singleton] at back
        refine .ends own (fun letter member => letters letter (by simp [member]))
          ((letters last (by simp)).resolve_right back)

theorem length_trim_le : (trim goes text).length ≤ text.length :=
  le_trans (List.rdropWhile_prefix goes _).length_le
    (List.dropWhile_suffix goes).length_le

/-- A text that starts with a letter that stays. -/
def StartsKept (goes : Letter → Bool) (text : List Letter) : Prop :=
  ∃ first rest, text = first :: rest ∧ goes first = false

theorem StartsKept.trim_eq (starts : StartsKept goes text) :
    trim goes text = text.rdropWhile goes := by
  obtain ⟨first, rest, rfl, kept⟩ := starts
  rw [trim, List.dropWhile_cons_of_neg (by simp [kept])]

theorem StartsKept.trim (starts : StartsKept goes text) :
    StartsKept goes (trim goes text) := by
  have whole := starts.trim_eq
  obtain ⟨first, rest, rfl, kept⟩ := starts
  obtain ⟨behind, split⟩ := List.rdropWhile_prefix goes (first :: rest)
  rw [whole]
  cases found : (first :: rest).rdropWhile goes with
  | nil =>
      have all := List.rdropWhile_eq_nil_iff.mp found first List.mem_cons_self
      rw [kept] at all
      cases all
  | cons other later =>
      rw [found] at split
      cases split
      exact ⟨_, later, rfl, kept⟩

theorem startsKept_trim (present : trim goes text ≠ []) :
    StartsKept goes (trim goes text) := by
  cases found : text.dropWhile goes with
  | nil => exact absurd (by rw [Foundation.trim, found]; rfl) present
  | cons first rest =>
      have kept := List.head?_dropWhile_not goes text
      rw [found] at kept
      have starts : StartsKept goes (first :: rest) :=
        ⟨first, rest, rfl, by simpa using kept⟩
      have same : Foundation.trim goes text =
          Foundation.trim goes (first :: rest) := by
        rw [starts.trim_eq, Foundation.trim, found]
      rw [same]
      exact starts.trim

/-- Of a text that is cleared at its ends, a front part has the kept letters
that the same part of the text has once its front is cleared. -/
theorem forall_take_trim_iff {good : Letter → Prop} (bound : Nat) :
    (∀ letter ∈ (trim goes text).take bound,
        goes letter = false → good letter) ↔
      ∀ letter ∈ (text.dropWhile goes).take bound,
        goes letter = false → good letter := by
  have split : trim goes text ++ (text.dropWhile goes).rtakeWhile goes =
      text.dropWhile goes := List.rdropWhile_append_rtakeWhile
  conv_rhs => rw [← split]
  rw [List.take_append, List.forall_mem_append]
  refine (and_iff_left ?_).symm
  intro letter member kept
  have gone := List.mem_rtakeWhile_imp (List.mem_of_mem_take member)
  rw [kept] at gone
  cases gone

/-- What goes from the end of a text is what may stand between two kept letters,
so that only the others matter. -/
theorem anchored_trim_iff (starts : StartsKept goes text) :
    Anchored edge (fun letter => goes letter = true) (trim goes text) ↔
      ∀ letter ∈ text, goes letter = false → edge letter := by
  have whole := starts.trim_eq
  have split : text.rdropWhile goes ++ text.rtakeWhile goes = text :=
    List.rdropWhile_append_rtakeWhile
  constructor
  · intro anchored letter member kept
    rw [← split] at member
    rcases List.mem_append.mp member with inside | behind
    · rw [← whole] at inside
      rcases anchored.letters inside with own | gone
      · exact own
      · rw [kept] at gone
        cases gone
    · have gone := List.mem_rtakeWhile_imp behind
      rw [kept] at gone
      cases gone
  · intro letters
    obtain ⟨first, rest, shape, kept⟩ := starts.trim
    have present : trim goes text ≠ [] := by
      rw [shape]
      exact List.cons_ne_nil _ _
    refine anchored_of_ends ?_ present ?_ ?_
    · intro letter member
      cases found : goes letter with
      | true => exact .inr rfl
      | false =>
          rw [whole] at member
          exact .inl (letters letter
            ((List.rdropWhile_prefix goes text).subset member) found)
    · simp only [shape, List.head_cons, kept]
      exact Bool.false_ne_true
    · simp only [whole]
      exact List.rdropWhile_last_not goes text (whole ▸ present)

end Trimming

end Foundation
