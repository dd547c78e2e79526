import Mathlib.Algebra.GroupWithZero.Nat
import Mathlib.Logic.Basic
import Mathlib.Data.Char

namespace Foundation

/-! Computations that return a value or an error, unless they are stopped by a
fault, of which the caller hears nothing. -/

abbrev Guarded (Fault Error Value : Type) := ExceptT Error (Except Fault) Value

namespace Guarded

variable {Fault Error Value Result : Type}

def halt (fault : Fault) : Guarded Fault Error Value :=
  (Except.error fault : Except Fault (Except Error Value))

def of (result : Except Error Value) : Guarded Fault Error Value :=
  (Except.ok result : Except Fault (Except Error Value))

def Faults (run : Guarded Fault Error Value) : Prop := ∃ fault, run = halt fault

def Returns (run : Guarded Fault Error Value) : Prop := ∃ result, run = of result

def Yields (run : Guarded Fault Error Value) (value : Value) : Prop :=
  run = of (.ok value)

variable {run : Guarded Fault Error Value}
  {next : Value → Guarded Fault Error Result}

theorem cases (run : Guarded Fault Error Value) :
    (∃ fault, run = halt fault) ∨ (∃ error, run = of (.error error)) ∨
      ∃ value, run = of (.ok value) := by
  cases run with
  | error fault => exact .inl ⟨fault, rfl⟩
  | ok result =>
      cases result with
      | error error => exact .inr (.inl ⟨error, rfl⟩)
      | ok value => exact .inr (.inr ⟨value, rfl⟩)

theorem returns_iff : run.Returns ↔ ¬run.Faults := by
  constructor
  · rintro ⟨result, rfl⟩ ⟨fault, same⟩
    cases same
  · intro none_
    rcases run.cases with faults | ⟨error, rfl⟩ | ⟨value, rfl⟩
    · exact absurd faults none_
    · exact ⟨_, rfl⟩
    · exact ⟨_, rfl⟩

@[simp] theorem faults_halt (fault : Fault) :
    (halt fault : Guarded Fault Error Value).Faults := ⟨fault, rfl⟩

@[simp] theorem not_faults_of (result : Except Error Value) :
    ¬(of result : Guarded Fault Error Value).Faults := by
  rintro ⟨fault, same⟩
  cases same

@[simp] theorem not_faults_pure (value : Value) :
    ¬(pure value : Guarded Fault Error Value).Faults :=
  not_faults_of (.ok value)

@[simp] theorem not_yields_halt (fault : Fault) (value : Value) :
    ¬(halt fault : Guarded Fault Error Value).Yields value := by
  intro same
  cases same

@[simp] theorem yields_of {result : Except Error Value} {value : Value} :
    (of result : Guarded Fault Error Value).Yields value ↔
      result = .ok value := by
  constructor
  · intro same
    exact Except.ok.inj same
  · rintro rfl
    rfl

@[simp] theorem yields_pure {held value : Value} :
    (pure held : Guarded Fault Error Value).Yields value ↔ held = value :=
  yields_of.trans ⟨Except.ok.inj, congrArg Except.ok⟩

/-- A fault is one of the first part, or one of what follows its value. -/
theorem faults_bind : (run >>= next).Faults ↔
    run.Faults ∨ ∃ value, run.Yields value ∧ (next value).Faults := by
  rcases run.cases with ⟨fault, rfl⟩ | ⟨error, rfl⟩ | ⟨value, rfl⟩
  · exact iff_of_true ⟨fault, rfl⟩ (.inl ⟨fault, rfl⟩)
  · refine iff_of_false ?_ ?_
    · exact not_faults_of (.error error)
    · rintro (faults | ⟨value, same, _⟩)
      · exact not_faults_of _ faults
      · cases yields_of.mp same
  · constructor
    · intro faults
      exact .inr ⟨value, rfl, faults⟩
    · rintro (faults | ⟨other, same, faults⟩)
      · exact absurd faults (not_faults_of _)
      · cases yields_of.mp same
        exact faults

theorem yields_bind {result : Result} : (run >>= next).Yields result ↔
    ∃ value, run.Yields value ∧ (next value).Yields result := by
  rcases run.cases with ⟨fault, rfl⟩ | ⟨error, rfl⟩ | ⟨value, rfl⟩
  · refine iff_of_false ?_ ?_
    · exact not_yields_halt fault result
    · rintro ⟨value, same, _⟩
      exact not_yields_halt fault value same
  · refine iff_of_false ?_ ?_
    · intro same
      cases yields_of.mp same
    · rintro ⟨value, same, _⟩
      cases yields_of.mp same
  · constructor
    · intro yields
      exact ⟨value, rfl, yields⟩
    · rintro ⟨other, same, yields⟩
      cases yields_of.mp same
      exact yields

/-- Behind a value that is read without a fault, only what follows counts. -/
theorem faults_of_bind {result : Except Error Value} :
    (of result >>= next : Guarded Fault Error Result).Faults ↔
      ∃ value, result = .ok value ∧ (next value).Faults := by
  rw [faults_bind, or_iff_right (not_faults_of result)]
  exact exists_congr fun value => and_congr_left fun _ => yields_of

end Guarded

/-! ### One item after the other -/

/-- The first item that is not good is a bad one. -/
def Meets {Item : Type} (good bad : Item → Prop) (items : List Item) : Prop :=
  ∃ before item after, items = before ++ item :: after ∧
    (∀ earlier ∈ before, good earlier) ∧ bad item

section Meets

variable {Item : Type} {good bad : Item → Prop}

theorem not_meets_nil : ¬Meets good bad [] := by
  rintro ⟨before, item, after, same, _⟩
  cases before <;> cases same

theorem meets_cons {item : Item} {rest : List Item} :
    Meets good bad (item :: rest) ↔
      bad item ∨ good item ∧ Meets good bad rest := by
  constructor
  · rintro ⟨before, found, after, same, fine, wrong⟩
    cases before with
    | nil =>
        cases same
        exact .inl wrong
    | cons first before =>
        cases same
        refine .inr ⟨fine _ List.mem_cons_self, before, found, after, rfl, ?_,
          wrong⟩
        intro earlier member
        exact fine earlier (List.mem_cons_of_mem _ member)
  · rintro (wrong | ⟨own, before, found, after, rfl, fine, wrong⟩)
    · exact ⟨[], item, rest, rfl, by simp, wrong⟩
    · refine ⟨item :: before, found, after, rfl, ?_, wrong⟩
      exact List.forall_mem_cons.mpr ⟨own, fine⟩

end Meets

namespace Guarded

/-- A loop is at fault in the first step that is, behind steps that go well. -/
theorem faults_foldlM {Fault Error State Item : Type} {good bad : Item → Prop}
    {step : State → Item → Guarded Fault Error State}
    (faults : ∀ state item, (step state item).Faults ↔ bad item)
    (yields : ∀ state item, (∃ next, (step state item).Yields next) ↔ good item)
    {items : List Item} {state : State} :
    (items.foldlM step state).Faults ↔ Meets good bad items := by
  induction items generalizing state with
  | nil => exact iff_of_false (not_faults_pure state) not_meets_nil
  | cons item rest ih =>
      rw [List.foldlM_cons, faults_bind, faults, meets_cons, ← yields state item]
      simp only [ih, exists_and_right]

end Guarded

/-! ### Slices of a text -/

def byteLength (chars : List Char) : Nat := (chars.map Char.utf8Size).sum

/-- The characters of so many bytes, and those behind them: nothing where a
character is cut or the text ends before. -/
def takeBytes : Nat → List Char → Option (List Char × List Char)
  | 0, rest => some ([], rest)
  | _ + 1, [] => none
  | count + 1, char :: rest =>
      if char.utf8Size ≤ count + 1 then
        (takeBytes (count + 1 - char.utf8Size) rest).map fun taken =>
          (char :: taken.1, taken.2)
      else none

theorem byteLength_cons (char : Char) (rest : List Char) :
    byteLength (char :: rest) = char.utf8Size + byteLength rest := rfl

theorem utf8ByteSize_ofList (chars : List Char) :
    (String.ofList chars).utf8ByteSize = byteLength chars := by
  induction chars with
  | nil => rfl
  | cons char rest ih =>
      have split : String.ofList (char :: rest) =
          String.singleton char ++ String.ofList rest := by
        apply String.toList_injective
        simp
      rw [split, String.utf8ByteSize_append, String.utf8ByteSize_singleton, ih,
        byteLength_cons]

theorem length_le_byteLength (chars : List Char) :
    chars.length ≤ byteLength chars := by
  induction chars with
  | nil => exact le_rfl
  | cons char rest ih =>
      have positive := char.utf8Size_pos
      rw [List.length_cons, byteLength_cons]
      omega

end Foundation
