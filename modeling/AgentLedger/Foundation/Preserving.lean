import Mathlib.Data.List.Basic

namespace Foundation

/-! Programs over a state that stop at an error and keep what they have done. -/

section Keeps

variable {σ ε α β : Type}

/-- What holds of the state holds of it afterwards, also when the program has
stopped on its way. -/
structure Keeps (good : σ → Prop) (program : ExceptT ε (StateM σ) α) :
    Prop where
  after : ∀ state, good state → good (program state).2

variable {good : σ → Prop}

theorem Keeps.pure (value : α) :
    Keeps good (Pure.pure value : ExceptT ε (StateM σ) α) :=
  ⟨fun _ holds => holds⟩

theorem Keeps.throw (error : ε) :
    Keeps good (throw error : ExceptT ε (StateM σ) α) :=
  ⟨fun _ holds => holds⟩

theorem Keeps.bind {program : ExceptT ε (StateM σ) α}
    {next : α → ExceptT ε (StateM σ) β} (first : Keeps good program)
    (later : ∀ value, Keeps good (next value)) :
    Keeps good (program >>= next) := by
  constructor
  intro state holds
  have between := first.after state holds
  cases ran : program state with
  | mk result reached =>
      rw [ran] at between
      simp only [Bind.bind, ExceptT.bind, ExceptT.mk, StateT.bind, ran]
      cases result with
      | ok value => exact (later value).after reached between
      | error error => exact between

/-- The rest of the program knows the state that was read. -/
theorem Keeps.bind_get {next : σ → ExceptT ε (StateM σ) β}
    (later : ∀ state, good state → good (next state state).2) :
    Keeps good (get >>= next) :=
  ⟨fun state holds => later state holds⟩

theorem Keeps.get_bind {next : σ → ExceptT ε (StateM σ) β}
    (later : ∀ state, Keeps good (next state)) : Keeps good (get >>= next) :=
  Keeps.bind_get fun state holds => (later state).after state holds

theorem Keeps.modify {change : σ → σ}
    (kept : ∀ state, good state → good (change state)) :
    Keeps good (modify change : ExceptT ε (StateM σ) Unit) :=
  ⟨kept⟩

theorem Keeps.ite {condition : Prop} [Decidable condition]
    {first second : ExceptT ε (StateM σ) α} (left : Keeps good first)
    (right : Keeps good second) :
    Keeps good (if condition then first else second) := by
  split
  · exact left
  · exact right

theorem Keeps.foldlM {step : β → α → ExceptT ε (StateM σ) β}
    (each : ∀ held item, Keeps good (step held item)) (items : List α)
    (held : β) : Keeps good (items.foldlM step held) := by
  induction items generalizing held with
  | nil => exact Keeps.pure held
  | cons item rest ih =>
      rw [List.foldlM_cons]
      exact Keeps.bind (each held item) fun next => ih next

end Keeps

end Foundation
