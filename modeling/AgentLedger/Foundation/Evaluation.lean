import AgentLedger.Foundation.Program

namespace Foundation

/-! Programs run to their end on a state, each command answered by one of the
acts it may have.  An answer need not be determined by the state. -/

namespace Program

variable {Cmd : Type} {Reply : Cmd → Type} {ε α β σ : Type}

abbrev Act (σ : Type) (Cmd : Type) (Reply : Cmd → Type) :=
  (cmd : Cmd) → σ → Reply cmd → σ → Prop

/-- Started in the first state, the program can end with this result in the
last one. -/
def Ends (act : Act σ Cmd Reply) :
    Program Cmd Reply ε α → σ → Except ε α → σ → Prop
  | .done value, start, result, final => result = .ok value ∧ final = start
  | .raise error, start, result, final => result = .error error ∧ final = start
  | .call cmd next, start, result, final =>
      ∃ reply middle, act cmd start reply middle ∧
        (next reply).Ends act middle result final

variable {act : Act σ Cmd Reply} {start final : σ}

@[simp] theorem ends_done {value : α} {result : Except ε α} :
    (Program.done value).Ends act start result final ↔
      result = .ok value ∧ final = start := Iff.rfl

@[simp] theorem ends_raise {error : ε} {result : Except ε α} :
    (Program.raise error).Ends act start result final ↔
      result = .error error ∧ final = start := Iff.rfl

@[simp] theorem ends_call {cmd : Cmd}
    {next : Reply cmd → Program Cmd Reply ε α} {result : Except ε α} :
    (Program.call cmd next).Ends act start result final ↔
      ∃ reply middle, act cmd start reply middle ∧
        (next reply).Ends act middle result final := Iff.rfl

/-- A composition that returns has passed between its parts. -/
theorem Ends.bind_ok {first : Program Cmd Reply ε α}
    {next : α → Program Cmd Reply ε β} {value : β}
    (ends : (first >>= next).Ends act start (.ok value) final) :
    ∃ passed middle, first.Ends act start (.ok passed) middle ∧
      (next passed).Ends act middle (.ok value) final := by
  induction first generalizing start with
  | done passed => exact ⟨passed, start, ⟨rfl, rfl⟩, ends⟩
  | raise error => cases ends.1
  | call cmd rest ih =>
      obtain ⟨reply, middle, acted, later⟩ := ends
      obtain ⟨passed, between, before, after⟩ := ih reply later
      exact ⟨passed, between, ⟨reply, middle, acted, before⟩, after⟩

theorem Ends.bind_error {first : Program Cmd Reply ε α}
    {next : α → Program Cmd Reply ε β} {error : ε}
    (ends : (first >>= next).Ends act start (.error error) final) :
    first.Ends act start (.error error) final ∨
      ∃ passed middle, first.Ends act start (.ok passed) middle ∧
        (next passed).Ends act middle (.error error) final := by
  induction first generalizing start with
  | done passed => exact .inr ⟨passed, start, ⟨rfl, rfl⟩, ends⟩
  | raise raised =>
      exact .inl ⟨congrArg Except.error (Except.error.inj ends.1), ends.2⟩
  | call cmd rest ih =>
      obtain ⟨reply, middle, acted, later⟩ := ends
      rcases ih reply later with raised | ⟨passed, between, before, after⟩
      · exact .inl ⟨reply, middle, acted, raised⟩
      · exact .inr ⟨passed, between, ⟨reply, middle, acted, before⟩, after⟩

/-- A guarded program that returns did so itself, or its handler did. -/
theorem Ends.tryCatch_ok {program : Program Cmd Reply ε α}
    {handler : ε → Program Cmd Reply ε α} {value : α}
    (ends : (program.tryCatch handler).Ends act start (.ok value) final) :
    program.Ends act start (.ok value) final ∨
      ∃ error middle, program.Ends act start (.error error) middle ∧
        (handler error).Ends act middle (.ok value) final := by
  induction program generalizing start with
  | done passed => exact .inl ends
  | raise error => exact .inr ⟨error, start, ⟨rfl, rfl⟩, ends⟩
  | call cmd rest ih =>
      obtain ⟨reply, middle, acted, later⟩ := ends
      rcases ih reply later with returned | ⟨error, between, raised, handled⟩
      · exact .inl ⟨reply, middle, acted, returned⟩
      · exact .inr ⟨error, between, ⟨reply, middle, acted, raised⟩, handled⟩

/-- What every act does to the state, a whole run does. -/
theorem Ends.preserves {within : σ → σ → Prop}
    (stays : ∀ state, within state state)
    (goes : ∀ {first second third},
      within first second → within second third → within first third)
    (acts : ∀ cmd state reply after,
      act cmd state reply after → within state after)
    {program : Program Cmd Reply ε α} {result : Except ε α}
    (ends : program.Ends act start result final) : within start final := by
  induction program generalizing start with
  | done value =>
      obtain ⟨_, same⟩ := ends
      subst same
      exact stays final
  | raise error =>
      obtain ⟨_, same⟩ := ends
      subst same
      exact stays final
  | call cmd next ih =>
      obtain ⟨reply, middle, acted, rest⟩ := ends
      exact goes (acts cmd start reply middle acted) (ih reply rest)

/-! ### One answer to every command -/

section Alone

variable (respond : (cmd : Cmd) → σ → Reply cmd × σ)

def alone : Program Cmd Reply ε α → σ → Except ε α × σ
  | .done value, state => (.ok value, state)
  | .raise error, state => (.error error, state)
  | .call cmd next, state =>
      (next (respond cmd state).1).alone (respond cmd state).2

theorem ends_alone
    (acts : ∀ cmd state,
      act cmd state (respond cmd state).1 (respond cmd state).2)
    (program : Program Cmd Reply ε α) (state : σ) :
    program.Ends act state (program.alone respond state).1
      (program.alone respond state).2 := by
  induction program generalizing state with
  | done value => exact ⟨rfl, rfl⟩
  | raise error => exact ⟨rfl, rfl⟩
  | call cmd next ih =>
      exact ⟨(respond cmd state).1, (respond cmd state).2, acts cmd state,
        ih _ _⟩

end Alone

/-! ### Programs over part of a signature -/

section Through

variable {Wide : Type} {Answer : Wide → Type}

/-- The program with its commands issued as those of a wider signature. -/
def through (embed : Cmd → Wide) (answer : ∀ cmd, Answer (embed cmd) → Reply cmd) :
    Program Cmd Reply ε α → Program Wide Answer ε α
  | .done value => .done value
  | .raise error => .raise error
  | .call cmd next =>
      .call (embed cmd) fun reply =>
        (next (answer cmd reply)).through embed answer

theorem Ends.of_through {embed : Cmd → Wide}
    {answer : ∀ cmd, Answer (embed cmd) → Reply cmd}
    {wide : Act σ Wide Answer}
    (acts : ∀ cmd state reply after, wide (embed cmd) state reply after →
      act cmd state (answer cmd reply) after)
    {program : Program Cmd Reply ε α} {result : Except ε α}
    (ends : (program.through embed answer).Ends wide start result final) :
    program.Ends act start result final := by
  induction program generalizing start with
  | done value => exact ends
  | raise error => exact ends
  | call cmd next ih =>
      obtain ⟨reply, middle, acted, rest⟩ := ends
      exact ⟨answer cmd reply, middle, acts cmd start reply middle acted,
        ih _ rest⟩

end Through

end Program

end Foundation
