import AgentLedger.Foundation.Program

namespace Foundation

/-! What programs let out: the parts of their runs that are seen from outside,
whatever their commands are answered. -/

namespace Program

variable {Cmd : Type} {Reply : Cmd → Type} {ε α β Out : Type}
  (emit : (cmd : Cmd) → Reply cmd → List Out)

/-- A run of the program, cut off anywhere, lets these out. -/
def Emits : Program Cmd Reply ε α → List Out → Prop
  | .done _, outs => outs = []
  | .raise _, outs => outs = []
  | .call cmd next, outs => outs = [] ∨
      ∃ reply rest, (next reply).Emits rest ∧ outs = emit cmd reply ++ rest

/-- A run that returns the value lets these out. -/
def Returns (value : α) : Program Cmd Reply ε α → List Out → Prop
  | .done given, outs => given = value ∧ outs = []
  | .raise _, _ => False
  | .call cmd next, outs =>
      ∃ reply rest, (next reply).Returns value rest ∧
        outs = emit cmd reply ++ rest

variable {emit}

theorem Emits.cut (program : Program Cmd Reply ε α) :
    program.Emits emit [] := by
  cases program with
  | done value => rfl
  | raise error => rfl
  | call cmd next => exact .inl rfl

theorem Emits.bind {first : Program Cmd Reply ε α}
    {next : α → Program Cmd Reply ε β} {outs : List Out}
    (emits : (first >>= next).Emits emit outs) :
    first.Emits emit outs ∨ ∃ value early late,
      first.Returns emit value early ∧ (next value).Emits emit late ∧
        outs = early ++ late := by
  induction first generalizing outs with
  | done value => exact .inr ⟨value, [], outs, ⟨rfl, rfl⟩, emits, rfl⟩
  | raise error => exact .inl emits
  | call cmd rest ih =>
      rcases emits with none | ⟨reply, later, emits, rfl⟩
      · exact .inl (.inl none)
      · rcases ih reply emits with within | ⟨value, early, late, own, after, rfl⟩
        · exact .inl (.inr ⟨reply, later, within, rfl⟩)
        · exact .inr ⟨value, emit cmd reply ++ early, late,
            ⟨reply, early, own, rfl⟩, after, (List.append_assoc _ _ _).symm⟩

/-- Commands of which nothing is let out. -/
def Silent (emit : (cmd : Cmd) → Reply cmd → List Out) (cmd : Cmd) : Prop :=
  ∀ reply, emit cmd reply = []

theorem Uses.emits_nil {program : Program Cmd Reply ε α}
    (uses : program.Uses (Silent emit)) {outs : List Out}
    (emits : program.Emits emit outs) : outs = [] := by
  induction program generalizing outs with
  | done value => exact emits
  | raise error => exact emits
  | call cmd next ih =>
      rcases emits with none | ⟨reply, rest, emits, rfl⟩
      · exact none
      · rw [uses.1 reply, ih reply (uses.2 reply) emits, List.append_nil]

theorem Uses.returns_nil {program : Program Cmd Reply ε α}
    (uses : program.Uses (Silent emit)) {value : α} {outs : List Out}
    (returns : program.Returns emit value outs) : outs = [] := by
  induction program generalizing outs with
  | done given => exact returns.2
  | raise error => exact returns.elim
  | call cmd next ih =>
      obtain ⟨reply, rest, returns, rfl⟩ := returns
      rw [uses.1 reply, ih reply (uses.2 reply) returns, List.append_nil]

theorem Emits.after_silent {first : Program Cmd Reply ε α}
    {next : α → Program Cmd Reply ε β} {outs : List Out}
    (silent : first.Uses (Silent emit))
    (emits : (first >>= next).Emits emit outs) :
    outs = [] ∨ ∃ value, (next value).Emits emit outs := by
  rcases emits.bind with within | ⟨value, early, late, own, after, rfl⟩
  · exact .inl (silent.emits_nil within)
  · right
    rw [silent.returns_nil own, List.nil_append]
    exact ⟨value, after⟩

end Program

end Foundation
