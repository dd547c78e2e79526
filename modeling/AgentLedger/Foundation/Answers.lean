import AgentLedger.Foundation.Program

namespace Foundation

/-! Programs some of whose commands are answered beforehand. -/

namespace Program

variable {Cmd : Type} {Reply : Cmd → Type} {ε α β : Type}

@[simp] theorem bind_done_right (program : Program Cmd Reply ε α) :
    program >>= Program.done = program := by
  induction program with
  | done value => rfl
  | raise error => rfl
  | call cmd next ih =>
      rw [bind_call]
      congr 1
      funext reply
      exact ih reply

/-- The commands that `answer` knows of are not issued any more. -/
def answered (answer : (cmd : Cmd) → Option (Reply cmd)) :
    Program Cmd Reply ε α → Program Cmd Reply ε α
  | .done value => .done value
  | .raise error => .raise error
  | .call cmd next =>
      match answer cmd with
      | some reply => (next reply).answered answer
      | none => .call cmd fun reply => (next reply).answered answer

variable {answer : (cmd : Cmd) → Option (Reply cmd)}

@[simp] theorem answered_done (value : α) :
    (Program.done value : Program Cmd Reply ε α).answered answer =
      .done value := rfl

@[simp] theorem answered_raise (error : ε) :
    (Program.raise error : Program Cmd Reply ε α).answered answer =
      .raise error := rfl

theorem answered_known {cmd : Cmd} {reply : Reply cmd}
    (known : answer cmd = some reply)
    (next : Reply cmd → Program Cmd Reply ε α) :
    (Program.call cmd next).answered answer = (next reply).answered answer := by
  rw [answered, known]

theorem answered_unknown {cmd : Cmd} (unknown : answer cmd = none)
    (next : Reply cmd → Program Cmd Reply ε α) :
    (Program.call cmd next).answered answer =
      .call cmd fun reply => (next reply).answered answer := by
  rw [answered, unknown]

@[simp] theorem answered_bind (first : Program Cmd Reply ε α)
    (next : α → Program Cmd Reply ε β) :
    (first >>= next).answered answer =
      first.answered answer >>= fun value => (next value).answered answer := by
  induction first with
  | done value => rfl
  | raise error => rfl
  | call cmd rest ih =>
      rw [bind_call]
      cases known : answer cmd with
      | some reply =>
          rw [answered_known known, answered_known known]
          exact ih reply
      | none =>
          rw [answered_unknown known, answered_unknown known, bind_call]
          congr 1
          funext reply
          exact ih reply

theorem Uses.answered_eq {program : Program Cmd Reply ε α}
    (uses : program.Uses fun cmd => answer cmd = none) :
    program.answered answer = program := by
  induction program with
  | done value => rfl
  | raise error => rfl
  | call cmd next ih =>
      rw [answered_unknown uses.1]
      congr 1
      funext reply
      exact ih reply (uses.2 reply)

end Program

end Foundation
