import Mathlib.Logic.Function.Basic

namespace Foundation

/-! Sequential programs over a signature of commands.  A command is answered
from outside the program; the continuation receives the answer. -/

inductive Program (Cmd : Type) (Reply : Cmd → Type) (ε α : Type) : Type
  | done (value : α)
  | raise (error : ε)
  | call (cmd : Cmd) (next : Reply cmd → Program Cmd Reply ε α)

namespace Program

variable {Cmd : Type} {Reply : Cmd → Type} {ε α β : Type}

def bind (first : Program Cmd Reply ε α)
    (next : α → Program Cmd Reply ε β) : Program Cmd Reply ε β :=
  match first with
  | .done value => next value
  | .raise error => .raise error
  | .call cmd rest => .call cmd fun reply => (rest reply).bind next

instance : Monad (Program Cmd Reply ε) where
  pure := .done
  bind := bind

@[simp] theorem pure_eq (value : α) :
    (pure value : Program Cmd Reply ε α) = .done value := rfl

@[simp] theorem bind_done (value : α)
    (next : α → Program Cmd Reply ε β) :
    (Program.done value >>= next) = next value := rfl

@[simp] theorem bind_raise (error : ε)
    (next : α → Program Cmd Reply ε β) :
    (Program.raise error >>= next) = .raise error := rfl

@[simp] theorem bind_call (cmd : Cmd)
    (rest : Reply cmd → Program Cmd Reply ε α)
    (next : α → Program Cmd Reply ε β) :
    (Program.call cmd rest >>= next) =
      .call cmd fun reply => rest reply >>= next := rfl

@[simp] theorem bind_assoc {γ : Type} (first : Program Cmd Reply ε α)
    (second : α → Program Cmd Reply ε β)
    (third : β → Program Cmd Reply ε γ) :
    (first >>= second >>= third) =
      first >>= fun value => second value >>= third := by
  induction first with
  | done value => rfl
  | raise error => rfl
  | call cmd rest ih =>
      simp only [bind_call]
      congr 1
      funext reply
      exact ih reply

/-- `try ... except`: the handler sees only errors of the first program. -/
def tryCatch (program : Program Cmd Reply ε α)
    (handler : ε → Program Cmd Reply ε α) : Program Cmd Reply ε α :=
  match program with
  | .done value => .done value
  | .raise error => handler error
  | .call cmd rest => .call cmd fun reply => (rest reply).tryCatch handler

@[simp] theorem tryCatch_done (value : α)
    (handler : ε → Program Cmd Reply ε α) :
    (Program.done value).tryCatch handler = .done value := rfl

@[simp] theorem tryCatch_raise (error : ε)
    (handler : ε → Program Cmd Reply ε α) :
    (Program.raise error).tryCatch handler = handler error := rfl

@[simp] theorem tryCatch_call (cmd : Cmd)
    (rest : Reply cmd → Program Cmd Reply ε α)
    (handler : ε → Program Cmd Reply ε α) :
    (Program.call cmd rest).tryCatch handler =
      .call cmd fun reply => (rest reply).tryCatch handler := rfl

/-- Every command the program can issue, whatever it is answered, is allowed. -/
def Uses (allowed : Cmd → Prop) : Program Cmd Reply ε α → Prop
  | .done _ => True
  | .raise _ => True
  | .call cmd next => allowed cmd ∧ ∀ reply, (next reply).Uses allowed

variable {allowed : Cmd → Prop}

@[simp] theorem uses_done (value : α) :
    (Program.done value : Program Cmd Reply ε α).Uses allowed := trivial

@[simp] theorem uses_raise (error : ε) :
    (Program.raise error : Program Cmd Reply ε α).Uses allowed := trivial

@[simp] theorem uses_call (cmd : Cmd)
    (next : Reply cmd → Program Cmd Reply ε α) :
    (Program.call cmd next).Uses allowed ↔
      allowed cmd ∧ ∀ reply, (next reply).Uses allowed := Iff.rfl

theorem Uses.bind {first : Program Cmd Reply ε α}
    {next : α → Program Cmd Reply ε β} (uses : first.Uses allowed)
    (rest : ∀ value, (next value).Uses allowed) :
    (first >>= next).Uses allowed := by
  induction first with
  | done value => exact rest value
  | raise error => trivial
  | call cmd continuation ih =>
      exact ⟨uses.1, fun reply => ih reply (uses.2 reply)⟩

theorem Uses.tryCatch {program : Program Cmd Reply ε α}
    {handler : ε → Program Cmd Reply ε α} (uses : program.Uses allowed)
    (handled : ∀ error, (handler error).Uses allowed) :
    (program.tryCatch handler).Uses allowed := by
  induction program with
  | done value => trivial
  | raise error => exact handled error
  | call cmd rest ih => exact ⟨uses.1, fun reply => ih reply (uses.2 reply)⟩

theorem Uses.mono {allowed wider : Cmd → Prop} {program : Program Cmd Reply ε α}
    (uses : program.Uses allowed) (widens : ∀ cmd, allowed cmd → wider cmd) :
    program.Uses wider := by
  induction program with
  | done value => trivial
  | raise error => trivial
  | call cmd rest ih =>
      exact ⟨widens cmd uses.1, fun reply => ih reply (uses.2 reply)⟩

/-- Whatever it is answered, the program returns only good values. -/
def Yields (good : α → Prop) : Program Cmd Reply ε α → Prop
  | .done value => good value
  | .raise _ => True
  | .call _ next => ∀ reply, (next reply).Yields good

theorem Yields.bind {good : β → Prop} (first : Program Cmd Reply ε α)
    {next : α → Program Cmd Reply ε β}
    (rest : ∀ value, (next value).Yields good) :
    (first >>= next).Yields good := by
  induction first with
  | done value => exact rest value
  | raise error => trivial
  | call cmd continuation ih => exact ih

/-- What the first program returns may be counted on in the second. -/
theorem Uses.bind_yields {good : α → Prop}
    {first : Program Cmd Reply ε α} {next : α → Program Cmd Reply ε β}
    (uses : first.Uses allowed) (yields : first.Yields good)
    (rest : ∀ value, good value → (next value).Uses allowed) :
    (first >>= next).Uses allowed := by
  induction first with
  | done value => exact rest value yields
  | raise error => trivial
  | call cmd continuation ih =>
      exact ⟨uses.1, fun reply => ih reply (uses.2 reply) (yields reply)⟩

theorem uses_of_all (all : ∀ cmd, allowed cmd)
    (program : Program Cmd Reply ε α) : program.Uses allowed := by
  induction program with
  | done value => trivial
  | raise error => trivial
  | call cmd rest ih => exact ⟨all cmd, ih⟩

end Program

end Foundation
