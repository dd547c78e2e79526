import AgentLedger.Foundation.Machine

namespace Foundation

/-! What a program of one thread achieves while the others keep to the
contract: a weakest precondition for its value and one for its error. -/

namespace Machine.Contract

variable {M : Machine} (K : Contract M) (thread : Tid) (call : M.Call)

def Wp {α : Type} : Program M.Cmd M.Reply M.Error α → (α → M.World → Prop) →
    (M.Error → M.World → Prop) → M.World → Prop
  | .done value, post, _, world => post value world
  | .raise error, _, failed, world => failed error world
  | .call cmd next, post, failed, world =>
      ∀ later, K.rely thread world later → K.invariant later →
        K.owes thread call cmd later ∧
        ∀ input, K.admits thread call cmd input later →
          ∀ reply after, M.act thread cmd input later =
            some (reply, after) →
          K.Guarantees thread later after ∧ Wp (next reply) post failed after

/-- `fact` is the thread's own: the others keep it. -/
def Stable (fact : M.World → Prop) : Prop :=
  ∀ world later, K.rely thread world later → K.invariant later →
    fact world → fact later

/-- Wherever `fact` holds, the command is harmless and keeps it. -/
def Keeps (fact : M.World → Prop) (cmd : M.Cmd) : Prop :=
  ∀ world, K.invariant world → fact world →
    K.owes thread call cmd world ∧
    ∀ input, K.admits thread call cmd input world →
      ∀ reply after, M.act thread cmd input world = some (reply, after) →
        K.Guarantees thread world after ∧ fact after

variable {K thread call}

section Rules

variable {α β : Type} {post : β → M.World → Prop}
  {failed : M.Error → M.World → Prop}

theorem Wp.mono {program : Program M.Cmd M.Reply M.Error α}
    {post later : α → M.World → Prop} {failed failedLater : M.Error → M.World → Prop}
    (value : ∀ value world, post value world → later value world)
    (error : ∀ error world, failed error world → failedLater error world)
    {world : M.World} (holds : K.Wp thread call program post failed world) :
    K.Wp thread call program later failedLater world := by
  induction program generalizing world with
  | done result => exact value result world holds
  | raise problem => exact error problem world holds
  | call cmd next ih =>
      intro others relied invariant
      obtain ⟨owed, acts⟩ := holds others relied invariant
      refine ⟨owed, fun input admitted reply after acted => ?_⟩
      obtain ⟨guaranteed, rest⟩ := acts input admitted reply after acted
      exact ⟨guaranteed, ih reply rest⟩

theorem Wp.yields {program : Program M.Cmd M.Reply M.Error β}
    {good : β → Prop} {world : M.World} (yields : program.Yields good)
    (holds : K.Wp thread call program post failed world) :
    K.Wp thread call program (fun value world => good value ∧ post value world)
      failed world := by
  induction program generalizing world with
  | done value => exact ⟨yields, holds⟩
  | raise error => exact holds
  | call cmd next ih =>
      intro others relied invariant
      obtain ⟨owed, acts⟩ := holds others relied invariant
      refine ⟨owed, fun input admitted reply after acted => ?_⟩
      obtain ⟨guaranteed, rest⟩ := acts input admitted reply after acted
      exact ⟨guaranteed, ih reply (yields reply) rest⟩

theorem Wp.bind {first : Program M.Cmd M.Reply M.Error α}
    {next : α → Program M.Cmd M.Reply M.Error β} {world : M.World}
    (holds : K.Wp thread call first
      (fun value => K.Wp thread call (next value) post failed) failed world) :
    K.Wp thread call (first >>= next) post failed world := by
  induction first generalizing world with
  | done value => exact holds
  | raise error => exact holds
  | call cmd rest ih =>
      intro others relied invariant
      obtain ⟨owed, acts⟩ := holds others relied invariant
      refine ⟨owed, fun input admitted reply after acted => ?_⟩
      obtain ⟨guaranteed, later⟩ := acts input admitted reply after acted
      exact ⟨guaranteed, ih reply later⟩

theorem Wp.tryCatch {program : Program M.Cmd M.Reply M.Error β}
    {handler : M.Error → Program M.Cmd M.Reply M.Error β} {world : M.World}
    (holds : K.Wp thread call program post
      (fun error => K.Wp thread call (handler error) post failed) world) :
    K.Wp thread call (program.tryCatch handler) post failed world := by
  induction program generalizing world with
  | done value => exact holds
  | raise error => exact holds
  | call cmd rest ih =>
      intro others relied invariant
      obtain ⟨owed, acts⟩ := holds others relied invariant
      refine ⟨owed, fun input admitted reply after acted => ?_⟩
      obtain ⟨guaranteed, later⟩ := acts input admitted reply after acted
      exact ⟨guaranteed, ih reply later⟩

/-- A program of harmless commands keeps what is the thread's own. -/
theorem wp_of_uses {fact : M.World → Prop} (stable : K.Stable thread fact)
    {program : Program M.Cmd M.Reply M.Error α}
    (uses : program.Uses (K.Keeps thread call fact)) {world : M.World}
    (holds : fact world) :
    K.Wp thread call program (fun _ => fact) (fun _ => fact) world := by
  induction program generalizing world with
  | done value => exact holds
  | raise error => exact holds
  | call cmd rest ih =>
      intro others relied invariant
      obtain ⟨owed, acts⟩ :=
        uses.1 others invariant (stable world others relied invariant holds)
      refine ⟨owed, fun input admitted reply after acted => ?_⟩
      obtain ⟨guaranteed, kept⟩ := acts input admitted reply after acted
      exact ⟨guaranteed, ih reply (uses.2 reply) kept⟩

/-- What a program achieves is what the contract asks of the thread. -/
theorem safe_of_wp {program : Program M.Cmd M.Reply M.Error (M.Result call)}
    {world : M.World}
    (holds : K.Wp thread call program
      (fun value world => ∀ later, K.rely thread world later →
        K.invariant later → K.ends thread call (.ok value) later)
      (fun error world => ∀ later, K.rely thread world later →
        K.invariant later → K.ends thread call (.error error) later) world) :
    K.Safe thread call program world := by
  induction program generalizing world with
  | done value => exact holds
  | raise error => exact holds
  | call cmd rest ih =>
      intro others relied invariant
      obtain ⟨owed, acts⟩ := holds others relied invariant
      refine ⟨owed, fun input admitted reply after acted => ?_⟩
      obtain ⟨guaranteed, later⟩ := acts input admitted reply after acted
      exact ⟨guaranteed, ih reply later⟩

/-- A thread of harmless commands is safe, if its own fact is all that is asked
of its end. -/
theorem safe_of_uses {fact : M.World → Prop} (stable : K.Stable thread fact)
    (ends : ∀ result world, fact world → K.ends thread call result world)
    {program : Program M.Cmd M.Reply M.Error (M.Result call)}
    (uses : program.Uses (K.Keeps thread call fact)) {world : M.World}
    (holds : fact world) : K.Safe thread call program world := by
  apply safe_of_wp
  refine (wp_of_uses stable uses holds).mono ?_ ?_
  · intro value world kept later relied invariant
    exact ends _ later (stable world later relied invariant kept)
  · intro error world kept later relied invariant
    exact ends _ later (stable world later relied invariant kept)

end Rules

end Machine.Contract

end Foundation
