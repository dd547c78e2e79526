import AgentLedger.Foundation.Machine

namespace Foundation

/-! Programs that follow a protocol: which commands they may issue depends on
the phase that their earlier commands, as they were answered, have led to. -/

structure Protocol (Cmd : Type) (Reply : Cmd → Type) where
  Phase : Type
  /-- Of a thread that is none. -/
  idle : Phase
  allows : Phase → Cmd → Prop
  next : Phase → (cmd : Cmd) → Reply cmd → Phase

/-- Commands that are allowed in these phases and lead to no others. -/
def Protocol.Stays {Cmd : Type} {Reply : Cmd → Type} (P : Protocol Cmd Reply)
    (inside : P.Phase → Prop) (cmd : Cmd) : Prop :=
  ∀ phase, inside phase → P.allows phase cmd ∧
    ∀ reply, inside (P.next phase cmd reply)

namespace Program

variable {Cmd : Type} {Reply : Cmd → Type} {ε α β : Type}
  {P : Protocol Cmd Reply}

/-- From this phase on, the program issues only what the protocol allows, and
ends as it may in the phase it has come to. -/
def Follows (P : Protocol Cmd Reply) (ends : P.Phase → Except ε α → Prop) :
    P.Phase → Program Cmd Reply ε α → Prop
  | phase, .done value => ends phase (.ok value)
  | phase, .raise error => ends phase (.error error)
  | phase, .call cmd rest => P.allows phase cmd ∧
      ∀ reply, Follows P ends (P.next phase cmd reply) (rest reply)

theorem Follows.bind {middle : P.Phase → Except ε α → Prop}
    {ends : P.Phase → Except ε β → Prop} {phase : P.Phase}
    {first : Program Cmd Reply ε α} {rest : α → Program Cmd Reply ε β}
    (follows : first.Follows P middle phase)
    (value : ∀ reached value, middle reached (.ok value) →
      (rest value).Follows P ends reached)
    (error : ∀ reached error, middle reached (.error error) →
      ends reached (.error error)) :
    (first >>= rest).Follows P ends phase := by
  induction first generalizing phase with
  | done result => exact value phase result follows
  | raise problem => exact error phase problem follows
  | call cmd next ih => exact ⟨follows.1, fun reply => ih reply (follows.2 reply)⟩

theorem Follows.tryCatch {middle ends : P.Phase → Except ε α → Prop}
    {phase : P.Phase} {program : Program Cmd Reply ε α}
    {handler : ε → Program Cmd Reply ε α}
    (follows : program.Follows P middle phase)
    (value : ∀ reached value, middle reached (.ok value) →
      ends reached (.ok value))
    (handled : ∀ reached error, middle reached (.error error) →
      (handler error).Follows P ends reached) :
    (program.tryCatch handler).Follows P ends phase := by
  induction program generalizing phase with
  | done result => exact value phase result follows
  | raise problem => exact handled phase problem follows
  | call cmd next ih => exact ⟨follows.1, fun reply => ih reply (follows.2 reply)⟩

theorem Follows.of_uses {inside : P.Phase → Prop} {phase : P.Phase}
    {program : Program Cmd Reply ε α} (uses : program.Uses (P.Stays inside))
    (start : inside phase) :
    program.Follows P (fun reached _ => inside reached) phase := by
  induction program generalizing phase with
  | done value => exact start
  | raise error => exact start
  | call cmd next ih =>
      obtain ⟨allowed, stays⟩ := uses.1 phase start
      exact ⟨allowed, fun reply => ih reply (uses.2 reply) (stays reply)⟩

/-- A first part that stays in some phases passes one of them on. -/
theorem Follows.after {inside : P.Phase → Prop}
    {ends : P.Phase → Except ε β → Prop} {phase : P.Phase}
    {first : Program Cmd Reply ε α} {rest : α → Program Cmd Reply ε β}
    (uses : first.Uses (P.Stays inside)) (start : inside phase)
    (value : ∀ reached value, inside reached →
      (rest value).Follows P ends reached)
    (error : ∀ reached error, inside reached → ends reached (.error error)) :
    (first >>= rest).Follows P ends phase :=
  (Follows.of_uses uses start).bind value error

end Program

/-! ### The phases of the threads of a machine -/

namespace Machine

variable {M : Machine} (P : Protocol M.Cmd M.Reply) (enter : M.Call → P.Phase)

/-- How one step moves the phases of the threads. -/
def watch (label : M.Label) (config : M.Config) (phases : Tid → P.Phase) :
    Tid → P.Phase :=
  match label with
  | .spawn thread call =>
      if (config.threads thread).all Thread.ended then
        Function.update phases thread (enter call)
      else phases
  | .act thread input =>
      match config.threads thread with
      | some ⟨_, .call cmd _⟩ =>
          match M.act thread cmd input config.world with
          | some (reply, _) =>
              Function.update phases thread (P.next (phases thread) cmd reply)
          | none => phases
      | _ => phases
  | .crash thread => Function.update phases thread P.idle

/-- Other threads stay in their phases. -/
theorem watch_other {label : M.Label} {config : M.Config}
    {phases : Tid → P.Phase} {other : Tid} (different : other ≠ label.thread) :
    watch P enter label config phases other = phases other := by
  cases label with
  | spawn thread call =>
      simp only [watch]
      split
      · exact Function.update_of_ne different _ _
      · rfl
  | act thread input =>
      simp only [watch]
      cases config.threads thread with
      | none => rfl
      | some running =>
          obtain ⟨call, rest⟩ := running
          cases rest with
          | done value | raise error => rfl
          | call cmd next =>
              dsimp only
              cases M.act thread cmd input config.world with
              | none => rfl
              | some outcome => exact Function.update_of_ne different _ _
  | crash thread => exact Function.update_of_ne different _ _

/-- Every thread follows the protocol from the phase it is in. -/
def Obeys (ends : P.Phase → (call : M.Call) →
    Except M.Error (M.Result call) → Prop)
    (config : M.Config) (phases : Tid → P.Phase) : Prop :=
  ∀ thread running, config.threads thread = some running →
    running.rest.Follows P (fun reached => ends reached running.call)
      (phases thread)

variable {P} {enter} {ends : P.Phase → (call : M.Call) →
  Except M.Error (M.Result call) → Prop}

theorem Obeys.update {config : M.Config} {phases : Tid → P.Phase}
    (obeys : Obeys P ends config phases) {world : M.World} (thread : Tid)
    {running : Option M.Thread} {phase : P.Phase}
    (own : ∀ mine, running = some mine →
      mine.rest.Follows P (fun reached => ends reached mine.call) phase) :
    Obeys P ends ⟨world, Function.update config.threads thread running⟩
      (Function.update phases thread phase) := by
  intro other mine found
  by_cases same : other = thread
  · subst same
    simp only [Function.update_self] at found ⊢
    exact own mine found
  · simp only [Function.update_of_ne same] at found ⊢
    exact obeys other mine found

/-- Where every call starts in keeping with the protocol, every thread keeps to
it. -/
theorem Obeys.step {config : M.Config} {phases : Tid → P.Phase}
    (starts : ∀ call, (M.body call).Follows P (fun reached => ends reached call)
      (enter call))
    (obeys : Obeys P ends config phases) (label : M.Label) :
    Obeys P ends (Machine.step label config)
      (watch P enter label config phases) := by
  cases label with
  | spawn thread call =>
      simp only [Machine.step, watch]
      split
      · refine obeys.update thread fun mine same => ?_
        cases same
        exact starts call
      · exact obeys
  | act thread input =>
      simp only [Machine.step, watch]
      cases found : config.threads thread with
      | none => exact obeys
      | some running =>
          obtain ⟨call, rest⟩ := running
          cases rest with
          | done value => exact obeys
          | raise error => exact obeys
          | call cmd next =>
              simp only [resume]
              cases acted : M.act thread cmd input config.world with
              | none => exact obeys
              | some outcome =>
                  refine obeys.update thread fun mine same => ?_
                  cases same
                  exact (obeys thread _ found).2 outcome.1
  | crash thread =>
      refine obeys.update thread fun mine same => ?_
      cases same

theorem obeys_initial (world : M.World) (phases : Tid → P.Phase) :
    Obeys P ends (initial world) phases :=
  fun _ _ found => by cases found

end Machine

end Foundation
