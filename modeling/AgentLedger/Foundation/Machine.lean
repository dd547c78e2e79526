import AgentLedger.Foundation.Program
import AgentLedger.Foundation.Run

namespace Foundation

/-! Threads that interleave over one world.  A step of a thread is one command;
the schedule chooses the thread and what the environment contributes to the
answer. -/

abbrev Tid := Nat

structure Machine where
  Call : Type
  Result : Call → Type
  Cmd : Type
  Reply : Cmd → Type
  Error : Type
  World : Type
  /-- What the environment contributes to one command. -/
  Input : Type
  body : (call : Call) → Program Cmd Reply Error (Result call)
  start : Tid → Call → World → World
  /-- The command taken by the thread; `none` while it has to wait. -/
  act : Tid → (cmd : Cmd) → Input → World → Option (Reply cmd × World)
  crash : Tid → World → World

namespace Machine

variable (M : Machine)

structure Thread where
  call : M.Call
  rest : Program M.Cmd M.Reply M.Error (M.Result call)

structure Config where
  world : M.World
  threads : Tid → Option M.Thread

inductive Label
  | spawn (thread : Tid) (call : M.Call)
  | act (thread : Tid) (input : M.Input)
  | crash (thread : Tid)

variable {M}

def Label.thread : M.Label → Tid
  | .spawn thread _ | .act thread _ | .crash thread => thread

/-- The thread has returned or raised. -/
def Thread.ended (thread : M.Thread) : Bool :=
  match thread.rest with
  | .call _ _ => false
  | _ => true

def initial (world : M.World) : M.Config := ⟨world, fun _ => none⟩

/-- A thread that acts, if it can: the answer goes to its continuation. -/
def resume (thread : Tid) (input : M.Input) (config : M.Config) :
    M.Thread → M.Config
  | ⟨call, .call cmd next⟩ =>
      match M.act thread cmd input config.world with
      | none => config
      | some (reply, world) =>
          { world := world
            threads := Function.update config.threads thread
              (some ⟨call, next reply⟩) }
  | _ => config

def step : M.Label → M.Config → M.Config
  | .spawn thread call, config =>
      if (config.threads thread).all Thread.ended then
        { world := M.start thread call config.world
          threads := Function.update config.threads thread
            (some ⟨call, M.body call⟩) }
      else config
  | .act thread input, config =>
      match config.threads thread with
      | some running => resume thread input config running
      | none => config
  | .crash thread, config =>
      { world := M.crash thread config.world
        threads := Function.update config.threads thread none }

theorem step_act {config : M.Config} {thread : Tid} {input : M.Input}
    {call : M.Call} {cmd : M.Cmd}
    {next : M.Reply cmd → Program M.Cmd M.Reply M.Error (M.Result call)}
    {reply : M.Reply cmd} {after : M.World}
    (found : config.threads thread = some ⟨call, .call cmd next⟩)
    (acted : M.act thread cmd input config.world = some (reply, after)) :
    step (.act thread input) config =
      { world := after
        threads := Function.update config.threads thread
          (some ⟨call, next reply⟩) } := by
  simp only [step, found, resume, acted]

/-- What one step makes of the world. -/
inductive Moves (config : M.Config) : M.Label → M.World → Prop
  | still (label : M.Label) : Moves config label config.world
  | began (thread : Tid) (call : M.Call) :
      Moves config (.spawn thread call) (M.start thread call config.world)
  | acted {thread : Tid} {input : M.Input} {call : M.Call} {cmd : M.Cmd}
      {next : M.Reply cmd → Program M.Cmd M.Reply M.Error (M.Result call)}
      {reply : M.Reply cmd} {world : M.World}
      (running : config.threads thread = some ⟨call, .call cmd next⟩)
      (acts : M.act thread cmd input config.world = some (reply, world)) :
      Moves config (.act thread input) world
  | lost (thread : Tid) :
      Moves config (.crash thread) (M.crash thread config.world)

theorem step_moves (config : M.Config) (label : M.Label) :
    Moves config label (step label config).world := by
  cases label with
  | spawn thread call =>
      simp only [step]
      split
      · exact .began thread call
      · exact .still _
  | act thread input =>
      cases found : config.threads thread with
      | none =>
          simp only [step, found]
          exact .still _
      | some running =>
          obtain ⟨call, rest⟩ := running
          cases rest with
          | done value =>
              simp only [step, found, resume]
              exact .still _
          | raise error =>
              simp only [step, found, resume]
              exact .still _
          | call cmd next =>
              cases acts : M.act thread cmd input config.world with
              | none =>
                  simp only [step, found, resume, acts]
                  exact .still _
              | some outcome =>
                  simp only [step_act found acts]
                  exact .acted found acts
  | crash thread => exact .lost thread

/-! Rely and guarantee.  A contract names what every world keeps, what a thread
may rely on while others act, what it owes at each of its commands and at its
end, and which commands and calls the runs in question allow. -/

structure Contract (M : Machine) where
  invariant : M.World → Prop
  rely : Tid → M.World → M.World → Prop
  admitsCall : Tid → M.Call → M.World → Prop
  admits : Tid → M.Call → M.Cmd → M.Input → M.World → Prop
  owes : Tid → M.Call → M.Cmd → M.World → Prop
  ends : Tid → (call : M.Call) → Except M.Error (M.Result call) →
    M.World → Prop

namespace Contract

variable (K : Contract M)

/-- What one action owes the rest of the system. -/
def Guarantees (thread : Tid) (before after : M.World) : Prop :=
  K.invariant after ∧ ∀ other, other ≠ thread → K.rely other before after

/-- The rest of a thread meets the contract from here, whatever the others do. -/
def Safe (thread : Tid) (call : M.Call) :
    Program M.Cmd M.Reply M.Error (M.Result call) → M.World → Prop
  | .done value, world => ∀ later, K.rely thread world later →
      K.invariant later → K.ends thread call (.ok value) later
  | .raise error, world => ∀ later, K.rely thread world later →
      K.invariant later → K.ends thread call (.error error) later
  | .call cmd next, world => ∀ later, K.rely thread world later →
      K.invariant later → K.owes thread call cmd later ∧
        ∀ input, K.admits thread call cmd input later →
          ∀ reply after, M.act thread cmd input later =
            some (reply, after) →
          K.Guarantees thread later after ∧
            Safe thread call (next reply) after

/-- The step is one the contract admits. -/
def Admitted (config : M.Config) : M.Label → Prop
  | .spawn thread call => K.admitsCall thread call config.world
  | .act thread input =>
      match config.threads thread with
      | some ⟨call, .call cmd _⟩ => K.admits thread call cmd input config.world
      | _ => True
  | .crash _ => True

structure Good (config : M.Config) : Prop where
  invariant : K.invariant config.world
  safe : ∀ thread running, config.threads thread = some running →
    K.Safe thread running.call running.rest config.world

/-- The obligations of a contract: the frame it relies on composes, and every
call starts safe. -/
structure Sound : Prop where
  rely_refl : ∀ thread world, K.rely thread world world
  rely_trans : ∀ thread first second third, K.rely thread first second →
    K.rely thread second third → K.rely thread first third
  start : ∀ thread call world, K.invariant world →
    K.admitsCall thread call world →
    K.Guarantees thread world (M.start thread call world) ∧
      K.Safe thread call (M.body call) (M.start thread call world)
  crash : ∀ thread world, K.invariant world →
    K.Guarantees thread world (M.crash thread world)

variable {K}

/-- What a thread may assume now, it may assume after any step of the others. -/
theorem Safe.rely (sound : K.Sound) {thread : Tid} {call : M.Call}
    {rest : Program M.Cmd M.Reply M.Error (M.Result call)}
    {world later : M.World} (safe : K.Safe thread call rest world)
    (relied : K.rely thread world later) :
    K.Safe thread call rest later := by
  cases rest with
  | done value =>
      exact fun final step => safe final (sound.rely_trans _ _ _ _ relied step)
  | raise error =>
      exact fun final step => safe final (sound.rely_trans _ _ _ _ relied step)
  | call cmd next =>
      exact fun final step => safe final (sound.rely_trans _ _ _ _ relied step)

/-- What a thread knows of itself and keeps at each of its steps, and the others
leave to it, makes it safe. -/
theorem Safe.of_known {thread : Tid} {call : M.Call}
    {known : Program M.Cmd M.Reply M.Error (M.Result call) → M.World → Prop}
    (relied : ∀ rest world later, K.rely thread world later →
      K.invariant later → known rest world → known rest later)
    (returns : ∀ value world, known (.done value) world →
      K.ends thread call (.ok value) world)
    (raises : ∀ error world, known (.raise error) world →
      K.ends thread call (.error error) world)
    (acts : ∀ cmd next world, K.invariant world →
      known (.call cmd next) world → K.owes thread call cmd world ∧
        ∀ input, K.admits thread call cmd input world → ∀ reply after,
          M.act thread cmd input world = some (reply, after) →
          K.Guarantees thread world after ∧ known (next reply) after)
    {rest : Program M.Cmd M.Reply M.Error (M.Result call)} {world : M.World}
    (here : known rest world) : K.Safe thread call rest world := by
  induction rest generalizing world with
  | done value =>
      intro later others invariant
      exact returns value later (relied _ _ _ others invariant here)
  | raise error =>
      intro later others invariant
      exact raises error later (relied _ _ _ others invariant here)
  | call cmd next ih =>
      intro later others invariant
      obtain ⟨owed, continues⟩ := acts cmd next later invariant
        (relied _ _ _ others invariant here)
      refine ⟨owed, fun input admitted reply after acted => ?_⟩
      obtain ⟨guaranteed, rest⟩ := continues input admitted reply after acted
      exact ⟨guaranteed, ih reply rest⟩

private theorem Good.update (sound : K.Sound) {config : M.Config}
    (good : K.Good config) {thread : Tid} {world : M.World}
    (guaranteed : K.Guarantees thread config.world world)
    {running : Option M.Thread}
    (own : ∀ mine, running = some mine →
      K.Safe thread mine.call mine.rest world) :
    K.Good ⟨world, Function.update config.threads thread running⟩ := by
  refine ⟨guaranteed.1, fun other otherRunning found => ?_⟩
  by_cases same : other = thread
  · subst same
    simp only [Function.update_self] at found
    exact own otherRunning found
  · simp only [Function.update_of_ne same] at found
    exact (good.safe other otherRunning found).rely sound
      (guaranteed.2 other same)

theorem Good.step (sound : K.Sound) (config : M.Config) (label : M.Label)
    (good : K.Good config) (admitted : K.Admitted config label) :
    K.Good (Machine.step label config) := by
  cases label with
  | spawn thread call =>
      simp only [Machine.step]
      split
      · obtain ⟨guaranteed, safe⟩ :=
          sound.start thread call config.world good.invariant admitted
        exact good.update sound guaranteed fun mine same =>
          Option.some.inj same ▸ safe
      · exact good
  | act thread input =>
      simp only [Machine.step]
      cases found : config.threads thread with
      | none => exact good
      | some running =>
          obtain ⟨call, rest⟩ := running
          cases rest with
          | done value => exact good
          | raise error => exact good
          | call cmd next =>
              simp only [resume]
              cases acted : M.act thread cmd input config.world with
              | none => exact good
              | some outcome =>
                  obtain ⟨reply, world⟩ := outcome
                  simp only [Admitted, found] at admitted
                  obtain ⟨_, acts⟩ := good.safe thread _ found config.world
                    (sound.rely_refl _ _) good.invariant
                  obtain ⟨guaranteed, safe⟩ :=
                    acts input admitted reply world acted
                  exact good.update sound guaranteed fun mine same =>
                    Option.some.inj same ▸ safe
  | crash thread =>
      exact good.update sound (sound.crash thread config.world good.invariant)
        fun mine same => by cases same

theorem good_initial {world : M.World} (holds : K.invariant world) :
    K.Good (initial world) :=
  ⟨holds, fun _ _ found => by cases found⟩

theorem Good.owes (sound : K.Sound) {config : M.Config}
    (good : K.Good config) {thread : Tid} {call : M.Call} {cmd : M.Cmd}
    {next : M.Reply cmd → Program M.Cmd M.Reply M.Error (M.Result call)}
    (found : config.threads thread = some ⟨call, .call cmd next⟩) :
    K.owes thread call cmd config.world :=
  (good.safe thread _ found config.world (sound.rely_refl _ _)
    good.invariant).1

theorem Good.returned (sound : K.Sound) {config : M.Config}
    (good : K.Good config) {thread : Tid} {call : M.Call}
    {value : M.Result call}
    (found : config.threads thread = some ⟨call, .done value⟩) :
    K.ends thread call (.ok value) config.world :=
  good.safe thread _ found config.world (sound.rely_refl _ _) good.invariant

end Contract

end Machine

end Foundation
