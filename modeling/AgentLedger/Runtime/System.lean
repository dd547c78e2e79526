import AgentLedger.Foundation.Logic
import AgentLedger.Runtime.RunOnce
import AgentLedger.Store.Ledger
import AgentLedger.Store.Specs
import AgentLedger.Tools.Bridge

namespace AgentLedger

open Foundation

/-! Workers, tool calls, bridges and operators over one store.  Each of them is
a thread; an operation of the store is one step of it. -/

inductive Task
  | runOnce (args : RunOnceArgs)
  | callTool (ctx : AgentContext) (toolName : String) (args : Json)
  | recordToolExecution (turn : ActiveTurn) (execution : ToolExecution)
  /-- Any one operation, of whoever it is. -/
  | operation (call : Call)

@[reducible] def Task.Result : Task → Type
  | .runOnce _ => Bool
  | .callTool _ _ _ => Json
  | .recordToolExecution _ _ => LedgerStatus
  | .operation call => call.Result

def Task.body (bridge : ExecutionEvidenceBridge) :
    (task : Task) → RuntimeM task.Result
  | .runOnce args => AgentLedger.runOnce args
  | .callTool ctx toolName args => bridge.gateway.call ctx toolName args
  | .recordToolExecution turn execution =>
      bridge.recordToolExecution turn execution
  | .operation call => store call

/-- What the surroundings contribute to one step.  A store or a blob file that
cannot be accessed raises `fault` and is left as it was, but of a blob file that
was to be written `torn` may be left. -/
structure Surroundings where
  moment : Moment
  agent : Except PyError Fields := .ok []
  tool : Except PyError Json := .ok .null
  sandbox : Except PyError SandboxResult := .ok { ok := true }
  fault : Option PyError := none
  torn : Option (Except PyError Json) := none

/-- Nothing but the clock and the next identifiers. -/
def Surroundings.tick (now : Int) (id : String → String) : Surroundings :=
  { moment := ⟨now, id, 0⟩ }

/-- What has become of a key in the course of a run. -/
inductive KeyEvent
  | executed (key : String)
  | resolvedNoEffect (key : String)
  deriving DecidableEq

/-- What a thread has come to.  No program reads this. -/
structure Activity where
  task : Task
  /-- What `claim_step` returned to it. -/
  claim : Option StepClaim := none
  /-- The key whose row it has set `RUNNING` and not given up. -/
  engaged : Option String := none
  /-- It has started the tool's function. -/
  invoked : Bool := false
  /-- Nothing has come between its context and the store. -/
  undisturbed : Bool := false

structure World where
  store : Store
  /-- What reading the files of the blob store comes to, by reference. -/
  blobs : String → Option (Except PyError Json)
  activities : Tid → Option Activity
  history : List KeyEvent

namespace AgentContext

/-- The context carries the current lease of its step, and the current version
of its run. -/
def current (ctx : AgentContext) (store : Store) : Bool :=
  ((store.step? ctx.stepId).any fun row =>
    decide (row.leaseToken = some ctx.leaseToken) &&
      decide (row.status = .running)) &&
  ((store.run? ctx.runId).any fun run =>
    decide (run.stateVersion = ctx.stateVersion))

/-- The operation takes the lease of the context away, or moves its run. -/
def disturbedBy (ctx : AgentContext) (store : Store) (now : Int) :
    Call → Bool
  | .recoverExpiredLeases =>
      (store.step? ctx.stepId).any (Store.leaseExpired now)
  | .cancelRun runId _ =>
      ((store.step? ctx.stepId).any fun row => decide (row.runId = runId)) &&
        ((store.run? runId).any fun run => !run.status.terminal)
  | .markWaitingHuman _ stepId _ _ => decide (stepId = ctx.stepId)
  | .markRetry _ stepId _ _ => decide (stepId = ctx.stepId)
  | .markFailed _ stepId _ _ => decide (stepId = ctx.stepId)
  | .commitStatePatch args =>
      (decide (args.stepId = ctx.stepId) || decide (args.runId = ctx.runId)) &&
        store.accepts now args
  | .applySystemStatePatch runId _ _ => decide (runId = ctx.runId)
  | _ => false

end AgentContext

def Task.context? : Task → Option AgentContext
  | .callTool ctx _ _ => some ctx
  | _ => none

/-- The claim that an answer brings. -/
def Call.claimed : (call : Call) → Except PyError call.Result →
    Option StepClaim
  | .claimStep _ _ _, .ok claim => claim
  | _, _ => none

/-- The resolution that an answer confirms. -/
def Call.resolutions : (call : Call) → Except PyError call.Result →
    List KeyEvent
  | .resolveLedger _ update _ _, .ok _ =>
      if update.status = .failedNoEffect then
        [.resolvedNoEffect update.idempotencyKey]
      else []
  | _, _ => []

namespace Activity

/-- What an operation of another thread makes of it. -/
def witness (activity : Activity) (store : Store) (now : Int) (call : Call) :
    Activity :=
  { activity with
    undisturbed := activity.undisturbed &&
      !(activity.task.context?.any fun ctx => ctx.disturbedBy store now call) }

/-- The key that the thread is engaged with after an operation of its own. -/
def engagedAfter (activity : Activity) (call : Call) : Option String :=
  match activity.task, call with
  | .callTool _ _ _, .updateLedger update =>
      match update.status with
      | .running => some update.idempotencyKey
      | .pendingVerification => none
      | _ => activity.engaged
  | _, _ => activity.engaged

def after (activity : Activity) (call : Call)
    (result : Except PyError call.Result) : Activity :=
  { activity with
    claim := (call.claimed result).orElse fun _ => activity.claim
    engaged := activity.engagedAfter call }

end Activity

namespace World

def opened : World := ⟨Store.empty, fun _ => none, fun _ => none, []⟩

def start (thread : Tid) (task : Task) (world : World) : World :=
  { world with
    activities := Function.update world.activities thread (some
      { task := task
        undisturbed := task.context?.any fun ctx =>
          ctx.current world.store }) }

def crash (thread : Tid) (world : World) : World :=
  { world with activities := Function.update world.activities thread none }

def perform (thread : Tid) (call : Call) (moment : Moment) (world : World) :
    Except PyError call.Result × World :=
  let outcome := call.perform moment world.store
  (outcome.1,
    { world with
      store := outcome.2
      activities := fun other =>
        (world.activities other).map fun activity =>
          let seen := activity.witness world.store moment.now call
          if other = thread then seen.after call outcome.1 else seen
      history := world.history ++ call.resolutions outcome.1 })

def invoke (thread : Tid) (invocation : Invocation) (world : World) : World :=
  { world with
    activities := Function.update world.activities thread
      ((world.activities thread).map fun activity =>
        { activity with invoked := true })
    history :=
      if invocation.spec.managedSideEffect then
        world.history ++ [.executed invocation.idempotencyKey]
      else world.history }

/-- A file that exists is not written again, whatever is in it. -/
def writeBlob (ref : String) (left : Option (Except PyError Json))
    (world : World) : World :=
  { world with
    blobs := Function.update world.blobs ref
      ((world.blobs ref).orElse fun _ => left) }

def putBlob (ref : String) (value : Json) (world : World) : World :=
  world.writeBlob ref (some (.ok value))

/-- `get_json` of `LocalBlobStore`. -/
def getBlob (ref : String) (world : World) : Except PyError Json :=
  if "blob://".toList.isPrefixOf ref.toList then
    match world.blobs ref with
    | some read => read
    | none => .error
        { cls := .exception
          typeName := "FileNotFoundError"
          message := "[Errno 2] No such file or directory" }
  else .error (.valueError ("unsupported blob ref: " ++ ref))

def act (thread : Tid) : (cmd : Command) → Surroundings → World →
    Option (cmd.Reply × World)
  | .store call, input, world =>
      match input.fault with
      | some error => some (.error error, world)
      | none => some (world.perform thread call input.moment)
  | .agent _ _, input, world => some (input.agent, world)
  | .invoke invocation, input, world =>
      some (input.tool, world.invoke thread invocation)
  | .sandboxed invocation _, input, world =>
      some (input.sandbox, world.invoke thread invocation)
  | .putJson digest value, input, world =>
      match input.fault with
      | some error =>
          some (.error error, world.writeBlob (blobRef digest) input.torn)
      | none => some (.ok (), world.putBlob (blobRef digest) value)
  | .getJson ref, input, world =>
      match input.fault with
      | some error => some (.error error, world)
      | none => some (world.getBlob ref, world)
  | .newId kind, input, world => some (input.moment.id kind, world)

/-- The program with nothing else in between. -/
def alone {α : Type} (moment : Moment) :
    RuntimeM α → World → Except PyError α × World
  | .done value, world => (.ok value, world)
  | .raise error, world => (.error error, world)
  | .call cmd next, world =>
      match act 0 cmd { moment := moment } world with
      | some (reply, after) => alone moment (next reply) after
      | none => (.error (.runtimeError "no answer"), world)

/-- What `claim_step` returned to the thread. -/
def claimOf (world : World) (thread : Tid) : Option StepClaim :=
  (world.activities thread).bind Activity.claim

end World

/-! ### Programs by themselves -/

section Alone

variable {world : World} {moment : Moment}

theorem World.alone_bind {α β : Type} (first : RuntimeM α)
    (next : α → RuntimeM β) :
    World.alone moment (first >>= next) world =
      match World.alone moment first world with
      | (.ok value, after) => World.alone moment (next value) after
      | (.error error, after) => (.error error, after) := by
  induction first generalizing world with
  | done value => rfl
  | raise error => rfl
  | call cmd rest ih =>
      simp only [Program.bind_call, World.alone]
      cases World.act 0 cmd { moment := moment } world with
      | none => rfl
      | some outcome => exact ih outcome.1

@[simp]
theorem World.alone_orRaise {α : Type} (result : Except PyError α) :
    World.alone moment (orRaise result) world = (result, world) := by
  cases result <;> rfl

@[simp]
theorem World.alone_newId (kind : String) :
    World.alone moment (Runtime.newId kind) world =
      (.ok (moment.id kind), world) :=
  rfl

theorem World.alone_store (call : Call) :
    World.alone moment (AgentLedger.store call) world =
      world.perform 0 call moment :=
  World.alone_orRaise _

end Alone

/-! ### What a step leaves of the activities -/

section Activities

variable {world after : World} {thread other : Tid}

theorem World.start_other (different : other ≠ thread) (task : Task) :
    (world.start thread task).activities other = world.activities other :=
  Function.update_of_ne different _ _

theorem World.crash_other (different : other ≠ thread) :
    (world.crash thread).activities other = world.activities other :=
  Function.update_of_ne different _ _

theorem World.perform_other (different : other ≠ thread) (call : Call)
    (moment : Moment) :
    (world.perform thread call moment).2.activities other =
      (world.activities other).map fun activity =>
        activity.witness world.store moment.now call := by
  simp [World.perform, different]

theorem World.perform_own (call : Call) (moment : Moment) :
    (world.perform thread call moment).2.activities thread =
      (world.activities thread).map fun activity =>
        (activity.witness world.store moment.now call).after call
          (call.perform moment world.store).1 := by
  simp [World.perform]

theorem World.invoke_other (different : other ≠ thread)
    (invocation : Invocation) :
    (world.invoke thread invocation).activities other =
      world.activities other :=
  Function.update_of_ne different _ _

theorem World.invoke_own (invocation : Invocation) :
    (world.invoke thread invocation).activities thread =
      (world.activities thread).map fun activity =>
        { activity with invoked := true } :=
  Function.update_self _ _ _

theorem World.act_store {call : Call} {input : Surroundings}
    {reply : Except PyError call.Result}
    (acted : World.act thread (.store call) input world =
      some (reply, after)) :
    (∃ error, input.fault = some error ∧ reply = .error error ∧
      after = world) ∨
    (input.fault = none ∧ reply = (call.perform input.moment world.store).1 ∧
      after = (world.perform thread call input.moment).2) := by
  simp only [World.act] at acted
  cases fault : input.fault with
  | none =>
      rw [fault] at acted
      cases acted
      exact .inr ⟨rfl, rfl, rfl⟩
  | some error =>
      rw [fault] at acted
      cases acted
      exact .inl ⟨error, rfl, rfl, rfl⟩

theorem World.activities_of_act {cmd : Command} {input : Surroundings}
    {reply : cmd.Reply}
    (acted : World.act thread cmd input world = some (reply, after)) :
    after.activities = world.activities ∨
      (∃ call, cmd = .store call ∧ after.activities =
        (world.perform thread call input.moment).2.activities) ∨
      ∃ invocation, after.activities =
        (world.invoke thread invocation).activities := by
  cases cmd with
  | store call =>
      rcases World.act_store acted with ⟨_, _, _, same⟩ | ⟨_, _, same⟩
      · exact .inl (congrArg World.activities same)
      · exact .inr (.inl ⟨call, rfl, congrArg World.activities same⟩)
  | invoke invocation =>
      cases acted
      exact .inr (.inr ⟨invocation, rfl⟩)
  | sandboxed invocation policy =>
      cases acted
      exact .inr (.inr ⟨invocation, rfl⟩)
  | agent ctx state =>
      cases acted
      exact .inl rfl
  | putJson digest value =>
      simp only [World.act] at acted
      split at acted
      · cases acted
        exact .inl rfl
      · cases acted
        exact .inl rfl
  | getJson ref =>
      simp only [World.act] at acted
      split at acted
      · cases acted
        exact .inl rfl
      · cases acted
        exact .inl rfl
  | newId kind =>
      cases acted
      exact .inl rfl

/-- The others change of an activity only what it has witnessed. -/
theorem World.view_of_act {Part : Type} {view : Activity → Part}
    (unseen : ∀ activity store now call,
      view (activity.witness store now call) = view activity)
    {cmd : Command} {input : Surroundings} {reply : cmd.Reply}
    (acted : World.act thread cmd input world = some (reply, after))
    (different : other ≠ thread) :
    (after.activities other).map view = (world.activities other).map view := by
  rcases World.activities_of_act acted with same | ⟨call, _, same⟩ |
    ⟨invocation, same⟩
  · rw [same]
  · rw [same, World.perform_other different, Option.map_map]
    congr 1
    funext activity
    exact unseen activity world.store input.moment.now call
  · rw [same, World.invoke_other different]

end Activities

/-! ### What a step leaves of the store and of the blobs -/

section Kept

variable {world after : World} {thread : Tid} {cmd : Command}
  {input : Surroundings} {reply : cmd.Reply}

theorem World.store_of_act
    (acted : World.act thread cmd input world = some (reply, after)) :
    after.store = world.store ∨
      ∃ call, cmd = .store call ∧ input.fault = none ∧
        after.store = (call.perform input.moment world.store).2 := by
  cases cmd with
  | store call =>
      rcases World.act_store acted with ⟨_, _, _, same⟩ | ⟨faultless, _, same⟩
      · exact .inl (congrArg World.store same)
      · exact .inr ⟨call, rfl, faultless, congrArg World.store same⟩
  | putJson digest value =>
      simp only [World.act] at acted
      split at acted
      · cases acted
        exact .inl rfl
      · cases acted
        exact .inl rfl
  | getJson ref =>
      simp only [World.act] at acted
      split at acted
      · cases acted
        exact .inl rfl
      · cases acted
        exact .inl rfl
  | _ =>
      cases acted
      exact .inl rfl

theorem World.blob_of_write {ref : String} {read : Except PyError Json}
    (present : world.blobs ref = some read) (written : String)
    (left : Option (Except PyError Json)) :
    (world.writeBlob written left).blobs ref = some read := by
  simp only [World.writeBlob]
  by_cases same : ref = written
  · subst same
    rw [Function.update_self, present]
    rfl
  · rw [Function.update_of_ne same]
    exact present

/-- A blob is there to stay, torn or not. -/
theorem World.blob_of_act
    (acted : World.act thread cmd input world = some (reply, after))
    {ref : String} {read : Except PyError Json}
    (present : world.blobs ref = some read) : after.blobs ref = some read := by
  cases cmd with
  | store call =>
      rcases World.act_store acted with ⟨_, _, _, same⟩ | ⟨_, _, same⟩
      · rw [same]
        exact present
      · rw [same]
        exact present
  | putJson digest added =>
      simp only [World.act] at acted
      split at acted
      · cases acted
        exact World.blob_of_write present _ _
      · cases acted
        exact World.blob_of_write present _ _
  | getJson wanted =>
      simp only [World.act] at acted
      split at acted
      · cases acted
        exact present
      · cases acted
        exact present
  | _ =>
      cases acted
      exact present

theorem World.getBlob_of_act
    (acted : World.act thread cmd input world = some (reply, after))
    {ref : String} {value : Json} (present : world.getBlob ref = .ok value) :
    after.getBlob ref = .ok value := by
  unfold World.getBlob at present ⊢
  split at present
  · rename_i known
    rw [if_pos known]
    cases found : world.blobs ref with
    | none =>
        rw [found] at present
        cases present
    | some read =>
        rw [found] at present
        rw [World.blob_of_act acted found]
        exact present
  · cases present

end Kept

/-! ### Which commands a worker uses -/

section Uses

variable {allowed : Command → Prop}
  (stores : ∀ call : Call, call.entersLedger = false → allowed (.store call))

include stores

private theorem uses_onException (ctx : AgentContext) (error : PyError) :
    (onException ctx error).Uses allowed := by
  unfold onException
  split
  · exact (uses_store (stores _ rfl)).bind fun _ => trivial
  · exact (uses_store (stores _ rfl)).bind fun _ => trivial
  · exact (uses_store (stores _ rfl)).bind fun _ => trivial
  · simp only
    split
    · exact (uses_store (stores _ rfl)).bind fun _ => trivial
    · exact (uses_store (stores _ rfl)).bind fun _ => trivial

theorem uses_runOnce
    (agents : ∀ ctx state, allowed (.agent ctx state)) (args : RunOnceArgs) :
    (runOnce args).Uses allowed := by
  apply (uses_store (stores _ rfl)).bind
  intro claimed
  cases claimed with
  | none => trivial
  | some claim =>
      apply (uses_store (stores _ rfl)).bind
      intro loaded
      apply (uses_report (stores _ rfl)).bind
      intro _
      apply Program.Uses.tryCatch
      · refine Program.Uses.bind ⟨agents _ _, uses_orRaise⟩ fun patch => ?_
        exact (uses_store (stores _ rfl)).bind fun _ => trivial
      · exact uses_onException stores _

end Uses

@[reducible] def runtimeSystem (bridge : ExecutionEvidenceBridge) :
    Machine where
  Call := Task
  Result := Task.Result
  Cmd := Command
  Reply := Command.Reply
  Error := PyError
  World := World
  Input := Surroundings
  body := Task.body bridge
  start := World.start
  act := World.act
  crash := World.crash

end AgentLedger
