import AgentLedger.Runtime.AtMostOnce

namespace AgentLedger

open Foundation

/-! The lease of a caller when the tool's function runs.  The gateway never asks
for it: it is what nobody has taken away in the meantime. -/

variable {bridge : ExecutionEvidenceBridge}

/-- The function that the command is about to run. -/
def Command.invocation? : Command → Option Invocation
  | .invoke invocation => some invocation
  | .sandboxed invocation _ => some invocation
  | _ => none

/-- The function that a thread is about to run. -/
def nextInvocation (config : (runtimeSystem bridge).Config) (thread : Tid) :
    Option Invocation :=
  match config.threads thread with
  | some ⟨_, .call cmd _⟩ => cmd.invocation?
  | _ => none

namespace AgentContext

variable (ctx : AgentContext) (store : Store) (now : Int)

/-- The lease of the context is in force, and the run at its version. -/
def InForce : Prop :=
  (∃ row, store.HoldsLease now ctx.stepId ctx.leaseToken row) ∧
    ∃ run, store.run? ctx.runId = some run ∧
      run.stateVersion = ctx.stateVersion

/-- The lease of the step has not come to its end. -/
def unexpired : Bool :=
  (store.step? ctx.stepId).all fun row =>
    row.leaseUntil.all fun leaseUntil => !decide (leaseUntil < now)

end AgentContext

/-- A tool with a side effect runs under the lease and the version of its
caller. -/
def Bounded (config : (runtimeSystem bridge).Config) :
    (runtimeSystem bridge).Label → Prop
  | .act thread input => ∀ invocation,
      nextInvocation config thread = some invocation →
      invocation.spec.managedSideEffect = true →
      invocation.ctx.InForce config.world.store input.moment.now
  | _ => True

/-- The call began under its lease and version, nobody has taken them away, and
the lease has not come to its end. -/
def Unhindered (config : (runtimeSystem bridge).Config) :
    (runtimeSystem bridge).Label → Prop
  | .act thread input =>
      (nextInvocation config thread).all (fun invocation =>
        !invocation.spec.managedSideEffect ||
          (config.world.activities thread).any Activity.undisturbed &&
            invocation.ctx.unexpired config.world.store input.moment.now) =
        true
  | _ => True

instance (config : (runtimeSystem bridge).Config) :
    (label : (runtimeSystem bridge).Label) →
      Decidable (Unhindered config label)
  | .act _ _ => inferInstanceAs (Decidable (_ = true))
  | .spawn _ _ => inferInstanceAs (Decidable True)
  | .crash _ => inferInstanceAs (Decidable True)

/-! ### What keeps a context current -/

section Current

variable {ctx : AgentContext} {store : Store} {moment : Moment}

private theorem current_iff : ctx.current store = true ↔
    (∃ row, store.step? ctx.stepId = some row ∧
      row.leaseToken = some ctx.leaseToken ∧ row.status = .running) ∧
    ∃ run, store.run? ctx.runId = some run ∧
      run.stateVersion = ctx.stateVersion := by
  simp only [AgentContext.current, Bool.and_eq_true, Option.any_eq_true,
    decide_eq_true_eq]

private theorem apart_of_releases {call : Call} {row : StepRow}
    {runId stepId : String} {status : Status}
    {error : Option (String × String)}
    (step : store.step? ctx.stepId = some row) (running : row.status = .running)
    (undisturbed : ctx.disturbedBy store moment.now call = false)
    (releases : Releases store call runId stepId status error) :
    stepId ≠ ctx.stepId := by
  intro same
  cases releases with
  | waiting => exact of_decide_eq_false undisturbed same
  | retry => exact of_decide_eq_false undisturbed same
  | exhausted => exact of_decide_eq_false undisturbed same
  | failed => exact of_decide_eq_false undisturbed same
  | approved approvalId approver reason request waiting asked found waits =>
      rw [same, step] at found
      cases found
      rw [running] at waits
      cases waits
  | denied approvalId approver reason request waiting asked found waits =>
      rw [same, step] at found
      cases found
      rw [running] at waits
      cases waits

theorem current_of_perform {call : Call} (current : ctx.current store = true)
    (undisturbed : ctx.disturbedBy store moment.now call = false) :
    ctx.current (call.perform moment store).2 = true := by
  rw [current_iff] at current ⊢
  obtain ⟨⟨row, step, token, running⟩, run, present, version⟩ := current
  have effect := call.effect moment store
  generalize (call.perform moment store).2 = after at effect ⊢
  have setsStatus (runId : String) (status : Status)
      (runs : after.run? = store.runsWith runId (RunRow.setStatus status)) :
      ∃ run, after.run? ctx.runId = some run ∧
        run.stateVersion = ctx.stateVersion := by
    rw [runs]
    unfold Store.runsWith
    split
    · exact ⟨run.setStatus status, by rw [present]; rfl, version⟩
    · exact ⟨run, present, version⟩
  cases effect with
  | unchanged runs steps =>
      rw [runs, steps]
      exact ⟨⟨row, step, token, running⟩, run, present, version⟩
  | created added first freshRun freshStep own runStatus stepStatus unclaimed
      unleased runs steps =>
      constructor
      · refine ⟨row, ?_, token, running⟩
        rw [steps, Function.update_of_ne]
        · exact step
        · intro same
          rw [← same, step] at freshStep
          cases freshStep
      · refine ⟨run, ?_, version⟩
        rw [runs, Function.update_of_ne]
        · exact present
        · intro same
          rw [← same, present] at freshRun
          cases freshRun
  | stepCreated parent added policy found parses named freshStep own stepStatus
      unclaimed unleased runs steps =>
      constructor
      · refine ⟨row, ?_, token, running⟩
        rw [steps, Function.update_of_ne]
        · exact step
        · intro same
          rw [← same, step] at freshStep
          cases freshStep
      · exact setsStatus _ _ runs
  | claimed taken found claimable runs steps =>
      constructor
      · refine ⟨row, ?_, token, running⟩
        rw [steps, Store.stepsWith, if_neg]
        · exact step
        · intro same
          rw [← same, step] at found
          cases found
          rw [running] at claimable
          cases claimable
      · exact setsStatus _ _ runs
  | extended held holds runs steps =>
      rename_i stepId leaseToken leaseSeconds
      constructor
      · rw [steps]
        unfold Store.stepsWith
        split
        · refine ⟨row.extend (moment.now + leaseSeconds), ?_, token, running⟩
          rw [step]
          rfl
        · exact ⟨row, step, token, running⟩
      · rw [runs]
        exact ⟨run, present, version⟩
  | recovered runs steps =>
      have live : Store.leaseExpired moment.now row = false := by
        simpa [AgentContext.disturbedBy, step] using undisturbed
      constructor
      · refine ⟨row, ?_, token, running⟩
        rw [steps, step, Option.map_some, live]
        rfl
      · rw [runs, present, Option.map_some]
        refine ⟨_, rfl, ?_⟩
        split
        · exact version
        · exact version
  | cancelled other found live runs steps =>
      rename_i runId reason
      have apart : row.runId ≠ runId := by
        intro same
        simp [AgentContext.disturbedBy, step, same, found, live] at undisturbed
      constructor
      · refine ⟨row, ?_, token, running⟩
        rw [steps, step, Option.map_some]
        simp [apart]
      · exact setsStatus _ _ runs
  | released other releases found runs steps =>
      have apart := apart_of_releases step running undisturbed releases
      constructor
      · refine ⟨row, ?_, token, running⟩
        rw [steps, Store.stepsWith, if_neg (Ne.symm apart)]
        exact step
      · exact setsStatus _ _ runs
  | committed held before accepts runs steps =>
      rename_i args
      have accepted : store.accepts moment.now args = true :=
        store.accepts_iff.mpr ⟨held, before, accepts⟩
      simp only [AgentContext.disturbedBy, accepted, Bool.and_true,
        Bool.or_eq_false_iff, decide_eq_false_iff_not] at undisturbed
      constructor
      · refine ⟨row, ?_, token, running⟩
        rw [steps, Store.stepsWith, if_neg (Ne.symm undisturbed.1)]
        exact step
      · refine ⟨run, ?_, version⟩
        rw [runs, Store.runsWith, if_neg (Ne.symm undisturbed.2)]
        exact present
  | patched before found runs steps =>
      have apart := of_decide_eq_false undisturbed
      constructor
      · rw [steps]
        exact ⟨row, step, token, running⟩
      · refine ⟨run, ?_, version⟩
        rw [runs, Store.runsWith, if_neg (Ne.symm apart)]
        exact present

end Current

/-! ### The contract -/

/-- Undisturbed callers are current. -/
def Attended (world : World) : Prop :=
  ∀ thread activity ctx, world.activities thread = some activity →
    activity.undisturbed = true → activity.task.context? = some ctx →
    ctx.current world.store = true

/-- A thread that runs a function is at a call of the gateway, and does so in
its context. -/
@[reducible] def bounding (bridge : ExecutionEvidenceBridge) :
    Machine.Contract (runtimeSystem bridge) where
  invariant := Attended
  rely thread before after :=
    (after.activities thread).map Activity.task =
      (before.activities thread).map Activity.task
  admitsCall _ _ _ := True
  admits _ _ _ _ _ := True
  owes thread task cmd world :=
    ∀ invocation, cmd.invocation? = some invocation →
      (world.activities thread).map Activity.task = some task ∧
        task.context? = some invocation.ctx
  ends _ _ _ _ := True

section Sound

variable {thread : Tid} {task : Task} {world after : World}

private theorem seen_of_perform {call : Call} {moment : Moment} {other : Tid}
    {activity : Activity}
    (found : (world.perform thread call moment).2.activities other =
      some activity) :
    ∃ before, world.activities other = some before ∧
      activity.task = before.task ∧ activity.undisturbed =
        (before.witness world.store moment.now call).undisturbed := by
  obtain ⟨before, present, same⟩ := Option.map_eq_some_iff.mp found
  refine ⟨before, present, ?_⟩
  simp only at same
  split at same
  · subst same
    exact ⟨rfl, rfl⟩
  · subst same
    exact ⟨rfl, rfl⟩

private theorem attended_perform (attended : Attended world) (call : Call)
    (moment : Moment) : Attended (world.perform thread call moment).2 := by
  intro other activity ctx found undisturbed context
  obtain ⟨before, present, task, seen⟩ := seen_of_perform found
  rw [task] at context
  rw [seen, Activity.witness, context, Option.any_some, Bool.and_eq_true,
    Bool.not_eq_true'] at undisturbed
  have current := attended other before ctx present undisturbed.1 context
  exact current_of_perform current undisturbed.2

private theorem attended_invoke (attended : Attended world)
    (invocation : Invocation) : Attended (world.invoke thread invocation) := by
  intro other activity ctx found undisturbed context
  by_cases same : other = thread
  · subst same
    rw [World.invoke_own] at found
    obtain ⟨before, present, rfl⟩ := Option.map_eq_some_iff.mp found
    exact attended other before ctx present undisturbed context
  · rw [World.invoke_other same] at found
    exact attended other activity ctx found undisturbed context

theorem attended_act {cmd : Command} {input : Surroundings}
    {reply : cmd.Reply} (attended : Attended world)
    (acted : World.act thread cmd input world = some (reply, after)) :
    Attended after := by
  cases cmd with
  | store call =>
      rcases World.act_store acted with ⟨_, _, _, same⟩ | ⟨_, _, same⟩
      · rw [same]
        exact attended
      · rw [same]
        exact attended_perform attended call input.moment
  | invoke invocation =>
      cases acted
      exact attended_invoke attended invocation
  | sandboxed invocation policy =>
      cases acted
      exact attended_invoke attended invocation
  | putJson digest value =>
      simp only [World.act] at acted
      split at acted
      · cases acted
        exact attended
      · cases acted
        exact attended
  | getJson ref =>
      simp only [World.act] at acted
      split at acted
      · cases acted
        exact attended
      · cases acted
        exact attended
  | _ =>
      cases acted
      exact attended

/-- The command runs no function, or one in the context. -/
def About (ctx : AgentContext) (cmd : Command) : Prop :=
  ∀ invocation, cmd.invocation? = some invocation → invocation.ctx = ctx

private theorem task_of_act {cmd : Command} {input : Surroundings}
    {reply : cmd.Reply}
    (acted : World.act thread cmd input world = some (reply, after))
    (other : Tid) :
    (after.activities other).map Activity.task =
      (world.activities other).map Activity.task := by
  by_cases same : other = thread
  · subst same
    rcases World.activities_of_act acted with same | ⟨call, _, same⟩ |
      ⟨invocation, same⟩
    · rw [same]
    · rw [same, World.perform_own, Option.map_map]
      rfl
    · rw [same, World.invoke_own, Option.map_map]
      rfl
  · exact World.view_of_act (fun _ _ _ _ => rfl) acted same

private theorem keeps_task {cmd : Command}
    (about : ∀ invocation, cmd.invocation? = some invocation →
      task.context? = some invocation.ctx) :
    (bounding bridge).Keeps thread task
      (fun world => (world.activities thread).map Activity.task = some task)
      cmd := by
  intro world attended own
  constructor
  · intro invocation runs
    exact ⟨own, about invocation runs⟩
  · intro input _ reply after acted
    refine ⟨⟨attended_act attended acted, fun other _ => ?_⟩, ?_⟩
    · exact task_of_act acted other
    · exact (task_of_act acted thread).trans own

end Sound

/-! ### Whose function a task runs -/

section Tasks

variable {ctx : AgentContext}

open ToolGateway

private theorem about_of_none {cmd : Command}
    (none : cmd.invocation? = none) : About ctx cmd := by
  intro invocation runs
  rw [none] at runs
  cases runs

private theorem routine_about (gateway : ToolGateway) :
    gateway.Routine (About ctx) := by
  constructor
  · intro call _
    exact about_of_none rfl
  · intro value
    exact about_of_none rfl
  · intro kind
    exact about_of_none rfl

private theorem uses_call (gateway : ToolGateway) (toolName : String)
    (args : Json) : (gateway.call ctx toolName args).Uses (About ctx) := by
  have routine := @routine_about ctx gateway
  apply (routine.uses_open ctx toolName args).bind_yields
    (gateway.yields_open ctx toolName args)
  intro request own
  apply (routine.uses_authorize request).bind
  intro _
  apply (routine.uses_beforeToolCall ctx.runId).bind
  intro _
  apply routine.uses_proceed
  · intro ref
    exact about_of_none rfl
  · intro update
    exact about_of_none rfl
  · apply routine.uses_executeTool
    · intro _ invocation runs
      cases runs
      exact own
    · intro base _ invocation runs
      cases runs
      exact own

/-- Only a call of the gateway runs a function, and it does so in its
context. -/
theorem Task.uses_body (task : Task) :
    (task.body bridge).Uses fun cmd => ∀ invocation,
      cmd.invocation? = some invocation →
      task.context? = some invocation.ctx := by
  have silent (cmd : Command) (none : cmd.invocation? = none)
      (invocation : Invocation) (runs : cmd.invocation? = some invocation) :
      task.context? = some invocation.ctx := by
    rw [none] at runs
    cases runs
  cases task with
  | callTool ctx toolName args =>
      apply (uses_call bridge.gateway toolName args).mono
      intro cmd about invocation runs
      exact congrArg some (about invocation runs).symm
  | runOnce args =>
      apply uses_runOnce
      · intro call _
        exact silent _ rfl
      · intro ctx state
        exact silent _ rfl
  | recordToolExecution turn execution =>
      apply ExecutionEvidenceBridge.uses_recordToolExecution
      · exact ⟨fun _ _ => silent _ rfl, fun _ => silent _ rfl,
          fun _ => silent _ rfl⟩
      · intro update
        exact silent _ rfl
  | operation call => exact uses_store (silent _ rfl)

end Tasks

/-! ### Whole runs -/

theorem bounding_sound : (bounding bridge).Sound where
  rely_refl := fun _ _ => rfl
  rely_trans := fun _ _ _ _ early late => Eq.trans late early
  start := by
    intro thread task world attended _
    have begun : ((world.start thread task).activities thread).map
        Activity.task = some task :=
      congrArg (Option.map Activity.task)
        (Function.update_self thread _ world.activities)
    refine ⟨⟨?_, ?_⟩, ?_⟩
    · intro other activity ctx found undisturbed context
      by_cases same : other = thread
      · subst same
        have own := (Function.update_self other _ world.activities).symm.trans
          found
        cases own
        rw [context] at undisturbed
        exact undisturbed
      · rw [show ((runtimeSystem bridge).start thread task world).activities
          other = world.activities other from World.start_other same task]
          at found
        exact attended other activity ctx found undisturbed context
    · intro other different
      exact congrArg (Option.map Activity.task)
        (World.start_other different task)
    · have stable : (bounding bridge).Stable thread
          (fun world => (world.activities thread).map Activity.task =
            some task) := by
        intro before after relied _ own
        exact Eq.trans relied own
      apply Machine.Contract.safe_of_uses stable
      · intro _ _ _
        trivial
      · exact (Task.uses_body task).mono fun cmd about => keeps_task about
      · exact begun
  crash := by
    intro thread world attended
    refine ⟨?_, fun other different =>
      congrArg (Option.map Activity.task) (World.crash_other different)⟩
    intro other activity ctx found undisturbed context
    by_cases same : other = thread
    · subst same
      have lost := (Function.update_self other _ world.activities).symm.trans
        found
      cases lost
    · have kept := (World.crash_other same).symm.trans found
      exact attended other activity ctx kept undisturbed context

private theorem attended_opened : Attended World.opened := by
  intro thread activity ctx found
  cases found

private theorem inForce_of_current {ctx : AgentContext} {store : Store}
    {now : Int} (current : ctx.current store = true)
    (unexpired : ctx.unexpired store now = true) : ctx.InForce store now := by
  obtain ⟨⟨row, found, token, running⟩, run⟩ := current_iff.mp current
  refine ⟨⟨row, found, token, running, ?_⟩, run⟩
  intro leaseUntil until_
  rw [AgentContext.unexpired, found, Option.all_some, until_, Option.all_some,
    Bool.not_eq_true', decide_eq_false_iff_not] at unexpired
  exact unexpired

private theorem bounded_of_good {config : (runtimeSystem bridge).Config}
    {label : (runtimeSystem bridge).Label}
    (good : (bounding bridge).Good config)
    (unhindered : Unhindered config label) : Bounded config label := by
  cases label with
  | act thread input =>
      intro invocation next managed
      simp only [Unhindered, next, Option.all_some, managed, Bool.not_true,
        Bool.false_or, Bool.and_eq_true, Option.any_eq_true] at unhindered
      obtain ⟨⟨activity, found, undisturbed⟩, unexpired⟩ := unhindered
      simp only [nextInvocation] at next
      split at next
      · rename_i task cmd rest running
        obtain ⟨own, context⟩ :=
          good.owes bounding_sound running invocation next
        rw [found, Option.map_some, Option.some.injEq] at own
        rw [← own] at context
        have current := good.invariant thread activity invocation.ctx found
          undisturbed context
        exact inForce_of_current current unexpired
      · cases next
  | _ => trivial

/-- In a run of workers, tool calls, bridges and operators, a tool with a side
effect runs under the current lease and version of its caller wherever nobody
has taken them away since the call began and the lease has not come to its
end. -/
theorem bounded_of_unhindered (bridge : ExecutionEvidenceBridge)
    (labels : List (runtimeSystem bridge).Label)
    (unhindered : Each Machine.step Unhindered
      (Machine.initial World.opened) labels) :
    Each Machine.step Bounded (Machine.initial World.opened) labels := by
  apply unhindered.imp (bounding bridge).Good
  · intro config label good
    apply good.step bounding_sound
    cases label with
    | act thread input =>
        simp only [Machine.Contract.Admitted]
        split <;> trivial
    | _ => trivial
  · intro config label good met
    exact bounded_of_good good met
  · exact Machine.Contract.good_initial attended_opened

theorem charge_bounded :
    Each Machine.step Bounded (Machine.initial World.opened)
      (claimed ++ reserving 1 ++ executing 1 (.ok .null)) :=
  bounded_of_unhindered chargeBridge _ (by decide)

/-- The run is cancelled while the call of its worker is under way. -/
def cancelledMeanwhile : List (runtimeSystem chargeBridge).Label :=
  claimed ++ reserving 1 ++
    [.spawn 0 (.operation (.cancelRun "run" "stop")),
      .act 0 (Surroundings.tick 3 id),
      .act 1 (Surroundings.tick 4 id)]

theorem cancelled_worker_charges :
    ¬ Each Machine.step Bounded (Machine.initial World.opened)
      (cancelledMeanwhile ++ [.act 1 (Surroundings.tick 5 id)]) := by
  intro each
  have bounded := (Each.append.mp each).2.1
  have next : (nextInvocation (runFrom Machine.step
      (Machine.initial World.opened) cancelledMeanwhile) 1).map
        (fun invocation =>
          (invocation.ctx, invocation.spec.managedSideEffect)) =
      some (chargeContext, true) := by
    decide
  have status : ((runFrom Machine.step (Machine.initial World.opened)
      cancelledMeanwhile).world.store.step? "step").map StepRow.status =
        some .cancelled := by
    decide
  obtain ⟨invocation, found, same⟩ := Option.map_eq_some_iff.mp next
  obtain ⟨own, managed⟩ := Prod.mk.inj same
  obtain ⟨⟨row, holds⟩, _⟩ := bounded invocation found managed
  have present := holds.found
  rw [own] at present
  change (runFrom Machine.step (Machine.initial World.opened)
    cancelledMeanwhile).world.store.step? "step" = some row at present
  rw [present, Option.map_some, holds.running] at status
  cases status

end AgentLedger
