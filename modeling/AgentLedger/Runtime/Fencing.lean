import AgentLedger.Runtime.System

namespace AgentLedger

open Foundation

/-! What the operation that `run_once` ends with does for a worker that has
lost its lease. -/

/-- The run and the step of an operation that `run_once` ends with. -/
def Call.finishes : Call → Option (String × String)
  | .commitStatePatch args => some (args.runId, args.stepId)
  | .markWaitingHuman runId stepId _ _ => some (runId, stepId)
  | .markRetry runId stepId _ _ => some (runId, stepId)
  | .markFailed runId stepId _ _ => some (runId, stepId)
  | _ => none

def StepRow.lease (row : StepRow) :
    Status × Option String × Option String × Option Int × Nat :=
  (row.status, row.owner, row.leaseToken, row.leaseUntil, row.attempt)

def RunRow.progress (row : RunRow) : Status × Json × Int :=
  (row.status, row.state, row.stateVersion)

namespace StepClaim

variable (claim : StepClaim)

/-- The token of the claim is no longer the lease of its step. -/
def Stale (store : Store) : Prop :=
  ∀ row, store.step? claim.stepId = some row →
    row.leaseToken = some claim.leaseToken → row.status ≠ .running

/-- The step and the run of the claim are as they were. -/
structure Untouched (before after : Store) : Prop where
  step : (after.step? claim.stepId).map StepRow.lease =
    (before.step? claim.stepId).map StepRow.lease
  run : (after.run? claim.runId).map RunRow.progress =
    (before.run? claim.runId).map RunRow.progress

/-- The operation is about the step of the claim, and a commit shows its
token. -/
structure Names (call : Call) : Prop where
  finishes : call.finishes = some (claim.runId, claim.stepId)
  token : ∀ args, call = .commitStatePatch args →
    args.leaseToken = claim.leaseToken

end StepClaim

/-- The status that the operation releases the step with is there already, on
the step and on the run. -/
def Call.Repeats (call : Call) (store : Store) : Prop :=
  ∀ runId stepId status error row,
    Releases store call runId stepId status error →
    store.step? stepId = some row →
    row.lease = (status, none, none, none, row.attempt) ∧
      ∀ run, store.run? runId = some run → run.status = status

variable {bridge : ExecutionEvidenceBridge}

/-- The operation of the store that a worker makes next. -/
def workerCall (config : (runtimeSystem bridge).Config) (thread : Tid) :
    Option Call :=
  match config.threads thread with
  | some ⟨.runOnce _, .call (.store call) _⟩ => some call
  | _ => none

/-- A worker that has lost its lease is about to finish. -/
structure FinishesLate (config : (runtimeSystem bridge).Config) (thread : Tid)
    (claim : StepClaim) (call : Call) : Prop where
  next : workerCall config thread = some call
  finishes : call.finishes.isSome = true
  claimed : config.world.claimOf thread = some claim
  stale : claim.Stale config.world.store

/-- A worker that finishes late changes neither its step nor its run. -/
def Fenced (config : (runtimeSystem bridge).Config) :
    (runtimeSystem bridge).Label → Prop
  | .act thread input => ∀ claim call, FinishesLate config thread claim call →
      claim.Untouched config.world.store
        (Machine.step (.act thread input) config).world.store
  | _ => True

/-- A worker that finishes late commits, or repeats what is there, unless the
store fails it. -/
def RepeatsWhenLate (config : (runtimeSystem bridge).Config) :
    (runtimeSystem bridge).Label → Prop
  | .act thread input => input.fault = none → ∀ claim call,
      FinishesLate config thread claim call → call.Repeats config.world.store
  | _ => True

/-! ### The two agree where the operation names the claim -/

section Step

variable {claim : StepClaim} {call : Call} {store : Store} {moment : Moment}

theorem StepClaim.Untouched.refl : claim.Untouched store store := ⟨rfl, rfl⟩

private theorem names_of_releases (names : claim.Names call)
    {runId stepId : String} {status : Status}
    {error : Option (String × String)}
    (releases : Releases store call runId stepId status error) :
    runId = claim.runId ∧ stepId = claim.stepId := by
  have named := names.finishes
  cases releases
  case approved => cases named
  case denied => cases named
  all_goals
    simp only [Call.finishes, Option.some.injEq, Prod.mk.injEq] at named
    exact named

private theorem lease_release {row : StepRow} {status : Status}
    {error : Option (String × String)} :
    (row.release status error).lease =
      (status, none, none, none, row.attempt) := rfl

theorem untouched_of_repeats (names : claim.Names call)
    (stale : claim.Stale store) (repeats : call.Repeats store) :
    claim.Untouched store (call.perform moment store).2 := by
  have named := names.finishes
  have token := names.token
  have same := @names_of_releases claim call store names
  have effect := call.effect moment store
  generalize (call.perform moment store).2 = after at effect
  cases effect with
  | unchanged runs steps => exact ⟨by rw [steps], by rw [runs]⟩
  | released row releases found runs steps =>
      obtain ⟨lease, status⟩ := repeats _ _ _ _ row releases found
      obtain ⟨rfl, rfl⟩ := same releases
      constructor
      · rw [steps, Store.stepsWith, if_pos rfl, found]
        exact congrArg some (lease_release.trans lease.symm)
      · rw [runs, Store.runsWith, if_pos rfl, Option.map_map]
        apply Option.map_congr
        intro run present
        have written := status run present
        simp [RunRow.progress, RunRow.setStatus, written]
  | committed row run accepts runs steps =>
      have shown := token _ rfl
      have found := accepts.holds.found
      have held := accepts.holds.token
      simp only [Call.finishes, Option.some.injEq, Prod.mk.injEq] at named
      rw [named.2] at found
      rw [shown] at held
      exact absurd accepts.holds.running (stale row found held)
  | created => cases named
  | stepCreated => cases named
  | claimed => cases named
  | extended => cases named
  | recovered => cases named
  | cancelled => cases named
  | patched => cases named

theorem repeats_of_untouched (names : claim.Names call)
    (untouched : claim.Untouched store (call.perform moment store).2) :
    call.Repeats store := by
  intro runId stepId status error row releases found
  obtain ⟨runs, steps⟩ := @performed_of_releases store moment _ _ _ _ _ _
    releases found
  obtain ⟨rfl, rfl⟩ := names_of_releases names releases
  obtain ⟨step, run⟩ := untouched
  rw [steps, Store.stepsWith, if_pos rfl, found] at step
  refine ⟨(Option.some.inj step).symm.trans lease_release, ?_⟩
  intro present foundRun
  rw [runs, Store.runsWith, if_pos rfl, foundRun] at run
  exact congrArg Prod.fst (Option.some.inj run).symm

end Step

/-! ### Workers name what they have claimed -/

/-- A worker that finishes has claimed the step that it names. -/
@[reducible] def naming (bridge : ExecutionEvidenceBridge) :
    Machine.Contract (runtimeSystem bridge) where
  invariant _ := True
  rely thread before after :=
    (after.activities thread).map Activity.claim =
      (before.activities thread).map Activity.claim
  admitsCall _ _ _ := True
  admits _ _ _ _ _ := True
  owes thread task cmd world :=
    match task, cmd with
    | .runOnce _, .store call => call.finishes.isSome = true →
        ∃ claim, world.claimOf thread = some claim ∧ claim.Names call
    | _, _ => True
  ends _ _ _ _ := True

/-- What a worker does with a claim in hand. -/
def WithClaim (claim : StepClaim) : Command → Prop
  | .store call => (∀ result, call.claimed result = none) ∧
      (call.finishes.isSome = true → claim.Names call)
  | _ => True

section Uses

variable {claim : StepClaim}

private theorem withClaim_report (name : String) (args : EventArgs) :
    WithClaim claim (.store (.appendEvent name args)) :=
  ⟨fun _ => rfl, fun finishes => by cases finishes⟩

private theorem withClaim_finish {call : Call} (names : claim.Names call)
    (none : ∀ result, call.claimed result = none) :
    WithClaim claim (.store call) :=
  ⟨none, fun _ => names⟩

private theorem uses_runBody {ctx : AgentContext}
    (run : ctx.runId = claim.runId) (step : ctx.stepId = claim.stepId)
    (token : ctx.leaseToken = claim.leaseToken) (state : Json) :
    (runBody ctx state).Uses (WithClaim claim) := by
  refine Program.Uses.bind ⟨trivial, uses_orRaise⟩ fun patch => ?_
  refine Program.Uses.bind (uses_store ?_) fun _ => trivial
  apply withClaim_finish
  · refine ⟨?_, ?_⟩
    · simp only [Call.finishes, run, step]
    · intro args same
      cases same
      exact token
  · intro result
    rfl

private theorem uses_onException_fenced {ctx : AgentContext}
    (run : ctx.runId = claim.runId) (step : ctx.stepId = claim.stepId)
    (error : PyError) : (onException ctx error).Uses (WithClaim claim) := by
  have waiting (reason : String) (approvalId : Option String) :
      WithClaim claim (.store (.markWaitingHuman ctx.runId ctx.stepId reason
        approvalId)) := by
    refine withClaim_finish ⟨by rw [Call.finishes, run, step], ?_⟩ fun _ => rfl
    intro args same
    cases same
  have retry (message errorType : String) :
      WithClaim claim (.store (.markRetry ctx.runId ctx.stepId message
        errorType)) := by
    refine withClaim_finish ⟨by rw [Call.finishes, run, step], ?_⟩ fun _ => rfl
    intro args same
    cases same
  have failed (message errorType : String) :
      WithClaim claim (.store (.markFailed ctx.runId ctx.stepId message
        errorType)) := by
    refine withClaim_finish ⟨by rw [Call.finishes, run, step], ?_⟩ fun _ => rfl
    intro args same
    cases same
  unfold onException
  split
  · exact (uses_store (waiting _ _)).bind fun _ => trivial
  · exact (uses_store (retry _ _)).bind fun _ => trivial
  · exact (uses_store (retry _ _)).bind fun _ => trivial
  · simp only
    split
    · exact (uses_store (retry _ _)).bind fun _ => trivial
    · exact (uses_store (failed _ _)).bind fun _ => trivial

private theorem uses_runClaimed (args : RunOnceArgs) (claim : StepClaim) :
    (runClaimed args claim).Uses (WithClaim claim) := by
  refine Program.Uses.bind (uses_store ?_) fun loaded => ?_
  · exact ⟨fun _ => rfl, fun finishes => by cases finishes⟩
  · refine Program.Uses.bind (uses_report (withClaim_report _ _)) fun _ => ?_
    exact (uses_runBody rfl rfl rfl _).tryCatch (uses_onException_fenced rfl rfl)

end Uses

section Sound

variable {thread : Tid} {claim : StepClaim}

/-- The thread is at work, and holds `claim`. -/
private def Holding (thread : Tid) (claim : Option StepClaim)
    (world : World) : Prop :=
  (world.activities thread).map Activity.claim = some claim

private theorem holding_stable (claim : Option StepClaim) :
    (naming bridge).Stable thread (Holding thread claim) :=
  fun _ _ relied _ holding => relied.trans holding

private theorem guarantees_act {cmd : Command} {input : Surroundings}
    {world after : World} {reply : cmd.Reply}
    (acted : (runtimeSystem bridge).act thread cmd input world =
      some (reply, after)) :
    (naming bridge).Guarantees thread world after :=
  ⟨trivial, fun _ different =>
    World.view_of_act (fun _ _ _ _ => rfl) acted different⟩

private theorem claimOf_holding {world : World}
    (holding : Holding thread (some claim) world) :
    world.claimOf thread = some claim := by
  obtain ⟨activity, found, same⟩ := Option.map_eq_some_iff.mp holding
  simp [World.claimOf, found, same]

/-- A claim that an operation returns takes the place of the one held. -/
private theorem holding_store {world after : World}
    {held : Option StepClaim} (holding : Holding thread held world)
    {call : Call} {input : Surroundings} {reply : Except PyError call.Result}
    (acted : World.act thread (.store call) input world =
      some (reply, after)) :
    Holding thread ((call.claimed reply).orElse fun _ => held) after := by
  rcases World.act_store acted with ⟨error, _, rfl, rfl⟩ | ⟨_, rfl, rfl⟩
  · cases call <;> exact holding
  · obtain ⟨activity, found, same⟩ := Option.map_eq_some_iff.mp holding
    subst same
    rw [Holding, World.perform_own, found]
    rfl

private theorem keeps_withClaim (args : RunOnceArgs) {cmd : Command}
    (uses : WithClaim claim cmd) :
    (naming bridge).Keeps thread (.runOnce args)
      (Holding thread (some claim)) cmd := by
  intro world _ holding
  constructor
  · cases cmd with
    | store call =>
        intro finishes
        exact ⟨claim, claimOf_holding holding, uses.2 finishes⟩
    | _ => trivial
  · intro input _ reply after acted
    refine ⟨guarantees_act acted, ?_⟩
    rcases World.activities_of_act acted with same | ⟨call, rfl, _⟩ |
      ⟨invocation, same⟩
    · rw [Holding, same]
      exact holding
    · have kept := holding_store holding acted
      rw [uses.1] at kept
      exact kept
    · rw [Holding, same, World.invoke_own, Option.map_map]
      exact holding

private theorem safe_other {task : Task} {world : World}
    (other : ∀ args, task ≠ .runOnce args) :
    (naming bridge).Safe thread task (task.body bridge) world := by
  have keeps (cmd : Command) :
      (naming bridge).Keeps thread task (fun _ => True) cmd := by
    intro world _ _
    refine ⟨?_, fun input _ reply after acted =>
      ⟨guarantees_act acted, trivial⟩⟩
    cases task with
    | runOnce args => exact absurd rfl (other args)
    | _ => trivial
  apply Machine.Contract.safe_of_uses (fun _ _ _ _ _ => trivial)
  · intro _ _ _
    trivial
  · exact Program.uses_of_all keeps (task.body bridge)
  · trivial

/-- Up to its claim a worker finishes nothing; from then on it names it. -/
private theorem safe_runOnce {args : RunOnceArgs} {world : World}
    (begun : Holding thread none world) :
    (naming bridge).Safe thread (.runOnce args) (runOnce args) world := by
  apply Machine.Contract.safe_of_wp
  refine Machine.Contract.Wp.mono (fun _ _ _ _ _ _ => trivial)
    (fun _ _ _ _ _ _ => trivial) (?_ : (naming bridge).Wp _ _ _
      (fun _ _ => True) (fun _ _ => True) _)
  intro later relied _
  have holding : Holding thread none later := Eq.trans relied begun
  constructor
  · intro finishes
    cases finishes
  · intro input _ reply after acted
    refine ⟨guarantees_act acted, ?_⟩
    have held := holding_store holding acted
    cases reply with
    | error error => trivial
    | ok claimed =>
        cases claimed with
        | none => trivial
        | some claim =>
            have uses := (uses_runClaimed args claim).mono
              fun _ => @keeps_withClaim bridge thread claim args _
            exact (Machine.Contract.wp_of_uses (holding_stable _) uses
              held).mono (fun _ _ _ => trivial) fun _ _ _ => trivial

theorem naming_sound : (naming bridge).Sound where
  rely_refl := fun _ _ => rfl
  rely_trans := fun _ _ _ _ early late => Eq.trans late early
  start := by
    intro thread task world _ _
    constructor
    · exact ⟨trivial, fun other different =>
        congrArg (Option.map Activity.claim)
          (World.start_other different task)⟩
    · cases task with
      | runOnce args =>
          apply safe_runOnce
          exact congrArg (Option.map Activity.claim)
            (Function.update_self thread _ world.activities)
      | _ =>
          apply safe_other
          intro args same
          cases same
  crash := fun thread world _ => ⟨trivial, fun _ different =>
    congrArg (Option.map Activity.claim) (World.crash_other different)⟩

end Sound

/-! ### Runs -/

theorem workerCall_eq_some {config : (runtimeSystem bridge).Config}
    {thread : Tid} {call : Call} (next : workerCall config thread = some call) :
    ∃ args rest, config.threads thread =
      some ⟨.runOnce args, .call (.store call) rest⟩ := by
  unfold workerCall at next
  split at next
  · rename_i args found rest running
    cases next
    exact ⟨args, rest, running⟩
  · cases next

private theorem step_of_workerCall {config : (runtimeSystem bridge).Config}
    {thread : Tid} {call : Call} (next : workerCall config thread = some call)
    (input : Surroundings) :
    (Machine.step (.act thread input) config).world.store =
      match input.fault with
      | some _ => config.world.store
      | none => (call.perform input.moment config.world.store).2 := by
  obtain ⟨args, rest, running⟩ := workerCall_eq_some next
  simp only [Machine.step, running, Machine.resume, World.act]
  cases input.fault <;> rfl

private theorem names_of_good {config : (runtimeSystem bridge).Config}
    (good : (naming bridge).Good config) {thread : Tid} {claim : StepClaim}
    {call : Call} (late : FinishesLate config thread claim call) :
    claim.Names call := by
  obtain ⟨args, rest, running⟩ := workerCall_eq_some late.next
  obtain ⟨other, claimed, names⟩ :=
    good.owes naming_sound running late.finishes
  rw [late.claimed] at claimed
  cases claimed
  exact names

/-- In a run of workers, tool calls, bridges and operators, every worker that
finishes without its lease leaves its step and its run alone exactly when each
of them commits, or repeats what the store says. -/
theorem fenced_iff_repeats (bridge : ExecutionEvidenceBridge)
    (labels : List (runtimeSystem bridge).Label) :
    Each Machine.step Fenced (Machine.initial World.opened) labels ↔
      Each Machine.step RepeatsWhenLate (Machine.initial World.opened)
        labels := by
  apply Each.congr (naming bridge).Good
  · intro config label good _
    apply good.step naming_sound
    cases label with
    | act thread input =>
        simp only [Machine.Contract.Admitted]
        split <;> trivial
    | _ => trivial
  · intro config label good
    cases label with
    | act thread input =>
        constructor
        · intro fenced unfailing claim call late
          have untouched := fenced claim call late
          rw [step_of_workerCall late.next, unfailing] at untouched
          exact repeats_of_untouched (names_of_good good late) untouched
        · intro repeats claim call late
          rw [step_of_workerCall late.next]
          cases fault : input.fault with
          | some error => exact .refl
          | none =>
              exact untouched_of_repeats (names_of_good good late) late.stale
                (repeats fault claim call late)
    | _ => exact Iff.rfl
  · exact Machine.Contract.good_initial trivial

/-- The lease of the first worker expires while its agent runs; it is recovered
and the second worker claims the step.  Then the agent of the first raises. -/
def overtaken : List (runtimeSystem chargeBridge).Label :=
  [.spawn 0 (.operation (.createRun none none none)),
    .act 0 (.tick 0 id),
    .spawn 1 (.runOnce { runId := "run", workerId := "first" }),
    .act 1 (.tick 1 fun _ => "first lease"),
    .act 1 (.tick 2 id),
    .act 1 (.tick 3 id),
    .spawn 0 (.operation .recoverExpiredLeases),
    .act 0 (.tick 100 id),
    .spawn 2 (.runOnce { runId := "run", workerId := "second" }),
    .act 2 (.tick 101 fun _ => "second lease"),
    .act 1 { Surroundings.tick 102 id with
      agent := .error
        { cls := .retryableAgentError
          typeName := "RetryableAgentError"
          message := "try again" } }]

def overtakenConfig : (runtimeSystem chargeBridge).Config :=
  runFrom Machine.step (Machine.initial World.opened) overtaken

def overtakenClaim : StepClaim :=
  ⟨"run", "sess", "step", 1, "first lease", 0, 61⟩

private theorem overtaken_current :
    (overtakenConfig.world.store.step? "step").map StepRow.lease =
      some (.running, some "second", some "second lease", some 161, 2) := by
  decide

private theorem overtaken_undone :
    ((Machine.step (.act 1 (Surroundings.tick 103 id))
      overtakenConfig).world.store.step? "step").map StepRow.lease =
        some (.retryScheduled, none, none, none, 2) := by
  decide

private theorem overtaken_late :
    ∃ call, FinishesLate overtakenConfig 1 overtakenClaim call := by
  have finishes : ((workerCall overtakenConfig 1).bind
      Call.finishes).isSome = true := by decide
  obtain ⟨named, isNamed⟩ := Option.isSome_iff_exists.mp finishes
  obtain ⟨call, next, same⟩ := Option.bind_eq_some_iff.mp isNamed
  refine ⟨call, next, same ▸ rfl, by decide, ?_⟩
  intro row found token _
  have current := overtaken_current
  change overtakenConfig.world.store.step? "step" = some row at found
  rw [found, Option.map_some, Option.some.injEq] at current
  have other : row.leaseToken = some "second lease" :=
    congrArg (fun lease => lease.2.2.1) current
  rw [token] at other
  exact absurd other (by decide)

theorem overtaken_worker_not_fenced :
    ¬ Each Machine.step Fenced (Machine.initial World.opened)
      (overtaken ++ [.act 1 (Surroundings.tick 103 id)]) := by
  intro each
  obtain ⟨call, late⟩ := overtaken_late
  have fenced : Fenced overtakenConfig (.act 1 (Surroundings.tick 103 id)) :=
    (Each.append.mp each).2.1
  have kept := (fenced overtakenClaim call late).step
  have unchanged := overtaken_undone.symm.trans (kept.trans overtaken_current)
  exact absurd unchanged (by decide)

end AgentLedger
