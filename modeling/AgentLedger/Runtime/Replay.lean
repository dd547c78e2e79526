import AgentLedger.Runtime.Archive

namespace AgentLedger

open Foundation

/-! Callers and bridges keep the archive in order, and a replay from the ledger
finds its response. -/

variable {bridge : ExecutionEvidenceBridge}

/-- A command that leaves any archive in order, and reads nothing. -/
def Plain : Command → Prop
  | .store call => ∀ update, call.ledgerUpdate = some update →
      update.status ≠ .succeeded
  | .getJson _ => False
  | _ => True

section Commands

variable {sha256 : Json → String} {world : World} {thread : Tid} {task : Task}

private theorem ledgerUpdate_of_succeeds {call : Call} {store : Store}
    {update : LedgerUpdate} (sets : call.succeeds store = some update) :
    call.ledgerUpdate = some update ∧ update.status = .succeeded := by
  unfold Call.succeeds at sets
  split at sets
  · split at sets
    · rename_i met
      cases sets
      exact ⟨rfl, met.1⟩
    · cases sets
  · split at sets
    · rename_i met
      cases sets
      exact ⟨rfl, met.1⟩
    · cases sets
  · cases sets

private theorem ledgerUpdate_of_other {call : Call}
    (other : call.entersLedger = false) : call.ledgerUpdate = none := by
  cases call with
  | updateLedger update => cases other
  | resolveLedger runId update resolvedBy reason => cases other
  | _ => rfl

private theorem orderly_of_plain {cmd : Command} (plain : Plain cmd) :
    Orderly sha256 world cmd := by
  cases cmd with
  | store call =>
      intro update sets
      obtain ⟨named, succeeded⟩ := ledgerUpdate_of_succeeds sets
      exact absurd succeeded (plain update named)
  | _ => trivial

/-- What the blobs say stays true. -/
def Lasting (fact : World → Prop) : Prop :=
  ∀ before after, KeepsBlobs before after → fact before → fact after

private theorem keeps_of_plain {fact : World → Prop} (lasting : Lasting fact)
    {cmd : Command} (plain : Plain cmd) :
    (archiving bridge).Keeps thread task fact cmd := by
  intro world backed holds
  constructor
  · cases task with
    | callTool ctx toolName args =>
        cases cmd with
        | getJson ref => exact plain.elim
        | store call =>
            intro update named succeeded
            exact absurd succeeded (plain update named)
        | _ => trivial
    | recordToolExecution turn execution =>
        cases cmd with
        | store call =>
            intro update named succeeded
            exact absurd succeeded (plain update named)
        | _ => trivial
    | _ => trivial
  · intro input _ reply after acted
    exact ⟨backed.guarantees (fun _ => orderly_of_plain plain) acted,
      lasting world after (keepsBlobs_of_act acted) holds⟩

private theorem routine_plain (gateway : ToolGateway) :
    gateway.Routine Plain := by
  constructor
  · intro call isAside
    cases call with
    | updateLedger update => cases isAside
    | resolveLedger runId update resolvedBy reason => cases isAside
    | _ =>
        intro update named
        cases named
  · intro value
    trivial
  · intro kind
    trivial

end Commands

/-! ### Rules -/

section Rules

variable {α : Type} {thread : Tid} {task : Task} {world : World}
  {fact : World → Prop} {post : α → World → Prop}
  {failed : PyError → World → Prop}

private theorem wp_plain (lasting : Lasting fact) {program : RuntimeM α}
    (uses : program.Uses Plain) (holds : fact world)
    (value : ∀ result world, fact world → post result world)
    (error : ∀ error world, failed error world) :
    (archiving bridge).Wp thread task program post failed world := by
  have kept := Machine.Contract.wp_of_uses
    (fun before after keeps _ => lasting before after keeps)
    (uses.mono fun cmd => @keeps_of_plain bridge thread task fact lasting cmd)
    holds
  exact kept.mono value fun problem later _ => error problem later

private theorem lasting_true : Lasting fun _ => True :=
  fun _ _ _ _ => trivial

private theorem wp_plain_bind {β : Type} {program : RuntimeM β}
    {next : β → RuntimeM α}
    (uses : program.Uses Plain)
    (goes : ∀ value world,
      (archiving bridge).Wp thread task (next value) (fun _ _ => True)
        (fun _ _ => True) world) :
    (archiving bridge).Wp thread task (program >>= next) (fun _ _ => True)
      (fun _ _ => True) world := by
  apply Machine.Contract.Wp.bind
  apply wp_plain lasting_true uses trivial
  · intro value later _
    exact goes value later
  · intro _ _
    trivial

private theorem wp_only_plain {program : RuntimeM α}
    (uses : program.Uses Plain) :
    (archiving bridge).Wp thread task program (fun _ _ => True)
      (fun _ _ => True) world := by
  apply wp_plain lasting_true uses trivial
  · intro _ _ _
    trivial
  · intro _ _
    trivial

private theorem lasting_pure (fact : Prop) : Lasting fun _ => fact :=
  fun _ _ _ held => held

/-- `put_json` returns the hash and the reference of one digest. -/
private theorem wp_putJson (value : Json) :
    (archiving bridge).Wp thread task (bridge.gateway.putJson value)
      (fun written _ => ∃ digest, written = (blobHash digest, blobRef digest))
      (fun _ _ => True) world := by
  intro later _ backed
  constructor
  · cases task <;> trivial
  · intro input _ reply after acted
    have orderly : Orderly bridge.gateway.sha256 later
        (.putJson (bridge.gateway.sha256 value) value) := trivial
    refine ⟨backed.guarantees (fun _ => orderly) acted, ?_⟩
    cases reply with
    | ok written => exact ⟨_, rfl⟩
    | error error => trivial

private theorem wp_settle (lasting : Lasting fact) (holds : fact world)
    {call : Call} {next : call.Result → RuntimeM α}
    (owed : ∀ later, fact later →
      (archiving bridge).owes thread task (.store call) later)
    (archived : ∀ later update, fact later →
      Substantiates bridge.gateway.sha256 task call later →
      call.succeeds later.store = some update →
      update.Archived bridge.gateway.sha256 later)
    (goes : ∀ value world,
      (archiving bridge).Wp thread task (next value) (fun _ _ => True)
        (fun _ _ => True) world) :
    (archiving bridge).Wp thread task (store call >>= next) (fun _ _ => True)
      (fun _ _ => True) world := by
  intro later keeps backed
  have current := lasting world later keeps holds
  refine ⟨owed later current, ?_⟩
  intro input admitted reply after acted
  have orderly (faultless : input.fault = none) :
      Orderly bridge.gateway.sha256 later (.store call) := by
    intro update sets
    exact archived later update current (admitted call rfl faultless) sets
  refine ⟨backed.guarantees orderly acted, ?_⟩
  cases reply with
  | ok value => exact goes value after
  | error error => trivial

/-- An operation that is answered with something about the archive. -/
private theorem wp_lookup {call : Call} {next : call.Result → RuntimeM α}
    {seen : call.Result → World → Prop}
    (plain : Plain (.store call))
    (lasting : ∀ value, Lasting (seen value))
    (answers : ∀ moment world value, Backed bridge.gateway.sha256 world →
      (call.perform moment world.store).1 = .ok value → seen value world)
    (goes : ∀ value world, seen value world →
      (archiving bridge).Wp thread task (next value) (fun _ _ => True)
        (fun _ _ => True) world) :
    (archiving bridge).Wp thread task (store call >>= next) (fun _ _ => True)
      (fun _ _ => True) world := by
  intro later _ backed
  have kept := @keeps_of_plain bridge thread task _ lasting_true _ plain later
    backed trivial
  refine ⟨kept.1, ?_⟩
  intro input admitted reply after acted
  refine ⟨(kept.2 input admitted reply after acted).1, ?_⟩
  have performed : World.act thread (.store call) input later =
      some (reply, after) := acted
  have keeps := keepsBlobs_of_act performed
  rcases World.act_store performed with ⟨error, _, answer, _⟩ | ⟨_, answer, _⟩
  · rw [answer]
    trivial
  · cases reply with
    | error error => trivial
    | ok value =>
        apply goes
        exact lasting value later after keeps
          (answers input.moment later value backed answer.symm)

end Rules

/-! ### Rows that are found -/

section Found

variable {sha256 : Json → String} {world : World} {moment : Moment}
  {store : Store}

/-- The row that an operation has found is archived, if it has succeeded. -/
def FoundArchived (sha256 : Json → String) (found : Option LedgerRow)
    (world : World) : Prop :=
  ∀ row, found = some row → row.status = .succeeded →
    row.Archived sha256 world

private theorem lasting_found (sha256 : Json → String)
    (found : Option LedgerRow) : Lasting (FoundArchived sha256 found) := by
  intro before after keeps archived row same succeeded
  exact (archived row same succeeded).keeps keeps

private theorem reserved_archived {args : LedgerArgs}
    {found : Option LedgerRow} (backed : Backed sha256 world)
    (answer : ((Call.reserveLedger args).perform moment world.store).1 =
      .ok found) : FoundArchived sha256 found world := by
  intro row same succeeded
  cases held : world.store.ledgerRow? args.idempotencyKey with
  | some existing =>
      rw [Store.perform_reserveLedger_found held, same] at answer
      cases answer
      exact backed args.idempotencyKey row held succeeded
  | none =>
      rw [(Store.perform_reserveLedger_fresh held).1, same] at answer
      cases answer

/-- The lookup returns rows that have succeeded. -/
private theorem found_succeeded {runId toolName requestHash : String}
    {logicalOperation : Option String} {row : LedgerRow}
    (answer : ((Call.findSucceededLedgerResponse runId toolName
      logicalOperation requestHash).perform moment store).1 =
        .ok (some row)) :
    store.ledgerRow? row.idempotencyKey = some row ∧
      row.status = .succeeded := by
  have chosen : row ∈ store.succeededRows runId toolName := by
    rcases returned_findSucceeded answer with
      ⟨_, _, _, newest⟩ | newest
    · exact (List.mem_filter.mp (mem_foremost.mp newest).1).1
    · exact (List.mem_filter.mp (mem_foremost.mp newest).1).1
  obtain ⟨member, same⟩ := List.mem_filter.mp chosen
  simp only [Bool.and_eq_true, decide_eq_true_eq] at same
  exact ⟨Table.get?_eq_some_iff.mpr ⟨member, rfl⟩, same.2⟩

/-- The row that the shadow mode has found is archived. -/
def ShadowArchived (sha256 : Json → String) (found : Option LedgerRow)
    (world : World) : Prop :=
  ∀ row, found = some row → row.Archived sha256 world

private theorem lasting_shadow (sha256 : Json → String)
    (found : Option LedgerRow) : Lasting (ShadowArchived sha256 found) := by
  intro before after keeps archived row same
  exact (archived row same).keeps keeps

private theorem shadow_archived {runId toolName requestHash : String}
    {logicalOperation : Option String} {found : Option LedgerRow}
    (backed : Backed sha256 world)
    (answer : ((Call.findSucceededLedgerResponse runId toolName
      logicalOperation requestHash).perform moment world.store).1 =
        .ok found) : ShadowArchived sha256 found world := by
  intro row same
  subst same
  obtain ⟨present, succeeded⟩ := found_succeeded answer
  exact backed _ row present succeeded

end Found

/-! ### Task by task -/

section Tasks

variable {thread : Tid} {task : Task} {world : World}

private theorem safe_of_goal {task : Task} {program : RuntimeM task.Result}
    (goal : (archiving bridge).Wp thread task program (fun _ _ => True)
      (fun _ _ => True) world) :
    (archiving bridge).Safe thread task program world := by
  apply Machine.Contract.safe_of_wp
  exact goal.mono (fun _ _ _ _ _ _ => trivial) fun _ _ _ _ _ _ => trivial

private theorem safe_operation (call : Call) :
    (archiving bridge).Safe thread (.operation call) (store call) world := by
  apply safe_of_goal
  intro later _ backed
  refine ⟨trivial, ?_⟩
  intro input admitted reply after acted
  have orderly (faultless : input.fault = none) :
      Orderly bridge.gateway.sha256 later (.store call) :=
    admitted call rfl faultless
  refine ⟨backed.guarantees orderly acted, ?_⟩
  cases reply <;> trivial

private theorem safe_runOnce_replay (args : RunOnceArgs) :
    (archiving bridge).Safe thread (.runOnce args) (runOnce args) world := by
  apply safe_of_goal
  apply wp_only_plain
  apply uses_runOnce
  · intro call other update named
    rw [ledgerUpdate_of_other other] at named
    cases named
  · intro _ _
    trivial

/-- What the bridge has for a result, if it has got one. -/
private def ResponseOf (result : Json) (response : Option (String × String)) :
    Prop :=
  (result = .null → response = none) ∧
    (result ≠ .null →
      ∃ digest, response = some (blobHash digest, blobRef digest))

private theorem wp_putResult (result : Json) :
    (archiving bridge).Wp thread task (bridge.putResult result)
      (fun response _ => ResponseOf result response) (fun _ _ => True)
      world := by
  unfold ExecutionEvidenceBridge.putResult
  split
  · exact ⟨fun _ => rfl, fun given => absurd rfl given⟩
  · rename_i given
    apply Machine.Contract.Wp.bind
    apply (wp_putJson result).mono
    · rintro written later ⟨digest, rfl⟩
      exact ⟨fun null => absurd null given, fun _ => ⟨digest, rfl⟩⟩
    · intro _ _ _
      trivial

private theorem wp_settled (record : ExecutionEvidenceBridge.Record)
    {turn : ActiveTurn} {execution : ToolExecution}
    (own : record.execution = execution) :
    (archiving bridge).Wp thread (.recordToolExecution turn execution)
      (bridge.settle record) (fun _ _ => True) (fun _ _ => True) world := by
  have routine := routine_plain bridge.gateway
  unfold ExecutionEvidenceBridge.settle
  simp only [own]
  apply wp_plain_bind (uses_orRaise _)
  intro status later
  apply Machine.Contract.Wp.bind
  apply (wp_putResult execution.result).mono
  · intro response later held
    have digested {update : LedgerUpdate}
        (hash : update.responseHash = response.map Prod.fst)
        (ref : update.responseRef = response.map Prod.snd)
        (given : execution.result ≠ .null) : update.Digested := by
      obtain ⟨digest, rfl⟩ := held.2 given
      exact ⟨digest, hash, ref⟩
    apply wp_settle (lasting_pure _) held
    · intro now held update named _
      cases named
      refine ⟨fun null => ?_, digested rfl rfl⟩
      rw [held.1 null]
      rfl
    · intro now update held admitted sets
      have named := (ledgerUpdate_of_succeeds sets).1
      cases named
      obtain ⟨given, whole⟩ := admitted _ sets
      exact (digested rfl rfl given).archived_iff.mpr whole
    · intro _ later
      apply wp_only_plain
      apply (routine.uses_report _ _).bind
      intro _
      split
      · trivial
      · exact (routine.uses_store rfl).bind fun _ => trivial
  · intro _ _ _
    trivial

private theorem plain_reserve (args : LedgerArgs) :
    Plain (.store (.reserveLedger args)) := by
  intro update named
  cases named

private theorem safe_recordToolExecution (turn : ActiveTurn)
    (execution : ToolExecution) :
    (archiving bridge).Safe thread (.recordToolExecution turn execution)
      (bridge.recordToolExecution turn execution) world := by
  have routine := routine_plain bridge.gateway
  have opened : (archiving bridge).Wp thread
      (.recordToolExecution turn execution) (bridge.open_ turn execution)
      (fun _ _ => True) (fun _ _ => True) world :=
    wp_only_plain (ExecutionEvidenceBridge.uses_open routine turn execution)
  apply safe_of_goal
  apply Machine.Contract.Wp.bind
  apply (opened.yields (bridge.yields_open turn execution)).mono
  · intro record later own
    apply wp_plain_bind (uses_store (plain_reserve _))
    intro existing later
    cases existing with
    | none => exact wp_settled record own.1
    | some row =>
        simp only
        split
        · apply wp_only_plain
          exact (routine.uses_report _ _).bind fun _ => trivial
        · trivial
        · trivial
        · trivial
        · exact wp_settled record own.1
        · exact wp_settled record own.1
  · intro _ _ _
    trivial

end Tasks

/-! ### The gateway -/

section Gateway

open ToolGateway

variable {thread : Tid} {ctx : AgentContext} {toolName : String} {args : Json}
  {world : World}

private theorem wp_getJsonOf {hash ref : Option String}
    (resolved : Resolved bridge.gateway.sha256 world hash ref)
    {next : Json → RuntimeM Json}
    (uses : ∀ value, (next value).Uses Plain) :
    (archiving bridge).Wp thread (.callTool ctx toolName args)
      (getJsonOf ref >>= next) (fun _ _ => True) (fun _ _ => True) world := by
  obtain ⟨at_, value, named, read, _⟩ := resolved
  subst named
  intro later keeps backed
  refine ⟨⟨value, keeps at_ value read⟩, ?_⟩
  intro input _ reply after acted
  have orderly : Orderly bridge.gateway.sha256 later (.getJson at_) := trivial
  refine ⟨backed.guarantees (fun _ => orderly) acted, ?_⟩
  cases reply with
  | ok answer => exact wp_only_plain (uses answer)
  | error error => trivial

private theorem wp_replayed {request : Request} {row : LedgerRow}
    (archived : row.Archived bridge.gateway.sha256 world) :
    (archiving bridge).Wp thread (.callTool ctx toolName args)
      (replayed request row) (fun _ _ => True) (fun _ _ => True) world := by
  have routine := routine_plain bridge.gateway
  apply wp_getJsonOf archived
  intro response
  apply (routine.uses_report _ _).bind
  intro _
  exact (routine.uses_store rfl).bind fun _ => trivial

private theorem wp_shadowResponse {request : Request} :
    (archiving bridge).Wp thread (.callTool ctx toolName args)
      (bridge.gateway.shadowResponse request) (fun _ _ => True)
      (fun _ _ => True) world := by
  have routine := routine_plain bridge.gateway
  unfold shadowResponse
  simp only
  split
  · exact wp_only_plain (routine.uses_blocked _ _ _)
  · refine wp_lookup ?_ (lasting_shadow bridge.gateway.sha256) ?_ ?_
    · intro update named
      cases named
    · intro moment now found backed answer
      exact shadow_archived backed answer
    · intro found later archived
      cases found with
      | none => exact wp_only_plain (routine.uses_blocked _ _ _)
      | some existing =>
          apply wp_getJsonOf (archived existing rfl)
          intro response
          exact (routine.uses_report _ _).bind fun _ => trivial

private theorem plain_invocations (invocation : Invocation) :
    Plain (.invoke invocation) ∧
      ∀ policy, Plain (.sandboxed invocation policy) :=
  ⟨trivial, fun _ => trivial⟩

private theorem plain_update {update : LedgerUpdate}
    (other : update.status ≠ .succeeded) :
    Plain (.store (.updateLedger update)) := by
  intro named same
  cases same
  exact other

private theorem uses_onFailure (gateway : ToolGateway) (request : Request)
    (error : PyError) :
    (onFailure request error).Uses Plain := by
  have routine := routine_plain gateway
  unfold onFailure
  split
  · apply (uses_store (plain_update ?_)).bind
    · intro _
      exact (routine.uses_report _ _).bind fun _ => trivial
    · intro same
      cases same
  · exact (routine.uses_report _ _).bind fun _ => trivial

private theorem wp_attempt_replay {request : Request} :
    (archiving bridge).Wp thread (.callTool ctx toolName args)
      (bridge.gateway.attempt request) (fun _ _ => True) (fun _ _ => True)
      world := by
  have routine := routine_plain bridge.gateway
  obtain ⟨invokes, sandboxes⟩ := plain_invocations request.invocation
  have reports (written : String × String) (result : Json) :
      (do
        report "tool_call_completed" (eventOf request.ctx "tool_call_completed"
          [("idempotency_key", .str request.key),
            ("tool", .str request.toolName)] (some written.1) (some written.2))
        let _ ← store (.recordCost (cost request.ctx "tool" request.toolName
          [("sandbox_executor", Json.optional request.spec.sandboxExecutor),
            ("sandboxed", .bool request.spec.sandboxRequired),
            ("side_effect", .str request.spec.sideEffect)]))
        return result : RuntimeM Json).Uses Plain := by
    apply (routine.uses_report _ _).bind
    intro _
    exact (routine.uses_store rfl).bind fun _ => trivial
  apply Machine.Contract.Wp.tryCatch
  refine Machine.Contract.Wp.mono (fun _ _ done => done) ?_
    (?_ : (archiving bridge).Wp _ _ _ (fun _ _ => True) (fun _ _ => True) _)
  · intro error later _
    exact wp_only_plain (uses_onFailure bridge.gateway request error)
  · apply wp_plain_bind (routine.uses_executeTool (fun _ => invokes)
      fun base _ => sandboxes _)
    intro result later
    apply wp_plain_bind (Routine.uses_validate _ _ _ _)
    intro _ later
    apply Machine.Contract.Wp.bind
    apply (wp_putJson result).mono
    · rintro written later ⟨digest, rfl⟩
      simp only
      split
      · apply wp_plain_bind (uses_orRaise _)
        intro external later
        apply wp_settle lasting_true trivial
        · intro _ _ update named _
          cases named
          exact ⟨digest, rfl, rfl⟩
        · intro now update _ admitted sets
          have named := (ledgerUpdate_of_succeeds sets).1
          cases named
          have digested : LedgerUpdate.Digested
              { idempotencyKey := request.key
                status := .succeeded
                externalId := external
                responseHash := some (blobHash digest)
                responseRef := some (blobRef digest) } := ⟨digest, rfl, rfl⟩
          exact digested.archived_iff.mpr (admitted _ sets)
        · intro _ later
          exact wp_only_plain
            (reports (blobHash digest, blobRef digest) result)
      · exact wp_only_plain (reports (blobHash digest, blobRef digest) result)
    · intro _ _ _
      trivial

private theorem wp_callManaged_replay {request : Request} :
    (archiving bridge).Wp thread (.callTool ctx toolName args)
      (bridge.gateway.callManaged request) (fun _ _ => True) (fun _ _ => True)
      world := by
  have takesOver (later : World) : (archiving bridge).Wp thread
      (.callTool ctx toolName args) (bridge.gateway.takeOver request)
      (fun _ _ => True) (fun _ _ => True) later := by
    apply wp_plain_bind (uses_store (plain_update ?_))
    · intro _ later
      exact wp_attempt_replay
    · intro same
      cases same
  refine wp_lookup (plain_reserve _) (lasting_found bridge.gateway.sha256)
    ?_ ?_
  · intro moment now found backed answer
    exact reserved_archived backed answer
  · intro found later archived
    cases found with
    | none => exact takesOver later
    | some existing =>
        simp only
        split
        · rename_i succeeded
          exact wp_replayed (archived existing rfl succeeded)
        · trivial
        · trivial
        · trivial
        · exact takesOver later
        · exact takesOver later

private theorem safe_callTool_replay :
    (archiving bridge).Safe thread (.callTool ctx toolName args)
      (bridge.gateway.call ctx toolName args) world := by
  have routine := routine_plain bridge.gateway
  apply safe_of_goal
  apply wp_plain_bind (routine.uses_open ctx toolName args)
  intro request later
  apply wp_plain_bind (routine.uses_authorize request)
  intro _ later
  apply wp_plain_bind (routine.uses_beforeToolCall ctx.runId)
  intro _ later
  unfold proceed
  simp only
  split
  · apply Machine.Contract.Wp.bind
    apply wp_shadowResponse.mono
    · intro response later _
      exact wp_only_plain ((routine.uses_store rfl).bind fun _ => trivial)
    · intro _ _ _
      trivial
  · split
    · exact wp_callManaged_replay
    · exact wp_attempt_replay

end Gateway

/-! ### Whole runs -/

theorem archiving_sound : (archiving bridge).Sound where
  rely_refl := fun _ _ _ _ read => read
  rely_trans := fun _ _ _ _ early late ref value read =>
    late ref value (early ref value read)
  start := by
    intro thread task world backed _
    constructor
    · exact ⟨backed, fun _ _ _ _ read => read⟩
    · cases task with
      | callTool ctx toolName args => exact safe_callTool_replay
      | runOnce args => exact safe_runOnce_replay args
      | recordToolExecution turn execution =>
          exact safe_recordToolExecution turn execution
      | operation call => exact safe_operation call
  crash := by
    intro thread world backed
    exact ⟨backed, fun _ _ _ _ read => read⟩

theorem backed_opened (sha256 : Json → String) :
    Backed sha256 World.opened := by
  intro key row found
  cases found

/-- The operation of the store that a thread makes next. -/
def nextOperation (config : (runtimeSystem bridge).Config) (thread : Tid) :
    Option (Task × Call) :=
  match config.threads thread with
  | some ⟨task, .call (.store call) _⟩ => some (task, call)
  | _ => none

/-- Who sets a row `SUCCEEDED` answers for its response. -/
def Substantiated (config : (runtimeSystem bridge).Config) :
    (runtimeSystem bridge).Label → Prop
  | .act thread input => input.fault = none → ∀ task call,
      nextOperation config thread = some (task, call) →
      Substantiates bridge.gateway.sha256 task call config.world
  | _ => True

/-- The rows that have succeeded are archived, and no replay fails for lack of
a response. -/
structure Replayable (config : (runtimeSystem bridge).Config) : Prop where
  backed : Backed bridge.gateway.sha256 config.world
  /-- A call that finds such a row returns. -/
  replays : ∀ (request : ToolGateway.Request) (moment : Moment) row,
    config.world.store.ledgerRow? request.key = some row →
    row.status = .succeeded →
    ∃ value, (World.alone moment (bridge.gateway.callManaged request)
      config.world).1 = .ok value
  /-- So does one in shadow mode. -/
  shadows : ∀ (request : ToolGateway.Request) (moment : Moment) source row,
    request.ctx.sourceRunId.filter (fun source => !source.isEmpty) =
      some source →
    ((Call.findSucceededLedgerResponse source request.spec.name
      (bridge.gateway.logicalOperation request.args)
      request.requestHash).perform moment config.world.store).1 =
        .ok (some row) →
    ∃ value, (World.alone moment (bridge.gateway.shadowResponse request)
      config.world).1 = .ok value
  /-- A call among others that is about to read a response finds it. -/
  reads : ∀ thread ctx toolName args ref next,
    config.threads thread =
      some ⟨.callTool ctx toolName args, .call (.getJson ref) next⟩ →
    ∃ value, config.world.getBlob ref = .ok value

private theorem replayable_of_good {config : (runtimeSystem bridge).Config}
    (good : (archiving bridge).Good config) : Replayable config := by
  have backed := good.invariant
  constructor
  · exact backed
  · intro request moment row found succeeded
    obtain ⟨ref, value, referred, read, _⟩ :=
      backed request.key row found succeeded
    exact ⟨value, replayed_returns found succeeded referred read⟩
  · intro request moment source row given found
    obtain ⟨ref, value, referred, read, _⟩ :=
      shadow_archived backed found row rfl
    exact ⟨value, shadow_returns given found referred read⟩
  · intro thread ctx toolName args ref next running
    exact good.owes archiving_sound running

private theorem admitted_of_substantiated
    {config : (runtimeSystem bridge).Config}
    {label : (runtimeSystem bridge).Label}
    (substantiated : Substantiated config label) :
    (archiving bridge).Admitted config label := by
  cases label with
  | act thread input =>
      simp only [Machine.Contract.Admitted]
      split
      · rename_i task cmd next running
        intro call same faultless
        cases same
        apply substantiated faultless
        simp only [nextOperation, running]
      · trivial
  | _ => trivial

private theorem set_row {call : Call} {moment : Moment} {store : Store}
    {update : LedgerUpdate} (sets : call.succeeds store = some update) :
    ∃ row, (call.perform moment store).2.ledgerRow? update.idempotencyKey =
        some (update.apply row) := by
  unfold Call.succeeds at sets
  split at sets
  · split at sets
    · rename_i other met
      cases sets
      obtain ⟨row, found⟩ := Option.isSome_iff_exists.mp met.2
      refine ⟨row, ?_⟩
      rw [Store.perform_updateLedger, Store.ledgerRow?_updateLedger,
        Function.update_self, found]
      rfl
    · cases sets
  · split at sets
    · rename_i runId other resolvedBy reason met
      cases sets
      obtain ⟨row, _, _, _, entries⟩ :=
        @Store.perform_resolveLedger store moment runId resolvedBy reason
          update met.2
      exact ⟨row, by rw [entries, Function.update_self]⟩
    · cases sets
  · cases sets

private theorem substantiated_of_backed
    {config : (runtimeSystem bridge).Config}
    {label : (runtimeSystem bridge).Label}
    (good : (archiving bridge).Good config)
    (backed : Backed bridge.gateway.sha256
      (Machine.step label config).world) : Substantiated config label := by
  cases label with
  | act thread input =>
      intro faultless task call next update sets
      simp only [nextOperation] at next
      split at next
      · rename_i other called rest running
        cases next
        have acted : World.act thread (.store call) input config.world =
            some (config.world.perform thread call input.moment) := by
          simp only [World.act, faultless]
        obtain ⟨row, found⟩ := @set_row call input.moment config.world.store
          update sets
        rw [Machine.step_act running acted] at backed
        obtain ⟨named, succeeded⟩ := ledgerUpdate_of_succeeds sets
        have archived : update.Archived bridge.gateway.sha256 config.world :=
          backed update.idempotencyKey (update.apply row) found succeeded
        cases task with
        | operation call => exact archived
        | callTool ctx toolName args =>
            have digested := good.owes archiving_sound running update named
              succeeded
            exact digested.archived_iff.mp archived
        | recordToolExecution turn execution =>
            obtain ⟨bare, digested⟩ := good.owes archiving_sound running update
              named succeeded
            have given : execution.result ≠ .null := by
              intro null
              obtain ⟨ref, value, referred, _⟩ := archived
              rw [bare null] at referred
              cases referred
            exact ⟨given, (digested given).archived_iff.mp archived⟩
        | runOnce args => trivial
      · cases next
  | _ => trivial

def chargeTurn : ActiveTurn :=
  { runId := "run"
    sessionId := "sess"
    stepId := "step"
    agentRole := "Agent"
    stateVersion := 0 }

/-- Another runtime reports an execution without an error, and no result. -/
def silentSuccess : ToolExecution :=
  { sessionId := "external"
    turnId := "turn"
    toolName := "charge"
    toolCallId := some "call"
    idempotencyKey := some chargeKey }

def silent : List (runtimeSystem chargeBridge).Label :=
  claimed ++ .spawn 1 (.recordToolExecution chargeTurn silentSuccess) ::
    List.replicate 4 (.act 1 (Surroundings.tick 2 id))

end AgentLedger
