import AgentLedger.Adapters.ModelEvidence
import AgentLedger.Adapters.Session

namespace AgentLedger

open Foundation BridgeM

/-! `ExecutionEvidenceBridge`: the sessions and turns of another runtime as
runs and steps. -/

structure ExecutionSession where
  sessionId : String
  initialState : Fields := []
  metadata : Fields := []
  runId : Option String := none

structure ExecutionTurn where
  sessionId : String
  turnId : String
  agentRole : String := "OMPAgent"
  statePatch : Fields := []
  metadata : Fields := []

structure ExecutionModelCall extends ModelCallRecord where
  sessionId : String
  turnId : String

structure ExecutionToolProposal extends ToolCallProposal where
  sessionId : String
  turnId : String

structure ExecutionEvent where
  sessionId : String
  eventName : String
  payload : Fields := []
  turnId : Option String := none
  agentRole : Option String := none
  causalToken : Option String := none

structure ExecutionFailure where
  sessionId : String
  turnId : String
  errorType : String
  message : String
  retryable : Option Bool := none
  status : String := "failed"
  terminal : Bool := true
  category : String := "runtime"
  provider : Option String := none
  model : Option String := none
  request : Fields := []
  usage : Fields := []
  totalUsd : Rat := 0
  metadata : Fields := []
  approvalId : Option String := none

/-- A snapshot that is `None` is `null`. -/
structure ExecutionStateChange where
  sessionId : String
  reason : String
  patch : Fields := []
  turnId : Option String := none
  label : String := "state"
  commitStatus : String := "committed"
  beforeSnapshot : Json := .null
  afterSnapshot : Json := .null
  diff : Json := .null
  metadata : Fields := []

structure ExecutionArtifact where
  sessionId : String
  name : String
  kind : String := "artifact"
  turnId : Option String := none
  uri : Option String := none
  contentRef : Option String := none
  externalId : Option String := none
  metadata : Fields := []
  lineage : Fields := []
  derivedOutputs : Fields := []

/-- The change is one of the run's state. -/
def ExecutionStateChange.commits (change : ExecutionStateChange) : Bool :=
  !change.patch.isEmpty &&
    ["committed", "applied"].contains (lower change.commitStatus)

/-- `_turn_key`. -/
def turnKey (sessionId turnId : String) : String :=
  sessionId ++ "\x1f" ++ turnId

/-- `self._active_turns.get(...) if turn_id else None`. -/
def Memory.activeOf (memory : Memory) (sessionId : String)
    (turnId : Option String) : Option LeasedTurn :=
  (nonEmpty turnId).bind fun turnId =>
    memory.activeTurns.lookup (turnKey sessionId turnId)

/-- `dict.update`. -/
def update (fields items : Fields) : Fields :=
  items.foldl (fun held item => Fields.set held item.1 item.2) fields

/-! ### Media artifacts -/

def mediaKinds : List String :=
  ["image", "audio", "video", "frame", "audio_segment", "video_segment",
    "transcript", "embedding", "derived"]

def mediaSchemaVersion : String := "agentledger.media.v0"

namespace ExecutionArtifact

variable (artifact : ExecutionArtifact)

/-- The metadata of `MediaArtifact.to_content`. -/
def mediaMetadata : Fields :=
  if artifact.metadata.isEmpty then
    [("kind", .str artifact.kind), ("schema_version", .str mediaSchemaVersion)]
  else
    let versioned :=
      match Fields.get? artifact.metadata "schema_version" with
      | some _ => artifact.metadata
      | none =>
          Fields.set artifact.metadata "schema_version" (.str mediaSchemaVersion)
    Fields.set versioned "kind" (.str artifact.kind)

def derived : Option Json :=
  if artifact.derivedOutputs.isEmpty then none
  else some (.obj artifact.derivedOutputs)

/-- `MediaArtifact.to_content`. -/
def toContent : Fields :=
  compact
    [("content_ref", artifact.contentRef.map Json.str),
      ("derived_outputs", artifact.derived),
      ("kind", some (.str artifact.kind)),
      ("lineage", some (.obj artifact.lineage)),
      ("metadata", some (.obj artifact.mediaMetadata)),
      ("schema_version", some (.str mediaSchemaVersion)),
      ("uri", artifact.uri.map Json.str)]

/-- `MediaArtifact.to_artifact_metadata`. -/
def toArtifactMetadata : Fields :=
  [("agentledger_media", .obj (compact
    [("content_ref", artifact.contentRef.map Json.str),
      ("derived_outputs", some (artifact.derived.getD (.obj []))),
      ("kind", some (.str artifact.kind)),
      ("lineage", some (.obj artifact.lineage)),
      ("metadata", some (.obj artifact.mediaMetadata)),
      ("schema_version", some (.str mediaSchemaVersion)),
      ("uri", artifact.uri.map Json.str)]))]

def isMedia : Bool := mediaKinds.contains artifact.kind

/-- The checks at the head of `record_artifact`. -/
def check : Except PyError Unit :=
  if isBlank artifact.name then
    .error (.valueError "execution artifact name must not be empty")
  else if (nonEmpty artifact.uri).isNone &&
      (nonEmpty artifact.contentRef).isNone &&
      (nonEmpty artifact.externalId).isNone &&
      artifact.derivedOutputs.isEmpty then
    .error (.valueError ("execution artifact requires a uri, content_ref, " ++
      "external_id, or derived_outputs"))
  else .ok ()

end ExecutionArtifact

/-! ### The bridge -/

/-- The bridge with what its sessions and turns need besides. -/
structure SessionBridge extends ExecutionEvidenceBridge where
  appName : String
  workerId : Option String := none
  leaseSeconds : Int := 60
  eventPrefix : String := "execution"
  checkpointPrefix : String := "execution"
  modelLimits : ModelLimits := {}

namespace SessionBridge

variable (bridge : SessionBridge)

/-- `worker_id or f"{source}:{app_name}"`. -/
def worker : String :=
  (nonEmpty bridge.workerId).getD (bridge.source ++ ":" ++ bridge.appName)

/-- `_event_type`. -/
def eventType (suffix : String) : String := bridge.eventPrefix ++ "_" ++ suffix

/-- `_bridge_metadata`. -/
def bridgeMetadata (metadata : Fields) (sessionId turnId : String) : Fields :=
  update metadata
    [("schema_version", .str bridge.schemaVersion),
      ("adapter", .str bridge.name), ("source", .str bridge.source),
      ("external_session_id", .str sessionId),
      ("external_turn_id", .str turnId)]

/-- What the events of sessions and turns have in common. -/
def described (sessionId : String) (turnId : Option String)
    (metadata : Fields) : Fields :=
  compact
    [("adapter", some (.str bridge.name)),
      ("app_name", some (.str bridge.appName)),
      ("external_session_id", some (.str sessionId)),
      ("external_turn_id", turnId.map Json.str),
      ("metadata", some (.obj metadata)),
      ("schema_version", some (.str bridge.schemaVersion)),
      ("source", some (.str bridge.source))]

/-- `_next_runnable_step_id`, and the `initial_step_id` of a run that is
there. -/
def nextRunnable (rows : List StepRow) : Option String :=
  (rows.find? fun row => row.status.claimable).map StepRow.stepId

/-- The session that `_ensure_session` sets up. -/
def newSession (session : ExecutionSession) : BridgeM BridgeSession :=
  match session.runId with
  | some runId => do
      let run ← lift (store (.run runId))
      let rows ← steps runId
      return {
        runId := runId
        sessionId := run.sessionId
        initialStepId := nextRunnable rows }
  | none => do
      let (runId, stepId) ←
        lift (store (.createRun none (some session.initialState) none))
      let run ← lift (store (.run runId))
      return {
        runId := runId
        sessionId := run.sessionId
        initialStepId := some stepId }

/-- `_ensure_session`. -/
def ensureSession (session : ExecutionSession) : BridgeM BridgeSession := do
  let memory ← retrieve
  match memory.sessions.lookup session.sessionId with
  | some existing => return existing
  | none => do
      let opened ← newSession session
      remember (Memory.openSession session.sessionId opened)
      return opened

/-- `_require_turn`. -/
def requireTurn (sessionId turnId : String) : BridgeM LeasedTurn := do
  let memory ← retrieve
  match memory.activeTurns.lookup (turnKey sessionId turnId) with
  | some active => return active
  | none => .raise (.keyError (bridge.source ++ " turn not active: " ++
      sessionId ++ "/" ++ turnId))

def recordSessionStarted (session : ExecutionSession) : BridgeM String := do
  let memory ← retrieve
  match memory.sessions.lookup session.sessionId with
  | some known => return known.runId
  | none => do
      let opened ← ensureSession session
      let run ← lift (store (.run opened.runId))
      lift (report (bridge.eventType "session_started")
        { runId := opened.runId
          sessionId := some opened.sessionId
          type := .reported (bridge.eventType "session_started")
          payload := .obj
            (bridge.described session.sessionId none session.metadata)
          stateVersion := some run.stateVersion })
      return opened.runId

/-- The step that the turn is for: the one the session came with, or else one
that can be claimed, or else a new one. -/
def prepareStep (sessionId : String) (session : BridgeSession) :
    BridgeM Unit :=
  match session.initialStepId with
  | some _ =>
      remember (Memory.openSession sessionId
        { session with initialStepId := none })
  | none => do
      let rows ← steps session.runId
      match nextRunnable rows with
      | some _ => return ()
      | none => do
          let _ ← lift (store (.createExternalStep session.runId none none))
          return ()

/-- The turn that a claim makes active. -/
def activeTurn (claim : StepClaim) (agentRole : String) : LeasedTurn :=
  { runId := claim.runId
    sessionId := claim.sessionId
    stepId := claim.stepId
    agentRole := agentRole
    stateVersion := claim.stateVersion
    leaseToken := claim.leaseToken
    attempt := claim.attempt }

/-- An event of the turn. -/
def turnEvent (active : LeasedTurn) (suffix : String) (payload : Fields)
    (agentRole : String) (stateVersion : Int) : EventArgs :=
  { runId := active.runId
    sessionId := some active.sessionId
    stepId := some active.stepId
    type := .reported (bridge.eventType suffix)
    payload := .obj payload
    agentRole := some agentRole
    stateVersion := some stateVersion }

/-- `record_turn_started` once the session is known. -/
def startTurn (turn : ExecutionTurn) (session : BridgeSession) :
    BridgeM String := do
  prepareStep turn.sessionId session
  match ← lift (store (.claimStep bridge.worker (some session.runId)
      bridge.leaseSeconds)) with
  | none => .raise (.runtimeError ("no runnable step available for " ++
      bridge.source ++ " turn " ++ turn.turnId))
  | some claim => do
      let active := activeTurn claim turn.agentRole
      remember (Memory.startTurn (turnKey turn.sessionId turn.turnId) active)
      lift (report (bridge.eventType "turn_started")
        (bridge.turnEvent active "turn_started"
          (bridge.described turn.sessionId (some turn.turnId) turn.metadata)
          turn.agentRole active.stateVersion))
      return active.stepId

def recordTurnStarted (turn : ExecutionTurn) : BridgeM String := do
  let memory ← retrieve
  match memory.activeTurns.lookup (turnKey turn.sessionId turn.turnId) with
  | some active => return active.stepId
  | none => do
      let session ← ensureSession { sessionId := turn.sessionId }
      bridge.startTurn turn session

def commitArgs (turn : ExecutionTurn) (active : LeasedTurn) : CommitArgs :=
  { runId := active.runId
    stepId := active.stepId
    leaseToken := active.leaseToken
    baseVersion := active.stateVersion
    patch := turn.statePatch
    checkpointId := some (bridge.checkpointPrefix ++ ":" ++ turn.turnId ++
      ":" ++ toString active.attempt) }

def recordTurnCompleted (turn : ExecutionTurn) : BridgeM Int := do
  let active ← bridge.requireTurn turn.sessionId turn.turnId
  let newVersion ← lift (store
    (.commitStatePatch (bridge.commitArgs turn active)))
  lift (report (bridge.eventType "turn_completed")
    (bridge.turnEvent active "turn_completed"
      (bridge.described turn.sessionId (some turn.turnId) turn.metadata)
      active.agentRole newVersion))
  remember (Memory.endTurn (turnKey turn.sessionId turn.turnId))
  return newVersion

/-- `_context_for`. -/
def contextOf (active : LeasedTurn) : AgentContext :=
  { runId := active.runId
    sessionId := active.sessionId
    stepId := active.stepId
    agentRole := active.agentRole
    leaseToken := active.leaseToken
    attempt := active.attempt
    stateVersion := active.stateVersion }

def recordModelCall (record : ExecutionModelCall) :
    BridgeM ((String × String) × String × String) := do
  let active ← bridge.requireTurn record.sessionId record.turnId
  lift (ModelEvidence.recordModelCall bridge.gateway bridge.modelLimits
    (contextOf active)
    { record.toModelCallRecord with
      metadata := bridge.bridgeMetadata record.metadata record.sessionId
        record.turnId })

def recordToolProposal (proposal : ExecutionToolProposal) :
    BridgeM String := do
  let active ← bridge.requireTurn proposal.sessionId proposal.turnId
  lift (ModelEvidence.recordToolCallProposal bridge.gateway (contextOf active)
    { proposal.toToolCallProposal with
      metadata := bridge.bridgeMetadata proposal.metadata proposal.sessionId
        proposal.turnId })

/-- `active.state_version if active else self._run_state_version(...)`. -/
def versionOf (runId : String) : Option LeasedTurn → RuntimeM Int
  | some active => .done active.stateVersion
  | none => do
      let run ← store (.run runId)
      return run.stateVersion

def recordExecutionEvent (event : ExecutionEvent) : BridgeM Unit := do
  let session ← ensureSession { sessionId := event.sessionId }
  let memory ← retrieve
  let active := memory.activeOf event.sessionId event.turnId
  let stateVersion ← lift (versionOf session.runId active)
  lift (report (bridge.eventType event.eventName)
    { runId := session.runId
      sessionId := some session.sessionId
      stepId := active.map fun turn => turn.stepId
      type := .reported (bridge.eventType event.eventName)
      payload := .obj (update event.payload
        [("schema_version", .str bridge.schemaVersion),
          ("adapter", .str bridge.name), ("source", .str bridge.source),
          ("app_name", .str bridge.appName)])
      agentRole := (active.map fun turn => turn.agentRole).orElse fun _ =>
        event.agentRole
      stateVersion := some stateVersion
      causalToken := event.causalToken.map Json.str })

def recordToolExecution (execution : ToolExecution) :
    BridgeM LedgerStatus := do
  let active ← bridge.requireTurn execution.sessionId execution.turnId
  lift (bridge.toExecutionEvidenceBridge.recordToolExecution
    active.toActiveTurn execution)

/-- The failure of a model, if it is one. -/
def reportModelFailure (active : LeasedTurn) (failure : ExecutionFailure) :
    RuntimeM Unit :=
  if failure.category = "model" then do
    let _ ← ModelEvidence.recordModelFailure bridge.gateway bridge.modelLimits
      (contextOf active)
      { provider := (nonEmpty failure.provider).getD "custom"
        model := (nonEmpty failure.model).getD "unknown"
        errorType := failure.errorType
        message := failure.message
        retryable := failure.retryable
        request := some failure.request
        usage := failure.usage
        totalUsd := failure.totalUsd
        metadata := bridge.bridgeMetadata failure.metadata failure.sessionId
          failure.turnId }
    return ()
  else return ()

/-- The call of the store that a terminal failure comes to. -/
def ending (active : LeasedTurn) (failure : ExecutionFailure) : Call :=
  let status := lower failure.status
  if ["waiting_human", "approval_required"].contains status then
    .markWaitingHuman active.runId active.stepId failure.message
      failure.approvalId
  else if ["retry_scheduled", "retry"].contains status ||
      failure.retryable.getD false then
    .markRetry active.runId active.stepId failure.message failure.errorType
  else
    .markFailed active.runId active.stepId failure.message failure.errorType

def recordFailure (failure : ExecutionFailure) : BridgeM Unit := do
  let active ← bridge.requireTurn failure.sessionId failure.turnId
  lift (bridge.reportModelFailure active failure)
  if failure.terminal then
    let _ ← lift (store (ending active failure))
    remember (Memory.endTurn (turnKey failure.sessionId failure.turnId))
  else return ()

/-- `_store_artifact`. -/
def storeArtifact (runId : String) (active : Option LeasedTurn)
    (name : String) (content : Json) (metadata : Fields)
    (stateVersion : Int) : RuntimeM String := do
  let written ← bridge.gateway.putJson content
  let artifactId ← store (.createArtifact
    { runId := runId
      stepId := active.map fun turn => turn.stepId
      name := name
      blobHash := written.1
      blobRef := written.2
      metadata := metadata })
  let run ← store (.run runId)
  report "artifact_created"
    { runId := runId
      sessionId := some run.sessionId
      stepId := active.map fun turn => turn.stepId
      type := .reported "artifact_created"
      payload := .obj [("artifact_id", .str artifactId), ("name", .str name)]
      agentRole := active.map fun turn => turn.agentRole
      stateVersion := some stateVersion
      payloadHash := some written.1
      payloadRef := some written.2 }
  return artifactId

/-- One of the snapshots of a change, if it is there. -/
def storeSnapshot (session : BridgeSession) (active : Option LeasedTurn)
    (change : ExecutionStateChange) (suffix kind : String) :
    Json → RuntimeM (Option String)
  | .null => .done none
  | content => do
      let stateVersion ← versionOf session.runId active
      let artifactId ← bridge.storeArtifact session.runId active
        (bridge.source ++ "-" ++ change.label ++ "-" ++ suffix) content
        [("external_session_id", .str change.sessionId), ("kind", .str kind),
          ("schema_version", .str bridge.schemaVersion),
          ("source", .str bridge.source)]
        stateVersion
      return some artifactId

def storeSnapshots (session : BridgeSession) (active : Option LeasedTurn)
    (change : ExecutionStateChange) : RuntimeM Fields := do
  let before ← bridge.storeSnapshot session active change "before"
    "before_snapshot" change.beforeSnapshot
  let after ← bridge.storeSnapshot session active change "after"
    "after_snapshot" change.afterSnapshot
  let diff ← bridge.storeSnapshot session active change "diff" "diff"
    change.diff
  return compact
    [("after_artifact_id", after.map Json.str),
      ("before_artifact_id", before.map Json.str),
      ("diff_artifact_id", diff.map Json.str)]

/-- The change itself.  The active turn that it names goes along. -/
def applyChange (session : BridgeSession) (active : Option LeasedTurn)
    (change : ExecutionStateChange) : BridgeM (Option Int) :=
  if change.commits then do
    let newVersion ← lift (store (.applySystemStatePatch session.runId
      change.patch change.reason))
    match active with
    | some turn => do
        remember (Memory.startTurn
          (turnKey change.sessionId (change.turnId.getD ""))
          { turn with stateVersion := newVersion })
        return some newVersion
    | none => return some newVersion
  else return none

def reportChange (session : BridgeSession) (active : Option LeasedTurn)
    (change : ExecutionStateChange) (artifacts : Fields)
    (newVersion : Option Int) : RuntimeM Unit := do
  let stateVersion ← match newVersion with
    | some version => .done version
    | none => versionOf session.runId active
  report (bridge.eventType "state_change_recorded")
    { runId := session.runId
      sessionId := some session.sessionId
      stepId := active.map fun turn => turn.stepId
      type := .reported (bridge.eventType "state_change_recorded")
      payload := .obj (compact
        [("adapter", some (.str bridge.name)),
          ("app_name", some (.str bridge.appName)),
          ("artifacts", some (.obj artifacts)),
          ("commit_status", some (.str change.commitStatus)),
          ("external_session_id", some (.str change.sessionId)),
          ("external_turn_id", change.turnId.map Json.str),
          ("metadata", some (.obj change.metadata)),
          ("patch", some (.obj change.patch)),
          ("reason", some (.str change.reason)),
          ("schema_version", some (.str bridge.schemaVersion)),
          ("source", some (.str bridge.source))])
      agentRole := active.map fun turn => turn.agentRole
      stateVersion := some stateVersion }

def recordStateChange (change : ExecutionStateChange) :
    BridgeM (Option Int) := do
  let session ← ensureSession { sessionId := change.sessionId }
  let memory ← retrieve
  let active := memory.activeOf change.sessionId change.turnId
  let artifacts ← lift (bridge.storeSnapshots session active change)
  let newVersion ← applyChange session active change
  lift (bridge.reportChange session active change artifacts newVersion)
  return newVersion

/-- What `record_artifact` stores as the artifact's metadata. -/
def artifactMetadata (artifact : ExecutionArtifact) : Fields :=
  let own := update
    (update artifact.metadata
      [("schema_version", .str bridge.schemaVersion),
        ("source", .str bridge.source),
        ("external_session_id", .str artifact.sessionId)])
    (compact
      [("kind", some (.str artifact.kind)), ("uri", artifact.uri.map Json.str),
        ("content_ref", artifact.contentRef.map Json.str),
        ("external_id", artifact.externalId.map Json.str),
        ("lineage", some (.obj artifact.lineage)),
        ("derived_outputs", some (.obj artifact.derivedOutputs))])
  if artifact.isMedia then update own artifact.toArtifactMetadata else own

def manifest (artifact : ExecutionArtifact) : Fields :=
  if artifact.isMedia then artifact.toContent
  else compact
    [("content_ref", artifact.contentRef.map Json.str),
      ("derived_outputs", some (.obj artifact.derivedOutputs)),
      ("external_id", artifact.externalId.map Json.str),
      ("kind", some (.str artifact.kind)),
      ("lineage", some (.obj artifact.lineage)),
      ("metadata", some (.obj artifact.metadata)),
      ("schema_version", some (.str bridge.schemaVersion)),
      ("source", some (.str bridge.source)),
      ("uri", artifact.uri.map Json.str)]

/-- `record_artifact` once the session is known. -/
def keepArtifact (artifact : ExecutionArtifact) (session : BridgeSession)
    (active : Option LeasedTurn) : RuntimeM String := do
  let written ← bridge.gateway.putJson (.obj (bridge.manifest artifact))
  let artifactId ← store (.createArtifact
    { runId := session.runId
      stepId := active.map fun turn => turn.stepId
      name := artifact.name
      blobHash := written.1
      blobRef := written.2
      metadata := bridge.artifactMetadata artifact })
  let stateVersion ← versionOf session.runId active
  report "artifact_created"
    { runId := session.runId
      sessionId := some session.sessionId
      stepId := active.map fun turn => turn.stepId
      type := .reported "artifact_created"
      payload := .obj (compact
        [("artifact_id", some (.str artifactId)),
          ("external_id", artifact.externalId.map Json.str),
          ("external_session_id", some (.str artifact.sessionId)),
          ("external_turn_id", artifact.turnId.map Json.str),
          ("kind", some (.str artifact.kind)),
          ("name", some (.str artifact.name)),
          ("source", some (.str bridge.source))])
      agentRole := active.map fun turn => turn.agentRole
      stateVersion := some stateVersion
      payloadHash := some written.1
      payloadRef := some written.2 }
  return artifactId

def recordArtifact (artifact : ExecutionArtifact) : BridgeM String := do
  lift (orRaise artifact.check)
  let session ← ensureSession { sessionId := artifact.sessionId }
  let memory ← retrieve
  let active := memory.activeOf artifact.sessionId artifact.turnId
  lift (bridge.keepArtifact artifact session active)

end SessionBridge

/-! ### Sequences of operations -/

inductive BridgeOperation
  | sessionStarted (session : ExecutionSession)
  | turnStarted (turn : ExecutionTurn)
  | turnCompleted (turn : ExecutionTurn)
  | modelCall (record : ExecutionModelCall)
  | toolProposal (proposal : ExecutionToolProposal)
  | executionEvent (event : ExecutionEvent)
  | toolExecution (execution : ToolExecution)
  | failure (failure : ExecutionFailure)
  | stateChange (change : ExecutionStateChange)
  | artifact (artifact : ExecutionArtifact)

namespace BridgeOperation

/-- The session that the operation is recorded in. -/
def sessionId : BridgeOperation → String
  | .sessionStarted session => session.sessionId
  | .turnStarted turn => turn.sessionId
  | .turnCompleted turn => turn.sessionId
  | .modelCall record => record.sessionId
  | .toolProposal proposal => proposal.sessionId
  | .executionEvent event => event.sessionId
  | .toolExecution execution => execution.sessionId
  | .failure report => report.sessionId
  | .stateChange change => change.sessionId
  | .artifact record => record.sessionId

@[reducible] def Result : BridgeOperation → Type
  | .sessionStarted _ => String
  | .turnStarted _ => String
  | .turnCompleted _ => Int
  | .modelCall _ => (String × String) × String × String
  | .toolProposal _ => String
  | .executionEvent _ => Unit
  | .toolExecution _ => LedgerStatus
  | .failure _ => Unit
  | .stateChange _ => Option Int
  | .artifact _ => String

def body (bridge : SessionBridge) :
    (operation : BridgeOperation) → BridgeM operation.Result
  | .sessionStarted session => bridge.recordSessionStarted session
  | .turnStarted turn => bridge.recordTurnStarted turn
  | .turnCompleted turn => bridge.recordTurnCompleted turn
  | .modelCall record => bridge.recordModelCall record
  | .toolProposal proposal => bridge.recordToolProposal proposal
  | .executionEvent event => bridge.recordExecutionEvent event
  | .toolExecution execution => bridge.recordToolExecution execution
  | .failure report => bridge.recordFailure report
  | .stateChange change => bridge.recordStateChange change
  | .artifact record => bridge.recordArtifact record

end BridgeOperation

/-- One operation of a bridge that has its sessions to itself. -/
def SessionBridge.next (bridge : SessionBridge)
    (label : BridgeOperation × Moment) (state : BridgeState) : BridgeState :=
  (state.alone label.2 (label.1.body bridge)).2

end AgentLedger
