import AgentLedger.Tools.Gateway

namespace AgentLedger

open Foundation

/-! `ExecutionEvidenceBridge.record_tool_execution`: a tool that another runtime
has executed is entered in the ledger. -/

/-- `_ActiveTurn`. -/
structure ActiveTurn where
  runId : String
  sessionId : String
  stepId : String
  agentRole : String
  stateVersion : Int

structure ToolExecution where
  sessionId : String
  turnId : String
  toolName : String
  arguments : Fields := []
  result : Json := .null
  toolCallId : Option String := none
  toolVersion : String := "external"
  idempotencyKey : Option String := none
  ledgerStatus : Option String := none
  errorType : Option String := none
  errorMessage : Option String := none
  externalId : Option String := none
  causalToken : Option String := none
  metadata : Fields := []

/-- The values that are neither `None` nor empty. -/
def nonEmpty (value : Option String) : Option String :=
  value.filter fun text => !text.isEmpty

/-- `_ledger_status`. -/
def ledgerStatus (value errorMessage : Option String) :
    Except PyError LedgerStatus :=
  match value with
  | none =>
      .ok (if (nonEmpty errorMessage).isNone then .succeeded
        else .pendingVerification)
  | some text =>
      match upper (strip text) with
      | "SUCCESS" | "SUCCEEDED" | "COMPLETED" | "OK" => .ok .succeeded
      | "FAILED" | "PENDING_VERIFICATION" | "UNKNOWN" =>
          .ok .pendingVerification
      | "FAILED_NO_EFFECT" | "NO_EFFECT" => .ok .failedNoEffect
      | "COMPENSATED" => .ok .compensated
      | "RUNNING" => .ok .running
      | "RESERVED" => .ok .reserved
      | _ => .error (.valueError ("unsupported Tool Ledger status: " ++ text))

/-- `_compact`: the items that are not `None`. -/
def compact (items : List (String × Option Json)) : Fields :=
  items.filterMap fun item => item.2.map fun value => (item.1, value)

structure ExecutionEvidenceBridge where
  gateway : ToolGateway
  name : String := "execution-evidence-bridge"
  source : String := "external"
  schemaVersion : String := "agentledger.execution.evidence.v1"

namespace ExecutionEvidenceBridge

variable (bridge : ExecutionEvidenceBridge)

/-- `_bridge_metadata`. -/
def metadata (execution : ToolExecution) : Fields :=
  [("schema_version", Json.str bridge.schemaVersion),
    ("adapter", .str bridge.name), ("source", .str bridge.source),
    ("external_session_id", .str execution.sessionId),
    ("external_turn_id", .str execution.turnId)].foldl
    (fun fields item => Fields.set fields item.1 item.2) execution.metadata

/-- `_external_id_from_result`. -/
def externalIdFromResult (result : Json) : Option String :=
  match Fields.get? result.fields "external_id" with
  | none | some .null => none
  | some value => some (bridge.gateway.text value)

/-- What `record_tool_execution` has settled on before it reserves the key. -/
structure Record where
  turn : ActiveTurn
  execution : ToolExecution
  toolCallId : String
  key : String
  causalToken : String
  requestHash : String
  requestRef : String

def event (record : Record) (name : String) (payload : Fields)
    (payloadHash payloadRef : Option String) : EventArgs :=
  { runId := record.turn.runId
    sessionId := some record.turn.sessionId
    stepId := some record.turn.stepId
    type := .reported name
    payload := .obj payload
    agentRole := some record.turn.agentRole
    stateVersion := some record.turn.stateVersion
    causalToken := some (.str record.causalToken)
    payloadHash := payloadHash
    payloadRef := payloadRef }

def ledgerArgs (record : Record) : LedgerArgs :=
  { runId := record.turn.runId
    sessionId := some record.turn.sessionId
    stepId := record.turn.stepId
    toolName := record.execution.toolName
    toolVersion := record.execution.toolVersion
    toolCallId := record.toolCallId
    idempotencyKey := record.key
    causalToken := .str record.causalToken
    requestHash := record.requestHash
    requestRef := record.requestRef }

def requestPayload (execution : ToolExecution) (toolCallId : String) :
    Fields :=
  [("args", .obj execution.arguments),
    ("external_session_id", .str execution.sessionId),
    ("external_turn_id", .str execution.turnId),
    ("metadata", .obj (bridge.metadata execution)),
    ("schema_version", .str bridge.schemaVersion),
    ("source", .str bridge.source), ("tool", .str execution.toolName),
    ("tool_call_id", .str toolCallId)]

def replayedPayload (record : Record) (existing : LedgerRow) : Fields :=
  compact
    [("adapter", some (.str bridge.name)),
      ("external_session_id", some (.str record.execution.sessionId)),
      ("external_turn_id", some (.str record.execution.turnId)),
      ("idempotency_key", some (.str record.key)),
      ("replayed_from_ledger", some (.bool true)),
      ("response_hash", existing.responseHash.map Json.str),
      ("response_ref", existing.responseRef.map Json.str),
      ("schema_version", some (.str bridge.schemaVersion)),
      ("source", some (.str bridge.source)),
      ("tool", some (.str record.execution.toolName)),
      ("tool_call_id", some (.str record.toolCallId))]

def settledPayload (record : Record) (status : LedgerStatus)
    (response : Option (String × String)) : Fields :=
  compact
    [("adapter", some (.str bridge.name)),
      ("error", record.execution.errorMessage.map Json.str),
      ("error_type", record.execution.errorType.map Json.str),
      ("external_session_id", some (.str record.execution.sessionId)),
      ("external_turn_id", some (.str record.execution.turnId)),
      ("idempotency_key", some (.str record.key)),
      ("ledger_status", some (.str status.text)),
      ("response_hash", response.map fun written => .str written.1),
      ("response_ref", response.map fun written => .str written.2),
      ("schema_version", some (.str bridge.schemaVersion)),
      ("source", some (.str bridge.source)),
      ("tool", some (.str record.execution.toolName)),
      ("tool_call_id", some (.str record.toolCallId))]

/-- `put_json` of a result, if there is one. -/
def putResult (result : Json) : RuntimeM (Option (String × String)) :=
  match result with
  | .null => .done none
  | result => do
      let written ← bridge.gateway.putJson result
      return some written

/-- The part after the ledger has let the execution pass. -/
def settle (record : Record) : RuntimeM LedgerStatus := do
  let execution := record.execution
  let status ← orRaise (ledgerStatus execution.ledgerStatus
    ((nonEmpty execution.errorMessage).orElse fun _ => execution.errorType))
  let response ← bridge.putResult execution.result
  store (.updateLedger
    { idempotencyKey := record.key
      status := status
      externalId := (nonEmpty execution.externalId).orElse fun _ =>
        bridge.externalIdFromResult execution.result
      responseHash := response.map Prod.fst
      responseRef := response.map Prod.snd
      errorType := execution.errorType })
  let name := match status with
    | .succeeded | .compensated => "tool_call_completed"
    | _ => "tool_call_failed"
  report name (event record name (bridge.settledPayload record status response)
    none none)
  if status = .reserved ∨ status = .running then return status
  else
    let _ ← store (.recordCost
      { runId := record.turn.runId
        sessionId := some record.turn.sessionId
        stepId := some record.turn.stepId
        category := "tool"
        name := execution.toolName
        amount := 1
        unit := "call"
        metadata :=
          [("external_runtime", .str bridge.source),
            ("ledger_status", .str status.text)] })
    return status

/-- The part up to the event it opens with. -/
def open_ (turn : ActiveTurn) (execution : ToolExecution) :
    RuntimeM Record := do
  let toolCallId ← match nonEmpty execution.toolCallId with
    | some id => .done id
    | none => Runtime.newId "toolcall"
  let payload := bridge.requestPayload execution toolCallId
  let (requestHash, requestRef) ← bridge.gateway.putJson (.obj payload)
  let scope := bridge.source ++ ":" ++ execution.sessionId ++ ":" ++
    execution.turnId
  let record : Record :=
    { turn := turn
      execution := execution
      toolCallId := toolCallId
      key := (nonEmpty execution.idempotencyKey).getD
        (scope ++ ":" ++ execution.toolName ++ ":" ++ toolCallId)
      causalToken := (nonEmpty execution.causalToken).getD
        (scope ++ ":" ++ toolCallId)
      requestHash := requestHash
      requestRef := requestRef }
  report "tool_call_requested" (event record "tool_call_requested" payload
    (some requestHash) (some requestRef))
  return record

/-- `record_tool_execution` in a turn that is active. -/
def recordToolExecution (turn : ActiveTurn) (execution : ToolExecution) :
    RuntimeM LedgerStatus := do
  let record ← bridge.open_ turn execution
  match ← store (.reserveLedger (ledgerArgs record)) with
  | none => bridge.settle record
  | some existing =>
      match existing.status with
      | .succeeded => do
          report "tool_call_completed" (event record "tool_call_completed"
            (bridge.replayedPayload record existing) none none)
          return .succeeded
      | .pendingVerification =>
          .raise (.runtimeError "tool side effect pending verification")
      | .reserved | .running =>
          .raise (.runtimeError "tool side effect already in progress")
      | .failedNoEffect | .compensated => bridge.settle record

theorem yields_open (turn : ActiveTurn) (execution : ToolExecution) :
    (bridge.open_ turn execution).Yields fun record =>
      record.execution = execution := by
  unfold open_
  cases nonEmpty execution.toolCallId with
  | some id =>
      apply Program.Yields.bind
      intro toolCallId
      apply Program.Yields.bind
      intro written
      apply Program.Yields.bind
      intro _
      rfl
  | none =>
      apply Program.Yields.bind
      intro toolCallId
      apply Program.Yields.bind
      intro written
      apply Program.Yields.bind
      intro _
      rfl

section Uses

variable {bridge} {allowed : Command → Prop}
  (routine : bridge.gateway.Routine allowed)

include routine

theorem uses_open (turn : ActiveTurn) (execution : ToolExecution) :
    (bridge.open_ turn execution).Uses allowed := by
  have opened (record : Record) (payload : Fields)
      (written : String × String) :
      (do
        report "tool_call_requested" (event record "tool_call_requested"
          payload (some written.1) (some written.2))
        return record : RuntimeM Record).Uses allowed :=
    (routine.uses_report _ _).bind fun _ => trivial
  unfold open_
  cases nonEmpty execution.toolCallId with
  | some id =>
      exact (routine.uses_putJson _).bind fun _ => opened _ _ _
  | none =>
      refine Program.Uses.bind ⟨routine.newId _, fun _ => trivial⟩ fun id => ?_
      exact (routine.uses_putJson _).bind fun _ => opened _ _ _

theorem uses_putResult (result : Json) :
    (bridge.putResult result).Uses allowed := by
  unfold putResult
  split
  · trivial
  · exact (routine.uses_putJson _).bind fun _ => trivial

variable (updates : ∀ update, allowed (.store (.updateLedger update)))

include updates

theorem uses_settle (record : Record) :
    (bridge.settle record).Uses allowed := by
  apply (uses_orRaise _).bind
  intro status
  apply (uses_putResult routine _).bind
  intro response
  apply (uses_store (updates _)).bind
  intro _
  apply (routine.uses_report _ _).bind
  intro _
  split
  · trivial
  · exact (routine.uses_store rfl).bind fun _ => trivial

theorem uses_recordToolExecution (turn : ActiveTurn)
    (execution : ToolExecution) :
    (bridge.recordToolExecution turn execution).Uses allowed := by
  apply (uses_open routine turn execution).bind
  intro record
  apply (routine.uses_store rfl).bind
  intro existing
  cases existing with
  | none => exact uses_settle routine updates record
  | some row =>
      simp only
      split
      · exact (routine.uses_report _ _).bind fun _ => trivial
      · trivial
      · trivial
      · trivial
      · exact uses_settle routine updates record
      · exact uses_settle routine updates record

end Uses

end ExecutionEvidenceBridge

def chargeBridge : ExecutionEvidenceBridge := { gateway := chargeGateway }

end AgentLedger
