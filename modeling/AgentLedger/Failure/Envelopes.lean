import AgentLedger.Failure.Texts
import AgentLedger.Foundation.Distinct
import AgentLedger.Store.Operations

namespace AgentLedger

open Foundation

/-! `failure.py`: the failures that the rows and the events of a run tell of. -/

/-- What `report` reads of a run. -/
structure Snapshot where
  runId : String
  runStatus : String
  steps : List StepRow
  ledger : List LedgerRow
  approvals : List ApprovalRow
  events : List EventRow

/-- A text, or that of the column `payload_ref`. -/
inductive RefValue
  | text (value : String)
  | payload (ref : PayloadRef)
  deriving DecidableEq

structure FailureRef where
  kind : String
  value : RefValue
  deriving DecidableEq

structure FailureEnvelope where
  failureId : String
  runId : String
  sourceKind : String
  sourceId : String
  category : String
  status : String
  severity : String
  recoverability : String
  retryability : String
  owner : String
  message : String
  causalRefs : List FailureRef
  evidenceRefs : List FailureRef
  stepId : Option String := none
  toolName : Option String := none
  approvalId : Option String := none
  eventSeq : Option Nat := none
  eventType : Option String := none
  deriving DecidableEq

/-! ### What an event is read as -/

/-- `FAILURE_EVENT_TYPES`. -/
def failureEventTypes : List String :=
  ["failure_classified", "error_raised", "step_failed", "step_retry_scheduled",
    "step_waiting_human", "lease_expired", "run_cancel_requested",
    "run_cancelled", "step_cancelled", "model_call_failed", "tool_call_failed",
    "tool_approval_required", "tool_call_blocked"]

/-- `_event_dict`'s payload under `_safe_dict`. -/
def EventRow.payload (event : EventRow) : Fields :=
  match event.payloadRef with
  | .inline payload => payload.fields
  | .blob _ => []

/-- `first or second`. -/
def orValue (first second : Json) : Json :=
  if truthy first then first else second

def EventRow.step (event : EventRow) : Json :=
  orValue (Json.optional event.stepId) (getOrNone event.payload "step_id")

/-- What `_text` and `_message` take of a value. -/
def givenText (value : Json) : Bool :=
  decide (value ≠ .null) && decide (value ≠ .str "")

/-- What the event tells in words. -/
def EventRow.told (event : EventRow) : Option Json :=
  [getOrNone event.payload "error", getOrNone event.payload "reason"].find?
    givenText

/-- `payload.get("retryable") is value`. -/
def retryableIs (payload : Fields) (value : Bool) : Bool :=
  decide (getOrNone payload "retryable" = .bool value)

/-- `_event_failure_status`. -/
def eventFailureStatus (eventType : String) (payload : Fields)
    (runStatus : String) : String :=
  if eventType ∈ ["step_failed", "run_cancelled", "step_cancelled"] ∨
      runStatus ∈ ["failed", "cancelled"] ∧ eventType = "error_raised" then
    "terminal"
  else if eventType = "tool_call_blocked" then "blocked"
  else if eventType ∈ ["step_retry_scheduled", "lease_expired"] then
    "recovery_scheduled"
  else if eventType ∈ ["step_waiting_human", "tool_approval_required"] then
    "waiting_human"
  else if eventType = "failure_classified" then "classified"
  else if retryableIs payload true then "recoverable"
  else "failed"

/-- `_event_recoverability`. -/
def eventRecoverability (eventType : String) (payload : Fields)
    (runStatus : String) : String :=
  if runStatus ∈ ["failed", "cancelled"] ∧
      eventType ∈ ["step_failed", "run_cancelled", "step_cancelled"] then
    "terminal"
  else if eventType ∈ ["step_retry_scheduled", "lease_expired"] then
    "auto_retry"
  else if eventType ∈ ["step_waiting_human", "tool_approval_required"] then
    "human_required"
  else if eventType = "tool_call_blocked" then "manual_intervention"
  else if retryableIs payload true then "recoverable"
  else "unknown"

/-- `_event_retryability`. -/
def eventRetryability (eventType : String) (payload : Fields)
    (recoverability : String) : String :=
  if retryableIs payload true ∨ recoverability = "auto_retry" then "retryable"
  else if retryableIs payload false ∨
      eventType ∈ ["tool_call_blocked", "run_cancelled", "step_cancelled"] then
    "not_retryable"
  else "unknown"

/-- `_owner_for_category`. -/
def ownerForCategory (category : String) : String :=
  if category ∈ ["tool", "model", "policy", "sandbox", "budget", "runtime"] then
    category
  else if category ∈ ["approval", "cancellation", "retry"] then "runtime"
  else "agent"

/-- `value is not None and value != ""`. -/
def RefValue.given : RefValue → Bool
  | .text value => !value.isEmpty
  | .payload (.inline _) => true
  | .payload (.blob ref) => !ref.isEmpty

/-- `_refs`. -/
def failureRefs (stepId : Option String) (toolName approvalId : Option String)
    (eventSeq : Option Nat) (blobRef : Option RefValue) : List FailureRef :=
  [("step", stepId.map .text), ("tool", toolName.map .text),
    ("approval", approvalId.map .text),
    ("event", eventSeq.map fun seq => .text (toString seq)),
    ("blob", blobRef)].filterMap fun ref =>
      (ref.2.filter RefValue.given).map fun value => ⟨ref.1, value⟩

theorem failureRefs_ne_nil_of_step {stepId : String} (given : stepId ≠ "")
    (toolName approvalId : Option String) (eventSeq : Option Nat)
    (blobRef : Option RefValue) :
    failureRefs (some stepId) toolName approvalId eventSeq blobRef ≠ [] := by
  simp [failureRefs, RefValue.given, given]

theorem failureRefs_ne_nil_of_event (stepId toolName approvalId : Option String)
    (eventSeq : Nat) (blobRef : Option RefValue) :
    failureRefs stepId toolName approvalId (some eventSeq) blobRef ≠ [] := by
  have member : (⟨"event", .text (toString eventSeq)⟩ : FailureRef) ∈
      failureRefs stepId toolName approvalId (some eventSeq) blobRef := by
    simp [failureRefs, RefValue.given]
  exact List.ne_nil_of_mem member

/-! ### The envelopes -/

namespace FailureTexts

variable (texts : FailureTexts)

/-- `_category_from_event`. -/
def categoryFromEvent (eventType : String) (payload : Fields) : String :=
  if eventType = "model_call_failed" then "model"
  else if eventType ∈ ["tool_call_failed", "tool_call_blocked",
      "tool_approval_required"] then "tool"
  else if eventType ∈ ["run_cancel_requested", "run_cancelled",
      "step_cancelled"] then "cancellation"
  else if eventType = "lease_expired" then "runtime"
  else if eventType = "step_retry_scheduled" then "retry"
  else if eventType = "step_waiting_human" then "approval"
  else texts.categoryFromText
    [.str eventType, getOrNone payload "error_type", getOrNone payload "error",
      getOrNone payload "reason"] "agent"

/-- `_from_step`. -/
def fromStep (runId runStatus : String) (row : StepRow) : FailureEnvelope :=
  let ended_ := runStatus = "failed" ∨ runStatus = "cancelled"
  let stepId := texts.text (.str row.stepId)
  let sourceId := stepId.getD runId
  let (status, severity, recoverability, retryability) :=
    match row.status with
    | .retryScheduled =>
        ("recovery_scheduled", "warn", "auto_retry", "retryable")
    | .waitingHuman => ("waiting_human", "warn", "human_required", "unknown")
    | _ =>
        if ended_ then ("terminal", "risk", "terminal", "not_retryable")
        else ("failed", "risk", "recoverable", "unknown")
  { failureId := texts.failureId runId "step" sourceId
    runId := runId
    sourceKind := SourceKind.step.text
    sourceId := sourceId
    category := texts.categoryFromText
      [Json.optional row.lastErrorType, Json.optional row.lastError] "agent"
    status := status
    severity := severity
    recoverability := recoverability
    retryability := retryability
    owner := "agent"
    message := texts.message
      [Json.optional row.lastError, Json.optional row.lastErrorType,
        .str "step failure"]
    causalRefs := failureRefs stepId none none none none
    evidenceRefs := failureRefs stepId none none none none
    stepId := stepId }

/-- `_from_ledger`.  The table has no column `error`. -/
def fromLedger (runId : String) (row : LedgerRow) : FailureEnvelope :=
  let terminal := row.status.text ∈ ["FAILED", "ERROR"]
  let stepId := texts.text (.str row.stepId)
  let toolName := texts.text (.str row.toolName)
  let sourceId := ((texts.text (.str row.ledgerId)).or
    (toolName.or stepId)).getD runId
  { failureId := texts.failureId runId "tool_ledger" sourceId
    runId := runId
    sourceKind := SourceKind.toolLedger.text
    sourceId := sourceId
    category := "tool"
    status := if terminal then "terminal" else "unknown_side_effect"
    severity := if terminal then "risk" else "warn"
    recoverability := if terminal then "terminal" else "manual_verification"
    retryability := if terminal then "not_retryable" else "unknown"
    owner := "tool"
    message := texts.message
      [.null, Json.optional row.errorType,
        .str "tool side effect requires verification"]
    causalRefs := failureRefs stepId toolName none none none
    evidenceRefs := failureRefs stepId toolName none none
      (row.responseRef.map .text)
    stepId := stepId
    toolName := toolName }

/-- `_from_approval`. -/
def fromApproval (runId runStatus : String) (row : ApprovalRow) :
    FailureEnvelope :=
  let denied := row.status = .denied
  let ended_ := runStatus = "failed" ∨ runStatus = "cancelled"
  let stepId := texts.text (.str row.stepId)
  let toolName := texts.text (.str row.toolName)
  let approvalId := texts.text (.str row.approvalId)
  let sourceId := (approvalId.or (toolName.or stepId)).getD runId
  { failureId := texts.failureId runId "approval" sourceId
    runId := runId
    sourceKind := SourceKind.approval.text
    sourceId := sourceId
    category := if denied then "policy" else "approval"
    status := if denied then "blocked" else "waiting_human"
    severity := if denied then "risk" else "warn"
    recoverability := if denied ∧ ended_ then "terminal" else "human_required"
    retryability := if denied then "not_retryable" else "unknown"
    owner := "policy"
    message := texts.message
      [Json.optional row.decisionReason, Json.optional row.reason,
        .str (if denied then "approval denied" else "approval is pending")]
    causalRefs := failureRefs stepId toolName approvalId none none
    evidenceRefs := failureRefs stepId toolName approvalId none none
    stepId := stepId
    toolName := toolName
    approvalId := approvalId }

def eventStepId (event : EventRow) : Option String :=
  texts.text event.step

def eventToolName (payload : Fields) : Option String :=
  texts.text (orValue
    (orValue (getOrNone payload "tool_name") (getOrNone payload "tool"))
    (getOrNone payload "name"))

def eventMessage (eventType : String) (payload : Fields) : String :=
  texts.message
    [getOrNone payload "error", getOrNone payload "reason",
      getOrNone payload "error_type", .str eventType]

/-- `_from_event`. -/
def fromEvent (runId runStatus : String) (event : EventRow) :
    FailureEnvelope :=
  let payload := event.payload
  let eventType := event.type.text
  let category := texts.categoryFromEvent eventType payload
  let status := eventFailureStatus eventType payload runStatus
  let recoverability := eventRecoverability eventType payload runStatus
  let stepId := texts.eventStepId event
  let toolName := texts.eventToolName payload
  let approvalId := texts.text (getOrNone payload "approval_id")
  { failureId := texts.failureId runId "event" (toString event.seq)
    runId := runId
    sourceKind := SourceKind.event.text
    sourceId := toString event.seq
    category := category
    status := status
    severity :=
      if status ∈ ["terminal", "blocked", "failed"] then "risk" else "warn"
    recoverability := recoverability
    retryability := eventRetryability eventType payload recoverability
    owner := ownerForCategory category
    message := texts.eventMessage eventType payload
    causalRefs := failureRefs stepId toolName approvalId event.seq none
    evidenceRefs := failureRefs stepId toolName approvalId event.seq
      (some (.payload event.payloadRef))
    stepId := stepId
    toolName := toolName
    approvalId := approvalId
    eventSeq := some event.seq
    eventType := some eventType }

/-- The envelope of a run that was cancelled and tells of it nowhere else. -/
def fromRun (runId : String) : FailureEnvelope :=
  { failureId := texts.failureId runId "run" runId
    runId := runId
    sourceKind := SourceKind.run.text
    sourceId := runId
    category := "cancellation"
    status := "terminal"
    severity := "risk"
    recoverability := "terminal"
    retryability := "not_retryable"
    owner := "runtime"
    message := "run was cancelled"
    causalRefs := [⟨"run", .text runId⟩]
    evidenceRefs := [] }

end FailureTexts

/-! ### The snapshot -/

def StepRow.fails (row : StepRow) : Bool :=
  decide (row.status.text ∈ ["failed", "retry_scheduled", "waiting_human"])

def LedgerRow.fails (row : LedgerRow) : Bool :=
  decide (row.status.text ∈ ["PENDING_VERIFICATION", "FAILED", "ERROR"])

def ApprovalRow.fails (row : ApprovalRow) : Bool :=
  decide (row.status.text ∈ ["PENDING", "DENIED"])

def EventRow.fails (event : EventRow) : Bool :=
  decide (event.type.text ∈ failureEventTypes)

namespace FailureTexts

variable (texts : FailureTexts)

/-- The four loops of `from_snapshot`. -/
def rowEnvelopes (snapshot : Snapshot) : List FailureEnvelope :=
  let runId := snapshot.runId
  let runStatus := snapshot.runStatus
  (snapshot.steps.filter StepRow.fails).map (texts.fromStep runId runStatus) ++
    (snapshot.ledger.filter LedgerRow.fails).map (texts.fromLedger runId) ++
    (snapshot.approvals.filter ApprovalRow.fails).map
      (texts.fromApproval runId runStatus) ++
    (snapshot.events.filter EventRow.fails).map
      (texts.fromEvent runId runStatus)

/-- `from_snapshot`, before `_dedupe_envelopes`. -/
def allEnvelopes (snapshot : Snapshot) : List FailureEnvelope :=
  let envelopes := texts.rowEnvelopes snapshot
  if snapshot.runStatus = "cancelled" ∧
      ¬ envelopes.any fun item => item.category = "cancellation" then
    envelopes ++ [texts.fromRun snapshot.runId]
  else envelopes

/-- `from_snapshot`; no id is empty. -/
def fromSnapshot (snapshot : Snapshot) : List FailureEnvelope :=
  firsts FailureEnvelope.failureId (texts.allEnvelopes snapshot)

/-- Where an envelope of the snapshot comes from. -/
inductive Source (snapshot : Snapshot) : SourceKind → FailureEnvelope → Prop
  | step (row : StepRow) (member : row ∈ snapshot.steps) (fails : row.fails) :
      Source snapshot .step
        (texts.fromStep snapshot.runId snapshot.runStatus row)
  | ledger (row : LedgerRow) (member : row ∈ snapshot.ledger)
      (fails : row.fails) :
      Source snapshot .toolLedger (texts.fromLedger snapshot.runId row)
  | approval (row : ApprovalRow) (member : row ∈ snapshot.approvals)
      (fails : row.fails) :
      Source snapshot .approval
        (texts.fromApproval snapshot.runId snapshot.runStatus row)
  | event (event : EventRow) (member : event ∈ snapshot.events)
      (fails : event.fails) :
      Source snapshot .event
        (texts.fromEvent snapshot.runId snapshot.runStatus event)
  | run (cancelled : snapshot.runStatus = "cancelled" ∧
        ¬ (texts.rowEnvelopes snapshot).any fun item =>
          item.category = "cancellation") :
      Source snapshot .run (texts.fromRun snapshot.runId)

variable {texts} {snapshot : Snapshot} {kind : SourceKind}
  {envelope : FailureEnvelope}

theorem source_of_rowEnvelope
    (member : envelope ∈ texts.rowEnvelopes snapshot) :
    ∃ kind, texts.Source snapshot kind envelope := by
  simp only [rowEnvelopes, List.mem_append, List.mem_map, List.mem_filter]
    at member
  rcases member with ((⟨row, found, rfl⟩ | ⟨row, found, rfl⟩) |
    ⟨row, found, rfl⟩) | ⟨event, found, rfl⟩
  · exact ⟨_, .step row found.1 found.2⟩
  · exact ⟨_, .ledger row found.1 found.2⟩
  · exact ⟨_, .approval row found.1 found.2⟩
  · exact ⟨_, .event event found.1 found.2⟩

theorem source_of_mem (member : envelope ∈ texts.allEnvelopes snapshot) :
    ∃ kind, texts.Source snapshot kind envelope := by
  simp only [allEnvelopes] at member
  split at member
  · rename_i cancelled
    rcases List.mem_append.mp member with among | last
    · exact source_of_rowEnvelope among
    · rw [List.mem_singleton.mp last]
      exact ⟨_, .run cancelled⟩
  · exact source_of_rowEnvelope member

theorem Source.mem (source : texts.Source snapshot kind envelope) :
    envelope ∈ texts.allEnvelopes snapshot := by
  have rows : envelope ∈ texts.rowEnvelopes snapshot →
      envelope ∈ texts.allEnvelopes snapshot := by
    intro member
    simp only [allEnvelopes]
    split
    · exact List.mem_append_left _ member
    · exact member
  cases source with
  | step row member fails =>
      apply rows
      simp only [rowEnvelopes, List.mem_append, List.mem_map, List.mem_filter]
      exact .inl (.inl (.inl ⟨row, ⟨member, fails⟩, rfl⟩))
  | ledger row member fails =>
      apply rows
      simp only [rowEnvelopes, List.mem_append, List.mem_map, List.mem_filter]
      exact .inl (.inl (.inr ⟨row, ⟨member, fails⟩, rfl⟩))
  | approval row member fails =>
      apply rows
      simp only [rowEnvelopes, List.mem_append, List.mem_map, List.mem_filter]
      exact .inl (.inr ⟨row, ⟨member, fails⟩, rfl⟩)
  | event event member fails =>
      apply rows
      simp only [rowEnvelopes, List.mem_append, List.mem_map, List.mem_filter]
      exact .inr ⟨event, ⟨member, fails⟩, rfl⟩
  | run cancelled =>
      simp only [allEnvelopes]
      rw [if_pos cancelled]
      exact List.mem_append_right _ (List.mem_singleton_self _)

theorem Source.identified (source : texts.Source snapshot kind envelope) :
    envelope.failureId = texts.failureId snapshot.runId kind.text
      envelope.sourceId := by
  cases source <;> rfl

/-- An envelope is left out only for one of the same kind with its id. -/
theorem Source.kept (source : texts.Source snapshot kind envelope) :
    ∃ kept ∈ texts.fromSnapshot snapshot, texts.Source snapshot kind kept ∧
      kept.failureId = envelope.failureId := by
  obtain ⟨kept, among, same⟩ : ∃ kept ∈ texts.fromSnapshot snapshot,
      kept.failureId = envelope.failureId := exists_mem_firsts source.mem
  obtain ⟨other, own⟩ := source_of_mem (mem_of_mem_firsts among)
  have kinds : other = kind := by
    have ids := same
    rw [own.identified, source.identified] at ids
    exact kind_of_failureId_eq ids
  exact ⟨kept, among, kinds ▸ own, same⟩

end FailureTexts

end AgentLedger
