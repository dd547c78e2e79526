import AgentLedger.Go.Schema

namespace AgentLedger.Go

open Foundation

/-! The methods of `JSONStore`, each under its lock.  A method reads the store,
the clock and the next ids of the process; what it writes is listed in order. -/

abbrev Method (α : Type) := Process → Outcome GoError Write α

abbrev Checked (α : Type) := Except GoError α

/-- The members of a new `JSONObject`, as `cloneJSONObject` leaves it: empty if
one of them cannot be encoded. -/
def object (members : List (String × Option Json)) : JsonObject :=
  match members.mapM fun member => member.2.map fun value =>
      (member.1, value) with
  | some fields => ⟨Json.normalFields fields, Json.canonical_normalFields _⟩
  | none => .empty

def text (value : String) : Option Json := some (.str value)

def count (value : Int) : Option Json := some (.int value)

def truth (value : Bool) : Option Json := some (.bool value)

def nested (value : JsonObject) : Option Json := some value.value

section Methods

variable (random : Randomness)

def findRun (data : StoreData) (runId : String) : Checked Run :=
  match data.runs.get? runId with
  | some run => .ok run
  | none => .error (.other ("run not found: " ++ runId))

def findStep (data : StoreData) (stepId : String) : Checked Step :=
  match data.steps.get? stepId with
  | some step => .ok step
  | none => .error (.other ("step not found: " ++ stepId))

def validateLeaseLocked (process : Process) (stepId leaseToken : String) :
    Checked Step := do
  let step ← findStep process.data stepId
  if step.status ≠ "running" ∨ step.leaseToken ≠ leaseToken then
    throw (.other "invalid or stale lease token")
  else if !step.leaseUntil.eq .zero && step.leaseUntil.lt (process.clock 0) then
    throw (.other "lease expired")
  else return step

def newStep (stepId runId sessionId : String) (stateVersion : Int)
    (now : Float64) : Step :=
  { stepId := stepId
    runId := runId
    sessionId := sessionId
    status := "pending"
    owner := ""
    leaseToken := ""
    leaseUntil := .zero
    attempt := 0
    stateVersion := stateVersion
    checkpointId := ""
    lastErrorType := ""
    lastError := ""
    cancelledAt := .zero
    createdAt := now
    updatedAt := now }

def createRun (sessionId : String) (initialState : JsonObject) :
    Method (String × String) := fun process =>
  let session :=
    if sessionId = "" then newId random "sess" process.drawn else sessionId
  let runId := newId random "run" (process.drawn + 1)
  let stepId := newId random "step" (process.drawn + 2)
  let now := process.clock 0
  .answer (runId, stepId)
    [.run runId
      { runId := runId
        sessionId := session
        status := "pending"
        state := initialState
        stateVersion := 0
        createdAt := now
        updatedAt := now },
      .step stepId (newStep stepId runId session 0 now),
      .event
        { runId := runId
          sessionId := session
          type := "run_created"
          payload := object [("initial_state", nested initialState)] },
      .event
        { runId := runId
          sessionId := session
          stepId := stepId
          type := "step_created"
          payload := object [("step_id", text stepId)] }]

def createExternalStep (runId : String) : Method Step := fun process =>
  .attempt do
    let run ← findRun process.data runId
    let now := process.clock 0
    let stepId := newId random "step" process.drawn
    let step := newStep stepId runId run.sessionId run.stateVersion now
    return .answer step
      [.step stepId step,
        .run runId { run with status := "pending", updatedAt := now },
        .event
          { runId := runId
            sessionId := run.sessionId
            stepId := stepId
            type := "step_created"
            stateVersion := run.stateVersion
            payload := object
              [("step_id", text stepId), ("external", truth true)] }]

def claimable (runId : String) (step : Step) : Bool :=
  (runId = "" || step.runId = runId) &&
    (step.status = "pending" || step.status = "retry_scheduled")

def earlier (step candidate : Step) : Bool :=
  step.createdAt.lt candidate.createdAt ||
    (step.createdAt.eq candidate.createdAt &&
      decide (step.stepId < candidate.stepId))

/-- The earliest is the same in every order of the map. -/
def candidate (runId : String) (data : StoreData) : Option Step :=
  data.steps.values.foldl (fun candidate step =>
    if claimable runId step &&
        candidate.all (fun other => earlier step other) then some step
    else candidate) none

def claimStep (workerId runId : String) (leaseSeconds : Int) :
    Method StepClaim := fun process =>
  match candidate runId process.data with
  | none => .refuse .noRunnableStep
  | some candidate =>
      let now := process.clock 0
      let leaseUntil := Rust.F64.add now (Rust.F64.ofRat leaseSeconds)
      let leaseToken := newId random "lease" process.drawn
      let step := { candidate with
        status := "running"
        owner := workerId
        leaseToken := leaseToken
        leaseUntil := leaseUntil
        attempt := candidate.attempt + 1
        updatedAt := now }
      let run := (process.data.runs.get? step.runId).getD .zero
      .answer
        { runId := step.runId
          sessionId := step.sessionId
          stepId := step.stepId
          attempt := step.attempt
          leaseToken := leaseToken
          stateVersion := step.stateVersion
          leaseUntil := leaseUntil }
        [.step step.stepId step,
          .run run.runId { run with status := "running", updatedAt := now },
          .event
            { runId := step.runId
              sessionId := step.sessionId
              stepId := step.stepId
              type := "step_claimed"
              payload := object
                [("worker_id", text workerId), ("lease_token", text leaseToken),
                  ("attempt", count step.attempt),
                  ("lease_until", Float64.marshal leaseUntil)] }]

def heartbeat (stepId leaseToken : String) (leaseSeconds : Int) :
    Method Float64 := fun process => .attempt do
  let step ← validateLeaseLocked process stepId leaseToken
  let now := process.clock 1
  let leaseUntil := Rust.F64.add now (Rust.F64.ofRat leaseSeconds)
  return .answer leaseUntil
    [.step stepId { step with leaseUntil := leaseUntil, updatedAt := now },
      .event
        { runId := step.runId
          sessionId := step.sessionId
          stepId := step.stepId
          type := "lease_heartbeat"
          payload := object
            [("lease_token", text leaseToken),
              ("lease_until", Float64.marshal leaseUntil)] }]

/-- The step without its lease. -/
def released (step : Step) (status : String) (now : Float64) : Step :=
  { step with
    status := status
    owner := ""
    leaseToken := ""
    leaseUntil := .zero
    updatedAt := now }

/-- `step.LeaseUntil >= now` keeps the lease. -/
def leaseExpired (step : Step) (now : Float64) : Bool :=
  step.status = "running" && !step.leaseUntil.eq .zero &&
    !(step.leaseUntil.partialCmp now).any (· ≠ .lt)

def recoverStep (process : Process) (now : Float64) (entry : String × Step) :
    List Write :=
  let step := entry.2
  let run := (process.data.runs.get? step.runId).getD .zero
  [.step entry.1 (released step "retry_scheduled" now),
    .run run.runId { run with status := "retry_scheduled", updatedAt := now },
    .event
      { runId := step.runId
        sessionId := step.sessionId
        stepId := step.stepId
        type := "lease_expired"
        payload := object
          [("previous_owner", text step.owner),
            ("attempt", count step.attempt)] },
    .event
      { runId := step.runId
        sessionId := step.sessionId
        stepId := step.stepId
        type := "step_retry_scheduled"
        payload := object
          [("step_id", text step.stepId), ("reason", text "lease_expired")] }]

def recoverExpiredLeases : Method Nat := fun process =>
  let now := process.clock 0
  let expired := process.data.steps.entries.filter fun entry =>
    leaseExpired entry.2 now
  .answer expired.length (expired.flatMap (recoverStep process now))

def terminal (status : String) : Bool :=
  status = "completed" || status = "failed" || status = "cancelled"

def cancelStep (runId reason : String) (now : Float64)
    (entry : String × Step) : List Write :=
  let step := entry.2
  [.step entry.1 { released step "cancelled" now with cancelledAt := now },
    .event
      { runId := runId
        sessionId := step.sessionId
        stepId := step.stepId
        type := "step_cancelled"
        payload := object [("reason", text reason)] }]

def cancelRun (runId reason : String) : Method Nat := fun process =>
  .attempt do
    let run ← findRun process.data runId
    if terminal run.status then return .early 0
    else
      let now := process.clock 0
      let cancelled := process.data.steps.entries.filter fun entry =>
        entry.2.runId = runId && !terminal entry.2.status
      return .answer cancelled.length
        (.event
            { runId := runId
              sessionId := run.sessionId
              type := "run_cancel_requested"
              payload := object [("reason", text reason)] } ::
          cancelled.flatMap (cancelStep runId reason now) ++
          [.run runId { run with status := "cancelled", updatedAt := now },
            .event
              { runId := runId
                sessionId := run.sessionId
                type := "run_cancelled"
                payload := object
                  [("reason", text reason),
                    ("cancelled_steps", count cancelled.length)] }])

def commitStatePatch (runId stepId leaseToken : String) (baseVersion : Int)
    (patch : JsonObject) (checkpointId : String) : Method Int := fun process =>
  .attempt do
    let step ← validateLeaseLocked process stepId leaseToken
    let run ← findRun process.data runId
    if run.stateVersion ≠ baseVersion then
      throw (.other ("state version conflict: expected " ++
        toString baseVersion ++ ", got " ++ toString run.stateVersion))
    else
      let now := process.clock 1
      let newVersion := run.stateVersion + 1
      return .answer newVersion
        [.run runId { run with
            state := mergePatch run.state patch
            stateVersion := newVersion
            status := "completed"
            updatedAt := now },
          .step stepId { step with
            status := "completed"
            stateVersion := newVersion
            checkpointId := checkpointId
            updatedAt := now },
          .event
            { runId := runId
              sessionId := step.sessionId
              stepId := stepId
              type := "state_patch_committed"
              payload := object
                [("patch", nested patch), ("state_version", count newVersion)]
              stateVersion := newVersion },
          .event
            { runId := runId
              sessionId := step.sessionId
              stepId := stepId
              type := "step_completed"
              payload := object [("step_id", text stepId)]
              stateVersion := newVersion }]

def applySystemStatePatch (runId : String) (patch : JsonObject)
    (reason : String) : Method Int := fun process => .attempt do
  let run ← findRun process.data runId
  let now := process.clock 0
  let newVersion := run.stateVersion + 1
  return .answer newVersion
    [.run runId { run with
        state := mergePatch run.state patch
        stateVersion := newVersion
        updatedAt := now },
      .event
        { runId := runId
          sessionId := run.sessionId
          type := "system_state_patch_applied"
          stateVersion := newVersion
          payload := object
            [("patch", nested patch), ("reason", text reason),
              ("state_version", count newVersion)] }]

/-- What the three `Mark` methods do: the step gives its lease back with an
error, the run has its status, and the events follow. -/
def mark (runId stepId status errorType message : String)
    (events : Step → List (String × List (String × Option Json))) :
    Method Unit := fun process => .attempt do
  let step ← findStep process.data stepId
  let now := process.clock 0
  let run := (process.data.runs.get? runId).getD .zero
  return .answer ()
    (.step stepId { released step status now with
        lastErrorType := errorType
        lastError := message } ::
      .run runId { run with status := status, updatedAt := now } ::
      (events step).map fun event => .event
        { runId := runId
          sessionId := step.sessionId
          stepId := stepId
          type := event.1
          payload := object event.2 })

def markWaitingHuman (runId stepId reason approvalId : String) : Method Unit :=
  mark runId stepId "waiting_human" "ApprovalRequired" reason fun _ =>
    [("step_waiting_human",
      [("reason", text reason), ("approval_id", text approvalId)])]

def markRetry (runId stepId errorType message : String) : Method Unit :=
  mark runId stepId "retry_scheduled" errorType message fun step =>
    [("failure_classified",
        [("error", text message), ("error_type", text errorType),
          ("retryable", truth true), ("source", text "agent")]),
      ("error_raised",
        [("error", text message), ("error_type", text errorType)]),
      ("step_retry_scheduled",
        [("step_id", text stepId), ("attempt", count step.attempt)])]

def failureSource (errorType : String) : String :=
  match errorType with
  | "BudgetExceededError" => "budget"
  | "SandboxUnavailableError" => "sandbox"
  | "PermissionDeniedError" | "ApprovalDenied" => "policy"
  | _ => "agent"

def markFailed (runId stepId errorType message : String) : Method Unit :=
  mark runId stepId "failed" errorType message fun _ =>
    [("failure_classified",
        [("error", text message), ("error_type", text errorType),
          ("retryable", truth false),
          ("source", text (failureSource errorType))]),
      ("error_raised",
        [("error", text message), ("error_type", text errorType)]),
      ("step_failed",
        [("step_id", text stepId), ("error_type", text errorType)])]

def appendEvent (input : AppendEventInput) : Method Unit := fun _ =>
  .answer () [.event input]

/-! ### The ledger -/

structure LedgerReservation where
  runId : String
  sessionId : String
  stepId : String
  toolName : String
  toolVersion : String
  toolCallId : String
  idempotencyKey : String
  causalToken : String
  requestHash : String
  requestRef : String

structure LedgerUpdate where
  idempotencyKey : String
  status : String
  externalId : String := ""
  responseHash : String := ""
  responseRef : String := ""
  errorType : String := ""
  response : Json := .null

def reserveLedger (input : LedgerReservation) :
    Method (Option ToolLedgerEntry) := fun process =>
  match process.data.toolLedger.get? input.idempotencyKey with
  | some existing => .early (some existing)
  | none =>
      let now := process.clock 0
      .answer none
        [.ledger input.idempotencyKey
          { ledgerId := newId random "ledger" process.drawn
            runId := input.runId
            sessionId := input.sessionId
            stepId := input.stepId
            toolName := input.toolName
            toolVersion := input.toolVersion
            toolCallId := input.toolCallId
            idempotencyKey := input.idempotencyKey
            causalToken := input.causalToken
            requestHash := input.requestHash
            requestRef := input.requestRef
            status := "RESERVED"
            externalId := ""
            responseHash := ""
            responseRef := ""
            errorType := ""
            response := .null
            createdAt := now
            updatedAt := now }]

def updatedEntry (update : LedgerUpdate) (now : Float64)
    (entry : ToolLedgerEntry) : ToolLedgerEntry :=
  { entry with
    status := update.status
    externalId := update.externalId
    responseHash := update.responseHash
    responseRef := update.responseRef
    errorType := update.errorType
    response := update.response
    updatedAt := now }

def updateLedger (update : LedgerUpdate) : Method Unit := fun process =>
  match process.data.toolLedger.get? update.idempotencyKey with
  | none => .refuse
      (.other ("ledger entry not found: " ++ update.idempotencyKey))
  | some entry =>
      .answer () [.ledger update.idempotencyKey
        (updatedEntry update (process.clock 0) entry)]

/-! ### Approvals -/

structure ApprovalRequestInput where
  approvalKey : String
  runId : String
  sessionId : String
  stepId : String
  toolName : String
  riskLevel : String
  reason : String
  requestHash : String
  requestRef : String
  requestedBy : String

def requestApproval (input : ApprovalRequestInput) :
    Method ApprovalRequest := fun process =>
  match process.data.approvalRequests.get? input.approvalKey with
  | some existing => .early existing
  | none =>
      let now := process.clock 0
      let approval : ApprovalRequest :=
        { approvalId := newId random "approval" process.drawn
          approvalKey := input.approvalKey
          runId := input.runId
          sessionId := input.sessionId
          stepId := input.stepId
          toolName := input.toolName
          riskLevel := input.riskLevel
          status := "PENDING"
          reason := input.reason
          requestHash := input.requestHash
          requestRef := input.requestRef
          requestedBy := input.requestedBy
          approvedBy := ""
          decisionReason := ""
          createdAt := now
          updatedAt := now }
      .answer approval [.approval input.approvalKey approval]

/-- What becomes of a step that waits for the decision. -/
def settle (process : Process) (approval : ApprovalRequest)
    (status reason : String) (now : Float64) (step : Step) : List Write :=
  let run := (process.data.runs.get? approval.runId).getD .zero
  if status = "APPROVED" then
    [.step approval.stepId (released step "pending" now),
      .run approval.runId { run with status := "pending", updatedAt := now },
      .event
        { runId := approval.runId
          sessionId := approval.sessionId
          stepId := approval.stepId
          type := "step_retry_scheduled"
          payload := object
            [("step_id", text approval.stepId),
              ("reason", text "approval_granted")] }]
  else if status = "DENIED" then
    [.step approval.stepId { released step "failed" now with
        lastErrorType := "ApprovalDenied"
        lastError := reason },
      .run approval.runId { run with status := "failed", updatedAt := now },
      .event
        { runId := approval.runId
          sessionId := approval.sessionId
          stepId := approval.stepId
          type := "failure_classified"
          payload := object
            [("error", text reason), ("error_type", text "ApprovalDenied"),
              ("retryable", truth false), ("source", text "approval")] },
      .event
        { runId := approval.runId
          sessionId := approval.sessionId
          stepId := approval.stepId
          type := "step_failed"
          payload := object
            [("step_id", text approval.stepId),
              ("error_type", text "ApprovalDenied")] }]
  else []

/-- The row with the id, if its key is not empty.  Ids are those of one row. -/
def findApproval (data : StoreData) (approvalId : String) :
    Checked (String × ApprovalRequest) :=
  match data.approvalRequests.entries.find? fun entry =>
      entry.2.approvalId = approvalId && entry.1 ≠ "" with
  | some entry => .ok entry
  | none => .error (.other ("approval not found: " ++ approvalId))

def decideApproval (approvalId status approver reason : String) :
    Method ApprovalRequest := fun process => .attempt do
  let (key, held) ← findApproval process.data approvalId
  let now := process.clock 0
  let approval := { held with
    status := status
    approvedBy := approver
    decisionReason := reason
    updatedAt := now }
  let waits := (process.data.steps.get? approval.stepId).filter fun step =>
    step.status = "waiting_human"
  return .answer approval
    (.approval key approval ::
      .event
        { runId := approval.runId
          sessionId := approval.sessionId
          stepId := approval.stepId
          type := "tool_approval_decided"
          payload := object
            [("approval_id", text approvalId), ("tool", text approval.toolName),
              ("status", text status), ("approver", text approver),
              ("reason", text reason)] } ::
      waits.elim [] (settle process approval status reason now))

/-! ### Costs and artifacts -/

structure CostRecordInput where
  runId : String
  sessionId : String
  stepId : String
  category : String
  name : String
  amount : Float64
  unit : String
  metadata : JsonObject

def recordCost (input : CostRecordInput) : Method String := fun process =>
  let costId := newId random "cost" process.drawn
  .answer costId
    [.cost
        { costId := costId
          runId := input.runId
          sessionId := input.sessionId
          stepId := input.stepId
          category := input.category
          name := input.name
          amount := input.amount
          unit := input.unit
          metadata := input.metadata
          createdAt := process.clock 0 },
      .event
        { runId := input.runId
          sessionId := input.sessionId
          stepId := input.stepId
          type := "cost_recorded"
          payload := object
            [("cost_id", text costId), ("category", text input.category),
              ("name", text input.name), ("amount", input.amount.marshal),
              ("unit", text input.unit),
              ("metadata", nested input.metadata)] }]

/-- A content that cannot be encoded is `none`. -/
def createArtifact (encoding : Encoding) (runId stepId name : String)
    (content : Option Json) (metadata : JsonObject) : Method Artifact :=
  fun process =>
    match content with
    | none => .refuse (.other "json: unsupported type")
    | some content =>
        let blobRef := encoding.marshal content
        let artifact : Artifact :=
          { artifactId := newId random "art" process.drawn
            runId := runId
            stepId := stepId
            name := name
            blobHash := "sha256:" ++ encoding.sha256 blobRef
            blobRef := blobRef
            metadata := metadata
            createdAt := process.clock 0 }
        .answer artifact [.artifact artifact]

end Methods

/-! ### Calls -/

section

variable (random : Randomness) (encoding : Encoding) {α : Type}

/-- What the method read and drew is used up. -/
def Process.advance (process : Process) : Process :=
  { process with
    drawn := process.drawn + 3
    clock := fun later => process.clock (later + 2) }

/-- The store after the writes of a method. -/
def Process.written (process : Process) (writes : List Write) : Process :=
  applyAll (Process.apply random encoding) writes process.advance

/-- A method, and the flush at its end. -/
def Process.call (method : Method α) (process : Process) :
    Checked α × Process :=
  let outcome := method process
  let written := process.written random encoding outcome.writes
  match outcome.result with
  | .error error => (.error error, written)
  | .ok value =>
      if outcome.saves then
        match written.flush with
        | (some error, after) => (.error error, after)
        | (none, after) => (.ok value, after)
      else (.ok value, written)

end

end AgentLedger.Go
