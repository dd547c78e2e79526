import AgentLedger.Rust.Memory.Schema
import Mathlib.Data.List.Sort

namespace AgentLedger.Rust

open Foundation

/-! The operations of `MemoryStore`.  The maps are iterated in an order of their
own. -/

/-- An order of iteration. -/
structure Iteration where
  order : List String → List String
  perm : ∀ keys, (order keys).Perm keys

/-! ### Values -/

mutual
/-- What the key holds after the patch. -/
def mergeValue (held : Option Value) : Value → Option Value
  | .null => none
  | .object patch =>
      match held with
      | some (.object base) => some (.object (mergeEntries base patch))
      | _ => some (.object patch)
  | value => some value

def mergeEntries (base : List (String × Value)) :
    List (String × Value) → List (String × Value)
  | [] => base
  | (key, value) :: rest =>
      mergeEntries
        (match mergeValue (Entries.get? key base) value with
          | some merged => Entries.insert key merged base
          | none => Entries.erase key base) rest
end

private theorem ordered_get? {base : List (String × Value)}
    (ordered : Value.OrderedEntries base) {key : String} {value : Value}
    (found : Entries.get? key base = some value) : value.Ordered :=
  Value.orderedEntries_iff.mp ordered (key, value) (Entries.mem_of_get? found)

mutual
theorem ordered_mergeValue {held : Option Value}
    (before : ∀ value ∈ held, value.Ordered) :
    (patch : Value) → patch.Ordered →
      ∀ value ∈ mergeValue held patch, value.Ordered
  | .null, _, value, member => by cases member
  | .bool _, own, value, member => by
      cases member
      exact own
  | .number _, own, value, member => by
      cases member
      exact own
  | .string _, own, value, member => by
      cases member
      exact own
  | .array _, own, value, member => by
      cases member
      exact own
  | .object patch, own, value, member => by
      unfold mergeValue at member
      split at member
      case h_1 base =>
          cases member
          have base := before (.object base) rfl
          exact ordered_mergeEntries base.1 base.2 patch own.2
      case h_2 =>
          cases member
          exact own

theorem ordered_mergeEntries {base : List (String × Value)}
    (keys : Entries.Ordered base) (ordered : Value.OrderedEntries base) :
    (patch : List (String × Value)) → Value.OrderedEntries patch →
      (Value.object (mergeEntries base patch)).Ordered
  | [], _ => ⟨keys, ordered⟩
  | (key, value) :: rest, own => by
      have each : ∀ merged ∈ mergeValue (Entries.get? key base) value,
          merged.Ordered :=
        ordered_mergeValue (fun held found => ordered_get? ordered found) value
          own.1
      rw [mergeEntries]
      split
      case h_1 merged same =>
          exact ordered_mergeEntries (keys.insert key merged)
            (ordered.insert (each merged same) key) rest own.2
      case h_2 =>
          apply ordered_mergeEntries (keys.erase key) _ rest own.2
          rw [Value.orderedEntries_iff] at ordered ⊢
          exact fun entry member => ordered entry (Entries.mem_of_erase member)
end

def mergePatch (base patch : State) : State where
  entries := mergeEntries base.entries patch.entries
  ordered := ordered_mergeEntries base.ordered.1 base.ordered.2 patch.entries
    patch.ordered.2

def failureSource (errorType : String) : String :=
  match errorType with
  | "BudgetExceededError" => "budget"
  | "SandboxUnavailableError" => "sandbox"
  | "PermissionDeniedError" | "ApprovalDenied" => "policy"
  | _ => "agent"

section

variable (text : F64Text)

mutual
def formatValue : Value → String
  | .null => "null"
  | .bool value => toString value
  | .number value => text.print value
  | .string value => "\"" ++ value ++ "\""
  | .object entries => "\x7b" ++ ",".intercalate (formatEntries entries) ++ "\x7d"
  | .array values => "[" ++ ",".intercalate (formatItems values) ++ "]"

def formatItems : List Value → List String
  | [] => []
  | value :: rest => formatValue value :: formatItems rest

def formatEntries : List (String × Value) → List String
  | [] => []
  | (key, value) :: rest =>
      (key ++ "=" ++ formatValue value) :: formatEntries rest
end

def formatState (state : State) : String :=
  ",".intercalate (formatEntries text state.entries)

end

namespace MemoryStore

/-! ### Rows

What the operations do to the maps of the store. -/

def insertRun (run : Run) : Op Unit :=
  changeStore fun store => { store with runs := store.runs.insert run.runId run }

def insertStep (step : Step) : Op Unit :=
  changeStore fun store =>
    { store with steps := store.steps.insert step.stepId step }

/-- `self.runs.get_mut(run_id).unwrap()` -/
def changeRun (runId : String) (change : Run → Run) : Op Unit := do
  let process ← get
  let run ← unwrap (process.store.runs.get? runId)
  changeStore fun store =>
    { store with runs := store.runs.insert runId (change run) }

/-- `if let Some(run) = self.runs.get_mut(run_id)` -/
def changeRunIfAny (runId : String) (change : Run → Run) : Op Unit :=
  changeStore fun store => { store with runs := store.runs.modify runId change }

def changeStep (stepId : String) (change : Step → Step) : Op Step := do
  let process ← get
  let step ← unwrap (process.store.steps.get? stepId)
  changeStore fun store =>
    { store with steps := store.steps.insert stepId (change step) }
  return change step

def pushEvent (event : Event) : Op Unit :=
  changeStore fun store =>
    { store with events := store.events.push event.runId event }

def insertLedger (key : String) (entry : ToolLedgerEntry) : Op Unit :=
  changeStore fun store =>
    { store with toolLedger := store.toolLedger.insert key entry }

def changeLedger (key : String)
    (change : ToolLedgerEntry → ToolLedgerEntry) : Op Unit :=
  changeStore fun store =>
    { store with toolLedger := store.toolLedger.modify key change }

def insertApproval (approval : ApprovalRequest) : Op Unit :=
  changeStore fun store => { store with
    approvalRequests :=
      store.approvalRequests.insert approval.approvalKey approval }

def changeApproval (key : String)
    (change : ApprovalRequest → ApprovalRequest) : Op ApprovalRequest := do
  let process ← get
  let approval ← unwrap (process.store.approvalRequests.get? key)
  changeStore fun store => { store with
    approvalRequests := store.approvalRequests.insert key (change approval) }
  return change approval

def pushCost (cost : CostRecord) : Op Unit :=
  changeStore fun store =>
    { store with costRecords := store.costRecords.push cost.runId cost }

def pushArtifact (artifact : Artifact) : Op Unit :=
  changeStore fun store =>
    { store with artifacts := store.artifacts.push artifact.runId artifact }

def findRun (runId : String) : Op Run := do
  let process ← get
  orFail ("run not found: " ++ runId) (process.store.runs.get? runId)

def findStep (stepId : String) : Op Step := do
  let process ← get
  orFail ("step not found: " ++ stepId) (process.store.steps.get? stepId)

section

variable (text : F64Text)

def appendEvent (runId : String) (sessionId stepId : Option String)
    (eventType : String) (payload : State) (agentRole : Option String)
    (stateVersion : Option UInt64) (causalToken : Option String) :
    Op Event := do
  let process ← get
  let events := (process.store.events.get? runId).getD []
  let payloadRef := formatState text payload
  let eventId ← newId .event
  let timestamp ← nowSeconds
  let event : Event :=
    { eventId := eventId
      runId := runId
      sessionId := sessionId
      stepId := stepId
      seq := UInt64.ofNat events.length + 1
      eventType := eventType
      timestamp := timestamp
      agentRole := agentRole
      stateVersion := stateVersion
      causalToken := causalToken
      payloadHash := stableHash payloadRef
      payloadRef := payloadRef
      payload := payload }
  pushEvent event
  return event

/-- An event of the store itself. -/
def log (runId sessionId : String) (stepId : Option String)
    (eventType : String) (payload : List (String × MapValue))
    (stateVersion : Option UInt64) : Op Unit := do
  let _ ← appendEvent text runId (some sessionId) stepId eventType
    (stateOf payload) none stateVersion none

/-! ### Runs and steps -/

def newStep (stepId runId sessionId : String) (stateVersion : UInt64)
    (now : F64) : Step :=
  { stepId := stepId
    runId := runId
    sessionId := sessionId
    status := "pending"
    owner := none
    leaseToken := none
    leaseUntil := none
    attempt := 0
    stateVersion := stateVersion
    checkpointId := none
    lastErrorType := none
    lastError := none
    cancelledAt := none
    createdAt := now
    updatedAt := now }

def createRun (initialState : State) : Op (String × String) := do
  let runId ← newId .run
  let sessionId ← newId .session
  let stepId ← newId .step
  let now ← nowSeconds
  insertRun
    { runId := runId
      sessionId := sessionId
      status := "pending"
      state := initialState
      stateVersion := 0
      createdAt := now
      updatedAt := now }
  insertStep (newStep stepId runId sessionId 0 now)
  log text runId sessionId none "run_created"
    [("initial_state", .object initialState)] none
  log text runId sessionId (some stepId) "step_created"
    [("step_id", .string stepId)] none
  return (runId, stepId)

def createExternalStep (runId : String) : Op Step := do
  let run ← findRun runId
  let stepId ← newId .step
  let now ← nowSeconds
  let step := newStep stepId runId run.sessionId run.stateVersion now
  insertStep step
  changeRunIfAny runId fun run =>
    { run with status := "pending", updatedAt := now }
  log text runId run.sessionId (some stepId) "step_created"
    [("step_id", .string stepId), ("external", .bool true)]
    (some run.stateVersion)
  return step

def claimable (runId : String) (step : Step) : Bool :=
  (runId.isEmpty || step.runId = runId) &&
    (step.status = "pending" || step.status = "retry_scheduled")

/-- Older steps come first. -/
def claimedBefore (first second : Step) : Prop :=
  (match first.createdAt.partialCmp second.createdAt with
    | some .lt => true
    | some .gt => false
    | _ => decide (first.stepId ≤ second.stepId)) = true

instance : DecidableRel claimedBefore := fun _ _ => instDecidableEqBool _ _

/-- To sort two steps is to compare their times, which must not be NaN. -/
def sortCandidates (candidates : List Step) : Op (List Step) :=
  if 2 ≤ candidates.length ∧
      candidates.any (fun step => step.createdAt.isNaN) = true then panicked
  else pure (candidates.insertionSort claimedBefore)

def claimStep (workerId runId : String) (leaseSeconds : F64) :
    Op StepClaim := do
  let process ← get
  let candidates ← sortCandidates
    (process.store.steps.values.filter (claimable runId))
  let candidate ← orFail "agentledger: no runnable step" candidates.head?
  let now ← nowSeconds
  let leaseToken ← newId .lease
  let leaseUntil := now.add leaseSeconds
  let step ← changeStep candidate.stepId fun step => { step with
    status := "running"
    owner := some workerId
    leaseToken := some leaseToken
    leaseUntil := some leaseUntil
    attempt := step.attempt + 1
    updatedAt := now }
  changeRun step.runId fun run =>
    { run with status := "running", updatedAt := now }
  log text step.runId step.sessionId (some step.stepId) "step_claimed"
    [("worker_id", .string workerId), ("lease_token", .string leaseToken),
      ("attempt", .number (F64.ofNat step.attempt.toNat))] none
  return {
      runId := step.runId
      sessionId := step.sessionId
      stepId := step.stepId
      attempt := step.attempt
      leaseToken := leaseToken
      stateVersion := step.stateVersion
      leaseUntil := leaseUntil }

/-- The step without its lease. -/
def released (step : Step) (status : String) (now : F64) : Step :=
  { step with
    status := status
    owner := none
    leaseToken := none
    leaseUntil := none
    updatedAt := now }

def leaseExpired (step : Step) (now : F64) : Bool :=
  step.status = "running" && step.leaseUntil.any fun until_ => until_.le now

def recoverStep (now : F64) (recovered : Nat) (stepId : String) : Op Nat := do
  let process ← get
  match process.store.steps.get? stepId with
  | none => return recovered
  | some step =>
      if leaseExpired step now then do
        let _ ← changeStep stepId fun step =>
          released step "retry_scheduled" now
        changeRun step.runId fun run =>
          { run with status := "retry_scheduled", updatedAt := now }
        log text step.runId step.sessionId (some stepId) "lease_expired"
          [("previous_owner", .string (step.owner.getD "")),
            ("attempt", .number (F64.ofNat step.attempt.toNat))] none
        log text step.runId step.sessionId (some stepId) "step_retry_scheduled"
          [("step_id", .string stepId), ("reason", .string "lease_expired")]
          none
        return recovered + 1
      else return recovered

def recoverExpiredLeases (iteration : Iteration) : Op Nat := do
  let now ← nowSeconds
  let process ← get
  (iteration.order process.store.steps.keys).foldlM (recoverStep text now) 0

def cancellable (runId : String) (step : Step) : Bool :=
  step.runId = runId &&
    !(["completed", "failed", "cancelled"].contains step.status)

def cancelStep (runId reason : String) (now : F64) (cancelled : Nat)
    (stepId : String) : Op Nat := do
  let process ← get
  match process.store.steps.get? stepId with
  | none => return cancelled
  | some step =>
      if cancellable runId step then do
        let _ ← changeStep stepId fun step =>
          { released step "cancelled" now with cancelledAt := some now }
        log text runId step.sessionId (some stepId) "step_cancelled"
          [("reason", .string reason)] none
        return cancelled + 1
      else return cancelled

def cancelRun (iteration : Iteration) (runId reason : String) : Op Nat := do
  let run ← findRun runId
  log text runId run.sessionId none "run_cancel_requested"
    [("reason", .string reason)] none
  let process ← get
  let now ← nowSeconds
  let cancelled ← (iteration.order process.store.steps.keys).foldlM
    (cancelStep text runId reason now) 0
  changeRun runId fun run =>
    { run with status := "cancelled", updatedAt := now }
  log text runId run.sessionId none "run_cancelled"
    [("reason", .string reason),
      ("cancelled_steps", .number (F64.ofNat cancelled))] none
  return cancelled

/-- The clock is read only when there is a lease to compare it with. -/
def checkExpiry : Option F64 → Op Unit
  | none => pure ()
  | some until_ => do
      let now ← nowSeconds
      if until_.le now then fail "lease expired" else pure ()

def validateLease (stepId leaseToken : String) : Op Unit := do
  let step ← findStep stepId
  if step.status ≠ "running" ∨ step.leaseToken ≠ some leaseToken then
    fail "invalid or stale lease token"
  else checkExpiry step.leaseUntil

def checkVersion (run : Run) (baseVersion : UInt64) : Op Unit :=
  if run.stateVersion ≠ baseVersion then
    fail ("state version conflict: expected " ++ toString baseVersion ++
      ", got " ++ toString run.stateVersion)
  else pure ()

def commitStatePatch (runId stepId leaseToken : String) (baseVersion : UInt64)
    (patch : State) : Op UInt64 := do
  validateLease stepId leaseToken
  let run ← findRun runId
  checkVersion run baseVersion
  let now ← nowSeconds
  let newVersion := baseVersion + 1
  changeRun runId fun run => { run with
    state := mergePatch run.state patch
    stateVersion := newVersion
    status := "completed"
    updatedAt := now }
  let step ← changeStep stepId fun step => { step with
    status := "completed"
    stateVersion := newVersion
    checkpointId := some ("ckpt:" ++ runId ++ ":" ++ stepId ++ ":" ++
      toString step.attempt)
    updatedAt := now }
  log text runId step.sessionId (some stepId) "state_patch_committed"
    [("patch", .object patch),
      ("state_version", .number (F64.ofNat newVersion.toNat))]
    (some newVersion)
  log text runId step.sessionId (some stepId) "step_completed"
    [("step_id", .string stepId)] (some newVersion)
  return newVersion

def applySystemStatePatch (runId : String) (patch : State) (reason : String) :
    Op UInt64 := do
  let run ← findRun runId
  let newVersion := run.stateVersion + 1
  let now ← nowSeconds
  changeRunIfAny runId fun run => { run with
    state := mergePatch run.state patch
    stateVersion := newVersion
    updatedAt := now }
  log text runId run.sessionId none "system_state_patch_applied"
    [("patch", .object patch), ("reason", .string reason),
      ("state_version", .number (F64.ofNat newVersion.toNat))]
    (some newVersion)
  return newVersion

/-- What the three `mark_` operations do first: the step gives its lease back
with an error, and the run has its status. -/
def markStep (runId stepId status errorType message : String) : Op Step := do
  let now ← nowSeconds
  let step ← changeStep stepId fun step => { released step status now with
    lastErrorType := some errorType
    lastError := some message }
  changeRun runId fun run =>
    { run with status := status, updatedAt := now }
  return step

def markRetry (runId stepId errorType message : String) : Op Unit := do
  let step ← markStep runId stepId "retry_scheduled" errorType message
  log text runId step.sessionId (some stepId) "failure_classified"
    [("error", .string message), ("error_type", .string errorType),
      ("retryable", .bool true), ("source", .string "agent")] none
  log text runId step.sessionId (some stepId) "error_raised"
    [("error", .string message), ("error_type", .string errorType)] none
  log text runId step.sessionId (some stepId) "step_retry_scheduled"
    [("step_id", .string stepId)] none

def markWaitingHuman (runId stepId reason approvalId : String) : Op Unit := do
  let step ← markStep runId stepId "waiting_human" "ApprovalRequired" reason
  log text runId step.sessionId (some stepId) "step_waiting_human"
    [("reason", .string reason), ("approval_id", .string approvalId)] none

def markFailed (runId stepId errorType message : String) : Op Unit := do
  let step ← markStep runId stepId "failed" errorType message
  log text runId step.sessionId (some stepId) "failure_classified"
    [("error", .string message), ("error_type", .string errorType),
      ("retryable", .bool false),
      ("source", .string (failureSource errorType))] none
  log text runId step.sessionId (some stepId) "error_raised"
    [("error", .string message), ("error_type", .string errorType)] none
  log text runId step.sessionId (some stepId) "step_failed"
    [("step_id", .string stepId), ("error_type", .string errorType)] none

/-! ### The ledger -/

def reserveLedger (key : String) (entry : ToolLedgerEntry) :
    Op (Option ToolLedgerEntry) := do
  let process ← get
  match process.store.toolLedger.get? key with
  | some existing => return some existing
  | none => do
      insertLedger key entry
      return none

def updateLedger (key status : String) (externalId : Option String)
    (response : Option MapValue) (errorType : Option String) : Op Unit := do
  let process ← get
  match process.store.toolLedger.get? key with
  | none => return ()
  | some _ => do
      let now ← nowSeconds
      let responseRef := response.map fun value => formatValue text value.value
      changeLedger key fun entry => { entry with
        status := status
        externalId := externalId
        response := response
        responseRef := responseRef
        responseHash := responseRef.map stableHash
        errorType := errorType
        updatedAt := now }

/-! ### Approvals -/

/-- The request as the caller words it; its id, status and times are the
store's. -/
def requestApproval (request : ApprovalRequest) : Op ApprovalRequest := do
  let process ← get
  match process.store.approvalRequests.get? request.approvalKey with
  | some existing => return existing
  | none => do
      let now ← nowSeconds
      let approvalId ← newId .approval
      let approval := { request with
        approvalId := approvalId
        status := "PENDING"
        approvedBy := none
        decisionReason := none
        createdAt := now
        updatedAt := now }
      insertApproval approval
      return approval

def waits (stepId : String) (store : MemoryStore) : Bool :=
  (store.steps.get? stepId).any fun step => step.status = "waiting_human"

/-- A decision on the request that a step waits for. -/
def settle (approval : ApprovalRequest) (status reason : String) :
    Op Unit := do
  if status = "APPROVED" then do
    let now ← nowSeconds
    let _ ← changeStep approval.stepId fun step => released step "pending" now
    changeRun approval.runId fun run => { run with status := "pending" }
    log text approval.runId approval.sessionId (some approval.stepId)
      "step_retry_scheduled"
      [("step_id", .string approval.stepId),
        ("reason", .string "approval_granted")] none
  else if status = "DENIED" then
    markFailed text approval.runId approval.stepId "ApprovalDenied" reason
  else pure ()

def decideApproval (iteration : Iteration)
    (approvalId status approver reason : String) : Op ApprovalRequest := do
  let process ← get
  let approvals := process.store.approvalRequests
  let key ← orFail ("approval not found: " ++ approvalId)
    ((iteration.order approvals.keys).find? fun key =>
      (approvals.get? key).any fun item => item.approvalId = approvalId)
  let now ← nowSeconds
  let approval ← changeApproval key fun approval => { approval with
    status := status
    approvedBy := some approver
    decisionReason := some reason
    updatedAt := now }
  log text approval.runId approval.sessionId (some approval.stepId)
    "tool_approval_decided"
    [("approval_id", .string approvalId), ("tool", .string approval.toolName),
      ("status", .string status)] none
  let process ← get
  if waits approval.stepId process.store then settle text approval status reason
  else pure ()
  return approval

def approveRequest (iteration : Iteration)
    (approvalId approver reason : String) : Op ApprovalRequest :=
  decideApproval text iteration approvalId "APPROVED" approver reason

def denyRequest (iteration : Iteration)
    (approvalId approver reason : String) : Op ApprovalRequest :=
  decideApproval text iteration approvalId "DENIED" approver reason

/-! ### Costs and artifacts -/

def recordCost (runId sessionId stepId category name : String) (amount : F64)
    (unit : String) (metadata : State) : Op String := do
  let costId ← newId .cost
  let now ← nowSeconds
  let cost : CostRecord :=
    { costId := costId
      runId := runId
      sessionId := sessionId
      stepId := stepId
      category := category
      name := name
      amount := amount
      unit := unit
      metadata := metadata
      createdAt := now }
  pushCost cost
  log text runId sessionId (some stepId) "cost_recorded"
    [("cost_id", .string costId), ("category", .string category),
      ("name", .string name), ("amount", .number amount),
      ("unit", .string unit)] none
  return costId

def createArtifact (runId : String) (stepId : Option String) (name : String)
    (content metadata : State) : Op Artifact := do
  let blobRef := formatState text content
  let artifactId ← newId .artifact
  let now ← nowSeconds
  let artifact : Artifact :=
    { artifactId := artifactId
      runId := runId
      stepId := stepId
      name := name
      blobHash := "sha256:" ++ stableHash blobRef
      blobRef := blobRef
      metadata := metadata
      createdAt := now }
  pushArtifact artifact
  return artifact

end

end MemoryStore

end AgentLedger.Rust
