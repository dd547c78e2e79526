import AgentLedger.Python
import AgentLedger.Foundation.Table

namespace AgentLedger

open Foundation

/-! The tables of `storage_schema.py` and the values their columns take.  Times
are clock readings in whole ticks. -/

/-- The status of a run or of a step. -/
inductive Status
  | pending
  | running
  | waitingHuman
  | retryScheduled
  | completed
  | failed
  | cancelled
  deriving DecidableEq, Repr

namespace Status

def text : Status → String
  | .pending => "pending"
  | .running => "running"
  | .waitingHuman => "waiting_human"
  | .retryScheduled => "retry_scheduled"
  | .completed => "completed"
  | .failed => "failed"
  | .cancelled => "cancelled"

/-- `status IN ('pending','retry_scheduled')`. -/
def claimable : Status → Bool
  | .pending | .retryScheduled => true
  | _ => false

/-- `status IN ('completed','failed','cancelled')`. -/
def terminal : Status → Bool
  | .completed | .failed | .cancelled => true
  | _ => false

end Status

inductive LedgerStatus
  | reserved
  | running
  | succeeded
  | failedNoEffect
  | pendingVerification
  | compensated
  deriving DecidableEq, Repr

inductive ApprovalStatus
  | pending
  | approved
  | denied
  deriving DecidableEq, Repr

/-- The event types the store appends itself, and those its callers hand to
`append_event`. -/
inductive EventType
  | runCreated
  | stepCreated
  | stepClaimed
  | workerHeartbeat
  | leaseExpired
  | stepRetryScheduled
  | runCancelRequested
  | stepCancelled
  | runCancelled
  | stepWaitingHuman
  | toolApprovalDecided
  | stateCommitted
  | stepCompleted
  | systemStatePatchApplied
  | failureClassified
  | errorRaised
  | stepFailed
  | toolLedgerResolved
  | costRecorded
  | reported (name : String)
  deriving DecidableEq, Repr

def EventType.text : EventType → String
  | .runCreated => "run_created"
  | .stepCreated => "step_created"
  | .stepClaimed => "step_claimed"
  | .workerHeartbeat => "worker_heartbeat"
  | .leaseExpired => "lease_expired"
  | .stepRetryScheduled => "step_retry_scheduled"
  | .runCancelRequested => "run_cancel_requested"
  | .stepCancelled => "step_cancelled"
  | .runCancelled => "run_cancelled"
  | .stepWaitingHuman => "step_waiting_human"
  | .toolApprovalDecided => "tool_approval_decided"
  | .stateCommitted => "state_committed"
  | .stepCompleted => "step_completed"
  | .systemStatePatchApplied => "system_state_patch_applied"
  | .failureClassified => "failure_classified"
  | .errorRaised => "error_raised"
  | .stepFailed => "step_failed"
  | .toolLedgerResolved => "tool_ledger_resolved"
  | .costRecorded => "cost_recorded"
  | .reported name => name

structure RetryPolicy where
  maxAttempts : Int := 3
  deriving DecidableEq, Repr

namespace RetryPolicy

/-- `int(value)`. -/
def toInt : Json → Except PyError Int
  | .int value => .ok value
  | .bool value => .ok (if value then 1 else 0)
  | .float value => .ok (value.num.tdiv value.den)
  | .str value =>
      match intOf value with
      | some number => .ok number
      | none => .error (.valueError "invalid literal for int() with base 10")
  | _ => .error (.typeError "int() argument must be a string or a number")

def fromDict (data : Option Fields) : Except PyError RetryPolicy :=
  match (data.getD []).get? "max_attempts" with
  | none => .ok {}
  | some value => (toInt value).map RetryPolicy.mk

def toDict (policy : RetryPolicy) : Json :=
  .obj [("max_attempts", .int policy.maxAttempts)]

def allowsRetryAfterAttempt (policy : RetryPolicy) (attempt : Nat) : Bool :=
  decide ((attempt : Int) < policy.maxAttempts)

end RetryPolicy

structure RunRow where
  runId : String
  sessionId : String
  status : Status
  state : Json
  stateVersion : Int
  deriving DecidableEq

structure StepRow where
  stepId : String
  runId : String
  sessionId : String
  status : Status
  owner : Option String := none
  leaseToken : Option String := none
  leaseUntil : Option Int := none
  attempt : Nat
  stateVersion : Int
  checkpointId : Option String := none
  retryPolicy : RetryPolicy
  lastErrorType : Option String := none
  lastError : Option String := none
  createdAt : Int
  deriving DecidableEq

/-- `payload_ref`: the payload as JSON text, or a reference to a blob. -/
inductive PayloadRef
  | inline (payload : Json)
  | blob (ref : String)
  deriving DecidableEq

structure EventRow where
  runId : String
  sessionId : Option String := none
  stepId : Option String := none
  seq : Nat
  type : EventType
  agentRole : Option String := none
  stateVersion : Option Int := none
  causalToken : Option Json := none
  payloadHash : Option String := none
  payloadRef : PayloadRef
  deriving DecidableEq

structure LedgerRow where
  ledgerId : String
  runId : String
  sessionId : Option String
  stepId : String
  toolName : String
  toolVersion : String
  toolCallId : String
  idempotencyKey : String
  causalToken : Json
  requestHash : String
  requestRef : String
  status : LedgerStatus
  externalId : Option String := none
  responseHash : Option String := none
  responseRef : Option String := none
  errorType : Option String := none
  createdAt : Int
  deriving DecidableEq

structure ApprovalRow where
  approvalId : String
  approvalKey : String
  runId : String
  sessionId : Option String
  stepId : String
  toolName : String
  riskLevel : String
  status : ApprovalStatus
  reason : Option String
  requestHash : String
  requestRef : String
  requestedBy : Option String
  approvedBy : Option String := none
  decisionReason : Option String := none
  deriving DecidableEq

structure CostRow where
  costId : String
  runId : String
  sessionId : Option String
  stepId : Option String
  category : String
  name : String
  amount : Rat
  unit : String
  metadata : Json
  deriving DecidableEq

structure ArtifactRow where
  artifactId : String
  runId : String
  stepId : Option String
  name : String
  blobHash : String
  blobRef : String
  metadata : Json
  deriving DecidableEq

structure Store where
  runs : Table RunRow.runId
  steps : Table StepRow.stepId
  events : List EventRow
  ledger : Table LedgerRow.idempotencyKey
  approvals : Table ApprovalRow.approvalId
  costs : List CostRow
  artifacts : List ArtifactRow

namespace Store

/-- A database on which `init` has run. -/
def empty : Store :=
  { runs := .empty
    steps := .empty
    events := []
    ledger := .empty
    approvals := .empty
    costs := []
    artifacts := [] }

end Store

end AgentLedger
