import AgentLedger.Foundation.Binary64
import AgentLedger.Foundation.Table
import AgentLedger.Rust.SerdeJson

namespace AgentLedger.Rust

open Foundation

/-! `sqlite_evidence.rs`: the tables, and what is stored in them. -/

def maxPayloadBytes : Nat := 64 * 1024

def bundleSchema : String := "agentledger.sqlite.evidence.bundle.v1"

structure EvidenceEventInput where
  eventId : String
  runId : String
  sessionId : String
  stepId : Option String
  eventType : String
  occurredAtMs : Int
  payload : State

structure EvidenceEventRecord where
  eventId : String
  runId : String
  sessionId : String
  stepId : Option String
  seq : Nat
  eventType : String
  occurredAtMs : Int
  payloadHash : String
  payload : State

/-! ### Rows -/

structure RunRow where
  runId : String
  sessionId : String
  status : String
  stateJson : String
  createdAt : Rat
  updatedAt : Rat
  deriving DecidableEq

structure StepRow where
  stepId : String
  runId : String
  sessionId : String
  status : String
  createdAt : Rat
  updatedAt : Rat
  deriving DecidableEq

structure EventRow where
  eventId : String
  runId : String
  sessionId : String
  stepId : Option String
  seq : Int
  eventType : String
  timestamp : Rat
  payloadHash : String
  payloadRef : String
  eventDay : Int
  deriving DecidableEq

structure QueuedEvent where
  queueId : Nat
  eventId : String
  runId : String
  sessionId : String
  stepId : Option String
  eventType : String
  occurredAtMs : Int
  eventDay : Int
  payloadJson : String
  deriving DecidableEq

/-- A database with the schema of the store, which is that of a bundle. -/
structure EvidenceDatabase where
  runs : Table RunRow.runId
  steps : Table StepRow.stepId
  events : Table EventRow.eventId
  evidenceIngestQueue : Table QueuedEvent.eventId
  /-- The next `queue_id`. -/
  autoincrement : Nat
  evidenceBundleMetadata : String → Option String

namespace EvidenceDatabase

def empty : EvidenceDatabase :=
  ⟨.empty, .empty, .empty, .empty, 1, fun _ => none⟩

end EvidenceDatabase

/-! ### Times

The tables keep seconds as `REAL`; the events have milliseconds. -/

def truncate (value : Rat) : Int := value.num.tdiv value.den

/-- `occurred_at_ms as f64 / 1000.0`, in the range of an `i64`. -/
def seconds (occurredAtMs : Int) : Rat :=
  (Binary64.nearest ((Binary64.nearest occurredAtMs).getD 0 / 1000)).getD 0

/-- SQLite's `ROUND`. -/
def sqlRound (value : Rat) : Rat :=
  if 2 ^ 52 < |value| then value
  else truncate ((Binary64.nearest
    (if value < 0 then value - 1 / 2 else value + 1 / 2)).getD 0)

/-- SQLite's `CAST(... AS INTEGER)`. -/
def sqlInteger (value : Rat) : Int :=
  max (-2 ^ 63) (min (truncate value) (2 ^ 63 - 1))

/-- `CAST(ROUND(timestamp * 1000) AS INTEGER)`. -/
def millis (timestamp : Rat) : Int :=
  match Binary64.nearest (timestamp * 1000) with
  | some scaled => sqlInteger (sqlRound scaled)
  | none => if timestamp < 0 then -2 ^ 63 else 2 ^ 63 - 1

def dayOf (occurredAtMs : Int) : Int := occurredAtMs.tdiv 86400000

/-! ### Checks -/

def ensure (condition : Bool) (message : String) : Result Unit :=
  if condition then .ok () else .error ⟨message⟩

@[simp] theorem ensure_eq_ok {condition : Bool} {message : String}
    {done : Unit} :
    ensure condition message = .ok done ↔ condition = true := by
  cases condition <;> simp [ensure]

/-- `char::is_whitespace`. -/
def isWhitespace (char : Char) : Bool :=
  let code := char.toNat
  (9 ≤ code && code ≤ 13) || code == 0x20 || code == 0x85 || code == 0xa0 ||
    code == 0x1680 || (0x2000 ≤ code && code ≤ 0x200a) || code == 0x2028 ||
    code == 0x2029 || code == 0x202f || code == 0x205f || code == 0x3000

/-- `value.trim().is_empty()`. -/
def isBlank (value : String) : Bool := value.toList.all isWhitespace

def validateText (name value : String) : Result Unit := do
  ensure (!isBlank value) (name ++ " must not be empty")
  ensure (value.utf8ByteSize ≤ 256) (name ++ " exceeds 256 bytes")

def validateStepId : Option String → Result Unit
  | some stepId => validateText "step_id" stepId
  | none => .ok ()

def validateEvent (event : EvidenceEventInput) : Result Unit := do
  validateText "event_id" event.eventId
  validateText "run_id" event.runId
  validateText "session_id" event.sessionId
  validateText "event_type" event.eventType
  validateStepId event.stepId
  ensure (0 ≤ event.occurredAtMs) "occurred_at_ms must not be negative"

def terminalStepStatus (eventType : String) : Option String :=
  match eventType with
  | "turn.completed" => some "completed"
  | "turn.failed" => some "failed"
  | "turn.cancelled" | "turn.canceled" => some "cancelled"
  | _ => none

def terminalRunStatus (eventType : String) : Option String :=
  match eventType with
  | "session.deleted" => some "deleted"
  | "session.closed" => some "completed"
  | "session.failed" => some "failed"
  | _ => none

end AgentLedger.Rust
