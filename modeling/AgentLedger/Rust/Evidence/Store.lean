import AgentLedger.Foundation.Decimal
import AgentLedger.Rust.Evidence.Schema
import Mathlib.Data.List.Dedup
import Mathlib.Data.List.Sort

namespace AgentLedger.Rust

open Foundation

/-! `SqliteEvidenceStore`: every call is one transaction on the database. -/

namespace EvidenceDatabase

/-! ### enqueue -/

/-- The session of a run, of its row or of a queued event. -/
def runSession (db : EvidenceDatabase) (runId : String) : Option String :=
  ((db.runs.get? runId).map RunRow.sessionId).or
    ((db.evidenceIngestQueue.rows.find? fun row => row.runId = runId).map
      QueuedEvent.sessionId)

def stepOwner (db : EvidenceDatabase) (stepId : String) :
    Option (String × String) :=
  ((db.steps.get? stepId).map fun row => (row.runId, row.sessionId)).or
    ((db.evidenceIngestQueue.rows.find? fun row => row.stepId = some stepId).map
      fun row => (row.runId, row.sessionId))

def checkStepOwner (db : EvidenceDatabase) (event : EvidenceEventInput) :
    Result Unit :=
  match event.stepId with
  | some stepId =>
      ensure ((db.stepOwner stepId).all fun owner =>
          owner = (event.runId, event.sessionId))
        ("step_id belongs to another run or session: " ++ stepId)
  | none => .ok ()

/-- What `enqueue` checks before it inserts; the text of the payload. -/
def admission (serde : SerdeJson) (event : EvidenceEventInput)
    (db : EvidenceDatabase) : Result String := do
  validateEvent event
  let payloadJson ← stateToJson serde event.payload
  ensure (payloadJson.utf8ByteSize ≤ maxPayloadBytes)
    "evidence payload exceeds 65536 bytes"
  ensure ((db.runSession event.runId).all fun session =>
      session = event.sessionId)
    ("run_id belongs to another session: " ++ event.runId)
  db.checkStepOwner event
  return payloadJson

def queuedRow (event : EvidenceEventInput) (queueId : Nat)
    (payloadJson : String) : QueuedEvent :=
  { queueId := queueId
    eventId := event.eventId
    runId := event.runId
    sessionId := event.sessionId
    stepId := event.stepId
    eventType := event.eventType
    occurredAtMs := event.occurredAtMs
    eventDay := dayOf event.occurredAtMs
    payloadJson := payloadJson }

/-- What a duplicate is compared by. -/
structure StoredEvent where
  runId : String
  sessionId : String
  stepId : Option String
  eventType : String
  occurredAtMs : Int
  payload : String
  deriving DecidableEq

def storedEvent (db : EvidenceDatabase) (eventId : String) :
    Option StoredEvent :=
  ((db.evidenceIngestQueue.get? eventId).map fun row =>
    ⟨row.runId, row.sessionId, row.stepId, row.eventType, row.occurredAtMs,
      row.payloadJson⟩).or
  ((db.events.get? eventId).map fun row =>
    ⟨row.runId, row.sessionId, row.stepId, row.eventType, millis row.timestamp,
      row.payloadRef⟩)

def recognise (event : EvidenceEventInput) (payloadJson : String) :
    Option StoredEvent → Result Bool
  | some stored =>
      if stored = ⟨event.runId, event.sessionId, event.stepId, event.eventType,
          event.occurredAtMs, payloadJson⟩ then .ok false
      else .error ⟨"conflicting evidence event_id: " ++ event.eventId⟩
  | none =>
      .error ⟨"evidence event_id was not inserted: " ++ event.eventId⟩

/-- INSERT OR IGNORE ... WHERE NOT EXISTS. -/
def insertQueued (event : EvidenceEventInput) (payloadJson : String)
    (db : EvidenceDatabase) : Option (Table QueuedEvent.eventId) :=
  if (db.events.get? event.eventId).isSome then none
  else db.evidenceIngestQueue.insert?
    (queuedRow event db.autoincrement payloadJson)

def enqueue (serde : SerdeJson) (event : EvidenceEventInput)
    (db : EvidenceDatabase) : Result Bool × EvidenceDatabase :=
  match db.admission serde event with
  | .error error => (.error error, db)
  | .ok payloadJson =>
      match db.insertQueued event payloadJson with
      | some queue => (.ok true,
          { db with
            evidenceIngestQueue := queue
            autoincrement := db.autoincrement + 1 })
      | none => (recognise event payloadJson (db.storedEvent event.eventId), db)

def pendingCount (db : EvidenceDatabase) : Nat :=
  db.evidenceIngestQueue.rows.length

/-! ### project_batch -/

structure ProjectionReceipt where
  projected : Nat := 0
  acked : Nat := 0
  droppedInvalid : Nat := 0
  deriving DecidableEq

/-- What becomes of a queued event: it is taken off the queue, or projected with
this text of its payload. -/
inductive Verdict
  | acknowledge (invalid : Bool)
  | project (payloadJson : String)
  deriving DecidableEq

def QueuedEvent.input (event : QueuedEvent) (payload : State) :
    EvidenceEventInput :=
  { eventId := event.eventId
    runId := event.runId
    sessionId := event.sessionId
    stepId := event.stepId
    eventType := event.eventType
    occurredAtMs := event.occurredAtMs
    payload := payload }

/-- An event that is stored already is the same one. -/
def matchesStored (hash : String → String) (event : QueuedEvent)
    (payloadJson : String) (row : EventRow) : Bool :=
  row.runId = event.runId && row.sessionId = event.sessionId &&
    row.stepId = event.stepId && row.eventType = event.eventType &&
    millis row.timestamp = event.occurredAtMs &&
    row.payloadHash = hash payloadJson && row.payloadRef = payloadJson

def invalidOwner (event : QueuedEvent) (db : EvidenceDatabase) : Bool :=
  (db.runs.get? event.runId).any (fun row => row.sessionId ≠ event.sessionId) ||
    (event.stepId.bind db.steps.get?).any fun row =>
      row.runId ≠ event.runId || row.sessionId ≠ event.sessionId

/-- The verdict on an event whose payload has been read. -/
def verdictOn (hash : String → String) (event : QueuedEvent) (payload : State)
    (payloadJson : String) (db : EvidenceDatabase) : Verdict :=
  if !(validateEvent (QueuedEvent.input event payload)).isOk ||
      event.eventDay ≠ dayOf event.occurredAtMs ||
      maxPayloadBytes < payloadJson.utf8ByteSize then .acknowledge true
  else
    match db.events.get? event.eventId with
    | some row => .acknowledge (!matchesStored hash event payloadJson row)
    | none =>
        if invalidOwner event db then .acknowledge true
        else .project payloadJson

def verdict (serde : SerdeJson) (hash : String → String) (event : QueuedEvent)
    (db : EvidenceDatabase) : Result Verdict :=
  if maxPayloadBytes < event.payloadJson.utf8ByteSize then
    .ok (.acknowledge true)
  else
    match jsonToState serde event.payloadJson with
    | .error _ => .ok (.acknowledge true)
    | .ok payload => do
        let payloadJson ← stateToJson serde payload
        return db.verdictOn hash event payload payloadJson

/-- DELETE FROM evidence_ingest_queue. -/
def dequeue (queueId : Nat) (db : EvidenceDatabase) : EvidenceDatabase :=
  { db with
    evidenceIngestQueue := db.evidenceIngestQueue.deleteWhere fun row =>
      row.queueId = queueId }

def queuedCount (queueId : Nat) (db : EvidenceDatabase) : Nat :=
  db.evidenceIngestQueue.countWhere fun row => row.queueId = queueId

def ackQueuedEvent (queueId : Nat) (invalid : Bool)
    (receipt : ProjectionReceipt) (db : EvidenceDatabase) :
    ProjectionReceipt × EvidenceDatabase :=
  let acked := db.queuedCount queueId
  ({ receipt with
      acked := receipt.acked + acked
      droppedInvalid := receipt.droppedInvalid + if invalid then acked else 0 },
    db.dequeue queueId)

def projectRun (event : QueuedEvent) (db : EvidenceDatabase) :
    EvidenceDatabase :=
  let occurredAt := seconds event.occurredAtMs
  { db with
    runs := db.runs.insertOrIgnore
      { runId := event.runId
        sessionId := event.sessionId
        status := "active"
        stateJson := "\x7b\x7d"
        createdAt := occurredAt
        updatedAt := occurredAt } }

def projectStep (event : QueuedEvent) (db : EvidenceDatabase) :
    EvidenceDatabase :=
  let occurredAt := seconds event.occurredAtMs
  let status := terminalStepStatus event.eventType
  match event.stepId with
  | none => db
  | some stepId =>
      { db with
        steps := (db.steps.insertOrIgnore
          { stepId := stepId
            runId := event.runId
            sessionId := event.sessionId
            status := status.getD "running"
            createdAt := occurredAt
            updatedAt := occurredAt }).updateWhere
          (fun row => row.stepId = stepId)
          (fun row => { row with
            status := status.getD row.status
            updatedAt := occurredAt })
          fun _ => rfl }

/-- COALESCE(MAX(seq), 0) + 1. -/
def nextSeq (events : Table EventRow.eventId) (runId : String) : Int :=
  (((events.rows.filter fun row => row.runId = runId).map EventRow.seq).max?).getD
    0 + 1

def eventRow (hash : String → String) (event : QueuedEvent) (seq : Int)
    (payloadJson : String) : EventRow :=
  { eventId := event.eventId
    runId := event.runId
    sessionId := event.sessionId
    stepId := event.stepId
    seq := seq
    eventType := event.eventType
    timestamp := seconds event.occurredAtMs
    payloadHash := hash payloadJson
    payloadRef := payloadJson
    eventDay := event.eventDay }

/-- INSERT, with the unique index on `(run_id, seq)`. -/
def insertEvent? (row : EventRow) (events : Table EventRow.eventId) :
    Option (Table EventRow.eventId) :=
  if events.rows.any fun other => other.runId = row.runId && other.seq = row.seq
  then none
  else events.insert? row

def finishRun (event : QueuedEvent) (db : EvidenceDatabase) :
    EvidenceDatabase :=
  { db with
    runs := db.runs.updateWhere (fun row => row.runId = event.runId)
      (fun row => { row with
        status := (terminalRunStatus event.eventType).getD row.status
        updatedAt := seconds event.occurredAtMs })
      fun _ => rfl }

def withEvents (events : Table EventRow.eventId) (db : EvidenceDatabase) :
    EvidenceDatabase :=
  { db with events := events }

/-- The rows that a projected event adds. -/
def insertProjected (hash : String → String) (event : QueuedEvent)
    (payloadJson : String) (receipt : ProjectionReceipt)
    (db : EvidenceDatabase) : ProjectionReceipt × EvidenceDatabase :=
  let owned := (db.projectRun event).projectStep event
  let seq := nextSeq owned.events event.runId
  match insertEvent? (eventRow hash event seq payloadJson) owned.events with
  | some events => ({ receipt with projected := receipt.projected + 1 },
      (owned.withEvents events).finishRun event)
  | none => (receipt, owned)

def projectEvent (serde : SerdeJson) (hash : String → String)
    (state : ProjectionReceipt × EvidenceDatabase) (event : QueuedEvent) :
    Result (ProjectionReceipt × EvidenceDatabase) := do
  match ← state.2.verdict serde hash event with
  | .acknowledge invalid =>
      return state.2.ackQueuedEvent event.queueId invalid state.1
  | .project payloadJson =>
      let (receipt, db) := state.2.insertProjected hash event payloadJson state.1
      return ({ receipt with
          acked := receipt.acked + db.queuedCount event.queueId },
        db.dequeue event.queueId)

/-- SELECT ... ORDER BY queue_id LIMIT. -/
def queued (limit : Nat) (db : EvidenceDatabase) : List QueuedEvent :=
  (db.evidenceIngestQueue.rows.insertionSort fun first second =>
    first.queueId ≤ second.queueId).take limit

/-- An error rolls the transaction back. -/
def projectBatch (serde : SerdeJson) (hash : String → String) (limit : Nat)
    (db : EvidenceDatabase) : Result (ProjectionReceipt × EvidenceDatabase) := do
  ensure (0 < limit) "projection limit must be positive"
  ensure (limit < 2 ^ 63)
    "out of range integral type conversion attempted"
  (db.queued limit).foldlM (projectEvent serde hash) ({}, db)

/-! ### Reading events -/

def readEvent (serde : SerdeJson) (hash : String → String) (row : EventRow) :
    Result EvidenceEventRecord := do
  let payload ← jsonToState serde row.payloadRef
  let payloadJson ← stateToJson serde payload
  ensure (hash payloadJson = row.payloadHash)
    ("evidence payload hash mismatch: " ++ row.eventId)
  ensure (0 ≤ row.seq) "out of range integral type conversion attempted"
  return {
    eventId := row.eventId
    runId := row.runId
    sessionId := row.sessionId
    stepId := row.stepId
    seq := row.seq.toNat
    eventType := row.eventType
    occurredAtMs := millis row.timestamp
    payloadHash := row.payloadHash
    payload := payload }

/-- SELECT ... WHERE run_id ORDER BY seq. -/
def eventRows (runId : String) (db : EvidenceDatabase) : List EventRow :=
  (db.events.rows.filter fun row => row.runId = runId).insertionSort
    fun first second => first.seq ≤ second.seq

def readEvents (serde : SerdeJson) (hash : String → String) (runId : String)
    (db : EvidenceDatabase) : Result (List EvidenceEventRecord) :=
  (db.eventRows runId).mapM (readEvent serde hash)

def eventsOf (serde : SerdeJson) (hash : String → String) (runId : String)
    (db : EvidenceDatabase) : Result (List EvidenceEventRecord) := do
  ensure (!isBlank runId) "run_id must not be empty"
  db.readEvents serde hash runId

/-! ### prune_to_active_event_days -/

def retentionCutoffKey : String := "retention_cutoff_event_day"

def retentionRemovedKey (runId : String) : String :=
  "retention_removed_turn_count:" ++ runId

/-- The days that have events, the latest first. -/
def eventDays (db : EvidenceDatabase) : List Int :=
  (db.events.rows.map EventRow.eventDay).dedup.insertionSort
    fun first second => second ≤ first

/-- A turn that has ended, and whose events are all from before the cutoff. -/
def removable (cutoff : Int) (db : EvidenceDatabase) (step : StepRow) : Bool :=
  ["completed", "failed", "cancelled"].contains step.status &&
    (db.events.rows.any fun row => row.stepId = some step.stepId) &&
    db.events.rows.all fun row =>
      row.stepId ≠ some step.stepId || row.eventDay < cutoff

def removableSteps (cutoff : Int) (db : EvidenceDatabase) : List StepRow :=
  db.steps.rows.filter (db.removable cutoff)

/-- The event belongs to a turn that is removed, or to none and is old. -/
def prunes (cutoff : Int) (db : EvidenceDatabase) (row : EventRow) : Bool :=
  match row.stepId with
  | some stepId => (db.removableSteps cutoff).any fun step =>
      step.stepId = stepId
  | none => row.eventDay < cutoff

/-- How many turns are removed of each run. -/
def removedByRun (steps : List StepRow) : List (String × Nat) :=
  Entries.collect (steps.map fun step =>
    (step.runId, steps.countP fun other => other.runId = step.runId))

def parseUsize (text : String) : Result Nat :=
  match Decimal.parseUnsigned text with
  | some number => .ok number
  | none => .error ⟨"invalid digit found in string"⟩

def parseI64 (text : String) : Result Int :=
  match Decimal.parseSigned text with
  | some number => .ok number
  | none => .error ⟨"invalid digit found in string"⟩

def recordRemoved (metadata : String → Option String)
    (removed : String × Nat) : Result (String → Option String) := do
  let key := retentionRemovedKey removed.1
  let previous ← parseUsize ((metadata key).getD "0")
  return Function.update metadata key (some (previous + removed.2).repr)

/-- The rows that are kept behind the cutoff. -/
def pruned (cutoff : Int) (metadata : String → Option String)
    (db : EvidenceDatabase) : EvidenceDatabase :=
  { db with
    events := db.events.deleteWhere (db.prunes cutoff)
    steps := db.steps.deleteWhere (db.removable cutoff)
    evidenceBundleMetadata := metadata }

def pruneBefore (cutoff : Int) (db : EvidenceDatabase) :
    Result (Nat × EvidenceDatabase) := do
  let metadata ← (removedByRun (db.removableSteps cutoff)).foldlM recordRemoved
    (Function.update db.evidenceBundleMetadata retentionCutoffKey
      (some (toString cutoff)))
  return (db.events.countWhere (db.prunes cutoff), db.pruned cutoff metadata)

def pruneToActiveEventDays (keepDays : Nat) (db : EvidenceDatabase) :
    Result (Nat × EvidenceDatabase) := do
  ensure (0 < keepDays) "active event day retention must be positive"
  if db.eventDays.length ≤ keepDays then .ok (0, db)
  else db.pruneBefore (db.eventDays.getD (keepDays - 1) 0)

end EvidenceDatabase

end AgentLedger.Rust
