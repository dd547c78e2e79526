import AgentLedger.Rust.Evidence.Store

namespace AgentLedger.Rust

open Foundation

/-! Bundles: one run in a database of its own, with a receipt. -/

structure EvidenceBundleReceipt where
  runId : String
  eventCount : Nat
  eventHash : String
  retentionCutoffEventDay : Option Int
  removedTurnCount : Nat
  path : String
  deriving DecidableEq

structure EvidenceReplaySummary where
  runId : String
  eventCount : Nat
  eventHash : String
  eventTypes : List String
  timeline : List EvidenceEventRecord
  reconstructedState : State
  failureAttributions : List State
  retentionCutoffEventDay : Option Int
  removedTurnCount : Nat
  replaySafe : Bool

structure DerivedStep where
  runId : String
  sessionId : String
  createdAtMs : Int
  updatedAtMs : Int
  status : String
  deriving DecidableEq

/-! ### The hash of the events -/

def lengthPrefixed (field : String) : String :=
  field.utf8ByteSize.repr ++ ":" ++ field ++ ";"

def canonicalEvent (event : EvidenceEventRecord) : String :=
  lengthPrefixed event.eventId ++ lengthPrefixed event.runId ++
    lengthPrefixed event.sessionId ++
    lengthPrefixed (event.stepId.getD "<none>") ++
    lengthPrefixed event.eventType ++ lengthPrefixed event.payloadHash ++
    (event.seq.repr ++ ":" ++ toString event.occurredAtMs ++ ";")

def canonicalEvents (events : List EvidenceEventRecord) : String :=
  String.join (events.map canonicalEvent)

def eventHash (hash : String → String) (events : List EvidenceEventRecord) :
    String :=
  hash (canonicalEvents events)

/-! ### The structure that the events imply -/

def newStep (event : EvidenceEventRecord) : DerivedStep :=
  { runId := event.runId
    sessionId := event.sessionId
    createdAtMs := event.occurredAtMs
    updatedAtMs := event.occurredAtMs
    status := "running" }

/-- An event of the step. -/
def DerivedStep.advance (event : EvidenceEventRecord) (step : DerivedStep) :
    DerivedStep :=
  { step with
    updatedAtMs := event.occurredAtMs
    status := (terminalStepStatus event.eventType).getD step.status }

def deriveStep (steps : List (String × DerivedStep))
    (event : EvidenceEventRecord) : Result (List (String × DerivedStep)) :=
  match event.stepId with
  | none => .ok steps
  | some stepId =>
      let step := (Entries.get? stepId steps).getD (newStep event)
      if step.runId = event.runId ∧ step.sessionId = event.sessionId then
        .ok (Entries.insert stepId (step.advance event) steps)
      else .error ⟨"step_id belongs to another run or session: " ++ stepId⟩

def deriveSteps (events : List EvidenceEventRecord) :
    Result (List (String × DerivedStep)) :=
  events.foldlM deriveStep []

def exportedRunStatus (events : List EvidenceEventRecord) : String :=
  ((events.filterMap fun event =>
    terminalRunStatus event.eventType).getLast?).getD "evidence"

namespace EvidenceDatabase

def readStep (row : StepRow) : String × DerivedStep :=
  (row.stepId,
    { runId := row.runId
      sessionId := row.sessionId
      createdAtMs := millis row.createdAt
      updatedAtMs := millis row.updatedAt
      status := row.status })

def readSteps (db : EvidenceDatabase) : List (String × DerivedStep) :=
  Entries.collect (db.steps.rows.map readStep)

def bundleMetadata (key : String) (db : EvidenceDatabase) : Result String :=
  match db.evidenceBundleMetadata key with
  | some value => .ok value
  | none => .error ⟨"evidence bundle metadata missing: " ++ key⟩

def readCutoff (db : EvidenceDatabase) : Result (Option Int) :=
  match db.evidenceBundleMetadata retentionCutoffKey with
  | none => .ok none
  | some value => do return some (← parseI64 value)

def readRemoved (key : String) (db : EvidenceDatabase) : Result Nat :=
  parseUsize ((db.evidenceBundleMetadata key).getD "0")

/-! ### export_bundle -/

/-- INSERT, with the key of the table. -/
def insertOrFail {Row Key : Type} {key : Row → Key} [DecidableEq Key]
    (table : Table key) (row : Row) : Result (Table key) :=
  match table.insert? row with
  | some after => .ok after
  | none => .error ⟨"UNIQUE constraint failed"⟩

def exportedStep (entry : String × DerivedStep) : StepRow :=
  { stepId := entry.1
    runId := entry.2.runId
    sessionId := entry.2.sessionId
    status := entry.2.status
    createdAt := seconds entry.2.createdAtMs
    updatedAt := seconds entry.2.updatedAtMs }

def exportStep (db : EvidenceDatabase) (entry : String × DerivedStep) :
    Result EvidenceDatabase := do
  ensure (db.runs.get? entry.2.runId).isSome "FOREIGN KEY constraint failed"
  let steps ← insertOrFail db.steps (exportedStep entry)
  return { db with steps := steps }

def exportedRow (event : EvidenceEventRecord) (payloadJson : String) :
    EventRow :=
  { eventId := event.eventId
    runId := event.runId
    sessionId := event.sessionId
    stepId := event.stepId
    seq := event.seq
    eventType := event.eventType
    timestamp := seconds event.occurredAtMs
    payloadHash := event.payloadHash
    payloadRef := payloadJson
    eventDay := dayOf event.occurredAtMs }

/-- INSERT INTO events, without OR IGNORE. -/
def insertEventOrFail (row : EventRow) (events : Table EventRow.eventId) :
    Result (Table EventRow.eventId) :=
  match insertEvent? row events with
  | some after => .ok after
  | none => .error ⟨"UNIQUE constraint failed"⟩

def exportEvent (serde : SerdeJson) (db : EvidenceDatabase)
    (event : EvidenceEventRecord) : Result EvidenceDatabase := do
  let payloadJson ← stateToJson serde event.payload
  let events ← insertEventOrFail (exportedRow event payloadJson) db.events
  return db.withEvents events

def exportedRun (runId : String) (first last : EvidenceEventRecord)
    (status : String) : RunRow :=
  { runId := runId
    sessionId := first.sessionId
    status := status
    stateJson := "\x7b\x7d"
    createdAt := seconds first.occurredAtMs
    updatedAt := seconds last.occurredAtMs }

def exportedMetadata (runId : String) (eventCount : Nat) (eventHash : String)
    (cutoff : Option Int) (removed : Nat) : String → Option String := fun key =>
  if key = "schema_version" then some bundleSchema
  else if key = "run_id" then some runId
  else if key = "event_count" then some eventCount.repr
  else if key = "event_hash" then some eventHash
  else if key = "retention_removed_turn_count" then some removed.repr
  else if key = retentionCutoffKey then cutoff.map toString
  else none

/-- `export_bundle_file`, for the events `first :: rest`. -/
def exportBundleFile (serde : SerdeJson) (hash : String → String)
    (runId : String) (first : EvidenceEventRecord)
    (rest : List EvidenceEventRecord) (cutoff : Option Int) (removed : Nat) :
    Result EvidenceDatabase := do
  let events := first :: rest
  let last := rest.getLast?.getD first
  let runs ← insertOrFail (.empty : Table RunRow.runId)
    (exportedRun runId first last (exportedRunStatus events))
  let steps ← deriveSteps events
  let withSteps ← steps.foldlM exportStep { empty with runs := runs }
  let withEvents ← events.foldlM (exportEvent serde) withSteps
  return { withEvents with
    evidenceBundleMetadata := exportedMetadata runId events.length
      (eventHash hash events) cutoff removed }

/-- The bundles of a directory. -/
abbrev BundleFiles := String → Option EvidenceDatabase

def bundleReceipt (hash : String → String) (runId path : String)
    (events : List EvidenceEventRecord) (cutoff : Option Int) (removed : Nat) :
    EvidenceBundleReceipt :=
  { runId := runId
    eventCount := events.length
    eventHash := eventHash hash events
    retentionCutoffEventDay := cutoff
    removedTurnCount := removed
    path := path }

/-- What is exported, and the receipt. -/
def exportedBundle (serde : SerdeJson) (hash : String → String)
    (runId path : String) (files : BundleFiles) (db : EvidenceDatabase) :
    Result (EvidenceBundleReceipt × EvidenceDatabase) := do
  match ← db.readEvents serde hash runId with
  | [] => .error ⟨"run has no evidence events: " ++ runId⟩
  | first :: rest =>
      ensure (files path).isNone ("evidence bundle already exists: " ++ path)
      let cutoff ← db.readCutoff
      let removed ← db.readRemoved (retentionRemovedKey runId)
      let bundle ← exportBundleFile serde hash runId first rest cutoff removed
      return (bundleReceipt hash runId path (first :: rest) cutoff removed,
        bundle)

/-- The file of a failed export is removed. -/
def exportBundle (serde : SerdeJson) (hash : String → String)
    (runId path : String) (files : BundleFiles) (db : EvidenceDatabase) :
    Result EvidenceBundleReceipt × BundleFiles :=
  match db.exportedBundle serde hash runId path files with
  | .ok (receipt, bundle) =>
      (.ok receipt, Function.update files path (some bundle))
  | .error error => (.error error, files)

/-! ### replay_bundle -/

def number (value : Int) : Value := .number (F64.ofRat value)

def reconstructedState (runId sessionId status : String)
    (events : List EvidenceEventRecord) (bundle : EvidenceDatabase) : State :=
  let state := ((State.new.insert "session_id" (.string sessionId) trivial).insert
      "run_status" (.string status) trivial).insert "step_count"
    (number (bundle.steps.countWhere fun row => row.runId = runId)) trivial
  match events.getLast? with
  | some last => (state.insert "last_event_type" (.string last.eventType)
      trivial).insert "last_occurred_at_ms" (number last.occurredAtMs) trivial
  | none => state

/-- The row of the run, checked against the events. -/
def checkRun (serde : SerdeJson) (runId : String)
    (events : List EvidenceEventRecord) (bundle : EvidenceDatabase) :
    Result RunRow :=
  match bundle.runs.get? runId, events with
  | none, _ => .error ⟨"Query returned no rows"⟩
  | some _, [] =>
      .error ⟨"index out of bounds: the len is 0 but the index is 0"⟩
  | some run, first :: _ => do
      ensure (run.sessionId = first.sessionId &&
          run.status = exportedRunStatus events)
        "evidence bundle run structure mismatch"
      let state ← jsonToState serde run.stateJson
      ensure state.isEmpty "evidence bundle run structure mismatch"
      return run

def checkReceipt (hash : String → String) (expectedCount : Nat)
    (expectedHash : String) (events : List EvidenceEventRecord)
    (bundle : EvidenceDatabase) : Result Unit :=
  ensure (events.length = expectedCount &&
      bundle.events.rows.length = expectedCount &&
      bundle.runs.rows.length = 1 && eventHash hash events = expectedHash)
    "evidence bundle receipt mismatch"

def replaySummary (hash : String → String) (runId : String) (run : RunRow)
    (events : List EvidenceEventRecord) (cutoff : Option Int) (removed : Nat)
    (bundle : EvidenceDatabase) : EvidenceReplaySummary :=
  { runId := runId
    eventCount := events.length
    eventHash := eventHash hash events
    eventTypes := events.map EvidenceEventRecord.eventType
    timeline := events
    reconstructedState :=
      bundle.reconstructedState runId run.sessionId run.status events
    failureAttributions := (events.filter fun event =>
      event.eventType = "failure.attributed").map EvidenceEventRecord.payload
    retentionCutoffEventDay := cutoff
    removedTurnCount := removed
    replaySafe := true }

def replayed (serde : SerdeJson) (hash : String → String)
    (bundle : EvidenceDatabase) : Result EvidenceReplaySummary := do
  let schema ← bundle.bundleMetadata "schema_version"
  ensure (schema = bundleSchema)
    ("unsupported evidence bundle schema: " ++ schema)
  let runId ← bundle.bundleMetadata "run_id"
  let expectedHash ← bundle.bundleMetadata "event_hash"
  let count ← bundle.bundleMetadata "event_count"
  let expectedCount ← parseUsize count
  let events ← bundle.readEvents serde hash runId
  checkReceipt hash expectedCount expectedHash events bundle
  let steps ← deriveSteps events
  ensure (bundle.readSteps = steps) "evidence bundle step structure mismatch"
  let run ← bundle.checkRun serde runId events
  let cutoff ← bundle.readCutoff
  let removed ← bundle.readRemoved "retention_removed_turn_count"
  return bundle.replaySummary hash runId run events cutoff removed

def replayBundle (serde : SerdeJson) (hash : String → String) (path : String)
    (files : BundleFiles) : Result EvidenceReplaySummary :=
  match files path with
  | some bundle => bundle.replayed serde hash
  | none => .error ⟨"unable to open database file: " ++ path⟩

end EvidenceDatabase

end AgentLedger.Rust
