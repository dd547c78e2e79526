import AgentLedger.Rust.Evidence.Ingestion
import AgentLedger.Rust.Evidence.Receipt

namespace AgentLedger.Rust

open Foundation

/-! A bundle that is exported is accepted, and says what the store says. -/

variable {serde : SerdeJson} {hash : String → String} {limit : Nat}

/-- The events of one run, as they are read from a store. -/
structure Exportable (serde : SerdeJson) (hash : String → String) (limit : Nat)
    (runId sessionId : String) (events : List EvidenceEventRecord) : Prop where
  readable : ∀ event ∈ events, Readable serde hash limit event
  run : ∀ event ∈ events, event.runId = runId
  session : ∀ event ∈ events, event.sessionId = sessionId
  timely : ∀ event ∈ events, KeepsTime event.occurredAtMs
  distinct : (events.map EvidenceEventRecord.eventId).Nodup
  increasing : events.Pairwise fun first second => first.seq < second.seq

section Exported

variable {runId sessionId : String}

theorem Exportable.tail {event : EvidenceEventRecord}
    {rest : List EvidenceEventRecord} (exportable : Exportable serde hash limit
      runId sessionId (event :: rest)) :
    Exportable serde hash limit runId sessionId rest where
  readable other member :=
    exportable.readable other (List.mem_cons_of_mem _ member)
  run other member := exportable.run other (List.mem_cons_of_mem _ member)
  session other member :=
    exportable.session other (List.mem_cons_of_mem _ member)
  timely other member :=
    exportable.timely other (List.mem_cons_of_mem _ member)
  distinct := (List.nodup_cons.mp exportable.distinct).2
  increasing := (List.pairwise_cons.mp exportable.increasing).2

/-! ### The steps -/

/-- A step that the events of the run imply. -/
structure Derived (runId sessionId : String) (step : DerivedStep) : Prop where
  run : step.runId = runId
  session : step.sessionId = sessionId
  created : KeepsTime step.createdAtMs
  updated : KeepsTime step.updatedAtMs

private theorem derived_advance {event : EvidenceEventRecord}
    {steps : List (String × DerivedStep)} (stepId : String)
    (all : ∀ entry ∈ steps, Derived runId sessionId entry.2)
    (run : event.runId = runId) (session : event.sessionId = sessionId)
    (timely : KeepsTime event.occurredAtMs) :
    Derived runId sessionId ((Entries.get? stepId steps).getD
      (newStep event)) := by
  cases found : Entries.get? stepId steps with
  | none => exact ⟨run, session, timely, timely⟩
  | some step => exact all _ (Entries.mem_of_get? found)

theorem deriveStep_ok {event : EvidenceEventRecord}
    {steps : List (String × DerivedStep)} (ordered : Entries.Ordered steps)
    (all : ∀ entry ∈ steps, Derived runId sessionId entry.2)
    (run : event.runId = runId) (session : event.sessionId = sessionId)
    (timely : KeepsTime event.occurredAtMs) :
    ∃ after, deriveStep steps event = .ok after ∧ Entries.Ordered after ∧
      ∀ entry ∈ after, Derived runId sessionId entry.2 := by
  unfold deriveStep
  cases event.stepId with
  | none => exact ⟨steps, rfl, ordered, all⟩
  | some stepId =>
      have step := derived_advance stepId all run session timely
      refine ⟨_, if_pos ⟨step.run.trans run.symm,
        step.session.trans session.symm⟩, ordered.insert _ _, ?_⟩
      intro entry member
      rcases Entries.mem_insert member with rfl | held
      · exact ⟨step.run, step.session, step.created, timely⟩
      · exact all entry held

theorem deriveSteps_ok {events : List EvidenceEventRecord}
    (exportable : Exportable serde hash limit runId sessionId events) :
    ∃ steps, deriveSteps events = .ok steps ∧ Entries.Ordered steps ∧
      ∀ entry ∈ steps, Derived runId sessionId entry.2 := by
  have fold (steps : List (String × DerivedStep))
      (ordered : Entries.Ordered steps)
      (all : ∀ entry ∈ steps, Derived runId sessionId entry.2) :
      ∃ after, events.foldlM deriveStep steps = .ok after ∧
        Entries.Ordered after ∧
        ∀ entry ∈ after, Derived runId sessionId entry.2 := by
    induction events generalizing steps with
    | nil => exact ⟨steps, rfl, ordered, all⟩
    | cons event rest ih =>
        have own := List.mem_cons_self (a := event) (l := rest)
        obtain ⟨next, derived, nextOrdered, nextAll⟩ := deriveStep_ok ordered
          all (exportable.run event own) (exportable.session event own)
          (exportable.timely event own)
        obtain ⟨after, later, afterOrdered, afterAll⟩ :=
          ih exportable.tail next nextOrdered nextAll
        refine ⟨after, ?_, afterOrdered, afterAll⟩
        rw [List.foldlM_cons, derived]
        exact later
  exact fold [] List.Pairwise.nil fun _ member => by cases member

theorem readStep_exportedStep {entry : String × DerivedStep}
    (derived : Derived runId sessionId entry.2) :
    EvidenceDatabase.readStep (EvidenceDatabase.exportedStep entry) =
      entry := by
  have created : millis (seconds entry.2.createdAtMs) =
      entry.2.createdAtMs := derived.created
  have updated : millis (seconds entry.2.updatedAtMs) =
      entry.2.updatedAtMs := derived.updated
  unfold EvidenceDatabase.readStep EvidenceDatabase.exportedStep
  dsimp only
  rw [created, updated]

namespace EvidenceDatabase

/-! ### The rows -/

theorem exportSteps_ok {steps : List (String × DerivedStep)}
    (ordered : Entries.Ordered steps)
    (all : ∀ entry ∈ steps, Derived runId sessionId entry.2)
    {db : EvidenceDatabase} (run : (db.runs.get? runId).isSome)
    (fresh : ∀ entry ∈ steps, db.steps.get? entry.1 = none) :
    ∃ table : Table StepRow.stepId,
      steps.foldlM exportStep db = .ok { db with steps := table } ∧
      table.rows = db.steps.rows ++ steps.map exportedStep := by
  induction steps generalizing db with
  | nil => exact ⟨db.steps, rfl, (List.append_nil _).symm⟩
  | cons entry rest ih =>
      obtain ⟨above, later⟩ := List.pairwise_cons.mp ordered
      have own := List.mem_cons_self (a := entry) (l := rest)
      obtain ⟨table, inserted, rows⟩ := @Table.insert?_of_fresh _ _ _ _
        db.steps (exportedStep entry) (fresh entry own)
      have exported : exportStep db entry =
          .ok { db with steps := table } := by
        unfold exportStep
        have parent : ensure (db.runs.get? entry.2.runId).isSome
            "FOREIGN KEY constraint failed" = .ok () := by
          rw [(all entry own).run]
          exact ensure_eq_ok.mpr run
        rw [parent, insertOrFail, inserted]
        rfl
      have freshLater : ∀ other ∈ rest,
          ({ db with steps := table } : EvidenceDatabase).steps.get? other.1 =
            none := by
        intro other member
        have before := Table.get?_eq_none_iff.mp
          (fresh other (List.mem_cons_of_mem _ member))
        rw [Table.get?_eq_none_iff]
        intro row held
        rw [show ({ db with steps := table } : EvidenceDatabase).steps.rows =
          _ from rows] at held
        rcases List.mem_append.mp held with old | new
        · exact before row old
        · rw [List.mem_singleton.mp new]
          exact ne_of_lt (above other member)
      obtain ⟨whole, folded, wholeRows⟩ := @ih later
        (fun other member => all other (List.mem_cons_of_mem _ member))
        { db with steps := table } run freshLater
      refine ⟨whole, ?_, ?_⟩
      · rw [List.foldlM_cons, exported]
        exact folded
      · rw [wholeRows]
        simp only [rows, List.map_cons, List.append_assoc,
          List.singleton_append]

/-- The row of an event in the bundle. -/
def bundleRow (serde : SerdeJson) (event : EvidenceEventRecord) : EventRow :=
  exportedRow event ((stateToJson serde event.payload).toOption.getD "")

theorem exportEvents_ok {events : List EvidenceEventRecord}
    (exportable : Exportable serde hash limit runId sessionId events)
    {db : EvidenceDatabase}
    (fresh : ∀ event ∈ events, ∀ row ∈ db.events.rows,
      row.eventId ≠ event.eventId ∧ row.seq < event.seq) :
    ∃ table : Table EventRow.eventId,
      events.foldlM (exportEvent serde) db = .ok (db.withEvents table) ∧
      table.rows = db.events.rows ++ events.map (bundleRow serde) := by
  induction events generalizing db with
  | nil => exact ⟨db.events, rfl, (List.append_nil _).symm⟩
  | cons event rest ih =>
      have above := (List.pairwise_cons.mp exportable.increasing).1
      have different := (List.nodup_cons.mp exportable.distinct).1
      have own := List.mem_cons_self (a := event) (l := rest)
      obtain ⟨payloadJson, written, _⟩ := (exportable.readable event own).hashed
      have row : bundleRow serde event = exportedRow event payloadJson := by
        rw [bundleRow, written]
        rfl
      have unstored : db.events.get? event.eventId = none :=
        Table.get?_eq_none_iff.mpr fun held member =>
          (fresh event own held member).1
      obtain ⟨table, inserted, rows⟩ := @Table.insert?_of_fresh _ _ _ _
        db.events (exportedRow event payloadJson) unstored
      have unnumbered : (db.events.rows.any fun other =>
          other.runId = (exportedRow event payloadJson).runId &&
            other.seq = (exportedRow event payloadJson).seq) = false := by
        rw [List.any_eq_false]
        intro held member
        have below := (fresh event own held member).2
        simp only [Bool.and_eq_true, decide_eq_true_eq, not_and]
        exact fun _ => ne_of_lt below
      have exported : exportEvent serde db event =
          .ok (db.withEvents table) := by
        unfold exportEvent
        rw [written]
        simp only [bind, Except.bind, insertEventOrFail, insertEvent?,
          unnumbered, Bool.false_eq_true, if_false, inserted]
        rfl
      have freshLater : ∀ other ∈ rest,
          ∀ held ∈ (db.withEvents table).events.rows,
            held.eventId ≠ other.eventId ∧ held.seq < other.seq := by
        intro other member held stored
        rw [show (db.withEvents table).events.rows = _ from rows] at stored
        rcases List.mem_append.mp stored with old | new
        · exact fresh other (List.mem_cons_of_mem _ member) held old
        · rw [List.mem_singleton.mp new]
          refine ⟨?_, Int.ofNat_lt.mpr (above other member)⟩
          intro same
          exact different (List.mem_map.mpr ⟨other, member, same.symm⟩)
      obtain ⟨whole, folded, wholeRows⟩ := @ih exportable.tail
        (db.withEvents table) freshLater
      refine ⟨whole, ?_, ?_⟩
      · rw [List.foldlM_cons, exported]
        exact folded
      · rw [wholeRows, show (db.withEvents table).events.rows = _ from rows,
          List.map_cons, row, List.append_assoc]
        rfl

/-! ### The file -/

/-- What the file of a bundle holds. -/
structure Exported (serde : SerdeJson) (hash : String → String)
    (runId : String) (first last : EvidenceEventRecord)
    (rest : List EvidenceEventRecord) (cutoff : Option Int) (removed : Nat)
    (steps : List (String × DerivedStep)) (bundle : EvidenceDatabase) :
    Prop where
  runs : bundle.runs.rows =
    [exportedRun runId first last (exportedRunStatus (first :: rest))]
  steps : bundle.steps.rows = steps.map exportedStep
  events : bundle.events.rows = (first :: rest).map (bundleRow serde)
  metadata : bundle.evidenceBundleMetadata =
    exportedMetadata runId (first :: rest).length
      (eventHash hash (first :: rest)) cutoff removed

theorem exportBundleFile_ok {first : EvidenceEventRecord}
    {rest : List EvidenceEventRecord}
    (exportable : Exportable serde hash limit runId sessionId (first :: rest))
    (cutoff : Option Int) (removed : Nat) :
    ∃ bundle last steps,
      exportBundleFile serde hash runId first rest cutoff removed =
        .ok bundle ∧
      deriveSteps (first :: rest) = .ok steps ∧ Entries.Ordered steps ∧
      (∀ entry ∈ steps, Derived runId sessionId entry.2) ∧
      Exported serde hash runId first last rest cutoff removed steps bundle := by
  obtain ⟨steps, derived, ordered, all⟩ := deriveSteps_ok exportable
  let last := rest.getLast?.getD first
  let run := exportedRun runId first last (exportedRunStatus (first :: rest))
  obtain ⟨runs, inserted, runRows⟩ := @Table.insert?_of_fresh _ _ _ _
    (.empty : Table RunRow.runId) run (Table.get?_empty _)
  have parent : (runs.get? runId).isSome := by
    refine Table.isSome_get?_iff.mpr ⟨run, ?_, rfl⟩
    rw [runRows]
    exact List.mem_singleton_self _
  obtain ⟨stepTable, stepsExported, stepRows⟩ := @exportSteps_ok _ _ _ ordered
    all { empty with runs := runs } parent fun _ _ => Table.get?_empty _
  obtain ⟨eventTable, eventsExported, eventRows⟩ := @exportEvents_ok _ _ _ _ _
    _ exportable { empty with runs := runs, steps := stepTable }
    fun _ _ row member => by cases member
  refine ⟨{ empty with
      runs := runs
      steps := stepTable
      events := eventTable
      evidenceBundleMetadata := exportedMetadata runId (first :: rest).length
        (eventHash hash (first :: rest)) cutoff removed }, last, steps, ?_,
    derived, ordered, all, ⟨runRows, stepRows, eventRows, rfl⟩⟩
  unfold exportBundleFile
  refine bind_eq_ok.mpr ⟨runs, by rw [insertOrFail, inserted], ?_⟩
  refine bind_eq_ok.mpr ⟨steps, derived, ?_⟩
  refine bind_eq_ok.mpr ⟨_, stepsExported, ?_⟩
  exact bind_eq_ok.mpr ⟨_, eventsExported, rfl⟩

/-! ### Reading it -/

theorem readEvent_bundleRow (lawful : serde.Lawful limit)
    {event : EvidenceEventRecord} (readable : Readable serde hash limit event)
    (timely : KeepsTime event.occurredAtMs) :
    readEvent serde hash (bundleRow serde event) = .ok event := by
  obtain ⟨payloadJson, written, hashed⟩ := readable.hashed
  have read := (jsonToState_of_written lawful written).1 readable.shallow
  have row : bundleRow serde event = exportedRow event payloadJson := by
    rw [bundleRow, written]
    rfl
  have time : millis (exportedRow event payloadJson).timestamp =
      event.occurredAtMs := timely
  rw [row]
  unfold readEvent
  refine bind_eq_ok.mpr ⟨event.payload, read, ?_⟩
  refine bind_eq_ok.mpr ⟨payloadJson, written, ?_⟩
  refine bind_eq_ok.mpr ⟨(), ensure_eq_ok.mpr (decide_eq_true hashed.symm), ?_⟩
  refine bind_eq_ok.mpr ⟨(), ensure_eq_ok.mpr (decide_eq_true
    (Int.natCast_nonneg event.seq)), ?_⟩
  rw [time]
  rfl

theorem readEvents_bundle (lawful : serde.Lawful limit)
    {events : List EvidenceEventRecord}
    (exportable : Exportable serde hash limit runId sessionId events)
    {bundle : EvidenceDatabase}
    (rows : bundle.events.rows = events.map (bundleRow serde)) :
    bundle.readEvents serde hash runId = .ok events := by
  have own : (bundle.events.rows.filter fun row => row.runId = runId) =
      events.map (bundleRow serde) := by
    rw [rows, List.filter_eq_self]
    intro row member
    obtain ⟨event, held, rfl⟩ := List.mem_map.mp member
    exact decide_eq_true (exportable.run event held)
  have ordered : (events.map (bundleRow serde)).Pairwise fun first second =>
      first.seq ≤ second.seq := by
    rw [List.pairwise_map]
    apply exportable.increasing.imp
    intro first second before
    exact Int.ofNat_le.mpr before.le
  rw [EvidenceDatabase.readEvents, eventRows, own, ordered.insertionSort_eq]
  clear own ordered rows
  induction events with
  | nil => rfl
  | cons event rest ih =>
      have own := List.mem_cons_self (a := event) (l := rest)
      rw [List.map_cons, List.mapM_cons, readEvent_bundleRow lawful
        (exportable.readable event own) (exportable.timely event own),
        ih exportable.tail]
      rfl

/-- The bundle is accepted, and the summary is that of the events. -/
theorem replayed_of_exported (lawful : serde.Lawful limit)
    {first last : EvidenceEventRecord} {rest : List EvidenceEventRecord}
    (exportable : Exportable serde hash limit runId sessionId (first :: rest))
    {cutoff : Option Int} {removed : Nat}
    {steps : List (String × DerivedStep)} {bundle : EvidenceDatabase}
    (derived : deriveSteps (first :: rest) = .ok steps)
    (ordered : Entries.Ordered steps)
    (all : ∀ entry ∈ steps, Derived runId sessionId entry.2)
    (exported : Exported serde hash runId first last rest cutoff removed steps
      bundle) :
    ∃ summary, bundle.replayed serde hash = .ok summary ∧
      summary.runId = runId ∧ summary.timeline = first :: rest ∧
      summary.eventCount = (first :: rest).length ∧
      summary.eventHash = eventHash hash (first :: rest) ∧
      summary.retentionCutoffEventDay = cutoff ∧
      summary.removedTurnCount = removed := by
  have metadata := exported.metadata
  have positive : 0 < limit := lt_of_lt_of_le (Nat.succ_pos _)
    (exportable.readable first (List.mem_cons_self ..)).shallow
  have events := readEvents_bundle lawful exportable exported.events
  have count : bundle.events.rows.length = (first :: rest).length := by
    rw [exported.events, List.length_map]
  have runs : bundle.runs.rows.length = 1 := by
    rw [exported.runs]
    rfl
  have read : bundle.readSteps = steps := by
    rw [EvidenceDatabase.readSteps, exported.steps, List.map_map]
    have back : steps.map (readStep ∘ exportedStep) = steps :=
      (List.map_congr_left fun entry member =>
        readStep_exportedStep (all entry member)).trans (List.map_id' steps)
    rw [back, Entries.collect_of_ordered ordered]
  have row : bundle.runs.get? runId =
      some (exportedRun runId first last (exportedRunStatus (first :: rest))) := by
    refine Table.get?_eq_some_iff.mpr ⟨?_, rfl⟩
    rw [exported.runs]
    exact List.mem_singleton_self _
  have checked : bundle.checkRun serde runId (first :: rest) =
      .ok (exportedRun runId first last (exportedRunStatus (first :: rest))) := by
    unfold checkRun
    rw [row]
    refine bind_eq_ok.mpr ⟨(), ensure_eq_ok.mpr ?_, ?_⟩
    · simp [exportedRun]
    · refine bind_eq_ok.mpr ⟨State.new, jsonToState_empty lawful positive, ?_⟩
      exact bind_eq_ok.mpr ⟨(), rfl, rfl⟩
  have cutoffRead : bundle.readCutoff = .ok cutoff := by
    rw [readCutoff, metadata]
    cases cutoff with
    | none => rfl
    | some day =>
        have text : exportedMetadata runId (first :: rest).length
            (eventHash hash (first :: rest)) (some day) removed
            retentionCutoffKey = some (toString day) := rfl
        rw [text]
        simp only [parseI64, Decimal.parseSigned_repr]
        rfl
  have removedRead : bundle.readRemoved "retention_removed_turn_count" =
      .ok removed := by
    have text : exportedMetadata runId (first :: rest).length
        (eventHash hash (first :: rest)) cutoff removed
        "retention_removed_turn_count" = some removed.repr := rfl
    rw [readRemoved, metadata, text, Option.getD_some, parseUsize,
      Decimal.parseUnsigned_repr]
  refine ⟨bundle.replaySummary hash runId (exportedRun runId first last
    (exportedRunStatus (first :: rest))) (first :: rest) cutoff removed, ?_,
    rfl, rfl, rfl, rfl, rfl, rfl⟩
  unfold replayed
  refine bind_eq_ok.mpr ⟨bundleSchema, by rw [bundleMetadata, metadata]; rfl, ?_⟩
  refine bind_eq_ok.mpr ⟨(), ensure_eq_ok.mpr (decide_eq_true rfl), ?_⟩
  refine bind_eq_ok.mpr ⟨runId, by rw [bundleMetadata, metadata]; rfl, ?_⟩
  refine bind_eq_ok.mpr ⟨eventHash hash (first :: rest),
    by rw [bundleMetadata, metadata]; rfl, ?_⟩
  refine bind_eq_ok.mpr ⟨(first :: rest).length.repr,
    by rw [bundleMetadata, metadata]; rfl, ?_⟩
  refine bind_eq_ok.mpr ⟨(first :: rest).length,
    by rw [parseUsize, Decimal.parseUnsigned_repr], ?_⟩
  refine bind_eq_ok.mpr ⟨first :: rest, events, ?_⟩
  refine bind_eq_ok.mpr ⟨(), ensure_eq_ok.mpr ?_, ?_⟩
  · simp [count, runs]
  · refine bind_eq_ok.mpr ⟨steps, derived, ?_⟩
    refine bind_eq_ok.mpr ⟨(), ensure_eq_ok.mpr (decide_eq_true read), ?_⟩
    refine bind_eq_ok.mpr ⟨_, checked, ?_⟩
    refine bind_eq_ok.mpr ⟨cutoff, cutoffRead, ?_⟩
    exact bind_eq_ok.mpr ⟨removed, removedRead, rfl⟩

end EvidenceDatabase

end Exported

/-! ### Stores that can be exported -/

namespace EvidenceDatabase

variable {db : EvidenceDatabase}

/-- The times of the store are given back. -/
structure Timely (db : EvidenceDatabase) : Prop where
  queue : ∀ row ∈ db.evidenceIngestQueue.rows, KeepsTime row.occurredAtMs
  events : ∀ row ∈ db.events.rows, ∃ occurredAtMs,
    KeepsTime occurredAtMs ∧ row.timestamp = seconds occurredAtMs

/-- What pruning has noted can be parsed. -/
structure Noted (metadata : String → Option String) : Prop where
  cutoff : ∀ text, metadata retentionCutoffKey = some text →
    ∃ day : Int, text = toString day
  removed : ∀ runId text, metadata (retentionRemovedKey runId) = some text →
    ∃ count : Nat, text = count.repr

theorem toList_removedKey (runId : String) :
    (retentionRemovedKey runId).toList =
      "retention_removed_turn_count:".toList ++ runId.toList :=
  String.toList_append

theorem cutoffKey_ne_removedKey (runId : String) :
    retentionCutoffKey ≠ retentionRemovedKey runId := by
  intro same
  have texts := congrArg String.toList same
  rw [toList_removedKey] at texts
  have tenth := congrArg (fun text : List Char => text[10]?) texts
  rw [List.getElem?_append_left (by decide)] at tenth
  exact absurd tenth (by decide)

theorem Noted.recordRemoved {metadata after : String → Option String}
    (noted : Noted metadata) {removed : String × Nat}
    (recorded : recordRemoved metadata removed = .ok after) : Noted after := by
  obtain ⟨previous, _, made⟩ := bind_eq_ok.mp recorded
  cases made
  constructor
  · intro text found
    rw [Function.update_of_ne (cutoffKey_ne_removedKey _)] at found
    exact noted.cutoff text found
  · intro runId text found
    by_cases same : retentionRemovedKey runId = retentionRemovedKey removed.1
    · rw [same, Function.update_self] at found
      exact ⟨_, (Option.some.inj found).symm⟩
    · rw [Function.update_of_ne same] at found
      exact noted.removed runId text found

theorem Noted.pruned {metadata after : String → Option String}
    (noted : Noted metadata) {cutoff : Int} {removed : List (String × Nat)}
    (recorded : removed.foldlM EvidenceDatabase.recordRemoved
      (Function.update metadata retentionCutoffKey (some (toString cutoff))) =
        .ok after) : Noted after := by
  have start : Noted (Function.update metadata retentionCutoffKey
      (some (toString cutoff))) := by
    constructor
    · intro text found
      rw [Function.update_self] at found
      exact ⟨cutoff, (Option.some.inj found).symm⟩
    · intro runId text found
      rw [Function.update_of_ne (cutoffKey_ne_removedKey runId).symm] at found
      exact noted.removed runId text found
  generalize Function.update metadata retentionCutoffKey
    (some (toString cutoff)) = first at start recorded
  induction removed generalizing first with
  | nil =>
      cases recorded
      exact start
  | cons entry rest ih =>
      rw [List.foldlM_cons] at recorded
      obtain ⟨next, one, later⟩ := bind_eq_ok.mp recorded
      exact ih next (start.recordRemoved one) later

structure Kept (db : EvidenceDatabase) : Prop where
  timely : Timely db
  noted : Noted db.evidenceBundleMetadata

theorem kept_empty : Kept empty where
  timely := ⟨fun _ member => (by cases member), fun _ member => (by cases member)⟩
  noted := ⟨fun _ found => (by cases found), fun _ _ found => (by cases found)⟩

theorem Kept.enqueue (kept : Kept db) {event : EvidenceEventInput}
    (timely : KeepsTime event.occurredAtMs) :
    Kept (db.enqueue serde event).2 := by
  rcases enqueue_cases serde event db with ⟨_, _, enqueued⟩ | ⟨_, same⟩
  · refine ⟨⟨?_, ?_⟩, ?_⟩
    · intro row member
      rw [enqueued.queue] at member
      rcases List.mem_append.mp member with old | new
      · exact kept.timely.queue row old
      · rw [List.mem_singleton.mp new]
        exact timely
    · rw [enqueued.events]
      exact kept.timely.events
    · rw [enqueued.metadata]
      exact kept.noted
  · rw [same]
    exact kept

theorem Kept.batch (lawful : serde.Lawful limit)
    (sound : Sound serde hash limit db) (kept : Kept db) (count : Nat) :
    ∃ final, (db.evidenceIngestQueue.rows.take count).foldlM
        (projectEvent serde hash) ({}, db) = .ok final ∧ Kept final.2 := by
  obtain ⟨final, ends, _, keeps⟩ := @batch_induction serde hash limit db lawful
    (motive := fun _ start final => Kept start.2 → Kept final.2)
    (fun _ _ _ kept => kept)
    (by
      intro count receipt db row rest event payloadJson after final _ head _ _ _
        advanced later kept
      apply later
      have member : ∀ other ∈ row :: rest, KeepsTime other.occurredAtMs := by
        rw [← head]
        exact kept.timely.queue
      refine ⟨⟨?_, ?_⟩, ?_⟩
      · intro other held
        rw [show ({ receipt with
            projected := receipt.projected + 1
            acked := receipt.acked + 1 }, after).2.evidenceIngestQueue.rows =
          rest from advanced.queue] at held
        exact member other (List.mem_cons_of_mem _ held)
      · intro stored held
        rw [show ({ receipt with
            projected := receipt.projected + 1
            acked := receipt.acked + 1 }, after).2.events.rows = _ from
          advanced.events] at held
        rcases List.mem_append.mp held with old | new
        · exact kept.timely.events stored old
        · rw [List.mem_singleton.mp new]
          exact ⟨row.occurredAtMs, member row (List.mem_cons_self ..), rfl⟩
      · exact advanced.metadata.symm ▸ kept.noted)
    (by
      intro count receipt db row rest event payloadJson final _ _ _ _ _ later
        kept
      apply later
      exact ⟨⟨fun other held =>
        kept.timely.queue other (Table.mem_deleteWhere.mp held).1,
        kept.timely.events⟩, kept.noted⟩)
    count {} sound
  exact ⟨final, ends, keeps kept⟩

theorem Kept.next (lawful : serde.Lawful limit)
    (sound : Sound serde hash limit db) (kept : Kept db) {call : EvidenceCall}
    (timely : ∀ event, call = .enqueue event →
      KeepsTime event.occurredAtMs) : Kept (call.next serde hash db) := by
  cases call with
  | enqueue event => exact kept.enqueue (timely event rfl)
  | projectBatch count =>
      rw [EvidenceCall.next]
      rcases projectBatch_cases sound count with ⟨error, failed⟩ | ran
      · rw [failed]
        exact kept
      · obtain ⟨final, ends, later⟩ := kept.batch lawful sound count
        rw [ran, ends]
        exact later
  | pruneToActiveEventDays keepDays =>
      rw [EvidenceCall.next]
      cases pruned : db.pruneToActiveEventDays keepDays with
      | error error => exact kept
      | ok outcome =>
          obtain ⟨removed, after⟩ := outcome
          rcases prune_cases pruned with rfl | ⟨cutoff, metadata, recorded, rfl⟩
          · exact kept
          · exact ⟨⟨kept.timely.queue, fun row member =>
              kept.timely.events row (Table.mem_deleteWhere.mp member).1⟩,
              kept.noted.pruned recorded⟩

theorem kept_of_calls (lawful : serde.Lawful limit) {calls : List EvidenceCall}
    (timely : ∀ event, .enqueue event ∈ calls → KeepsTime event.occurredAtMs) :
    Kept (runFrom (EvidenceCall.next serde hash) .empty calls) := by
  have kept : ∀ (db : EvidenceDatabase), Sound serde hash limit db → Kept db →
      Kept (runFrom (EvidenceCall.next serde hash) db calls) := by
    induction calls with
    | nil => exact fun _ _ kept => kept
    | cons call rest ih =>
        intro db sound kept
        apply ih (fun event member => timely event
          (List.mem_cons_of_mem _ member)) _ (sound.next lawful call)
        exact kept.next lawful sound fun event same => timely event
          (same ▸ List.mem_cons_self ..)
  exact kept .empty sound_empty kept_empty

/-! ### The events of a store -/

/-- What is read of a row. -/
def readRow (serde : SerdeJson) (row : EventRow) : EvidenceEventRecord :=
  { eventId := row.eventId
    runId := row.runId
    sessionId := row.sessionId
    stepId := row.stepId
    seq := row.seq.toNat
    eventType := row.eventType
    occurredAtMs := millis row.timestamp
    payloadHash := row.payloadHash
    payload := (jsonToState serde row.payloadRef).toOption.getD .new }

theorem readEvent_of_member (lawful : serde.Lawful limit)
    (sound : Sound serde hash limit db) {row : EventRow}
    (member : row ∈ db.events.rows) :
    readEvent serde hash row = .ok (readRow serde row) := by
  obtain ⟨event, payloadJson, accepted, shallow, same⟩ :=
    sound.projecting.accepted row member
  have positive := sound.projecting.positive row member
  have text : row.payloadRef = payloadJson := by rw [same]; rfl
  have hashed : row.payloadHash = hash payloadJson := by rw [same]; rfl
  have read := (jsonToState_of_written lawful accepted.written).1 shallow
  unfold readEvent readRow
  rw [text, read]
  refine bind_eq_ok.mpr ⟨event.payload, rfl, ?_⟩
  refine bind_eq_ok.mpr ⟨payloadJson, accepted.written, ?_⟩
  refine bind_eq_ok.mpr ⟨(), ensure_eq_ok.mpr (decide_eq_true hashed.symm), ?_⟩
  exact bind_eq_ok.mpr ⟨(), ensure_eq_ok.mpr (decide_eq_true positive.le), rfl⟩

theorem eventRows_eq_filter (sound : Sound serde hash limit db)
    (runId : String) :
    db.eventRows runId = db.events.rows.filter fun row => row.runId = runId := by
  rw [eventRows, List.Pairwise.insertionSort_eq]
  rw [List.pairwise_filter]
  apply sound.projecting.numbered.imp
  intro first second before one other
  exact (before ((of_decide_eq_true one).trans
    (of_decide_eq_true other).symm)).le

theorem readEvents_of_sound (lawful : serde.Lawful limit)
    (sound : Sound serde hash limit db) (runId : String) :
    db.readEvents serde hash runId =
      .ok ((db.eventRows runId).map (readRow serde)) := by
  have member : ∀ row ∈ db.eventRows runId, row ∈ db.events.rows := by
    intro row held
    rw [eventRows_eq_filter sound] at held
    exact (List.mem_filter.mp held).1
  unfold readEvents
  generalize db.eventRows runId = rows at member ⊢
  induction rows with
  | nil => rfl
  | cons row rest ih =>
      rw [List.mapM_cons, readEvent_of_member lawful sound
        (member row (List.mem_cons_self ..)),
        ih fun other held => member other (List.mem_cons_of_mem _ held)]
      rfl

/-- The events of a run can be exported. -/
theorem exportable_of_sound (lawful : serde.Lawful limit)
    (sound : Sound serde hash limit db) (timely : Timely db) (runId : String) :
    ∃ sessionId, Exportable serde hash limit runId sessionId
      ((db.eventRows runId).map (readRow serde)) := by
  obtain ⟨sessionOf, _, owned⟩ := sound.owned
  have member : ∀ row ∈ db.eventRows runId,
      row ∈ db.events.rows ∧ row.runId = runId := by
    intro row held
    rw [eventRows_eq_filter sound] at held
    obtain ⟨stored, own⟩ := List.mem_filter.mp held
    exact ⟨stored, of_decide_eq_true own⟩
  refine ⟨sessionOf runId, ?_⟩
  constructor
  · intro event listed
    obtain ⟨row, held, rfl⟩ := List.mem_map.mp listed
    exact (readEvent_eq_ok lawful
      (readEvent_of_member lawful sound (member row held).1)).1
  · intro event listed
    obtain ⟨row, held, rfl⟩ := List.mem_map.mp listed
    exact (member row held).2
  · intro event listed
    obtain ⟨row, held, rfl⟩ := List.mem_map.mp listed
    obtain ⟨stored, own⟩ := member row held
    exact (owned.event row stored).1.trans (congrArg sessionOf own)
  · intro event listed
    obtain ⟨row, held, rfl⟩ := List.mem_map.mp listed
    obtain ⟨occurredAtMs, keeps, stamp⟩ := timely.events row (member row held).1
    have time : (readRow serde row).occurredAtMs = occurredAtMs :=
      (congrArg millis stamp).trans keeps
    rw [time]
    exact keeps
  · rw [List.map_map, eventRows_eq_filter sound]
    exact (db.events.distinct.sublist (List.filter_sublist.map _))
  · rw [List.pairwise_map, eventRows_eq_filter sound, List.pairwise_filter]
    apply sound.projecting.numbered.imp_of_mem
    intro first second firstHeld _ before one other
    have below := before ((of_decide_eq_true one).trans
      (of_decide_eq_true other).symm)
    have positive := sound.projecting.positive first firstHeld
    show first.seq.toNat < second.seq.toNat
    omega

theorem readCutoff_ok (noted : Noted db.evidenceBundleMetadata) :
    ∃ cutoff, db.readCutoff = .ok cutoff := by
  unfold readCutoff
  cases found : db.evidenceBundleMetadata retentionCutoffKey with
  | none => exact ⟨none, rfl⟩
  | some text =>
      obtain ⟨day, rfl⟩ := noted.cutoff text found
      refine ⟨some day, ?_⟩
      simp only [parseI64, Decimal.parseSigned_repr]
      rfl

theorem readRemoved_ok (noted : Noted db.evidenceBundleMetadata)
    (runId : String) :
    ∃ removed, db.readRemoved (retentionRemovedKey runId) = .ok removed := by
  unfold readRemoved
  cases found : db.evidenceBundleMetadata (retentionRemovedKey runId) with
  | none => exact ⟨0, rfl⟩
  | some text =>
      obtain ⟨count, rfl⟩ := noted.removed runId text found
      exact ⟨count, by rw [Option.getD_some, parseUsize,
        Decimal.parseUnsigned_repr]⟩

theorem replayBundle_update (files : BundleFiles) (path : String)
    (bundle : EvidenceDatabase) :
    replayBundle serde hash path (Function.update files path (some bundle)) =
      bundle.replayed serde hash := by
  rw [replayBundle, Function.update_self]

/-- Every run with events can be exported to a new file, and the file replays as
what the store says of the run. -/
theorem export_replays (lawful : serde.Lawful limit)
    (calls : List EvidenceCall)
    (timely : ∀ event, .enqueue event ∈ calls → KeepsTime event.occurredAtMs)
    {runId path : String} {files : BundleFiles} (free : files path = none)
    (held : ∃ row ∈ (runFrom (EvidenceCall.next serde hash) .empty
      calls).events.rows, row.runId = runId) :
    let db := runFrom (EvidenceCall.next serde hash) .empty calls
    ∃ receipt summary,
      (db.exportBundle serde hash runId path files).1 = .ok receipt ∧
      replayBundle serde hash path
        (db.exportBundle serde hash runId path files).2 = .ok summary ∧
      db.readEvents serde hash runId = .ok summary.timeline ∧
      summary.timeline ≠ [] ∧ summary.runId = runId ∧
      receipt.eventCount = summary.timeline.length ∧
      summary.eventCount = receipt.eventCount ∧
      receipt.eventHash = eventHash hash summary.timeline ∧
      summary.eventHash = receipt.eventHash ∧
      db.readCutoff = .ok summary.retentionCutoffEventDay ∧
      db.readRemoved (retentionRemovedKey runId) =
        .ok summary.removedTurnCount := by
  intro db
  have sound : Sound serde hash limit db := sound_of_calls lawful calls
  have kept : Kept db := kept_of_calls lawful timely
  have read := readEvents_of_sound lawful sound runId
  obtain ⟨sessionId, exportable⟩ := exportable_of_sound lawful sound
    kept.timely runId
  obtain ⟨cutoff, cutoffRead⟩ := readCutoff_ok kept.noted
  obtain ⟨removed, removedRead⟩ := readRemoved_ok kept.noted runId
  cases listed : (db.eventRows runId).map (readRow serde) with
  | nil =>
      obtain ⟨row, member, own⟩ := held
      rw [List.map_eq_nil_iff, eventRows_eq_filter sound,
        List.filter_eq_nil_iff] at listed
      exact absurd (decide_eq_true own) (listed row member)
  | cons first rest =>
      rw [listed] at read exportable
      obtain ⟨bundle, last, steps, exports, derived, ordered, all, exported⟩ :=
        exportBundleFile_ok exportable cutoff removed
      obtain ⟨summary, replays, run, timeline, count, hashed, sameCutoff,
        sameRemoved⟩ := replayed_of_exported lawful exportable derived ordered
          all exported
      have made : db.exportedBundle serde hash runId path files =
          .ok (bundleReceipt hash runId path (first :: rest) cutoff removed,
            bundle) := by
        unfold exportedBundle
        refine bind_eq_ok.mpr ⟨first :: rest, read, ?_⟩
        refine bind_eq_ok.mpr ⟨(), ensure_eq_ok.mpr (by rw [free]; rfl), ?_⟩
        refine bind_eq_ok.mpr ⟨cutoff, cutoffRead, ?_⟩
        refine bind_eq_ok.mpr ⟨removed, removedRead, ?_⟩
        exact bind_eq_ok.mpr ⟨bundle, exports, rfl⟩
      have written : db.exportBundle serde hash runId path files =
          (.ok (bundleReceipt hash runId path (first :: rest) cutoff removed),
            Function.update files path (some bundle)) := by
        unfold exportBundle
        rw [made]
      rw [written]
      refine ⟨_, summary, rfl, ?_, ?_, ?_, run, ?_, ?_, ?_, ?_, ?_, ?_⟩
      · exact (replayBundle_update files path bundle).trans replays
      · rw [timeline]
        exact read
      · rw [timeline]
        exact List.cons_ne_nil _ _
      · rw [timeline]
        rfl
      · exact count
      · rw [timeline]
        rfl
      · exact hashed
      · rw [sameCutoff]
        exact cutoffRead
      · rw [sameRemoved]
        exact removedRead

theorem note_export_replays :
    let db := runFrom (EvidenceCall.next (bitSerde 8) stableHash) .empty
      [.enqueue (noteAt 1), .projectBatch 1]
    ∃ receipt summary,
      (db.exportBundle (bitSerde 8) stableHash "run" "bundle" fun _ => none).1 =
        .ok receipt ∧
      replayBundle (bitSerde 8) stableHash "bundle"
        (db.exportBundle (bitSerde 8) stableHash "run" "bundle"
          fun _ => none).2 = .ok summary ∧
      db.readEvents (bitSerde 8) stableHash "run" = .ok summary.timeline ∧
      summary.timeline ≠ [] ∧ summary.runId = "run" ∧
      receipt.eventCount = summary.timeline.length ∧
      summary.eventCount = receipt.eventCount ∧
      receipt.eventHash = eventHash stableHash summary.timeline ∧
      summary.eventHash = receipt.eventHash ∧
      db.readCutoff = .ok summary.retentionCutoffEventDay ∧
      db.readRemoved (retentionRemovedKey "run") =
        .ok summary.removedTurnCount :=
  export_replays (bitSerde_lawful 8) [.enqueue (noteAt 1), .projectBatch 1]
    (by
      intro event member
      simp only [List.mem_cons, EvidenceCall.enqueue.injEq,
        reduceCtorEq, List.not_mem_nil, or_false] at member
      subst member
      exact millis_seconds (by decide) (by decide)) rfl
    ⟨projectedRow stableHash (noteAt 1) 1 "\x7b\x7d", by decide +kernel, rfl⟩

/-- A time that the seconds do not give back makes the file disagree with its
own receipt. -/
theorem late_export_refused :
    let db := runFrom (EvidenceCall.next (bitSerde 8) stableHash) .empty
      [.enqueue (noteAt 4398046511104021), .projectBatch 1]
    (4398046511104021 : Int) < 2 ^ 52 ∧
    (db.exportBundle (bitSerde 8) stableHash "run" "bundle"
      fun _ => none).1.toOption.isSome = true ∧
    (replayBundle (bitSerde 8) stableHash "bundle"
      (db.exportBundle (bitSerde 8) stableHash "run" "bundle"
        fun _ => none).2).toOption.isSome = false := by
  decide +kernel

end EvidenceDatabase

end AgentLedger.Rust
