import AgentLedger.Rust.Evidence.BundleReplay

namespace AgentLedger.Rust

open Foundation

/-! What a store has said over its life.  Numbers, duplicates and statuses are
all found again from the rows that pruning leaves, so that each of them can be
lost with the rows. -/

section History

variable (serde : SerdeJson) (hash : String → String)

namespace EvidenceDatabase

/-- The status of the run that `export_bundle` writes, if it writes one. -/
def writtenRunStatus (runId : String) (db : EvidenceDatabase) :
    Option String :=
  match db.readEvents serde hash runId with
  | .ok (first :: rest) => some (exportedRunStatus (first :: rest))
  | _ => none

/-- The rows that a call of `prune_to_active_event_days` would leave. -/
def survives (keepDays : Nat) (db : EvidenceDatabase) (row : EventRow) : Bool :=
  db.eventDays.length ≤ keepDays ||
    !db.prunes (db.eventDays.getD (keepDays - 1) 0) row

end EvidenceDatabase

/-- A number that an event has been given in its run. -/
structure Numbered where
  runId : String
  seq : Int
  eventId : String
  deriving DecidableEq

def EventRow.numbered (row : EventRow) : Numbered :=
  ⟨row.runId, row.seq, row.eventId⟩

structure History where
  db : EvidenceDatabase
  /-- The events that `enqueue` has accepted as new ones. -/
  accepted : List String
  numbered : List Numbered
  /-- The events that have left the store, pruned or dropped. -/
  lost : List String
  /-- The turns that have been reported as completed, failed or cancelled. -/
  ended : List String
  /-- The runs that have been exported, or could have been, with a terminal
  status. -/
  closed : List String

namespace History

def start : History := ⟨.empty, [], [], [], [], []⟩

def held (db : EvidenceDatabase) (eventId : String) : Bool :=
  (db.evidenceIngestQueue.get? eventId).isSome || (db.events.get? eventId).isSome

def isTerminal (step : StepRow) : Bool :=
  ["completed", "failed", "cancelled"].contains step.status

def advance (call : EvidenceCall) (history : History) : History :=
  let before := history.db
  let after := call.next serde hash before
  { db := after
    accepted := history.accepted ++
      (call.accepted serde before).map EvidenceEventInput.eventId
    numbered := history.numbered ++
      (after.events.rows.filter fun row =>
        (before.events.get? row.eventId).isNone).map EventRow.numbered
    lost := history.lost ++
      (before.evidenceIngestQueue.rows.map QueuedEvent.eventId ++
        before.events.rows.map EventRow.eventId).filter
          fun eventId => !held after eventId
    ended := history.ended ++
      (after.steps.rows.filter isTerminal).map StepRow.stepId
    closed := history.closed ++
      (after.events.rows.map EventRow.runId).filter fun runId =>
        (after.writtenRunStatus serde hash runId).any (· ≠ "evidence") }

/-- Pruning has not rewritten what was said. -/
structure Faithful (history : History) : Prop where
  /-- Different events of a run have different numbers. -/
  numbers : ∀ first ∈ history.numbered, ∀ second ∈ history.numbered,
    first.runId = second.runId → first.seq = second.seq →
    first.eventId = second.eventId
  once : history.accepted.Nodup
  turns : ∀ step ∈ history.db.steps.rows, step.stepId ∈ history.ended →
    step.status ≠ "running"
  runs : ∀ runId ∈ history.closed,
    history.db.writtenRunStatus serde hash runId ≠ some "evidence"

/-- The next event of the queue can be projected without forgetting: the latest
event of its run is stored, it does not reopen a turn that was pruned, nor a run
of which nothing is left. -/
structure Projects (row : QueuedEvent) (history : History) : Prop where
  latest : ∀ number ∈ history.numbered, number.runId = row.runId →
    ∃ stored ∈ history.db.events.rows,
      stored.runId = row.runId ∧ number.seq ≤ stored.seq
  turn : ∀ stepId ∈ history.ended, row.stepId = some stepId →
    history.db.steps.get? stepId = none →
    (terminalStepStatus row.eventType).isSome
  run : row.runId ∈ history.closed →
    (∀ stored ∈ history.db.events.rows, stored.runId ≠ row.runId) →
    (terminalRunStatus row.eventType).isSome

def Careful (history : History) : EvidenceCall → Prop
  | .enqueue event => event.eventId ∉ history.lost
  | .projectBatch _ =>
      ∀ row, history.db.evidenceIngestQueue.rows.head? = some row →
        EvidenceDatabase.readable serde row = true → Projects row history
  | .pruneToActiveEventDays keepDays =>
      ∀ runId ∈ history.closed, ∀ row ∈ history.db.events.rows,
        row.runId = runId → history.db.survives keepDays row = true →
        ∃ other ∈ history.db.events.rows, other.runId = runId ∧
          history.db.survives keepDays other = true ∧
          (terminalRunStatus other.eventType).isSome

end History

end History

/-- A batch, as the batches of one event that it is made of. -/
def EvidenceCall.moves : EvidenceCall → List EvidenceCall
  | .projectBatch count =>
      if count < 2 ^ 63 then List.replicate count (.projectBatch 1) else []
  | call => [call]

variable {serde : SerdeJson} {hash : String → String} {limit : Nat}
  {db : EvidenceDatabase}

/-! ### The status that is written -/

theorem terminalRunStatus_ne_evidence {eventType status : String}
    (ends : terminalRunStatus eventType = some status) :
    status ≠ "evidence" := by
  unfold terminalRunStatus at ends
  split at ends <;> cases ends <;> decide

theorem exportedRunStatus_eq_evidence_iff {events : List EvidenceEventRecord} :
    exportedRunStatus events = "evidence" ↔
      ∀ event ∈ events, terminalRunStatus event.eventType = none := by
  unfold exportedRunStatus
  constructor
  · intro status event member
    cases ends : terminalRunStatus event.eventType with
    | none => rfl
    | some name =>
        cases last : (events.filterMap fun event =>
            terminalRunStatus event.eventType).getLast? with
        | none =>
            have empty := List.getLast?_eq_none_iff.mp last
            exact absurd (List.filterMap_eq_nil_iff.mp empty event member)
              (by simp [ends])
        | some final =>
            rw [last] at status
            obtain ⟨other, _, own⟩ := List.mem_filterMap.mp
              (List.mem_of_getLast? last)
            exact absurd status (terminalRunStatus_ne_evidence own)
  · intro none_ends
    have empty : (events.filterMap fun event =>
        terminalRunStatus event.eventType) = [] :=
      List.filterMap_eq_nil_iff.mpr none_ends
    rw [empty]
    rfl

namespace History

instance (row : QueuedEvent) (history : History) :
    Decidable (Projects row history) :=
  decidable_of_iff
    ((∀ number ∈ history.numbered, number.runId = row.runId →
        ∃ stored ∈ history.db.events.rows,
          stored.runId = row.runId ∧ number.seq ≤ stored.seq) ∧
      (∀ stepId ∈ history.ended, row.stepId = some stepId →
        (history.db.steps.get? stepId).isNone →
        (terminalStepStatus row.eventType).isSome) ∧
      (row.runId ∈ history.closed →
        (∀ stored ∈ history.db.events.rows, stored.runId ≠ row.runId) →
        (terminalRunStatus row.eventType).isSome))
    (by
      simp only [Option.isNone_iff_eq_none]
      exact ⟨fun ⟨latest, turn, run⟩ => ⟨latest, turn, run⟩,
        fun projects => ⟨projects.latest, projects.turn, projects.run⟩⟩)

instance (history : History) :
    (call : EvidenceCall) → Decidable (Careful serde history call)
  | .enqueue _ => inferInstanceAs (Decidable (¬_ ∈ _))
  | .projectBatch _ => inferInstanceAs (Decidable (∀ row, _ = some row → _))
  | .pruneToActiveEventDays _ => inferInstanceAs (Decidable (∀ runId ∈ _, _))

end History

namespace EvidenceDatabase

/-- Some event of the run is stored, and this many end it. -/
def ends (runId : String) (db : EvidenceDatabase) : Prop :=
  ∃ row ∈ db.events.rows, row.runId = runId ∧
    (terminalRunStatus row.eventType).isSome

private theorem mem_eventRows (sound : Sound serde hash limit db)
    {runId : String} {row : EventRow} :
    row ∈ db.eventRows runId ↔ row ∈ db.events.rows ∧ row.runId = runId := by
  rw [eventRows_eq_filter sound, List.mem_filter, decide_eq_true_eq]

theorem writtenRunStatus_cases (lawful : serde.Lawful limit)
    (sound : Sound serde hash limit db) (runId : String) :
    db.writtenRunStatus serde hash runId = none ∧
      (∀ row ∈ db.events.rows, row.runId ≠ runId) ∨
    (∃ status, db.writtenRunStatus serde hash runId = some status ∧
      (status ≠ "evidence" ↔ db.ends runId)) := by
  have read := readEvents_of_sound lawful sound runId
  unfold writtenRunStatus
  rw [read]
  cases listed : (db.eventRows runId).map (readRow serde) with
  | nil =>
      refine .inl ⟨rfl, ?_⟩
      intro row member own
      rw [List.map_eq_nil_iff] at listed
      have held := (mem_eventRows sound).mpr ⟨member, own⟩
      rw [listed] at held
      cases held
  | cons first rest =>
      refine .inr ⟨exportedRunStatus (first :: rest), rfl, ?_⟩
      rw [Ne, exportedRunStatus_eq_evidence_iff, ← listed]
      constructor
      · intro some_ends
        by_contra none_ends
        apply some_ends
        intro event member
        obtain ⟨row, held, rfl⟩ := List.mem_map.mp member
        obtain ⟨stored, own⟩ := (mem_eventRows sound).mp held
        cases ends : terminalRunStatus row.eventType with
        | none => exact ends
        | some status =>
            exact absurd ⟨row, stored, own, by simp [ends]⟩ none_ends
      · rintro ⟨row, stored, own, ends⟩ none_ends
        have none_here : terminalRunStatus row.eventType = none :=
          none_ends (readRow serde row) (List.mem_map_of_mem
            ((mem_eventRows sound).mpr ⟨stored, own⟩))
        rw [none_here] at ends
        cases ends

end EvidenceDatabase

/-! ### The invariant -/

namespace History

open EvidenceDatabase

variable {history : History}

structure Recorded (serde : SerdeJson) (hash : String → String) (limit : Nat)
    (history : History) : Prop where
  sound : Sound serde hash limit history.db
  numbers : ∀ first ∈ history.numbered, ∀ second ∈ history.numbered,
    first.runId = second.runId → first.seq = second.seq →
    first.eventId = second.eventId
  known : ∀ eventId ∈ history.accepted,
    held history.db eventId = true ∨ eventId ∈ history.lost
  once : history.accepted.Nodup
  turns : ∀ step ∈ history.db.steps.rows, step.stepId ∈ history.ended →
    step.status ≠ "running"
  runs : ∀ runId ∈ history.closed, ∀ row ∈ history.db.events.rows,
    row.runId = runId → history.db.ends runId

theorem recorded_start : Recorded serde hash limit start where
  sound := sound_empty
  numbers _ member := by cases member
  known _ member := by cases member
  once := List.nodup_nil
  turns _ member := by cases member
  runs _ member := by cases member

theorem Recorded.faithful (lawful : serde.Lawful limit)
    (recorded : Recorded serde hash limit history) :
    Faithful serde hash history where
  numbers := recorded.numbers
  once := recorded.once
  turns := recorded.turns
  runs := by
    intro runId member written
    rcases writtenRunStatus_cases lawful recorded.sound runId with
      ⟨none_written, _⟩ | ⟨status, same, ends⟩
    · rw [none_written] at written
      cases written
    · rw [same] at written
      obtain rfl := Option.some.inj written
      have some_row : ∃ row ∈ history.db.events.rows, row.runId = runId := by
        by_contra none_held
        have read := readEvents_of_sound lawful recorded.sound runId
        have empty : history.db.eventRows runId = [] := by
          rw [eventRows_eq_filter recorded.sound, List.filter_eq_nil_iff]
          intro row held own
          exact none_held ⟨row, held, of_decide_eq_true own⟩
        rw [writtenRunStatus, read, empty] at same
        cases same
      obtain ⟨row, held, own⟩ := some_row
      exact ends.mpr (recorded.runs runId member row held own) rfl

theorem terminalStepStatus_ne_running {eventType status : String}
    (ends : terminalStepStatus eventType = some status) :
    status ≠ "running" := by
  unfold terminalStepStatus at ends
  split at ends <;> cases ends <;> decide

private theorem status_of_isTerminal {step : StepRow}
    (terminal : isTerminal step = true) : step.status ≠ "running" := by
  intro running
  rw [isTerminal, running] at terminal
  exact absurd terminal (by decide)

theorem Recorded.step (lawful : serde.Lawful limit)
    (recorded : Recorded serde hash limit history) {call : EvidenceCall}
    (later : ∀ row ∈ (call.next serde hash history.db).events.rows,
      history.db.events.get? row.eventId = none →
      ∀ number ∈ history.numbered, number.runId = row.runId →
        number.seq < row.seq)
    (single : ∀ first ∈ (call.next serde hash history.db).events.rows,
      ∀ second ∈ (call.next serde hash history.db).events.rows,
      history.db.events.get? first.eventId = none →
      history.db.events.get? second.eventId = none → first = second)
    (fresh : ∀ event ∈ call.accepted serde history.db,
      event.eventId ∉ history.accepted ∧
        held (call.next serde hash history.db) event.eventId = true)
    (turns : ∀ step ∈ (call.next serde hash history.db).steps.rows,
      step.stepId ∈ history.ended → step.status ≠ "running")
    (runs : ∀ runId ∈ history.closed,
      ∀ row ∈ (call.next serde hash history.db).events.rows,
      row.runId = runId → (call.next serde hash history.db).ends runId) :
    Recorded serde hash limit (advance serde hash call history) where
  sound := recorded.sound.next lawful call
  numbers := by
    have new {number : Numbered} (member : number ∈
        ((call.next serde hash history.db).events.rows.filter fun row =>
          (history.db.events.get? row.eventId).isNone).map
          EventRow.numbered) :
        ∃ row ∈ (call.next serde hash history.db).events.rows,
          history.db.events.get? row.eventId = none ∧
          number = row.numbered := by
      obtain ⟨row, listed, rfl⟩ := List.mem_map.mp member
      obtain ⟨stored, absent⟩ := List.mem_filter.mp listed
      exact ⟨row, stored, Option.isNone_iff_eq_none.mp absent, rfl⟩
    intro first firstMember second secondMember run seq
    rcases List.mem_append.mp firstMember with firstOld | firstNew
    · rcases List.mem_append.mp secondMember with secondOld | secondNew
      · exact recorded.numbers first firstOld second secondOld run seq
      · obtain ⟨row, stored, absent, rfl⟩ := new secondNew
        exact absurd seq (ne_of_lt (later row stored absent first firstOld run))
    · obtain ⟨row, stored, absent, rfl⟩ := new firstNew
      rcases List.mem_append.mp secondMember with secondOld | secondNew
      · exact absurd seq (ne_of_gt
          (later row stored absent second secondOld run.symm))
      · obtain ⟨other, otherStored, otherAbsent, rfl⟩ := new secondNew
        rw [single row stored other otherStored absent otherAbsent]
  known := by
    intro eventId member
    rcases List.mem_append.mp member with old | new
    · rcases recorded.known eventId old with present | lost
      · by_cases still : held (call.next serde hash history.db) eventId = true
        · exact .inl still
        · refine .inr (List.mem_append_right _ (List.mem_filter.mpr ⟨?_, by
            simpa using still⟩))
          rw [held, Bool.or_eq_true, Table.isSome_get?_iff,
            Table.isSome_get?_iff] at present
          rcases present with ⟨row, held, rfl⟩ | ⟨row, held, rfl⟩
          · exact List.mem_append_left _ (List.mem_map_of_mem held)
          · exact List.mem_append_right _ (List.mem_map_of_mem held)
      · exact .inr (List.mem_append_left _ lost)
    · obtain ⟨event, accepted, rfl⟩ := List.mem_map.mp new
      exact .inl (fresh event accepted).2
  once := by
    have one : ((call.accepted serde history.db).map
        EvidenceEventInput.eventId).Nodup := by
      unfold EvidenceCall.accepted
      split
      · split
        · exact List.nodup_singleton _
        · exact List.nodup_nil
      · exact List.nodup_nil
    refine List.nodup_append.mpr ⟨recorded.once, one, ?_⟩
    intro eventId member other new same
    obtain ⟨event, accepted, rfl⟩ := List.mem_map.mp new
    exact (fresh event accepted).1 (same ▸ member)
  turns := by
    intro step stored member
    rcases List.mem_append.mp member with old | new
    · exact turns step stored old
    · obtain ⟨other, listed, same⟩ := List.mem_map.mp new
      obtain ⟨otherStored, terminal⟩ := List.mem_filter.mp listed
      have alike : other = step := Table.eq_of_key_eq otherStored stored same
      rw [← alike]
      exact status_of_isTerminal terminal
  runs := by
    intro runId member row stored own
    rcases List.mem_append.mp member with old | new
    · exact runs runId old row stored own
    · obtain ⟨_, written⟩ := List.mem_filter.mp new
      rcases writtenRunStatus_cases lawful (recorded.sound.next lawful call)
        runId with ⟨none_written, _⟩ | ⟨status, same, ends⟩
      · rw [none_written] at written
        cases written
      · rw [same] at written
        exact ends.mp (by simpa using written)

/-! ### The calls -/

private theorem get?_of_member {row : EventRow}
    (member : row ∈ history.db.events.rows) :
    history.db.events.get? row.eventId ≠ none := by
  intro absent
  exact Table.get?_eq_none_iff.mp absent row member rfl

/-- A call that stores no event, accepts none and changes no turn. -/
theorem Recorded.quiet (lawful : serde.Lawful limit)
    (recorded : Recorded serde hash limit history) {call : EvidenceCall}
    (none_accepted : call.accepted serde history.db = [])
    (events : (call.next serde hash history.db).events = history.db.events)
    (steps : (call.next serde hash history.db).steps = history.db.steps) :
    Recorded serde hash limit (advance serde hash call history) := by
  apply recorded.step lawful
  · intro row member absent
    rw [events] at member
    exact absurd absent (get?_of_member member)
  · intro first member _ _ absent
    rw [events] at member
    exact absurd absent (get?_of_member member)
  · intro event member
    rw [none_accepted] at member
    cases member
  · rw [steps]
    exact recorded.turns
  · unfold ends
    rw [events]
    exact recorded.runs

theorem Recorded.enqueue (lawful : serde.Lawful limit)
    (recorded : Recorded serde hash limit history) {event : EvidenceEventInput}
    (careful : Careful serde history (.enqueue event)) :
    Recorded serde hash limit
      (advance serde hash (.enqueue event) history) := by
  rcases enqueue_cases serde event history.db with
    ⟨payloadJson, done, enqueued⟩ | ⟨refused, same⟩
  · apply recorded.step lawful
    · intro row member absent
      rw [EvidenceCall.next, enqueued.events] at member
      exact absurd absent (get?_of_member member)
    · intro first member _ _ absent
      rw [EvidenceCall.next, enqueued.events] at member
      exact absurd absent (get?_of_member member)
    · intro other member
      rw [EvidenceCall.accepted, done] at member
      rw [List.mem_singleton.mp member]
      constructor
      · intro earlier
        rcases recorded.known _ earlier with present | lost
        · rw [held, enqueued.unprojected, enqueued.unqueued] at present
          cases present
        · exact careful lost
      · rw [held, Bool.or_eq_true, Table.isSome_get?_iff]
        refine .inl ⟨queuedRow event history.db.autoincrement payloadJson, ?_,
          rfl⟩
        rw [EvidenceCall.next, enqueued.queue]
        exact List.mem_append_right _ (List.mem_singleton_self _)
    · rw [EvidenceCall.next, enqueued.steps]
      exact recorded.turns
    · unfold ends
      rw [EvidenceCall.next, enqueued.events]
      exact recorded.runs
  · apply recorded.quiet lawful
    · rw [EvidenceCall.accepted]
      split
      case h_1 done => exact absurd done refused
      case h_2 => rfl
    · rw [EvidenceCall.next, same]
    · rw [EvidenceCall.next, same]

theorem projectOne_cases (lawful : serde.Lawful limit)
    (sound : Sound serde hash limit db) :
    (EvidenceCall.projectBatch 1).next serde hash db = db ∧
      db.evidenceIngestQueue.rows = [] ∨
    ∃ row rest, db.evidenceIngestQueue.rows = row :: rest ∧
      ((readable serde row = true ∧ ∃ payloadJson, Advanced hash db row rest
          payloadJson ((EvidenceCall.projectBatch 1).next serde hash db)) ∨
        (EvidenceCall.projectBatch 1).next serde hash db =
          db.dequeue row.queueId) := by
  rw [EvidenceCall.next, projectBatch_of_limit sound (by omega) (by omega)]
  cases head : db.evidenceIngestQueue.rows with
  | nil => exact .inl ⟨rfl, rfl⟩
  | cons row rest =>
      obtain ⟨event, payloadJson, accepted, same, outcome⟩ :=
        projectEvent_head lawful sound head {}
      refine .inr ⟨row, rest, rfl, ?_⟩
      rw [List.take_succ_cons, List.take_zero, List.foldlM_cons]
      rcases outcome with ⟨shallow, after, ran, advanced⟩ | ⟨_, ran⟩
      · rw [ran]
        exact .inl ⟨(readable_iff lawful accepted same).mpr shallow,
          payloadJson, advanced⟩
      · rw [ran]
        exact .inr rfl

theorem Recorded.projectOne (lawful : serde.Lawful limit)
    (recorded : Recorded serde hash limit history)
    (careful : Careful serde history (.projectBatch 1)) :
    Recorded serde hash limit
      (advance serde hash (.projectBatch 1) history) := by
  rcases projectOne_cases lawful recorded.sound with ⟨same, _⟩ |
    ⟨row, rest, head, ⟨read, payloadJson, advanced⟩ | same⟩
  · exact recorded.quiet lawful rfl (by rw [same]) (by rw [same])
  · have projects : Projects row history := careful row (by rw [head]; rfl) read
    -- what is stored is old, or the new row
    have stored {event : EventRow} (member : event ∈
        ((EvidenceCall.projectBatch 1).next serde hash
          history.db).events.rows) : event ∈ history.db.events.rows ∨
        event = eventRow hash row (nextSeq history.db.events row.runId)
          payloadJson := by
      rw [advanced.events] at member
      exact (List.mem_append.mp member).imp_right List.mem_singleton.mp
    have kept {event : EventRow} (member : event ∈ history.db.events.rows) :
        event ∈ ((EvidenceCall.projectBatch 1).next serde hash
          history.db).events.rows := by
      rw [advanced.events]
      exact List.mem_append_left _ member
    apply recorded.step lawful
    · intro event member absent number numbered run
      rcases stored member with old | rfl
      · exact absurd absent (get?_of_member old)
      · obtain ⟨latest, there, own, bound⟩ :=
          projects.latest number numbered run
        have next := lt_nextSeq there
        rw [own] at next
        exact bound.trans_lt next
    · intro first firstMember second secondMember firstAbsent secondAbsent
      rcases stored firstMember with old | rfl
      · exact absurd firstAbsent (get?_of_member old)
      · rcases stored secondMember with old | rfl
        · exact absurd secondAbsent (get?_of_member old)
        · rfl
    · intro event member
      cases member
    · intro step member ended
      rcases advanced.status step member with
        ⟨before, old, same, unchanged | ends⟩ | ⟨absent, named, status⟩
      · rw [unchanged]
        exact recorded.turns before old (same.symm ▸ ended)
      · exact terminalStepStatus_ne_running ends
      · have ends := projects.turn step.stepId ended named absent
        obtain ⟨name, terminal⟩ := Option.isSome_iff_exists.mp ends
        rw [status, terminal]
        exact terminalStepStatus_ne_running terminal
    · intro runId closed event member own
      by_cases old : ∃ earlier ∈ history.db.events.rows,
          earlier.runId = runId
      · obtain ⟨earlier, there, same⟩ := old
        obtain ⟨other, held, run, ends⟩ :=
          recorded.runs runId closed earlier there same
        exact ⟨other, kept held, run, ends⟩
      · rcases stored member with there | rfl
        · exact absurd ⟨event, there, own⟩ old
        · have run : row.runId = runId := own
          subst run
          refine ⟨_, member, rfl, projects.run closed ?_⟩
          intro earlier there same
          exact old ⟨earlier, there, same⟩
  · exact recorded.quiet lawful rfl (by rw [same]; rfl) (by rw [same]; rfl)

theorem pruned_events (hash : String → String) (keepDays : Nat)
    (db : EvidenceDatabase) :
    (EvidenceCall.pruneToActiveEventDays keepDays).next serde hash db = db ∨
    (∀ row, row ∈ ((EvidenceCall.pruneToActiveEventDays keepDays).next serde
        hash db).events.rows ↔
      row ∈ db.events.rows ∧ db.survives keepDays row = true) ∧
    ∀ step ∈ ((EvidenceCall.pruneToActiveEventDays keepDays).next serde
      hash db).steps.rows, step ∈ db.steps.rows := by
  rw [EvidenceCall.next]
  cases pruned : db.pruneToActiveEventDays keepDays with
  | error error => exact .inl rfl
  | ok outcome =>
      obtain ⟨removed, after⟩ := outcome
      unfold pruneToActiveEventDays at pruned
      obtain ⟨_, _, pruned⟩ := bind_eq_ok.mp pruned
      split at pruned
      case isTrue =>
          cases pruned
          exact .inl rfl
      case isFalse many =>
          obtain ⟨metadata, _, made⟩ := bind_eq_ok.mp pruned
          cases made
          refine .inr ⟨?_, ?_⟩
          · intro row
            have left : db.survives keepDays row =
                !db.prunes (db.eventDays.getD (keepDays - 1) 0) row := by
              rw [survives, decide_eq_false many, Bool.false_or]
            rw [left, Bool.not_eq_true']
            exact Table.mem_deleteWhere
          · exact fun step member => (Table.mem_deleteWhere.mp member).1

theorem Recorded.prune (lawful : serde.Lawful limit)
    (recorded : Recorded serde hash limit history) {keepDays : Nat}
    (careful : Careful serde history (.pruneToActiveEventDays keepDays)) :
    Recorded serde hash limit
      (advance serde hash (.pruneToActiveEventDays keepDays) history) := by
  rcases pruned_events hash keepDays history.db with same | ⟨events, steps⟩
  · exact recorded.quiet lawful rfl (by rw [same]) (by rw [same])
  · apply recorded.step lawful
    · intro row member absent
      exact absurd absent (get?_of_member (events row |>.mp member).1)
    · intro first member _ _ absent
      exact absurd absent (get?_of_member (events first |>.mp member).1)
    · intro event member
      cases member
    · intro step member ended
      exact recorded.turns step (steps step member) ended
    · intro runId closed row member own
      obtain ⟨stored, survives⟩ := (events row).mp member
      obtain ⟨other, there, run, left, ends⟩ :=
        careful runId closed row stored own survives
      exact ⟨other, (events other).mpr ⟨there, left⟩, run, ends⟩

/-! ### Batches, one event at a time -/

private theorem projectEvent_receipt (db : EvidenceDatabase)
    (row : QueuedEvent) (first second : ProjectionReceipt) :
    (projectEvent serde hash (first, db) row).map Prod.snd =
      (projectEvent serde hash (second, db) row).map Prod.snd := by
  unfold projectEvent
  dsimp only
  cases verdict serde hash row db with
  | error error => rfl
  | ok outcome =>
      cases outcome with
      | acknowledge invalid => rfl
      | project payloadJson =>
          simp only [bind, Except.bind, insertProjected]
          split <;> rfl

private theorem batch_receipt (rows : List QueuedEvent)
    (db : EvidenceDatabase) (first second : ProjectionReceipt) :
    (rows.foldlM (projectEvent serde hash) (first, db)).map Prod.snd =
      (rows.foldlM (projectEvent serde hash) (second, db)).map Prod.snd := by
  induction rows generalizing db first second with
  | nil => rfl
  | cons row rest ih =>
      have one := @projectEvent_receipt serde hash db row first second
      rw [List.foldlM_cons, List.foldlM_cons]
      cases ran : projectEvent serde hash (first, db) row with
      | error error =>
          cases also : projectEvent serde hash (second, db) row with
          | error other =>
              rw [ran, also] at one
              exact one
          | ok state =>
              rw [ran, also] at one
              cases one
      | ok state =>
          cases also : projectEvent serde hash (second, db) row with
          | error other =>
              rw [ran, also] at one
              cases one
          | ok other =>
              rw [ran, also] at one
              obtain ⟨receipt, after⟩ := state
              obtain ⟨receiptOther, afterOther⟩ := other
              have same : after = afterOther := Except.ok.inj one
              subst same
              exact ih after receipt receiptOther

private theorem next_projectBatch (lawful : serde.Lawful limit)
    (sound : Sound serde hash limit db) {count : Nat} (fits : count < 2 ^ 63) :
    ∃ final, (db.evidenceIngestQueue.rows.take count).foldlM
        (projectEvent serde hash) ({}, db) = .ok final ∧
      (EvidenceCall.projectBatch count).next serde hash db = final.2 ∧
      final.2.evidenceIngestQueue.rows =
        db.evidenceIngestQueue.rows.drop count := by
  obtain ⟨final, ends, _, batched⟩ := batched lawful sound count {}
  refine ⟨final, ends, ?_, batched.queue⟩
  rcases Nat.eq_zero_or_pos count with rfl | positive
  · rw [List.take_zero] at ends
    cases ends
    rfl
  · rw [EvidenceCall.next, projectBatch_of_limit sound positive fits, ends]

theorem runFrom_moves (lawful : serde.Lawful limit)
    (sound : Sound serde hash limit db) (call : EvidenceCall) :
    runFrom (EvidenceCall.next serde hash) db call.moves =
      call.next serde hash db := by
  cases call with
  | enqueue event => rfl
  | pruneToActiveEventDays keepDays => rfl
  | projectBatch count =>
      rw [EvidenceCall.moves]
      split
      case isFalse large =>
          have positive : 0 < count := by omega
          have failed : db.projectBatch serde hash count = .error
              ⟨"out of range integral type conversion attempted"⟩ := by
            rw [projectBatch, ensure, if_pos (decide_eq_true positive),
              ensure, if_neg (by simpa using large)]
            rfl
          rw [EvidenceCall.next, failed]
          rfl
      case isTrue fits =>
          induction count generalizing db with
          | zero => rfl
          | succ count ih =>
              have small : count < 2 ^ 63 := by omega
              rw [List.replicate_succ, runFrom_cons,
                ih (sound.next lawful (.projectBatch 1)) small]
              obtain ⟨first, one, next, left⟩ :=
                @next_projectBatch _ hash _ _ lawful sound 1 (by omega)
              obtain ⟨whole, all, wholeNext, _⟩ :=
                next_projectBatch lawful sound fits
              obtain ⟨last, others, lastNext, _⟩ := next_projectBatch lawful
                (sound.next lawful (.projectBatch 1)) small
              rw [lastNext, wholeNext]
              rw [next, left] at others
              cases head : db.evidenceIngestQueue.rows with
              | nil =>
                  rw [head] at all one others
                  rw [List.take_nil] at all one
                  rw [List.drop_nil, List.take_nil] at others
                  cases all
                  cases one
                  cases others
                  rfl
              | cons row rest =>
                  rw [head] at all one others
                  rw [List.take_succ_cons, List.take_zero, List.foldlM_cons]
                    at one
                  obtain ⟨state, ran, same⟩ := bind_eq_ok.mp one
                  cases same
                  rw [List.take_succ_cons, List.foldlM_cons, ran] at all
                  have alike := @batch_receipt serde hash (rest.take count)
                    first.2 {} first.1
                  rw [List.drop_succ_cons, List.drop_zero] at others
                  rw [others] at alike
                  have ended : (rest.take count).foldlM
                      (projectEvent serde hash) first = .ok whole := all
                  rw [show (first.1, first.2) = first from rfl, ended] at alike
                  exact Except.ok.inj alike

theorem db_runFrom (calls : List EvidenceCall) (history : History) :
    (runFrom (advance serde hash) history calls).db =
      runFrom (EvidenceCall.next serde hash) history.db calls := by
  induction calls generalizing history with
  | nil => rfl
  | cons call rest ih => exact ih _

theorem runFrom_flatMap_moves (lawful : serde.Lawful limit)
    (sound : Sound serde hash limit db) (calls : List EvidenceCall) :
    runFrom (EvidenceCall.next serde hash) db (calls.flatMap
        EvidenceCall.moves) =
      runFrom (EvidenceCall.next serde hash) db calls := by
  induction calls generalizing db with
  | nil => rfl
  | cons call rest ih =>
      rw [List.flatMap_cons, runFrom_append, runFrom_moves lawful sound call,
        runFrom_cons]
      exact ih (sound.next lawful call)

private theorem single_of_moves {calls : List EvidenceCall}
    {call : EvidenceCall} (member : call ∈ calls.flatMap EvidenceCall.moves)
    {count : Nat} (batch : call = .projectBatch count) : count = 1 := by
  obtain ⟨source, _, listed⟩ := List.mem_flatMap.mp member
  subst batch
  unfold EvidenceCall.moves at listed
  split at listed
  · split at listed
    · exact (EvidenceCall.projectBatch.inj (List.eq_of_mem_replicate listed))
    · cases listed
  · rename_i other
    exact absurd (List.mem_singleton.mp listed).symm (other count)

/-- As long as every call is careful, pruning rewrites nothing. -/
theorem careful_calls_faithful (lawful : serde.Lawful limit)
    (calls : List EvidenceCall)
    (careful : Each (advance serde hash) (Careful serde) start
      (calls.flatMap EvidenceCall.moves)) :
    Always (advance serde hash) (Faithful serde hash) start
        (calls.flatMap EvidenceCall.moves) ∧
      (runFrom (advance serde hash) start
          (calls.flatMap EvidenceCall.moves)).db =
        runFrom (EvidenceCall.next serde hash) .empty calls := by
  constructor
  · have single : ∀ call ∈ calls.flatMap EvidenceCall.moves, ∀ count,
        call = .projectBatch count → count = 1 :=
      fun call member count batch => single_of_moves member batch
    generalize calls.flatMap EvidenceCall.moves = moves at careful single ⊢
    have always : ∀ (history : History),
        Recorded serde hash limit history →
        Each (advance serde hash) (Careful serde) history moves →
        Always (advance serde hash) (Faithful serde hash) history moves := by
      clear careful
      induction moves with
      | nil => exact fun _ recorded _ => recorded.faithful lawful
      | cons call rest ih =>
          intro history recorded careful
          refine ⟨recorded.faithful lawful, ih (fun other member =>
            single other (List.mem_cons_of_mem _ member)) _ ?_ careful.2⟩
          cases call with
          | enqueue event => exact recorded.enqueue lawful careful.1
          | pruneToActiveEventDays keepDays =>
              exact recorded.prune lawful careful.1
          | projectBatch count =>
              obtain rfl := single _ (List.mem_cons_self ..) count rfl
              exact recorded.projectOne lawful careful.1
    exact always start recorded_start careful
  · rw [db_runFrom]
    exact runFrom_flatMap_moves lawful (@sound_empty serde hash limit) calls

/-- An event of the run `r`, that may belong to the turn `t`. -/
def eventOf (eventId : String) (stepId : Option String) (eventType : String)
    (occurredAtMs : Int) : EvidenceEventInput :=
  ⟨eventId, "r", "s", stepId, eventType, occurredAtMs, State.new⟩

/-- The run is ended on the second day, and its completed turn of the first day
is pruned.  A late event of another turn is then numbered on, and the event that
closed the run is known. -/
theorem pruned_day_careful :
    let calls := [EvidenceCall.enqueue (eventOf "e" (some "t")
        "turn.completed" 0),
      .enqueue (eventOf "f" none "session.closed" 86400000),
      .projectBatch 2, .pruneToActiveEventDays 1,
      .enqueue (eventOf "h" (some "u") "note" 0), .projectBatch 1,
      .enqueue (eventOf "f" none "session.closed" 86400000)]
    let moves := calls.flatMap EvidenceCall.moves
    let history := runFrom (advance (bitSerde 100) stableHash) start moves
    (Always (advance (bitSerde 100) stableHash)
        (Faithful (bitSerde 100) stableHash) start moves ∧
      history.db = runFrom (EvidenceCall.next (bitSerde 100) stableHash) .empty
        calls) ∧
    history.lost.contains "e" = true ∧ history.ended.contains "t" = true ∧
    history.closed.contains "r" = true ∧
    history.numbered = [⟨"r", 1, "e"⟩, ⟨"r", 2, "f"⟩, ⟨"r", 3, "h"⟩] ∧
    history.accepted = ["e", "f", "h"] := by
  intro calls moves history
  refine ⟨careful_calls_faithful (bitSerde_lawful 100) calls ?_, ?_⟩
  · refine ⟨?_, ?_, ?_, ?_, ?_, ?_, ?_, ?_, trivial⟩ <;> decide +kernel
  · decide +kernel

/-- The run is ended on the first day, and pruned with it on the second.  A late
event of its turn is then its first event again, the turn is running, the run is
open, and the event that completed the turn is new. -/
theorem pruned_run_reopened :
    let calls := [EvidenceCall.enqueue (eventOf "e" (some "t")
        "turn.completed" 0),
      .enqueue (eventOf "f" none "session.closed" 0),
      .enqueue ⟨"g", "q", "o", none, "note", 86400000, State.new⟩,
      .projectBatch 1, .projectBatch 1, .projectBatch 1,
      .pruneToActiveEventDays 1,
      .enqueue (eventOf "h" (some "t") "note" 0), .projectBatch 1,
      .enqueue (eventOf "e" (some "t") "turn.completed" 0)]
    let history := runFrom (advance (bitSerde 100) stableHash) start calls
    history.accepted.count "e" = 2 ∧
    ⟨"r", 1, "e"⟩ ∈ history.numbered ∧ ⟨"r", 1, "h"⟩ ∈ history.numbered ∧
    ("t" ∈ history.ended ∧
      (history.db.steps.get? "t").map StepRow.status = some "running") ∧
    "r" ∈ history.closed ∧
    history.db.writtenRunStatus (bitSerde 100) stableHash "r" =
      some "evidence" := by
  refine ⟨?_, ?_, ?_, ⟨?_, ?_⟩, ?_, ?_⟩ <;> decide +kernel

end History

end AgentLedger.Rust
