import AgentLedger.Rust.Evidence.Calls

namespace AgentLedger.Rust

open Foundation

/-! What becomes of an accepted event.  `enqueue` prints its payload and
`project_batch` parses it, which fails for text that is nested too deep. -/

namespace EvidenceDatabase

variable {serde : SerdeJson} {hash : String → String} {limit : Nat}
  {db : EvidenceDatabase} {row : QueuedEvent}
  {event : EvidenceEventInput} {payloadJson : String}

/-- The text of the payload is read back. -/
def readable (serde : SerdeJson) (row : QueuedEvent) : Bool :=
  (jsonToState serde row.payloadJson).isOk

theorem readable_iff (lawful : serde.Lawful limit)
    (accepted : Accepted serde event payloadJson)
    (same : row = queuedRow event row.queueId payloadJson) :
    readable serde row = true ↔ event.payload.depth ≤ limit := by
  have text : row.payloadJson = payloadJson := by
    rw [same]
    rfl
  obtain ⟨reads, refuses⟩ := jsonToState_of_written lawful accepted.written
  rw [readable, text]
  by_cases shallow : event.payload.depth ≤ limit
  · rw [reads shallow]
    simp [shallow, Except.isOk, Except.toBool]
  · obtain ⟨error, refused⟩ := refuses (not_le.mp shallow)
    rw [refused]
    simp [shallow, Except.isOk, Except.toBool]

/-! ### A whole batch -/

theorem forall₂_left {α β : Type} {relation : α → β → Prop}
    {first : List α} {second : List β}
    (each : List.Forall₂ relation first second) {item : α}
    (member : item ∈ first) : ∃ other ∈ second, relation item other := by
  induction each with
  | nil => cases member
  | cons related _ ih =>
      rcases List.mem_cons.mp member with rfl | later
      · exact ⟨_, List.mem_cons_self .., related⟩
      · obtain ⟨other, held, own⟩ := ih later
        exact ⟨other, List.mem_cons_of_mem _ held, own⟩

theorem forall₂_right {α β : Type} {relation : α → β → Prop}
    {first : List α} {second : List β}
    (each : List.Forall₂ relation first second) {other : β}
    (member : other ∈ second) : ∃ item ∈ first, relation item other :=
  forall₂_left each.flip member

/-- The event is stored under some number. -/
def StoredAs (hash : String → String) (row : QueuedEvent)
    (stored : EventRow) : Prop :=
  ∃ seq, stored = eventRow hash row seq row.payloadJson

/-- The first `count` events leave the queue.  Those whose payload is read back
are stored, in their order; the others are counted as dropped. -/
structure Batched (serde : SerdeJson) (hash : String → String) (count : Nat)
    (start final : ProjectionReceipt × EvidenceDatabase) : Prop where
  queue : final.2.evidenceIngestQueue.rows =
    start.2.evidenceIngestQueue.rows.drop count
  autoincrement : final.2.autoincrement = start.2.autoincrement
  events : ∃ added, final.2.events.rows = start.2.events.rows ++ added ∧
    List.Forall₂ (StoredAs hash)
      ((start.2.evidenceIngestQueue.rows.take count).filter (readable serde))
      added
  dropped : final.1.droppedInvalid = start.1.droppedInvalid +
    (start.2.evidenceIngestQueue.rows.take count).countP
      fun row => !readable serde row

theorem batched (lawful : serde.Lawful limit)
    (sound : Sound serde hash limit db) (count : Nat)
    (receipt : ProjectionReceipt) :
    ∃ final, (db.evidenceIngestQueue.rows.take count).foldlM
        (projectEvent serde hash) (receipt, db) = .ok final ∧
      Sound serde hash limit final.2 ∧
      Batched serde hash count (receipt, db) final := by
  apply batch_induction lawful (motive := Batched serde hash)
  · intro count state ended
    have none_taken : state.2.evidenceIngestQueue.rows.take count = [] := by
      rcases ended with rfl | empty
      · exact List.take_zero
      · rw [empty, List.take_nil]
    have all_left : state.2.evidenceIngestQueue.rows.drop count =
        state.2.evidenceIngestQueue.rows := by
      rcases ended with rfl | empty
      · exact List.drop_zero
      · rw [empty, List.drop_nil]
    exact ⟨all_left.symm, rfl,
      ⟨[], (List.append_nil _).symm, by rw [none_taken]; exact .nil⟩,
      by rw [none_taken]; rfl⟩
  · intro count receipt db row rest event payloadJson after final _ head
      accepted same shallow advanced later
    have read := (readable_iff lawful accepted same).mpr shallow
    have text : row.payloadJson = payloadJson := by
      rw [same]
      rfl
    obtain ⟨added, events, each⟩ := later.events
    rw [advanced.queue] at each
    constructor
    · rw [later.queue, advanced.queue, head, List.drop_succ_cons]
    · rw [later.autoincrement, advanced.autoincrement]
    · refine ⟨eventRow hash row (nextSeq db.events row.runId) payloadJson ::
        added, ?_, ?_⟩
      · rw [events, advanced.events, List.append_assoc]
        rfl
      · rw [head, List.take_succ_cons, List.filter_cons, if_pos read]
        exact .cons ⟨_, by rw [text]⟩ each
    · rw [later.dropped, advanced.queue, head, List.take_succ_cons,
        List.countP_cons, read]
      rfl
  · intro count receipt db row rest event payloadJson final sound head
      accepted same deep later
    have unread : readable serde row = false := by
      rw [Bool.eq_false_iff]
      intro read
      exact absurd ((readable_iff lawful accepted same).mp read)
        (not_le.mpr deep)
    have removed := (queue_dequeue sound head)
    obtain ⟨added, events, each⟩ := later.events
    rw [removed] at each
    constructor
    · rw [later.queue, removed, head, List.drop_succ_cons]
    · exact later.autoincrement
    · refine ⟨added, events, ?_⟩
      rw [head, List.take_succ_cons, List.filter_cons, if_neg (by simp [unread])]
      exact each
    · rw [later.dropped, removed, head, List.take_succ_cons,
        List.countP_cons, unread]
      simp only [Bool.not_false, if_true]
      omega
  · exact sound

/-! ### The row of an event -/

/-- The number of the queue has been given to this row, and to no other. -/
structure Tracks (row : QueuedEvent) (db : EvidenceDatabase) : Prop where
  below : row.queueId < db.autoincrement
  same : ∀ other ∈ db.evidenceIngestQueue.rows,
    other.queueId = row.queueId → other = row

theorem Tracks.next (lawful : serde.Lawful limit)
    (sound : Sound serde hash limit db) (tracks : Tracks row db)
    (call : EvidenceCall) : Tracks row (call.next serde hash db) := by
  cases call with
  | enqueue event =>
      rw [EvidenceCall.next]
      rcases enqueue_cases serde event db with ⟨_, _, enqueued⟩ | ⟨_, same⟩
      · constructor
        · rw [enqueued.autoincrement]
          exact Nat.lt_succ_of_lt tracks.below
        · intro other member number
          rw [enqueued.queue] at member
          rcases List.mem_append.mp member with held | added
          · exact tracks.same other held number
          · rw [List.mem_singleton.mp added] at number
            exact absurd number (Nat.ne_of_gt tracks.below)
      · rw [same]
        exact tracks
  | projectBatch count =>
      rw [EvidenceCall.next]
      rcases projectBatch_cases sound count with ⟨error, failed⟩ | ran
      · rw [failed]
        exact tracks
      · obtain ⟨final, ends, _, batched⟩ := batched lawful sound count {}
        rw [ran, ends]
        constructor
        · exact batched.autoincrement.symm ▸ tracks.below
        · intro other member
          rw [batched.queue] at member
          exact tracks.same other (List.mem_of_mem_drop member)
  | pruneToActiveEventDays keepDays =>
      rw [EvidenceCall.next]
      cases pruned : db.pruneToActiveEventDays keepDays with
      | error error => exact tracks
      | ok outcome =>
          obtain ⟨removed, after⟩ := outcome
          rcases prune_cases pruned with rfl | ⟨cutoff, metadata, _, rfl⟩
          · exact tracks
          · exact ⟨tracks.below, tracks.same⟩

theorem tracks_of_calls (lawful : serde.Lawful limit)
    (sound : Sound serde hash limit db) (tracks : Tracks row db)
    (calls : List EvidenceCall) :
    Tracks row (runFrom (EvidenceCall.next serde hash) db calls) := by
  have kept : ∀ (state : EvidenceDatabase) (call : EvidenceCall),
      Sound serde hash limit state ∧ Tracks row state →
      Sound serde hash limit (call.next serde hash state) ∧
        Tracks row (call.next serde hash state) :=
    fun state call held => ⟨held.1.next lawful call,
      held.2.next lawful held.1 call⟩
  exact (@runFrom_invariant _ _ _ (fun state => Sound serde hash limit state ∧
    Tracks row state) kept db calls ⟨sound, tracks⟩).2

/-- The batch that reaches the row of an accepted event stores it if its text is
read back, and drops it otherwise. -/
theorem batched_row (lawful : serde.Lawful limit)
    (sound : Sound serde hash limit db) {count : Nat}
    {receipt : ProjectionReceipt} {after : EvidenceDatabase}
    (batched : Batched serde hash count ({}, db) (receipt, after))
    (member : row ∈ db.evidenceIngestQueue.rows.take count)
    (accepted : Accepted serde event payloadJson)
    (same : row = queuedRow event row.queueId payloadJson) :
    ((∃ seq, projectedRow hash event seq payloadJson ∈ after.events.rows) ↔
      event.payload.depth ≤ limit) ∧
    (limit < event.payload.depth →
      0 < receipt.droppedInvalid ∧ after.events.get? event.eventId = none) := by
  have held := List.mem_of_mem_take member
  have unprojected := sound.queueing.unprojected row held
  have read := readable_iff lawful accepted same
  have text : row.payloadJson = payloadJson := by
    rw [same]
    rfl
  have stored (seq : Int) : eventRow hash row seq row.payloadJson =
      projectedRow hash event seq payloadJson := by
    rw [same]
    rfl
  have named : row.eventId = event.eventId := by
    rw [same]
    rfl
  obtain ⟨added, events, each⟩ := batched.events
  -- an event of this name among the new ones is that of the row
  have found {new : EventRow} (new_member : new ∈ added)
      (own : new.eventId = row.eventId) : readable serde row = true := by
    obtain ⟨source, listed, seq, rfl⟩ := forall₂_right each new_member
    obtain ⟨taken, source_read⟩ := List.mem_filter.mp listed
    have alike : source = row :=
      Table.eq_of_key_eq (List.mem_of_mem_take taken) held own
    rw [← alike]
    exact source_read
  refine ⟨⟨?_, ?_⟩, ?_⟩
  · rintro ⟨seq, stored_member⟩
    rw [events] at stored_member
    rcases List.mem_append.mp stored_member with old | new
    · have absent := Table.get?_eq_none_iff.mp unprojected _ old
      exact absurd named.symm absent
    · exact read.mp (found new named.symm)
  · intro shallow
    obtain ⟨new, new_member, seq, rfl⟩ := forall₂_left each
      (List.mem_filter.mpr ⟨member, read.mpr shallow⟩)
    refine ⟨seq, ?_⟩
    rw [events, ← stored]
    exact List.mem_append_right _ new_member
  · intro deep
    have unread : readable serde row ≠ true :=
      fun shallow => absurd (read.mp shallow) (not_le.mpr deep)
    constructor
    · rw [batched.dropped]
      apply Nat.lt_add_left
      exact List.countP_pos_iff.mpr ⟨row, member, by simpa using unread⟩
    · rw [Table.get?_eq_none_iff]
      intro other other_member own
      rw [events] at other_member
      rcases List.mem_append.mp other_member with old | new
      · exact Table.get?_eq_none_iff.mp unprojected other old
          (own.trans named.symm)
      · exact unread (found new (own.trans named.symm))

/-- Arrays in each other. -/
def nested : Nat → Value
  | 0 => .null
  | levels + 1 => .array [nested levels]

theorem ordered_nested (levels : Nat) : (nested levels).Ordered := by
  induction levels with
  | zero => trivial
  | succ levels ih => exact ⟨ih, trivial⟩

def nestedEvent (levels : Nat) : EvidenceEventInput where
  eventId := "event"
  runId := "run"
  sessionId := "session"
  stepId := none
  eventType := "note"
  occurredAtMs := 0
  payload := State.new.insert "tree" (nested levels) (ordered_nested levels)

set_option maxRecDepth 10000 in
private theorem deep_event_accepted :
    (EvidenceDatabase.empty.enqueue (bitSerde 128)
      (nestedEvent 128)).1.toOption = some true := by
  decide +kernel

end EvidenceDatabase

end AgentLedger.Rust
