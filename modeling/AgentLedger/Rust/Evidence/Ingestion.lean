import AgentLedger.Rust.Evidence.Delivery
import AgentLedger.Rust.Evidence.Times

namespace AgentLedger.Rust

open Foundation

/-! Ingestion without pruning: the accepted events are those that have been
projected, followed by those in the queue. -/

variable {serde : SerdeJson} {hash : String → String} {limit : Nat}
  {db : EvidenceDatabase}

/-- The seconds of the tables give the time back. -/
def KeepsTime (occurredAtMs : Int) : Prop :=
  millis (seconds occurredAtMs) = occurredAtMs

/-- A call that does not prune, with a payload that is read back. -/
def EvidenceCall.Ingests (limit : Nat) : EvidenceCall → Prop
  | .enqueue event =>
      event.payload.depth ≤ limit ∧ KeepsTime event.occurredAtMs
  | .projectBatch count => 0 < count
  | .pruneToActiveEventDays _ => False

/-- The text of the payload, if it has one. -/
def payloadText (serde : SerdeJson) (event : EvidenceEventInput) : String :=
  (stateToJson serde event.payload).toOption.getD ""

/-- The events of a run, as they are reported. -/
def recordOf (serde : SerdeJson) (hash : String → String)
    (numbered : EvidenceEventInput × Nat) : EvidenceEventRecord :=
  { eventId := numbered.1.eventId
    runId := numbered.1.runId
    sessionId := numbered.1.sessionId
    stepId := numbered.1.stepId
    seq := numbered.2
    eventType := numbered.1.eventType
    occurredAtMs := numbered.1.occurredAtMs
    payloadHash := hash (payloadText serde numbered.1)
    payload := numbered.1.payload }

/-- The events of a run in their order, numbered from 1 on. -/
def numberedOf (runId : String) (events : List EvidenceEventInput) :
    List (EvidenceEventInput × Nat) :=
  (events.filter fun event => event.runId = runId).zipIdx 1

/-- The event that the call accepts, if it does. -/
def EvidenceCall.accepted (serde : SerdeJson) (call : EvidenceCall)
    (db : EvidenceDatabase) : List EvidenceEventInput :=
  match call with
  | .enqueue event =>
      match (db.enqueue serde event).1 with
      | .ok true => [event]
      | _ => []
  | _ => []

namespace EvidenceDatabase

/-- The events that are accepted as the calls go on. -/
def acceptedBy (serde : SerdeJson) (hash : String → String)
    (db : EvidenceDatabase) : List EvidenceCall → List EvidenceEventInput
  | [] => []
  | call :: rest =>
      call.accepted serde db ++ acceptedBy serde hash (call.next serde hash db)
        rest

theorem Accepted.payloadText_eq {event : EvidenceEventInput}
    {payloadJson : String} (accepted : Accepted serde event payloadJson) :
    payloadText serde event = payloadJson := by
  rw [payloadText, accepted.written]
  rfl

/-! ### The invariant -/

structure Ingested (serde : SerdeJson) (hash : String → String) (limit : Nat)
    (projected pending : List EvidenceEventInput) (db : EvidenceDatabase) :
    Prop where
  accepted : ∀ event ∈ projected ++ pending,
    Accepted serde event (payloadText serde event) ∧
      event.payload.depth ≤ limit ∧ KeepsTime event.occurredAtMs
  distinct : ((projected ++ pending).map EvidenceEventInput.eventId).Nodup
  events : ∀ runId, db.events.rows.filter (fun row => row.runId = runId) =
    (numberedOf runId projected).map fun numbered =>
      projectedRow hash numbered.1 numbered.2 (payloadText serde numbered.1)
  queue : List.Forall₂ (fun event row =>
      row = queuedRow event row.queueId (payloadText serde event))
    pending db.evidenceIngestQueue.rows

theorem ingested_empty : Ingested serde hash limit [] [] empty where
  accepted _ member := by cases member
  distinct := List.nodup_nil
  events _ := rfl
  queue := .nil

section Ingested

variable {projected pending : List EvidenceEventInput}

/-- The events of a run are numbered without gaps. -/
theorem Ingested.nextSeq (ingested : Ingested serde hash limit projected
      pending db) (runId : String) :
    nextSeq db.events runId = (numberedOf runId projected).length + 1 := by
  have seqs : (db.events.rows.filter fun row => row.runId = runId).map
      EventRow.seq = (List.range' 1 (numberedOf runId projected).length).map
        Nat.cast := by
    rw [ingested.events, List.map_map, numberedOf, List.length_zipIdx,
      ← List.zipIdx_map_snd 1 (projected.filter _), List.map_map]
    rfl
  rw [EvidenceDatabase.nextSeq, seqs]
  congr 1
  cases (numberedOf runId projected).length with
  | zero => rfl
  | succ count =>
      have most : ((List.range' 1 (count + 1)).map (Nat.cast : Nat → Int)).max? =
          some ((count + 1 : Nat) : Int) := by
        rw [List.max?_eq_some_iff]
        constructor
        · exact List.mem_map_of_mem (List.mem_range'_1.mpr (by omega))
        · intro number member
          obtain ⟨place, held, rfl⟩ := List.mem_map.mp member
          have bound := List.mem_range'_1.mp held
          omega
      rw [most]
      rfl

theorem Ingested.of_projected (ingested : Ingested serde hash limit projected
      pending db) {event : EvidenceEventInput} (member : event ∈ projected) :
    ∃ seq, projectedRow hash event seq (payloadText serde event) ∈
      db.events.rows := by
  have listed : event ∈ ((projected.filter fun other =>
      other.runId = event.runId).zipIdx 1).map Prod.fst := by
    rw [List.zipIdx_map_fst]
    exact List.mem_filter.mpr ⟨member, by simp⟩
  obtain ⟨numbered, held, rfl⟩ := List.mem_map.mp listed
  have row : projectedRow hash numbered.1 numbered.2
      (payloadText serde numbered.1) ∈
      db.events.rows.filter fun row => row.runId = numbered.1.runId := by
    rw [ingested.events]
    exact List.mem_map_of_mem (f := fun numbered : EvidenceEventInput × Nat =>
      projectedRow hash numbered.1 numbered.2 (payloadText serde numbered.1))
      held
  exact ⟨numbered.2, (List.mem_filter.mp row).1⟩

theorem Ingested.of_pending (ingested : Ingested serde hash limit projected
      pending db) {event : EvidenceEventInput} (member : event ∈ pending) :
    ∃ row ∈ db.evidenceIngestQueue.rows,
      row = queuedRow event row.queueId (payloadText serde event) :=
  forall₂_left ingested.queue member

/-! ### Its steps -/

theorem Ingested.enqueued (ingested : Ingested serde hash limit projected
      pending db) {event : EvidenceEventInput} {payloadJson : String}
    {after : EvidenceDatabase}
    (enqueued : Enqueued serde event db payloadJson after)
    (shallow : event.payload.depth ≤ limit)
    (timely : KeepsTime event.occurredAtMs) :
    Ingested serde hash limit projected (pending ++ [event]) after := by
  have text := enqueued.accepted.payloadText_eq
  constructor
  · intro other member
    rw [← List.append_assoc] at member
    rcases List.mem_append.mp member with old | new
    · exact ingested.accepted other old
    · rw [List.mem_singleton.mp new, text]
      exact ⟨enqueued.accepted, shallow, timely⟩
  · rw [← List.append_assoc, List.map_append, List.nodup_append]
    refine ⟨ingested.distinct, List.nodup_singleton _, ?_⟩
    intro identity member other last same
    rw [List.map_singleton, List.mem_singleton] at last
    subst last
    subst same
    obtain ⟨old, held, same⟩ := List.mem_map.mp member
    rcases List.mem_append.mp held with stored | queued
    · obtain ⟨seq, row⟩ := ingested.of_projected stored
      exact Table.get?_eq_none_iff.mp enqueued.unprojected _ row same
    · obtain ⟨row, there, own⟩ := ingested.of_pending queued
      apply Table.get?_eq_none_iff.mp enqueued.unqueued row there
      rw [own]
      exact same
  · intro runId
    rw [enqueued.events]
    exact ingested.events runId
  · rw [enqueued.queue]
    exact List.rel_append ingested.queue (.cons (by rw [text]; rfl) .nil)

private theorem numberedOf_append (runId : String)
    (events : List EvidenceEventInput) (event : EvidenceEventInput) :
    numberedOf runId (events ++ [event]) = numberedOf runId events ++
      if event.runId = runId then
        [(event, (numberedOf runId events).length + 1)]
      else [] := by
  unfold numberedOf
  rw [List.filter_append, List.zipIdx_append, List.length_zipIdx]
  by_cases own : event.runId = runId
  · simp [own, Nat.add_comm]
  · simp [own]

theorem Ingested.advanced {event : EvidenceEventInput}
    (ingested : Ingested serde hash limit projected (event :: pending) db)
    {row : QueuedEvent} {rest : List QueuedEvent} {after : EvidenceDatabase}
    (head : db.evidenceIngestQueue.rows = row :: rest)
    (advanced : Advanced hash db row rest (payloadText serde event) after) :
    Ingested serde hash limit (projected ++ [event]) pending after := by
  have queue := ingested.queue
  rw [head] at queue
  obtain ⟨own, later⟩ := List.forall₂_cons.mp queue
  have named : row.runId = event.runId := by
    rw [own]
    rfl
  constructor
  · rw [List.append_assoc]
    exact ingested.accepted
  · rw [List.append_assoc]
    exact ingested.distinct
  · intro runId
    have stored : eventRow hash row (EvidenceDatabase.nextSeq db.events
        row.runId) (payloadText serde event) =
        projectedRow hash event
          (((numberedOf event.runId projected).length + 1 : Nat) : Int)
          (payloadText serde event) := by
      rw [named, ingested.nextSeq event.runId, own]
      rfl
    rw [advanced.events, List.filter_append, ingested.events, stored,
      numberedOf_append, List.map_append]
    congr 1
    by_cases same : event.runId = runId
    · subst same
      rw [if_pos rfl]
      exact List.filter_cons_of_pos (by simp [projectedRow, eventRow, queuedRow])
    · rw [if_neg same]
      exact List.filter_cons_of_neg
        (by simpa [projectedRow, eventRow, queuedRow] using same)
  · rw [advanced.queue]
    exact later

/-- A batch moves events over, and drops none. -/
theorem Ingested.batched (lawful : serde.Lawful limit)
    (sound : Sound serde hash limit db)
    (ingested : Ingested serde hash limit projected pending db)
    (count : Nat) :
    ∃ final, (db.evidenceIngestQueue.rows.take count).foldlM
        (projectEvent serde hash) ({}, db) = .ok final ∧
      final.1.droppedInvalid = 0 ∧
      ∃ later left, projected ++ pending = later ++ left ∧
        Ingested serde hash limit later left final.2 := by
  obtain ⟨final, ends, _, kept⟩ := @batch_induction serde hash limit db lawful
    (motive := fun _ start final => ∀ projected pending,
      Ingested serde hash limit projected pending start.2 →
      final.1.droppedInvalid = start.1.droppedInvalid ∧
      ∃ later left, projected ++ pending = later ++ left ∧
        Ingested serde hash limit later left final.2)
    (fun _ _ _ projected pending ingested =>
      ⟨rfl, projected, pending, rfl, ingested⟩)
    (by
      intro count receipt db row rest event payloadJson after final _ head
        accepted same _ advanced later projected pending ingested
      have queue := ingested.queue
      rw [head] at queue
      cases queue with
      | @cons own _ pending _ written _ =>
          have text : payloadJson = payloadText serde own := by
            have both := written.symm.trans same
            exact (congrArg QueuedEvent.payloadJson both).symm
          subst text
          obtain ⟨dropped, moved, left, whole, ended⟩ := later _ _
            (ingested.advanced head advanced)
          refine ⟨dropped, moved, left, ?_, ended⟩
          rw [← whole, List.append_assoc]
          rfl)
    (by
      intro count receipt db row rest event payloadJson final _ head accepted
        same deep _ projected pending ingested
      have queue := ingested.queue
      rw [head] at queue
      cases queue with
      | @cons own _ pending _ written _ =>
          obtain ⟨admitted, shallow, _⟩ := ingested.accepted own (by simp)
          have read := (readable_iff lawful admitted written).mpr shallow
          exact absurd ((readable_iff lawful accepted same).mp read)
            (not_le.mpr deep))
    count {} sound
  obtain ⟨dropped, moved, left, whole, ended⟩ := kept _ _ ingested
  exact ⟨final, ends, dropped, moved, left, whole, ended⟩

end Ingested

/-! ### Runs -/

theorem Ingested.next (lawful : serde.Lawful limit)
    (sound : Sound serde hash limit db) {projected pending}
    (ingested : Ingested serde hash limit projected pending db)
    {call : EvidenceCall} (ingests : call.Ingests limit) :
    ∃ later left, projected ++ pending ++ call.accepted serde db =
        later ++ left ∧
      Ingested serde hash limit later left (call.next serde hash db) := by
  cases call with
  | enqueue event =>
      obtain ⟨shallow, timely⟩ := ingests
      rw [EvidenceCall.next, EvidenceCall.accepted]
      rcases enqueue_cases serde event db with ⟨_, done, enqueued⟩ |
        ⟨refused, same⟩
      · rw [done]
        exact ⟨projected, pending ++ [event], List.append_assoc _ _ _,
          ingested.enqueued enqueued shallow timely⟩
      · rw [same]
        split
        case h_1 done => exact absurd done refused
        case h_2 => exact ⟨projected, pending, List.append_nil _, ingested⟩
  | projectBatch count =>
      rw [EvidenceCall.next, EvidenceCall.accepted, List.append_nil]
      · rcases projectBatch_cases sound count with ⟨error, failed⟩ | ran
        · rw [failed]
          exact ⟨projected, pending, rfl, ingested⟩
        · obtain ⟨final, ends, _, moved, left, whole, ended⟩ :=
            ingested.batched lawful sound count
          rw [ran, ends]
          exact ⟨moved, left, whole, ended⟩
      · exact fun _ same => by cases same
  | pruneToActiveEventDays keepDays => exact ingests.elim

theorem ingested_of_calls (lawful : serde.Lawful limit)
    {calls : List EvidenceCall} (ingests : ∀ call ∈ calls, call.Ingests limit)
    (sound : Sound serde hash limit db) {projected pending}
    (ingested : Ingested serde hash limit projected pending db) :
    ∃ later left, projected ++ pending ++ acceptedBy serde hash db calls =
        later ++ left ∧
      Ingested serde hash limit later left
        (runFrom (EvidenceCall.next serde hash) db calls) := by
  induction calls generalizing db projected pending with
  | nil => exact ⟨projected, pending, List.append_nil _, ingested⟩
  | cons call rest ih =>
      obtain ⟨moved, left, whole, ended⟩ := ingested.next lawful sound
        (ingests call (List.mem_cons_self ..))
      rw [runFrom_cons, acceptedBy, ← List.append_assoc, whole]
      exact ih (fun other member => ingests other
        (List.mem_cons_of_mem _ member)) (sound.next lawful call) ended

/-! ### What the store reports -/

section Reports

variable {projected pending : List EvidenceEventInput}

private theorem readEvent_projectedRow (lawful : serde.Lawful limit)
    {event : EvidenceEventInput} {payloadJson : String}
    (accepted : Accepted serde event payloadJson)
    (shallow : event.payload.depth ≤ limit)
    (timely : KeepsTime event.occurredAtMs) (seq : Nat) :
    readEvent serde hash (projectedRow hash event seq payloadJson) =
      .ok (recordOf serde hash (event, seq)) := by
  have read := (jsonToState_of_written lawful accepted.written).1 shallow
  have time : millis (projectedRow hash event seq payloadJson).timestamp =
      event.occurredAtMs := timely
  unfold readEvent
  refine bind_eq_ok.mpr ⟨event.payload, read, ?_⟩
  refine bind_eq_ok.mpr ⟨payloadJson, accepted.written, ?_⟩
  refine bind_eq_ok.mpr ⟨(), ensure_eq_ok.mpr (decide_eq_true rfl), ?_⟩
  refine bind_eq_ok.mpr ⟨(), ensure_eq_ok.mpr (decide_eq_true
    (Int.natCast_nonneg seq)), ?_⟩
  unfold recordOf
  rw [accepted.payloadText_eq]
  rw [time]
  rfl

theorem Ingested.readEvents (lawful : serde.Lawful limit)
    (ingested : Ingested serde hash limit projected pending db)
    (runId : String) :
    db.readEvents serde hash runId =
      .ok ((numberedOf runId projected).map (recordOf serde hash)) := by
  have ordered : (db.events.rows.filter fun row =>
      row.runId = runId).Pairwise fun first second =>
        first.seq ≤ second.seq := by
    rw [ingested.events, List.pairwise_map]
    have seqs : ((numberedOf runId projected).map Prod.snd).Pairwise
        (· ≤ ·) := by
      rw [numberedOf, List.zipIdx_map_snd]
      exact List.pairwise_le_range'
    rw [List.pairwise_map] at seqs
    apply seqs.imp
    intro first second before
    exact Int.ofNat_le.mpr before
  rw [EvidenceDatabase.readEvents, eventRows,
    ordered.insertionSort_eq, ingested.events]
  have member : ∀ numbered ∈ numberedOf runId projected,
      numbered.1 ∈ projected := fun numbered held =>
    (List.mem_filter.mp (List.fst_mem_of_mem_zipIdx held)).1
  generalize numberedOf runId projected = listed at member ⊢
  induction listed with
  | nil => rfl
  | cons numbered rest ih =>
      obtain ⟨accepted, shallow, timely⟩ := ingested.accepted numbered.1
        (List.mem_append_left _ (member numbered (List.mem_cons_self ..)))
      rw [List.map_cons, List.mapM_cons,
        readEvent_projectedRow lawful accepted shallow timely,
        ih fun other held => member other (List.mem_cons_of_mem _ held)]
      rfl

/-- An accepted event is found again in the queue, or with the projected ones. -/
theorem Ingested.storedEvent
    (sound : Sound serde hash limit db)
    (ingested : Ingested serde hash limit projected pending db)
    {event : EvidenceEventInput} (member : event ∈ projected ++ pending) :
    db.storedEvent event.eventId = some ⟨event.runId, event.sessionId,
      event.stepId, event.eventType, event.occurredAtMs,
      payloadText serde event⟩ := by
  obtain ⟨_, _, timely⟩ := ingested.accepted event member
  unfold EvidenceDatabase.storedEvent
  rcases List.mem_append.mp member with stored | queued
  · obtain ⟨seq, row⟩ := ingested.of_projected stored
    have unqueued : db.evidenceIngestQueue.get? event.eventId = none := by
      rw [Table.get?_eq_none_iff]
      intro other held same
      have absent := sound.queueing.unprojected other held
      exact Table.get?_eq_none_iff.mp absent _ row same.symm
    have found : db.events.get? event.eventId = some (projectedRow hash event seq
        (payloadText serde event)) :=
      Table.get?_eq_some_iff.mpr ⟨row, rfl⟩
    have time : millis (seconds event.occurredAtMs) = event.occurredAtMs :=
      timely
    rw [unqueued, found]
    simp [projectedRow, eventRow, queuedRow, time]
  · obtain ⟨row, held, own⟩ := ingested.of_pending queued
    have found : db.evidenceIngestQueue.get? event.eventId = some row :=
      Table.get?_eq_some_iff.mpr ⟨held, by rw [own]; rfl⟩
    rw [found, own]
    rfl

/-- The owners of an accepted event are those that the queries find. -/
theorem Ingested.admitted
    (sound : Sound serde hash limit db)
    (ingested : Ingested serde hash limit projected pending db)
    {event : EvidenceEventInput} (member : event ∈ projected ++ pending) :
    db.admission serde event = .ok (payloadText serde event) := by
  obtain ⟨accepted, _, _⟩ := ingested.accepted event member
  obtain ⟨sessionOf, ownerOf, owned⟩ := sound.owned
  have held : db.HasRun event.runId ∧ event.sessionId = sessionOf event.runId ∧
      ∀ stepId, event.stepId = some stepId → db.HasStep stepId ∧
        (event.runId, event.sessionId) = ownerOf stepId := by
    rcases List.mem_append.mp member with stored | queued
    · obtain ⟨seq, row⟩ := ingested.of_projected stored
      obtain ⟨session, run⟩ := owned.event _ row
      refine ⟨.inl run, session, ?_⟩
      intro stepId named
      obtain ⟨own, step⟩ := owned.eventStep _ row stepId named
      exact ⟨.inl step, own⟩
    · obtain ⟨row, held, own⟩ := ingested.of_pending queued
      have run : row.runId = event.runId := by rw [own]; rfl
      have session : row.sessionId = event.sessionId := by rw [own]; rfl
      have step : row.stepId = event.stepId := by rw [own]; rfl
      refine ⟨.inr ⟨row, held, run⟩, ?_, ?_⟩
      · rw [← session, ← run]
        exact owned.queue row held
      · intro stepId named
        rw [← step] at named
        rw [← run, ← session]
        exact ⟨.inr ⟨row, held, named⟩, owned.queueStep row held stepId named⟩
  obtain ⟨run, session, steps⟩ := held
  apply admission_eq_ok.mpr
  refine ⟨accepted, ?_, ?_⟩
  · intro other found
    rw [owned.runSession run] at found
    rw [session]
    exact (Option.some.inj found).symm
  · intro stepId owner named found
    obtain ⟨step, own⟩ := steps stepId named
    rw [owned.stepOwner step] at found
    rw [own]
    exact (Option.some.inj found).symm

/-- Nothing with the id of an accepted event is inserted. -/
theorem Ingested.insertQueued
    (ingested : Ingested serde hash limit projected pending db)
    {event other : EvidenceEventInput} (member : event ∈ projected ++ pending)
    (same : other.eventId = event.eventId) (payloadJson : String) :
    db.insertQueued other payloadJson = none := by
  unfold EvidenceDatabase.insertQueued
  rw [same]
  rcases List.mem_append.mp member with stored | queued
  · obtain ⟨seq, row⟩ := ingested.of_projected stored
    exact if_pos (Table.isSome_get?_iff.mpr ⟨_, row, rfl⟩)
  · obtain ⟨row, held, own⟩ := ingested.of_pending queued
    split
    · rfl
    · rw [Table.insert?_eq_none_iff, ← Option.isSome_iff_ne_none]
      refine Table.isSome_get?_iff.mpr ⟨row, held, ?_⟩
      rw [own]
      exact same.symm

/-- An accepted event is recognised. -/
theorem Ingested.again (sound : Sound serde hash limit db)
    (ingested : Ingested serde hash limit projected pending db)
    {event : EvidenceEventInput} (member : event ∈ projected ++ pending) :
    db.enqueue serde event = (.ok false, db) := by
  unfold enqueue
  rw [ingested.admitted sound member]
  dsimp only
  rw [ingested.insertQueued member rfl, ingested.storedEvent sound member]
  exact congrArg (Prod.mk · db) (if_pos rfl)

/-- Two payloads with one text are the same, if one of them is read back. -/
private theorem payload_eq_of_text (lawful : serde.Lawful limit)
    {first second : State} {encoded : String} (shallow : first.depth ≤ limit)
    (writtenFirst : stateToJson serde first = .ok encoded)
    (writtenSecond : stateToJson serde second = .ok encoded) :
    second = first := by
  have read := (jsonToState_of_written lawful writtenFirst).1 shallow
  have alike : second.depth ≤ limit := by
    by_contra deep
    obtain ⟨error, refused⟩ := (jsonToState_of_written lawful
      writtenSecond).2 (not_le.mp deep)
    rw [read] at refused
    cases refused
  exact (state_of_text lawful shallow alike writtenFirst writtenSecond).symm

/-- Another event of its id is a conflict. -/
theorem Ingested.conflict (lawful : serde.Lawful limit)
    (sound : Sound serde hash limit db)
    (ingested : Ingested serde hash limit projected pending db)
    {event other : EvidenceEventInput} (member : event ∈ projected ++ pending)
    (same : other.eventId = event.eventId) (different : other ≠ event) :
    ∃ error, db.enqueue serde other = (.error error, db) := by
  unfold enqueue
  cases admitted : db.admission serde other with
  | error error => exact ⟨error, rfl⟩
  | ok payloadJson =>
      obtain ⟨accepted, shallow, _⟩ := ingested.accepted event member
      dsimp only
      rw [ingested.insertQueued member same, same,
        ingested.storedEvent sound member]
      refine ⟨⟨"conflicting evidence event_id: " ++ other.eventId⟩, ?_⟩
      refine congrArg (Prod.mk · db) (if_neg ?_)
      intro stored
      rw [StoredEvent.mk.injEq] at stored
      obtain ⟨run, session, step, type, time, text⟩ := stored
      have written : stateToJson serde other.payload =
          .ok (payloadText serde event) := by
        rw [text]
        exact (admission_eq_ok.mp admitted).1.written
      have payload := payload_eq_of_text lawful shallow accepted.written written
      apply different
      obtain ⟨eventId, runId, sessionId, stepId, eventType, occurredAtMs, held⟩ :=
        other
      cases same
      cases run
      cases session
      cases step
      cases type
      cases time
      cases payload
      rfl

end Reports

/-- Without pruning, the queue and the events together are the accepted events:
each is stored once, none is dropped, and it is known when it comes again. -/
theorem ingested_exactly_once (lawful : serde.Lawful limit)
    (calls : List EvidenceCall)
    (ingests : ∀ call ∈ calls, call.Ingests limit) :
    let db := runFrom (EvidenceCall.next serde hash) .empty calls
    let accepted := acceptedBy serde hash .empty calls
    (db.pendingCount = 0 → ∀ runId, isBlank runId = false →
      db.eventsOf serde hash runId =
        .ok ((numberedOf runId accepted).map (recordOf serde hash))) ∧
    (accepted.map EvidenceEventInput.eventId).Nodup ∧
    (∀ count receipt after,
      db.projectBatch serde hash count = .ok (receipt, after) →
      receipt.droppedInvalid = 0) ∧
    (∀ event ∈ accepted, db.enqueue serde event = (.ok false, db)) ∧
    (∀ event ∈ accepted, ∀ other : EvidenceEventInput,
      other.eventId = event.eventId → other ≠ event →
      ∃ error, db.enqueue serde other = (.error error, db)) ∧
    ∃ sessionOf ownerOf, Owned sessionOf ownerOf db := by
  intro db accepted
  have sound : Sound serde hash limit db := sound_of_calls lawful calls
  obtain ⟨projected, pending, whole, ingested⟩ :=
    @ingested_of_calls serde hash limit _ lawful _ ingests sound_empty _ _
      ingested_empty
  rw [List.append_nil, List.nil_append] at whole
  change accepted = _ at whole
  change Ingested serde hash limit projected pending db at ingested
  rw [whole]
  refine ⟨?_, ingested.distinct, ?_, ?_, ?_, sound.owned⟩
  · intro empty runId named
    have none_pending : pending = [] := by
      have queue := ingested.queue
      rw [List.length_eq_zero_iff.mp empty] at queue
      exact List.forall₂_nil_right_iff.mp queue
    rw [none_pending, List.append_nil, eventsOf, named]
    exact ingested.readEvents lawful runId
  · intro count receipt after ran
    rcases projectBatch_cases sound count with ⟨error, failed⟩ | same
    · rw [failed] at ran
      cases ran
    · obtain ⟨final, ends, none_dropped, _⟩ :=
        ingested.batched lawful sound count
      rw [same, ends] at ran
      cases ran
      exact none_dropped
  · exact fun event member => ingested.again sound member
  · exact fun event member other same different =>
      ingested.conflict lawful sound member same different

/-- An event without a payload. -/
def noteAt (occurredAtMs : Int) : EvidenceEventInput where
  eventId := "event"
  runId := "run"
  sessionId := "session"
  stepId := none
  eventType := "note"
  occurredAtMs := occurredAtMs
  payload := State.new

theorem note_ingested_once :
    let calls := [EvidenceCall.enqueue (noteAt 1), .projectBatch 1]
    let db := runFrom (EvidenceCall.next (bitSerde 100) stableHash) .empty calls
    let accepted := acceptedBy (bitSerde 100) stableHash .empty calls
    (db.pendingCount = 0 → ∀ runId, isBlank runId = false →
      db.eventsOf (bitSerde 100) stableHash runId =
        .ok ((numberedOf runId accepted).map
          (recordOf (bitSerde 100) stableHash))) ∧
    (accepted.map EvidenceEventInput.eventId).Nodup ∧
    (∀ count receipt after,
      db.projectBatch (bitSerde 100) stableHash count = .ok (receipt, after) →
      receipt.droppedInvalid = 0) ∧
    (∀ event ∈ accepted, db.enqueue (bitSerde 100) event = (.ok false, db)) ∧
    (∀ event ∈ accepted, ∀ other : EvidenceEventInput,
      other.eventId = event.eventId → other ≠ event →
      ∃ error, db.enqueue (bitSerde 100) other = (.error error, db)) ∧
    ∃ sessionOf ownerOf, Owned sessionOf ownerOf db :=
  ingested_exactly_once (bitSerde_lawful 100)
    [.enqueue (noteAt 1), .projectBatch 1] (by
      intro call member
      rcases List.mem_pair.mp member with rfl | rfl
      · exact ⟨by decide, millis_seconds (by decide) (by decide)⟩
      · exact Nat.one_pos)

/-- A time that the seconds do not give back, though it is below `2 ^ 52`: the
event is reported with another one, and is a conflict with itself. -/
theorem late_note_changed :
    (4398046511104021 : Int) < 2 ^ 52 ∧
    let db := runFrom (EvidenceCall.next (bitSerde 100) stableHash) .empty
      [.enqueue (noteAt 4398046511104021), .projectBatch 1]
    db.pendingCount = 0 ∧
    acceptedBy (bitSerde 100) stableHash .empty
        [.enqueue (noteAt 4398046511104021), .projectBatch 1] =
      [noteAt 4398046511104021] ∧
    (db.eventsOf (bitSerde 100) stableHash "run").toOption.map
        (List.map EvidenceEventRecord.occurredAtMs) =
      some [4398046511104022] ∧
    (db.enqueue (bitSerde 100) (noteAt 4398046511104021)).1.toOption = none := by
  refine ⟨by decide, by decide +kernel, by rfl, by decide +kernel,
    by decide +kernel⟩

end EvidenceDatabase

end AgentLedger.Rust
