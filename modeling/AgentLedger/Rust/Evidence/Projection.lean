import AgentLedger.Rust.Evidence.Soundness

namespace AgentLedger.Rust

open Foundation

/-! What `project_batch` makes of the events at the head of the queue. -/

namespace EvidenceDatabase

variable {serde : SerdeJson} {hash : String → String} {limit : Nat}
  {db : EvidenceDatabase} {row : QueuedEvent} {rest : List QueuedEvent}
  {event : EvidenceEventInput} {payloadJson : String}

/-! ### The verdict -/

private theorem valid_owner {sessionOf : String → String}
    {ownerOf : String → String × String} (owned : Owned sessionOf ownerOf db)
    (member : row ∈ db.evidenceIngestQueue.rows) :
    invalidOwner row db = false := by
  rw [invalidOwner, Bool.or_eq_false_iff]
  constructor
  · cases found : db.runs.get? row.runId with
    | none => rfl
    | some run =>
        obtain ⟨held, same⟩ := Table.get?_some found
        have session : run.sessionId = row.sessionId := by
          rw [owned.run run held, owned.queue row member, same]
        simp [session]
  · cases named : row.stepId with
    | none => rfl
    | some stepId =>
        cases found : db.steps.get? stepId with
        | none => simp [found]
        | some step =>
            obtain ⟨held, same⟩ := Table.get?_some found
            have owner : (step.runId, step.sessionId) =
                (row.runId, row.sessionId) := by
              rw [(owned.step step held).1, same,
                owned.queueStep row member stepId named]
            obtain ⟨run, session⟩ := Prod.mk.inj owner
            simp [found, run, session]

/-- An event of the queue is projected exactly if its text is read back. -/
theorem verdict_of_member (lawful : serde.Lawful limit)
    (sound : Sound serde hash limit db)
    (member : row ∈ db.evidenceIngestQueue.rows)
    (accepted : Accepted serde event payloadJson)
    (same : row = queuedRow event row.queueId payloadJson) :
    verdict serde hash row db =
      .ok (if event.payload.depth ≤ limit then .project payloadJson
        else .acknowledge true) := by
  obtain ⟨_, _, owned⟩ := sound.owned
  have text : row.payloadJson = payloadJson := by rw [same]; rfl
  have small : ¬ maxPayloadBytes < row.payloadJson.utf8ByteSize := by
    rw [text]
    exact not_lt.mpr accepted.small
  obtain ⟨reads, refuses⟩ := jsonToState_of_written lawful accepted.written
  rw [verdict, if_neg small, text]
  by_cases shallow : event.payload.depth ≤ limit
  · have input : QueuedEvent.input row event.payload = event := by
      rw [same]
      rfl
    have day : row.eventDay = dayOf row.occurredAtMs := by rw [same]; rfl
    have valid : (validateEvent event).isOk = true := by
      rw [accepted.valid]
      rfl
    have fits : ¬ maxPayloadBytes < payloadJson.utf8ByteSize :=
      not_lt.mpr accepted.small
    have judged : verdictOn hash row event.payload payloadJson db =
        .project payloadJson := by
      simp [verdictOn, input, day, valid, fits,
        sound.queueing.unprojected row member, valid_owner owned member]
    rw [reads shallow, if_pos shallow]
    dsimp only
    rw [accepted.written]
    exact congrArg Except.ok judged
  · obtain ⟨error, refused⟩ := refuses (not_le.mp shallow)
    rw [refused, if_neg shallow]

/-! ### The number of a new event -/

theorem lt_nextSeq {events : Table EventRow.eventId} {stored : EventRow}
    (member : stored ∈ events.rows) :
    stored.seq < nextSeq events stored.runId := by
  have listed : stored.seq ∈ (events.rows.filter fun other =>
      other.runId = stored.runId).map EventRow.seq :=
    List.mem_map_of_mem (List.mem_filter.mpr ⟨member, by simp⟩)
  rw [nextSeq]
  cases found : ((events.rows.filter fun other =>
      other.runId = stored.runId).map EventRow.seq).max? with
  | none =>
      rw [List.max?_eq_none_iff] at found
      rw [found] at listed
      cases listed
  | some most =>
      have bound := (List.max?_eq_some_iff.mp found).2 stored.seq listed
      rw [Option.getD_some]
      omega

theorem nextSeq_pos {events : Table EventRow.eventId}
    (positive : ∀ stored ∈ events.rows, 0 < stored.seq) (runId : String) :
    0 < nextSeq events runId := by
  rw [nextSeq]
  cases found : ((events.rows.filter fun other =>
      other.runId = runId).map EventRow.seq).max? with
  | none => simp
  | some most =>
      obtain ⟨member, _⟩ := List.max?_eq_some_iff.mp found
      obtain ⟨stored, held, rfl⟩ := List.mem_map.mp member
      have own := positive stored (List.mem_filter.mp held).1
      rw [Option.getD_some]
      omega

/-! ### A step of the batch -/

/-- What the projection of the event at the head of the queue adds. -/
structure Advanced (hash : String → String) (db : EvidenceDatabase)
    (row : QueuedEvent) (rest : List QueuedEvent) (payloadJson : String)
    (after : EvidenceDatabase) : Prop where
  queue : after.evidenceIngestQueue.rows = rest
  autoincrement : after.autoincrement = db.autoincrement
  metadata : after.evidenceBundleMetadata = db.evidenceBundleMetadata
  events : after.events.rows = db.events.rows ++
    [eventRow hash row (nextSeq db.events row.runId) payloadJson]
  run : ∀ run ∈ after.runs.rows,
    (∃ before ∈ db.runs.rows, before.runId = run.runId ∧
      before.sessionId = run.sessionId) ∨
    row.runId = run.runId ∧ row.sessionId = run.sessionId
  hasRun : ∀ runId, (db.runs.get? runId).isSome ∨ row.runId = runId →
    (after.runs.get? runId).isSome
  step : ∀ step ∈ after.steps.rows,
    (∃ before ∈ db.steps.rows, before.stepId = step.stepId ∧
      before.runId = step.runId ∧ before.sessionId = step.sessionId) ∨
    row.stepId = some step.stepId ∧ row.runId = step.runId ∧
      row.sessionId = step.sessionId
  hasStep : ∀ stepId, (db.steps.get? stepId).isSome ∨
    row.stepId = some stepId → (after.steps.get? stepId).isSome
  status : ∀ step ∈ after.steps.rows,
    (∃ before ∈ db.steps.rows, before.stepId = step.stepId ∧
      (step.status = before.status ∨
        terminalStepStatus row.eventType = some step.status)) ∨
    db.steps.get? step.stepId = none ∧ row.stepId = some step.stepId ∧
      step.status = (terminalStepStatus row.eventType).getD "running"

private theorem dequeue_head (ordered : (row :: rest).Pairwise
      fun first second => first.queueId < second.queueId)
    (head : db.evidenceIngestQueue.rows = row :: rest) :
    (db.dequeue row.queueId).evidenceIngestQueue.rows = rest ∧
      db.queuedCount row.queueId = 1 := by
  have later : ∀ other ∈ rest, other.queueId ≠ row.queueId :=
    fun other member => (ne_of_lt
      ((List.pairwise_cons.mp ordered).1 other member)).symm
  constructor
  · simp only [dequeue, Table.deleteWhere, head, List.filter_cons,
      decide_true, Bool.not_true, Bool.false_eq_true, if_false]
    rw [List.filter_eq_self]
    intro other member
    simp [later other member]
  · have none_later : (rest.filter fun other =>
        decide (other.queueId = row.queueId)) = [] := by
      rw [List.filter_eq_nil_iff]
      intro other member
      simp [later other member]
    simp [queuedCount, Table.countWhere, head, none_later]

theorem fresh_event (unprojected : db.events.get? row.eventId = none) :
    ∃ events, insertEvent? (eventRow hash row (nextSeq db.events row.runId)
        payloadJson) db.events = some events ∧
      events.rows = db.events.rows ++
        [eventRow hash row (nextSeq db.events row.runId) payloadJson] := by
  have unnumbered : (db.events.rows.any fun other =>
      other.runId = row.runId && other.seq = nextSeq db.events row.runId) =
        false := by
    rw [List.any_eq_false]
    intro stored member
    have below := lt_nextSeq member
    simp only [Bool.and_eq_true, decide_eq_true_eq, not_and]
    intro same
    rw [← same]
    exact ne_of_lt below
  obtain ⟨events, inserted, rows⟩ := @Table.insert?_of_fresh _ _ _
    _ db.events (eventRow hash row (nextSeq db.events row.runId) payloadJson)
    unprojected
  refine ⟨events, ?_, rows⟩
  rw [insertEvent?, if_neg]
  · exact inserted
  · have same : (db.events.rows.any fun other =>
        other.runId = (eventRow hash row (nextSeq db.events row.runId)
          payloadJson).runId && other.seq = (eventRow hash row
            (nextSeq db.events row.runId) payloadJson).seq) = false :=
      unnumbered
    rw [same]
    exact Bool.false_ne_true

theorem projectStep_others :
    (db.projectStep row).events = db.events ∧
      (db.projectStep row).runs = db.runs ∧
      (db.projectStep row).evidenceIngestQueue = db.evidenceIngestQueue ∧
      (db.projectStep row).autoincrement = db.autoincrement ∧
      (db.projectStep row).evidenceBundleMetadata =
        db.evidenceBundleMetadata := by
  unfold projectStep
  cases row.stepId with
  | none => exact ⟨rfl, rfl, rfl, rfl, rfl⟩
  | some stepId => exact ⟨rfl, rfl, rfl, rfl, rfl⟩

theorem mem_projectStep {step : StepRow}
    (member : step ∈ (db.projectStep row).steps.rows) :
    (∃ before ∈ db.steps.rows, before.stepId = step.stepId ∧
      before.runId = step.runId ∧ before.sessionId = step.sessionId) ∨
    row.stepId = some step.stepId ∧ row.runId = step.runId ∧
      row.sessionId = step.sessionId := by
  unfold projectStep at member
  cases named : row.stepId with
  | none =>
      rw [named] at member
      exact .inl ⟨step, member, rfl, rfl, rfl⟩
  | some stepId =>
      rw [named] at member
      dsimp only at member
      obtain ⟨before, held, changed⟩ := Table.mem_updateWhere.mp member
      have kept : before.stepId = step.stepId ∧ before.runId = step.runId ∧
          before.sessionId = step.sessionId := by
        rw [changed]
        split <;> exact ⟨rfl, rfl, rfl⟩
      rcases Table.mem_insertOrIgnore held with old | rfl
      · exact .inl ⟨before, old, kept⟩
      · exact .inr ⟨congrArg some kept.1, kept.2⟩

private theorem status_projectStep {step : StepRow}
    (member : step ∈ (db.projectStep row).steps.rows) :
    (∃ before ∈ db.steps.rows, before.stepId = step.stepId ∧
      (step.status = before.status ∨
        terminalStepStatus row.eventType = some step.status)) ∨
    db.steps.get? step.stepId = none ∧ row.stepId = some step.stepId ∧
      step.status = (terminalStepStatus row.eventType).getD "running" := by
  unfold projectStep at member
  cases named : row.stepId with
  | none =>
      rw [named] at member
      exact .inl ⟨step, member, rfl, .inl rfl⟩
  | some stepId =>
      rw [named] at member
      dsimp only at member
      obtain ⟨before, held, changed⟩ := Table.mem_updateWhere.mp member
      have same : before.stepId = step.stepId := by
        rw [changed]
        split <;> rfl
      have status : step.status = before.status ∨
          step.status = (terminalStepStatus row.eventType).getD
            before.status := by
        rw [changed]
        split
        · exact .inr rfl
        · exact .inl rfl
      have kept (old : before ∈ db.steps.rows) : ∃ earlier ∈ db.steps.rows,
          earlier.stepId = step.stepId ∧ (step.status = earlier.status ∨
            terminalStepStatus row.eventType = some step.status) := by
        refine ⟨before, old, same, ?_⟩
        cases ends : terminalStepStatus row.eventType with
        | none =>
            rw [ends] at status
            exact .inl (status.elim id id)
        | some name =>
            rw [ends] at status
            exact status.imp_right fun own => congrArg some own.symm
      rw [Table.rows_insertOrIgnore] at held
      split at held
      case isTrue => exact .inl (kept held)
      case isFalse absent =>
          rcases List.mem_append.mp held with old | new
          · exact .inl (kept old)
          · have own := List.mem_singleton.mp new
            subst own
            refine .inr ⟨?_, congrArg some same, ?_⟩
            · rw [← same]
              simpa using absent
            · cases ends : terminalStepStatus row.eventType with
              | none =>
                  rw [ends] at status
                  exact status.elim id id
              | some name =>
                  rw [ends] at status
                  exact status.elim id id

private theorem isSome_projectStep {stepId : String}
    (held : (db.steps.get? stepId).isSome ∨ row.stepId = some stepId) :
    ((db.projectStep row).steps.get? stepId).isSome := by
  unfold projectStep
  cases named : row.stepId with
  | none =>
      rcases held with held | own
      · exact held
      · rw [named] at own
        cases own
  | some own =>
      rw [Table.get?_updateWhere, Option.isSome_map]
      apply Table.isSome_get?_insertOrIgnore
      rcases held with held | same
      · exact .inl held
      · rw [named] at same
        exact .inr (Option.some.inj same)

private theorem mem_finishRun {events : Table EventRow.eventId} {run : RunRow}
    (member : run ∈ (finishRun row (withEvents events
      ((db.projectRun row).projectStep row))).runs.rows) :
    (∃ before ∈ db.runs.rows, before.runId = run.runId ∧
      before.sessionId = run.sessionId) ∨
    row.runId = run.runId ∧ row.sessionId = run.sessionId := by
  rw [finishRun, Table.mem_updateWhere] at member
  obtain ⟨before, held, changed⟩ := member
  have kept : before.runId = run.runId ∧ before.sessionId = run.sessionId := by
    rw [changed]
    split <;> exact ⟨rfl, rfl⟩
  simp only [withEvents, projectStep_others] at held
  rcases Table.mem_insertOrIgnore held with old | rfl
  · exact .inl ⟨before, old, kept⟩
  · exact .inr kept

private theorem isSome_finishRun {events : Table EventRow.eventId}
    {runId : String}
    (held : (db.runs.get? runId).isSome ∨ row.runId = runId) :
    ((finishRun row (withEvents events
      ((db.projectRun row).projectStep row))).runs.get? runId).isSome := by
  rw [finishRun, Table.get?_updateWhere, Option.isSome_map]
  simp only [withEvents, projectStep_others]
  exact Table.isSome_get?_insertOrIgnore held

/-- The event at the head of the queue is projected, or dropped. -/
theorem projectEvent_head (lawful : serde.Lawful limit)
    (sound : Sound serde hash limit db)
    (head : db.evidenceIngestQueue.rows = row :: rest)
    (receipt : ProjectionReceipt) :
    ∃ event payloadJson, Accepted serde event payloadJson ∧
      row = queuedRow event row.queueId payloadJson ∧
      (event.payload.depth ≤ limit ∧
        (∃ after, projectEvent serde hash (receipt, db) row =
          .ok ({ receipt with
            projected := receipt.projected + 1
            acked := receipt.acked + 1 }, after) ∧
          Advanced hash db row rest payloadJson after) ∨
      limit < event.payload.depth ∧
        projectEvent serde hash (receipt, db) row =
          .ok ({ receipt with
            acked := receipt.acked + 1
            droppedInvalid := receipt.droppedInvalid + 1 },
            db.dequeue row.queueId)) := by
  have member : row ∈ db.evidenceIngestQueue.rows := by
    rw [head]
    exact List.mem_cons_self ..
  obtain ⟨event, payloadJson, accepted, same⟩ :=
    sound.queueing.accepted row member
  have judged := verdict_of_member lawful sound member accepted same
  have ordered : (row :: rest).Pairwise fun first second =>
      first.queueId < second.queueId := by
    rw [← head]
    exact sound.queueing.ordered
  obtain ⟨removed, counted⟩ := dequeue_head ordered head
  refine ⟨event, payloadJson, accepted, same, ?_⟩
  by_cases shallow : event.payload.depth ≤ limit
  · rw [if_pos shallow] at judged
    refine .inl ⟨shallow, ?_⟩
    obtain ⟨events, inserted, rows⟩ := @fresh_event hash db row payloadJson
      (sound.queueing.unprojected row member)
    let owned := (db.projectRun row).projectStep row
    have others := @projectStep_others (db.projectRun row) row
    have queue : (finishRun row (withEvents events owned)).evidenceIngestQueue =
        db.evidenceIngestQueue := others.2.2.1
    have added : db.insertProjected hash row payloadJson receipt =
        ({ receipt with projected := receipt.projected + 1 },
          finishRun row (withEvents events owned)) := by
      unfold insertProjected
      simp only [others.1]
      rw [show (db.projectRun row).events = db.events from rfl, inserted]
    refine ⟨(finishRun row (withEvents events owned)).dequeue row.queueId, ?_,
      ?_⟩
    · have acked : (finishRun row (withEvents events owned)).queuedCount
          row.queueId = 1 := by
        rw [queuedCount, queue]
        exact counted
      unfold projectEvent
      rw [judged]
      simp only [bind, Except.bind, added, acked]
      rfl
    · exact
        { queue := by
            rw [dequeue, queue]
            exact removed
          autoincrement := others.2.2.2.1
          metadata := others.2.2.2.2
          events := rows
          run := fun run member => mem_finishRun member
          hasRun := fun runId held => isSome_finishRun held
          step := fun step member =>
            @mem_projectStep (db.projectRun row) row step member
          hasStep := fun stepId held =>
            @isSome_projectStep (db.projectRun row) row stepId held
          status := fun step member =>
            @status_projectStep (db.projectRun row) row step member }
  · rw [if_neg shallow] at judged
    refine .inr ⟨not_le.mp shallow, ?_⟩
    unfold projectEvent
    rw [judged]
    simp only [bind, Except.bind, ackQueuedEvent, counted]
    rfl

/-! ### The store stays sound -/

section Advanced

variable {after : EvidenceDatabase}

private theorem Queueing.behead (queueing : Queueing serde db)
    (head : db.evidenceIngestQueue.rows = row :: rest)
    (queue : after.evidenceIngestQueue.rows = rest)
    (autoincrement : after.autoincrement = db.autoincrement)
    (unprojected : ∀ other ∈ rest, other.eventId ≠ row.eventId →
      db.events.get? other.eventId = none →
      after.events.get? other.eventId = none) : Queueing serde after := by
  have later : ∀ other ∈ rest, other ∈ db.evidenceIngestQueue.rows := by
    intro other member
    rw [head]
    exact List.mem_cons_of_mem _ member
  have ordered := queueing.ordered
  have distinct := db.evidenceIngestQueue.distinct
  rw [head] at ordered distinct
  constructor
  · rw [queue]
    exact (List.pairwise_cons.mp ordered).2
  · intro other member
    rw [queue] at member
    rw [autoincrement]
    exact queueing.below other (later other member)
  · intro other member
    rw [queue] at member
    apply unprojected other member _ (queueing.unprojected other
      (later other member))
    intro same
    rw [List.map_cons, List.nodup_cons] at distinct
    exact distinct.1 (List.mem_map.mpr ⟨other, member, same⟩)
  · intro other member
    rw [queue] at member
    exact queueing.accepted other (later other member)

private theorem Projecting.advanced (projecting : Projecting serde hash limit db)
    (accepted : Accepted serde event payloadJson)
    (same : row = queuedRow event row.queueId payloadJson)
    (shallow : event.payload.depth ≤ limit)
    (advanced : Advanced hash db row rest payloadJson after) :
    Projecting serde hash limit after where
  accepted := by
    intro stored member
    rw [advanced.events] at member
    rcases List.mem_append.mp member with old | new
    · exact projecting.accepted stored old
    · rw [List.mem_singleton.mp new]
      refine ⟨event, payloadJson, accepted, shallow, ?_⟩
      rw [same]
      rfl
  positive := by
    intro stored member
    rw [advanced.events] at member
    rcases List.mem_append.mp member with old | new
    · exact projecting.positive stored old
    · rw [List.mem_singleton.mp new]
      exact nextSeq_pos projecting.positive row.runId
  numbered := by
    rw [advanced.events, List.pairwise_append]
    refine ⟨projecting.numbered, List.pairwise_singleton _ _, ?_⟩
    intro stored member new added run
    rw [List.mem_singleton.mp added] at run ⊢
    have below := lt_nextSeq member
    rw [run] at below
    exact below

private theorem Owned.advanced {sessionOf : String → String}
    {ownerOf : String → String × String} (owned : Owned sessionOf ownerOf db)
    (head : db.evidenceIngestQueue.rows = row :: rest)
    (advanced : Advanced hash db row rest payloadJson after) :
    Owned sessionOf ownerOf after := by
  have member : row ∈ db.evidenceIngestQueue.rows := by
    rw [head]
    exact List.mem_cons_self ..
  have later : ∀ other ∈ after.evidenceIngestQueue.rows,
      other ∈ db.evidenceIngestQueue.rows := by
    intro other held
    rw [advanced.queue] at held
    rw [head]
    exact List.mem_cons_of_mem _ held
  constructor
  · intro run held
    rcases advanced.run run held with ⟨before, old, same, session⟩ |
      ⟨same, session⟩
    · rw [← session, ← same]
      exact owned.run before old
    · rw [← session, ← same]
      exact owned.queue row member
  · exact fun other held => owned.queue other (later other held)
  · exact fun other held => owned.queueStep other (later other held)
  · intro step held
    rcases advanced.step step held with ⟨before, old, same, run, session⟩ |
      ⟨named, run, session⟩
    · obtain ⟨own, ofRun, there⟩ := owned.step before old
      rw [← same, ← run, ← session]
      exact ⟨own, ofRun, advanced.hasRun _ (.inl there)⟩
    · rw [← run, ← session]
      exact ⟨owned.queueStep row member step.stepId named,
        owned.queue row member, advanced.hasRun _ (.inr rfl)⟩
  · intro stored held
    rw [advanced.events] at held
    rcases List.mem_append.mp held with old | new
    · obtain ⟨own, there⟩ := owned.event stored old
      exact ⟨own, advanced.hasRun _ (.inl there)⟩
    · rw [List.mem_singleton.mp new]
      exact ⟨owned.queue row member, advanced.hasRun _ (.inr rfl)⟩
  · intro stored held stepId named
    rw [advanced.events] at held
    rcases List.mem_append.mp held with old | new
    · obtain ⟨own, there⟩ := owned.eventStep stored old stepId named
      exact ⟨own, advanced.hasStep _ (.inl there)⟩
    · rw [List.mem_singleton.mp new] at named ⊢
      exact ⟨owned.queueStep row member stepId named,
        advanced.hasStep _ (.inr named)⟩

theorem Sound.advanced (sound : Sound serde hash limit db)
    (head : db.evidenceIngestQueue.rows = row :: rest)
    (accepted : Accepted serde event payloadJson)
    (same : row = queuedRow event row.queueId payloadJson)
    (shallow : event.payload.depth ≤ limit)
    (advanced : Advanced hash db row rest payloadJson after) :
    Sound serde hash limit after where
  queueing := by
    apply sound.queueing.behead head advanced.queue advanced.autoincrement
    intro other _ different absent
    rw [Table.get?_eq_none_iff] at absent ⊢
    intro stored member
    rw [advanced.events] at member
    rcases List.mem_append.mp member with old | new
    · exact absent stored old
    · rw [List.mem_singleton.mp new]
      exact Ne.symm different
  projecting := sound.projecting.advanced accepted same shallow advanced
  owned := by
    obtain ⟨sessionOf, ownerOf, owned⟩ := sound.owned
    exact ⟨sessionOf, ownerOf, owned.advanced head advanced⟩

/-- Nor does it matter that an event is dropped. -/
theorem Sound.dropped (sound : Sound serde hash limit db)
    (head : db.evidenceIngestQueue.rows = row :: rest) :
    Sound serde hash limit (db.dequeue row.queueId) := by
  have ordered := sound.queueing.ordered
  rw [head] at ordered
  obtain ⟨removed, _⟩ := dequeue_head ordered head
  obtain ⟨sessionOf, ownerOf, owned⟩ := sound.owned
  have later : ∀ other ∈ (db.dequeue row.queueId).evidenceIngestQueue.rows,
      other ∈ db.evidenceIngestQueue.rows :=
    fun other member => (Table.mem_deleteWhere.mp member).1
  exact
    { queueing := sound.queueing.behead head removed rfl
        fun _ _ _ absent => absent
      projecting := ⟨sound.projecting.accepted, sound.projecting.positive,
        sound.projecting.numbered⟩
      owned := ⟨sessionOf, ownerOf, owned.run,
        fun other member => owned.queue other (later other member),
        fun other member => owned.queueStep other (later other member),
        owned.step, owned.event, owned.eventStep⟩ }

end Advanced

theorem queue_dequeue (sound : Sound serde hash limit db)
    (head : db.evidenceIngestQueue.rows = row :: rest) :
    (db.dequeue row.queueId).evidenceIngestQueue.rows = rest := by
  have ordered := sound.queueing.ordered
  rw [head] at ordered
  exact (dequeue_head ordered head).1

/-! ### The batch -/

/-- The queue is in the order in which it is read. -/
theorem queued_eq_take (sound : Sound serde hash limit db) (count : Nat) :
    db.queued count = db.evidenceIngestQueue.rows.take count := by
  rw [queued, List.Pairwise.insertionSort_eq]
  apply sound.queueing.ordered.imp
  intro first second before
  exact Nat.le_of_lt before

/-- The events of a batch, from the head of the queue on. -/
theorem batch_induction (lawful : serde.Lawful limit)
    {motive : Nat → ProjectionReceipt × EvidenceDatabase →
      ProjectionReceipt × EvidenceDatabase → Prop}
    (done : ∀ count state, count = 0 ∨
      state.2.evidenceIngestQueue.rows = [] → motive count state state)
    (projected : ∀ count receipt db row rest event payloadJson after final,
      Sound serde hash limit db →
      db.evidenceIngestQueue.rows = row :: rest →
      Accepted serde event payloadJson →
      row = queuedRow event row.queueId payloadJson →
      event.payload.depth ≤ limit →
      Advanced hash db row rest payloadJson after →
      motive count ({ receipt with
        projected := receipt.projected + 1
        acked := receipt.acked + 1 }, after) final →
      motive (count + 1) (receipt, db) final)
    (dropped : ∀ count receipt db row rest event payloadJson final,
      Sound serde hash limit db →
      db.evidenceIngestQueue.rows = row :: rest →
      Accepted serde event payloadJson →
      row = queuedRow event row.queueId payloadJson →
      limit < event.payload.depth →
      motive count ({ receipt with
        acked := receipt.acked + 1
        droppedInvalid := receipt.droppedInvalid + 1 },
        db.dequeue row.queueId) final →
      motive (count + 1) (receipt, db) final)
    (count : Nat) (receipt : ProjectionReceipt)
    (sound : Sound serde hash limit db) :
    ∃ final, (db.evidenceIngestQueue.rows.take count).foldlM
        (projectEvent serde hash) (receipt, db) = .ok final ∧
      Sound serde hash limit final.2 ∧ motive count (receipt, db) final := by
  induction count generalizing db receipt with
  | zero => exact ⟨(receipt, db), rfl, sound, done 0 _ (.inl rfl)⟩
  | succ count ih =>
      cases head : db.evidenceIngestQueue.rows with
      | nil => exact ⟨(receipt, db), rfl, sound, done _ _ (.inr head)⟩
      | cons row rest =>
          obtain ⟨event, payloadJson, accepted, same, outcome⟩ :=
            projectEvent_head lawful sound head receipt
          rcases outcome with ⟨shallow, after, ran, advanced⟩ | ⟨deep, ran⟩
          · obtain ⟨final, ends, kept, meets⟩ := ih
              { receipt with
                projected := receipt.projected + 1
                acked := receipt.acked + 1 }
              (sound.advanced head accepted same shallow advanced)
            refine ⟨final, ?_, kept, projected count receipt db row rest event
              payloadJson after final sound head accepted same shallow advanced
              meets⟩
            rw [advanced.queue] at ends
            rw [List.take_succ_cons, List.foldlM_cons, ran]
            exact ends
          · obtain ⟨final, ends, kept, meets⟩ := ih
              { receipt with
                acked := receipt.acked + 1
                droppedInvalid := receipt.droppedInvalid + 1 }
              (sound.dropped head)
            refine ⟨final, ?_, kept, dropped count receipt db row rest event
              payloadJson final sound head accepted same deep meets⟩
            rw [queue_dequeue sound head] at ends
            rw [List.take_succ_cons, List.foldlM_cons, ran]
            exact ends

end EvidenceDatabase

end AgentLedger.Rust
