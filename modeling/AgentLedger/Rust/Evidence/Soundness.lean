import AgentLedger.Foundation.Run
import AgentLedger.Rust.Evidence.Store

namespace AgentLedger.Rust

open Foundation

/-! What every sequence of calls keeps: queued events are accepted ones that
have not been projected, and runs and steps have one owner over all tables. -/

namespace EvidenceDatabase

variable {serde : SerdeJson} {hash : String → String} {limit : Nat}

/-- The event passes the checks of `enqueue`, and this is its payload. -/
structure Accepted (serde : SerdeJson) (event : EvidenceEventInput)
    (payloadJson : String) : Prop where
  valid : validateEvent event = .ok ()
  written : stateToJson serde event.payload = .ok payloadJson
  small : payloadJson.utf8ByteSize ≤ maxPayloadBytes

/-- The row of an event that has been projected as the one with this number. -/
def projectedRow (hash : String → String) (event : EvidenceEventInput)
    (seq : Int) (payloadJson : String) : EventRow :=
  eventRow hash (queuedRow event 0 payloadJson) seq payloadJson

/-! ### The queue -/

structure Queueing (serde : SerdeJson) (db : EvidenceDatabase) : Prop where
  ordered : db.evidenceIngestQueue.rows.Pairwise fun first second =>
    first.queueId < second.queueId
  below : ∀ row ∈ db.evidenceIngestQueue.rows, row.queueId < db.autoincrement
  unprojected : ∀ row ∈ db.evidenceIngestQueue.rows,
    db.events.get? row.eventId = none
  accepted : ∀ row ∈ db.evidenceIngestQueue.rows, ∃ event payloadJson,
    Accepted serde event payloadJson ∧
      row = queuedRow event row.queueId payloadJson

/-! ### The events -/

structure Projecting (serde : SerdeJson) (hash : String → String) (limit : Nat)
    (db : EvidenceDatabase) : Prop where
  accepted : ∀ row ∈ db.events.rows, ∃ event payloadJson,
    Accepted serde event payloadJson ∧ event.payload.depth ≤ limit ∧
      row = projectedRow hash event row.seq payloadJson
  positive : ∀ row ∈ db.events.rows, 0 < row.seq
  numbered : db.events.rows.Pairwise fun first second =>
    first.runId = second.runId → first.seq < second.seq

/-! ### Ownership -/

/-- Every row agrees with these owners. -/
structure Owned (sessionOf : String → String)
    (ownerOf : String → String × String) (db : EvidenceDatabase) : Prop where
  run : ∀ row ∈ db.runs.rows, row.sessionId = sessionOf row.runId
  queue : ∀ row ∈ db.evidenceIngestQueue.rows,
    row.sessionId = sessionOf row.runId
  queueStep : ∀ row ∈ db.evidenceIngestQueue.rows, ∀ stepId,
    row.stepId = some stepId → (row.runId, row.sessionId) = ownerOf stepId
  step : ∀ row ∈ db.steps.rows, (row.runId, row.sessionId) = ownerOf row.stepId ∧
    row.sessionId = sessionOf row.runId ∧ (db.runs.get? row.runId).isSome
  event : ∀ row ∈ db.events.rows, row.sessionId = sessionOf row.runId ∧
    (db.runs.get? row.runId).isSome
  eventStep : ∀ row ∈ db.events.rows, ∀ stepId, row.stepId = some stepId →
    (row.runId, row.sessionId) = ownerOf stepId ∧
      (db.steps.get? stepId).isSome

structure Sound (serde : SerdeJson) (hash : String → String) (limit : Nat)
    (db : EvidenceDatabase) : Prop where
  queueing : Queueing serde db
  projecting : Projecting serde hash limit db
  owned : ∃ sessionOf ownerOf, Owned sessionOf ownerOf db

theorem sound_empty : Sound serde hash limit empty where
  queueing := ⟨List.Pairwise.nil, fun _ member => (by cases member),
    fun _ member => (by cases member), fun _ member => (by cases member)⟩
  projecting := ⟨fun _ member => (by cases member),
    fun _ member => (by cases member), List.Pairwise.nil⟩
  owned := ⟨fun _ => "", fun _ => ("", ""), fun _ member => (by cases member),
    fun _ member => (by cases member), fun _ member => (by cases member),
    fun _ member => (by cases member), fun _ member => (by cases member),
    fun _ member => (by cases member)⟩

/-! ### What `enqueue` does -/

section Enqueue

variable {event : EvidenceEventInput} {db : EvidenceDatabase}

/-- The event is new to the queue and to the projected events. -/
structure Enqueued (serde : SerdeJson) (event : EvidenceEventInput)
    (db : EvidenceDatabase) (payloadJson : String)
    (after : EvidenceDatabase) : Prop where
  accepted : Accepted serde event payloadJson
  session : ∀ session, db.runSession event.runId = some session →
    session = event.sessionId
  owner : ∀ stepId owner, event.stepId = some stepId →
    db.stepOwner stepId = some owner → owner = (event.runId, event.sessionId)
  unprojected : db.events.get? event.eventId = none
  unqueued : db.evidenceIngestQueue.get? event.eventId = none
  runs : after.runs = db.runs
  steps : after.steps = db.steps
  events : after.events = db.events
  metadata : after.evidenceBundleMetadata = db.evidenceBundleMetadata
  autoincrement : after.autoincrement = db.autoincrement + 1
  queue : after.evidenceIngestQueue.rows = db.evidenceIngestQueue.rows ++
    [queuedRow event db.autoincrement payloadJson]

private theorem all_eq_iff {α : Type} [DecidableEq α] {held : Option α}
    {value : α} : held.all (fun other => other = value) = true ↔
      ∀ other, held = some other → other = value := by
  cases held <;> simp

private theorem checkStepOwner_eq_ok {done : Unit} :
    db.checkStepOwner event = .ok done ↔
      ∀ stepId owner, event.stepId = some stepId →
        db.stepOwner stepId = some owner →
        owner = (event.runId, event.sessionId) := by
  unfold checkStepOwner
  cases named : event.stepId with
  | none => simp
  | some stepId =>
      simp only [ensure_eq_ok, all_eq_iff, Option.some.injEq]
      exact ⟨fun owned _ owner same held => owned owner (same ▸ held),
        fun owned owner held => owned stepId owner rfl held⟩

theorem admission_eq_ok {payloadJson : String} :
    db.admission serde event = .ok payloadJson ↔
      Accepted serde event payloadJson ∧
      (∀ session, db.runSession event.runId = some session →
        session = event.sessionId) ∧
      ∀ stepId owner, event.stepId = some stepId →
        db.stepOwner stepId = some owner →
        owner = (event.runId, event.sessionId) := by
  unfold admission
  constructor
  · intro admitted
    obtain ⟨_, valid, admitted⟩ := bind_eq_ok.mp admitted
    obtain ⟨text, written, admitted⟩ := bind_eq_ok.mp admitted
    obtain ⟨_, small, admitted⟩ := bind_eq_ok.mp admitted
    obtain ⟨_, session, admitted⟩ := bind_eq_ok.mp admitted
    obtain ⟨_, owner, made⟩ := bind_eq_ok.mp admitted
    cases made
    exact ⟨⟨valid, written, by simpa using small⟩,
      all_eq_iff.mp (ensure_eq_ok.mp session), checkStepOwner_eq_ok.mp owner⟩
  · rintro ⟨accepted, session, owner⟩
    refine bind_eq_ok.mpr ⟨(), accepted.valid, ?_⟩
    refine bind_eq_ok.mpr ⟨payloadJson, accepted.written, ?_⟩
    refine bind_eq_ok.mpr ⟨(), by simpa using accepted.small, ?_⟩
    refine bind_eq_ok.mpr ⟨(), ensure_eq_ok.mpr (all_eq_iff.mpr session), ?_⟩
    exact bind_eq_ok.mpr ⟨(), checkStepOwner_eq_ok.mpr owner, rfl⟩

private theorem recognise_ne_true (payloadJson : String)
    (stored : Option StoredEvent) :
    recognise event payloadJson stored ≠ .ok true := by
  cases stored with
  | none => simp [recognise]
  | some stored =>
      rw [recognise]
      split <;> simp

theorem enqueue_cases (serde : SerdeJson) (event : EvidenceEventInput)
    (db : EvidenceDatabase) :
    (∃ payloadJson, (db.enqueue serde event).1 = .ok true ∧
      Enqueued serde event db payloadJson (db.enqueue serde event).2) ∨
    (db.enqueue serde event).1 ≠ .ok true ∧
      (db.enqueue serde event).2 = db := by
  unfold enqueue
  cases admitted : db.admission serde event with
  | error error => exact .inr ⟨by simp, rfl⟩
  | ok payloadJson =>
      dsimp only
      cases inserted : db.insertQueued event payloadJson with
      | none => exact .inr ⟨recognise_ne_true payloadJson _, rfl⟩
      | some queue =>
          obtain ⟨accepted, session, owner⟩ := admission_eq_ok.mp admitted
          rw [insertQueued] at inserted
          split at inserted
          case isTrue => cases inserted
          case isFalse unprojected =>
              refine .inl ⟨payloadJson, rfl, ?_⟩
              exact
                { accepted := accepted
                  session := session
                  owner := owner
                  unprojected := by simpa using unprojected
                  unqueued := (Table.insert?_eq_some_iff.mp inserted).1
                  runs := rfl
                  steps := rfl
                  events := rfl
                  metadata := rfl
                  autoincrement := rfl
                  queue := (Table.insert?_eq_some_iff.mp inserted).2 }

end Enqueue

/-! ### The owners that the queries find -/

def HasRun (db : EvidenceDatabase) (runId : String) : Prop :=
  (db.runs.get? runId).isSome ∨
    ∃ row ∈ db.evidenceIngestQueue.rows, row.runId = runId

def HasStep (db : EvidenceDatabase) (stepId : String) : Prop :=
  (db.steps.get? stepId).isSome ∨
    ∃ row ∈ db.evidenceIngestQueue.rows, row.stepId = some stepId

section Owners

variable {sessionOf : String → String} {ownerOf : String → String × String}
  {db : EvidenceDatabase}

theorem Owned.runSession (owned : Owned sessionOf ownerOf db) {runId : String}
    (held : db.HasRun runId) : db.runSession runId = some (sessionOf runId) := by
  unfold EvidenceDatabase.runSession
  cases found : db.runs.get? runId with
  | some row =>
      obtain ⟨member, rfl⟩ := Table.get?_some found
      exact congrArg some (owned.run row member)
  | none =>
      have queued : ∃ row ∈ db.evidenceIngestQueue.rows, row.runId = runId := by
        rcases held with held | held
        · rw [found] at held
          cases held
        · exact held
      cases first : db.evidenceIngestQueue.rows.find? fun row =>
          row.runId = runId with
      | none =>
          obtain ⟨row, member, same⟩ := queued
          exact absurd same (by simpa using List.find?_eq_none.mp first row member)
      | some row =>
          have same : row.runId = runId := by simpa using List.find?_some first
          subst same
          exact congrArg some
            (owned.queue row (List.mem_of_find?_eq_some first))

theorem Owned.stepOwner (owned : Owned sessionOf ownerOf db) {stepId : String}
    (held : db.HasStep stepId) : db.stepOwner stepId = some (ownerOf stepId) := by
  unfold EvidenceDatabase.stepOwner
  cases found : db.steps.get? stepId with
  | some row =>
      obtain ⟨member, rfl⟩ := Table.get?_some found
      exact congrArg some (owned.step row member).1
  | none =>
      have queued : ∃ row ∈ db.evidenceIngestQueue.rows,
          row.stepId = some stepId := by
        rcases held with held | held
        · rw [found] at held
          cases held
        · exact held
      cases first : db.evidenceIngestQueue.rows.find? fun row =>
          row.stepId = some stepId with
      | none =>
          obtain ⟨row, member, same⟩ := queued
          exact absurd same (by simpa using List.find?_eq_none.mp first row member)
      | some row =>
          have same : row.stepId = some stepId := by
            simpa using List.find?_some first
          exact congrArg some (owned.queueStep row
            (List.mem_of_find?_eq_some first) stepId same)

end Owners

/-! ### Enqueueing keeps the store sound -/

section Enqueued

variable {event : EvidenceEventInput} {db after : EvidenceDatabase}
  {payloadJson : String}

private theorem Queueing.enqueued (queueing : Queueing serde db)
    (enqueued : Enqueued serde event db payloadJson after) :
    Queueing serde after where
  ordered := by
    rw [enqueued.queue, List.pairwise_append]
    refine ⟨queueing.ordered, List.pairwise_singleton _ _, ?_⟩
    intro row member last same
    rw [List.mem_singleton.mp same]
    exact queueing.below row member
  below := by
    intro row member
    rw [enqueued.autoincrement]
    rw [enqueued.queue] at member
    rcases List.mem_append.mp member with held | added
    · exact Nat.lt_succ_of_lt (queueing.below row held)
    · rw [List.mem_singleton.mp added]
      exact Nat.lt_succ_self _
  unprojected := by
    intro row member
    rw [enqueued.events]
    rw [enqueued.queue] at member
    rcases List.mem_append.mp member with held | added
    · exact queueing.unprojected row held
    · rw [List.mem_singleton.mp added]
      exact enqueued.unprojected
  accepted := by
    intro row member
    rw [enqueued.queue] at member
    rcases List.mem_append.mp member with held | added
    · exact queueing.accepted row held
    · rw [List.mem_singleton.mp added]
      exact ⟨event, payloadJson, enqueued.accepted, rfl⟩

private theorem Owned.enqueued {sessionOf : String → String}
    {ownerOf : String → String × String} (owned : Owned sessionOf ownerOf db)
    (enqueued : Enqueued serde event db payloadJson after) :
    ∃ sessionOf ownerOf, Owned sessionOf ownerOf after := by
  -- the event takes over what nothing holds yet, and agrees with the rest
  let sessions := Function.update sessionOf event.runId event.sessionId
  let owners : String → String × String := fun stepId =>
    if event.stepId = some stepId then (event.runId, event.sessionId)
    else ownerOf stepId
  have session {runId : String} (held : db.HasRun runId) :
      sessions runId = sessionOf runId := by
    by_cases own : runId = event.runId
    · subst own
      rw [enqueued.session _ (owned.runSession held)]
      exact Function.update_self event.runId event.sessionId sessionOf
    · exact Function.update_of_ne own _ _
  have owner {stepId : String} (held : db.HasStep stepId) :
      owners stepId = ownerOf stepId := by
    by_cases own : event.stepId = some stepId
    · exact (if_pos own).trans
        (enqueued.owner stepId _ own (owned.stepOwner held)).symm
    · exact if_neg own
  refine ⟨sessions, owners, ?_⟩
  constructor
  · intro row member
    rw [enqueued.runs] at member
    rw [session (.inl (Table.isSome_get?_iff.mpr ⟨row, member, rfl⟩))]
    exact owned.run row member
  · intro row member
    rw [enqueued.queue] at member
    rcases List.mem_append.mp member with held | added
    · rw [session (.inr ⟨row, held, rfl⟩)]
      exact owned.queue row held
    · rw [List.mem_singleton.mp added]
      exact (Function.update_self event.runId event.sessionId sessionOf).symm
  · intro row member stepId named
    rw [enqueued.queue] at member
    rcases List.mem_append.mp member with held | added
    · rw [owner (.inr ⟨row, held, named⟩)]
      exact owned.queueStep row held stepId named
    · rw [List.mem_singleton.mp added] at named ⊢
      exact (if_pos named).symm
  · intro row member
    rw [enqueued.steps] at member
    obtain ⟨step, own, run⟩ := owned.step row member
    rw [owner (.inl (Table.isSome_get?_iff.mpr ⟨row, member, rfl⟩)),
      session (.inl run), enqueued.runs]
    exact ⟨step, own, run⟩
  · intro row member
    rw [enqueued.events] at member
    obtain ⟨own, run⟩ := owned.event row member
    rw [session (.inl run), enqueued.runs]
    exact ⟨own, run⟩
  · intro row member stepId named
    rw [enqueued.events] at member
    obtain ⟨own, step⟩ := owned.eventStep row member stepId named
    rw [owner (.inl step), enqueued.steps]
    exact ⟨own, step⟩

theorem Sound.enqueued (sound : Sound serde hash limit db)
    (enqueued : Enqueued serde event db payloadJson after) :
    Sound serde hash limit after where
  queueing := sound.queueing.enqueued enqueued
  projecting := by
    have same := enqueued.events
    exact ⟨by rw [same]; exact sound.projecting.accepted,
      by rw [same]; exact sound.projecting.positive,
      by rw [same]; exact sound.projecting.numbered⟩
  owned := by
    obtain ⟨_, _, owned⟩ := sound.owned
    exact owned.enqueued enqueued

theorem Sound.enqueue (sound : Sound serde hash limit db)
    (event : EvidenceEventInput) :
    Sound serde hash limit (db.enqueue serde event).2 := by
  rcases enqueue_cases serde event db with ⟨_, _, enqueued⟩ | ⟨_, same⟩
  · exact sound.enqueued enqueued
  · rw [same]
    exact sound

end Enqueued

end EvidenceDatabase

end AgentLedger.Rust
