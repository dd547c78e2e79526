import AgentLedger.Foundation.Newest
import AgentLedger.Rust.Evidence.BundleReplay
import Mathlib.Data.List.GetD

namespace AgentLedger.Rust

open Foundation

/-! What pruning removes, and that it removes nothing a second time. -/

namespace EvidenceDatabase

variable {serde : SerdeJson} {hash : String → String}
  {db after : EvidenceDatabase}

/-! ### What is asked for -/

/-- The days on which something happened. -/
def days (db : EvidenceDatabase) : Finset Int :=
  (db.events.rows.map EventRow.eventDay).toFinset

/-- A turn that has ended, all of whose events are from before the cutoff. -/
def Ended (cutoff : Int) (db : EvidenceDatabase) (step : StepRow) : Prop :=
  (step.status = "completed" ∨ step.status = "failed" ∨
    step.status = "cancelled") ∧
  ∀ row ∈ db.events.rows, row.stepId = some step.stepId →
    row.eventDay < cutoff

/-- An event of such a turn, or of no turn and from before the cutoff. -/
def Outdated (cutoff : Int) (db : EvidenceDatabase) (row : EventRow) : Prop :=
  row.stepId = none ∧ row.eventDay < cutoff ∨
    ∃ step ∈ db.steps.rows, db.Ended cutoff step ∧
      row.stepId = some step.stepId

instance (cutoff : Int) (step : StepRow) : Decidable (db.Ended cutoff step) :=
  inferInstanceAs (Decidable (_ ∧ ∀ row ∈ db.events.rows, _))

instance (cutoff : Int) (row : EventRow) : Decidable (db.Outdated cutoff row) :=
  inferInstanceAs (Decidable (_ ∨ ∃ step ∈ db.steps.rows, _))

/-- The outdated events and the ended turns are gone, nothing else is, and the
turns are counted for their runs. -/
structure Retained (cutoff : Int) (db : EvidenceDatabase) (removed : Nat)
    (after : EvidenceDatabase) : Prop where
  events : after.events.rows =
    db.events.rows.filter fun row => ¬ db.Outdated cutoff row
  steps : after.steps.rows =
    db.steps.rows.filter fun step => ¬ db.Ended cutoff step
  count : removed = db.events.rows.countP fun row => db.Outdated cutoff row
  turns : ∀ runId, ∃ before,
    db.readRemoved (retentionRemovedKey runId) = .ok before ∧
    after.readRemoved (retentionRemovedKey runId) =
      .ok (before + db.steps.rows.countP fun step =>
        db.Ended cutoff step ∧ step.runId = runId)
  recent : ∀ row ∈ db.events.rows, cutoff ≤ row.eventDay →
    row ∈ after.events.rows
  others : ∀ step ∈ db.steps.rows, ¬ db.Ended cutoff step →
    ∀ row ∈ db.events.rows, row.stepId = some step.stepId →
      row ∈ after.events.rows
  runs : after.runs = db.runs
  queue : after.evidenceIngestQueue = db.evidenceIngestQueue

/-! ### Every turn has an event -/

structure Attested (db : EvidenceDatabase) : Prop where
  step : ∀ step ∈ db.steps.rows, ∃ row ∈ db.events.rows,
    row.stepId = some step.stepId
  noted : Noted db.evidenceBundleMetadata

theorem attested_empty : Attested empty where
  step := fun _ member => by cases member
  noted := kept_empty.noted

private theorem verdict_project {event : QueuedEvent} {payloadJson : String}
    (judged : db.verdict serde hash event = .ok (.project payloadJson)) :
    db.events.get? event.eventId = none := by
  unfold verdict at judged
  split at judged
  · cases judged
  · split at judged
    · cases judged
    · obtain ⟨text, _, made⟩ := bind_eq_ok.mp judged
      have onEvent := Except.ok.inj made
      unfold verdictOn at onEvent
      split at onEvent
      · cases onEvent
      · split at onEvent
        · cases onEvent
        · assumption

private theorem Attested.dequeue (attested : Attested db) (queueId : Nat) :
    Attested (db.dequeue queueId) :=
  ⟨attested.step, attested.noted⟩

private theorem Attested.insertProjected (attested : Attested db)
    {event : QueuedEvent} (unprojected : db.events.get? event.eventId = none)
    (payloadJson : String) (receipt : ProjectionReceipt) :
    Attested (db.insertProjected hash event payloadJson receipt).2 := by
  obtain ⟨events, inserted, rows⟩ :=
    @fresh_event hash db event payloadJson unprojected
  have others := @projectStep_others (db.projectRun event) event
  have same : (db.projectRun event).events = db.events := rfl
  unfold EvidenceDatabase.insertProjected
  simp only [others.1, same, inserted]
  constructor
  · intro step member
    rcases mem_projectStep member with ⟨before, held, own, _⟩ | ⟨own, _⟩
    · obtain ⟨row, stored, named⟩ := attested.step before held
      refine ⟨row, ?_, named.trans (congrArg some own)⟩
      rw [show (finishRun event (withEvents events
        ((db.projectRun event).projectStep event))).events.rows = _ from rows]
      exact List.mem_append_left _ stored
    · refine ⟨eventRow hash event (nextSeq db.events event.runId) payloadJson,
        ?_, own⟩
      rw [show (finishRun event (withEvents events
        ((db.projectRun event).projectStep event))).events.rows = _ from rows]
      exact List.mem_append_right _ (List.mem_singleton_self _)
  · have metadata : (finishRun event (withEvents events
        ((db.projectRun event).projectStep event))).evidenceBundleMetadata =
          db.evidenceBundleMetadata := others.2.2.2.2
    rw [metadata]
    exact attested.noted

private theorem Attested.projectEvent (attested : Attested db)
    {receipt : ProjectionReceipt} {event : QueuedEvent}
    {state : ProjectionReceipt × EvidenceDatabase}
    (ran : EvidenceDatabase.projectEvent serde hash (receipt, db) event =
      .ok state) : Attested state.2 := by
  obtain ⟨judgement, judged, made⟩ := bind_eq_ok.mp ran
  cases judgement with
  | acknowledge invalid =>
      cases made
      exact attested.dequeue event.queueId
  | project payloadJson =>
      cases made
      exact (attested.insertProjected (verdict_project judged) payloadJson
        receipt).dequeue event.queueId

theorem Attested.batch {events : List QueuedEvent}
    {start final : ProjectionReceipt × EvidenceDatabase}
    (attested : Attested start.2)
    (ran : events.foldlM (EvidenceDatabase.projectEvent serde hash) start =
      .ok final) : Attested final.2 := by
  induction events generalizing start with
  | nil =>
      cases ran
      exact attested
  | cons event rest ih =>
      rw [List.foldlM_cons] at ran
      obtain ⟨next, one, later⟩ := bind_eq_ok.mp ran
      exact ih (attested.projectEvent one) later

/-! ### The selection -/

private theorem removable_eq (attested : Attested db) (cutoff : Int)
    {step : StepRow} (member : step ∈ db.steps.rows) :
    db.removable cutoff step = decide (db.Ended cutoff step) := by
  obtain ⟨row, held, named⟩ := attested.step step member
  have present : (db.events.rows.any fun row =>
      row.stepId = some step.stepId) = true :=
    List.any_eq_true.mpr ⟨row, held, decide_eq_true named⟩
  rw [removable, present, Bool.and_true, Bool.eq_iff_iff, Bool.and_eq_true,
    decide_eq_true_iff, List.all_eq_true, Ended]
  refine and_congr (by simp) ?_
  refine forall_congr' fun row => forall_congr' fun _ => ?_
  simp only [Bool.or_eq_true, decide_eq_true_eq, ne_eq]
  exact ⟨fun some_ named => some_.resolve_left (fun apart => apart named),
    fun all => (Decidable.em _).symm.imp_right all⟩

private theorem prunes_eq (attested : Attested db) (cutoff : Int)
    (row : EventRow) : db.prunes cutoff row = decide (db.Outdated cutoff row) := by
  rw [prunes, Bool.eq_iff_iff, decide_eq_true_iff, Outdated]
  cases named : row.stepId with
  | none => simp
  | some stepId =>
      simp only [reduceCtorEq, false_and, false_or, Option.some.injEq,
        List.any_eq_true, removableSteps, List.mem_filter, decide_eq_true_eq]
      constructor
      · rintro ⟨step, ⟨member, removed⟩, own⟩
        rw [removable_eq attested cutoff member, decide_eq_true_eq] at removed
        exact ⟨step, member, removed, own.symm⟩
      · rintro ⟨step, member, ended, own⟩
        refine ⟨step, ⟨member, ?_⟩, own.symm⟩
        rw [removable_eq attested cutoff member, decide_eq_true_eq]
        exact ended

/-- No event from the cutoff on is outdated. -/
theorem Outdated.before {cutoff : Int} {row : EventRow}
    (member : row ∈ db.events.rows) (outdated : db.Outdated cutoff row) :
    row.eventDay < cutoff := by
  rcases outdated with ⟨_, before⟩ | ⟨step, _, ended, named⟩
  · exact before
  · exact ended.2 row member named

/-- An event of a turn is outdated if its turn has ended. -/
theorem outdated_iff {cutoff : Int} {row : EventRow} {step : StepRow}
    (member : step ∈ db.steps.rows) (named : row.stepId = some step.stepId) :
    db.Outdated cutoff row ↔ db.Ended cutoff step := by
  constructor
  · rintro (⟨absent, _⟩ | ⟨other, held, ended, same⟩)
    · rw [named] at absent
      cases absent
    · have one : other = step := Table.eq_of_key_eq held member
        (Option.some.inj (same.symm.trans named))
      rw [← one]
      exact ended
  · intro ended
    exact .inr ⟨step, member, ended, named⟩

/-! ### The count of removed turns -/

/-- What is noted of the turns that are removed of each run. -/
structure Recorded (metadata : String → Option String)
    (removed : List (String × Nat)) (after : String → Option String) :
    Prop where
  turns : ∀ runId, ∃ before,
    parseUsize ((metadata (retentionRemovedKey runId)).getD "0") =
      .ok before ∧
    parseUsize ((after (retentionRemovedKey runId)).getD "0") =
      .ok (before + (Entries.get? runId removed).getD 0)
  others : ∀ key, (∀ runId, key ≠ retentionRemovedKey runId) →
    after key = metadata key

private theorem parse_noted {metadata : String → Option String}
    (noted : Noted metadata) (runId : String) :
    ∃ count, parseUsize ((metadata (retentionRemovedKey runId)).getD "0") =
      .ok count := by
  cases found : metadata (retentionRemovedKey runId) with
  | none => exact ⟨0, rfl⟩
  | some text =>
      obtain ⟨count, rfl⟩ := noted.removed runId text found
      exact ⟨count, by rw [Option.getD_some, parseUsize,
        Decimal.parseUnsigned_repr]⟩

private theorem removedKey_injective {first second : String}
    (same : retentionRemovedKey first = retentionRemovedKey second) :
    first = second := by
  have texts := congrArg String.toList same
  rw [toList_removedKey, toList_removedKey, List.append_cancel_left_eq] at texts
  exact String.toList_inj.mp texts

theorem recorded_of_ordered {metadata : String → Option String}
    {removed : List (String × Nat)} (noted : Noted metadata)
    (ordered : Entries.Ordered removed) :
    ∃ after, removed.foldlM recordRemoved metadata = .ok after ∧
      Recorded metadata removed after := by
  induction removed generalizing metadata with
  | nil =>
      refine ⟨metadata, rfl, ?_, fun _ _ => rfl⟩
      intro runId
      obtain ⟨count, parsed⟩ := parse_noted noted runId
      exact ⟨count, parsed, parsed⟩
  | cons entry rest ih =>
      obtain ⟨above, later⟩ := List.pairwise_cons.mp ordered
      obtain ⟨previous, parsed⟩ := parse_noted noted entry.1
      have one : recordRemoved metadata entry = .ok (Function.update metadata
          (retentionRemovedKey entry.1)
          (some (previous + entry.2).repr)) := by
        rw [recordRemoved, parsed]
        rfl
      obtain ⟨after, ran, recorded⟩ := ih (noted.recordRemoved one) later
      have unlisted : Entries.get? entry.1 rest = none := by
        by_contra listed
        obtain ⟨count, found⟩ := Option.ne_none_iff_exists'.mp listed
        exact absurd (above _ (Entries.mem_of_get? found)) (lt_irrefl _)
      refine ⟨after, ?_, ?_, ?_⟩
      · rw [List.foldlM_cons, one]
        exact ran
      · intro runId
        obtain ⟨before, read, noticed⟩ := recorded.turns runId
        by_cases own : entry.1 = runId
        · subst own
          rw [Function.update_self, Option.getD_some, parseUsize,
            Decimal.parseUnsigned_repr] at read
          cases read
          refine ⟨previous, parsed, ?_⟩
          rw [noticed, unlisted, Entries.get?, if_pos rfl]
          rfl
        · rw [Function.update_of_ne fun same =>
            own (removedKey_injective same).symm] at read
          refine ⟨before, read, ?_⟩
          rw [noticed, Entries.get?, if_neg own]
      · intro key free
        rw [recorded.others key free, Function.update_of_ne (free entry.1)]

/-- The entry of a run says how many of the steps are its own. -/
theorem get?_removedByRun (steps : List StepRow) (runId : String) :
    (Entries.get? runId (removedByRun steps)).getD 0 =
      steps.countP fun step => step.runId = runId := by
  cases found : Entries.get? runId (removedByRun steps) with
  | some count =>
      obtain ⟨step, _, made⟩ := List.mem_map.mp
        (Entries.mem_of_collect (Entries.mem_of_get? found))
      cases made
      rfl
  | none =>
      rw [Option.getD_none, eq_comm, List.countP_eq_zero]
      intro step member
      rw [decide_eq_true_eq]
      intro own
      have listed : (step.runId, steps.countP fun other =>
          other.runId = step.runId) ∈ steps.map fun step =>
            (step.runId, steps.countP fun other => other.runId = step.runId) :=
        List.mem_map_of_mem member
      have held := Entries.get?_collect_ne_none listed
      rw [own] at held
      exact held found

/-! ### One call -/

theorem pruneBefore_ok (attested : Attested db) (cutoff : Int) :
    ∃ metadata,
      db.pruneBefore cutoff = .ok (db.events.countWhere (db.prunes cutoff),
        db.pruned cutoff metadata) ∧
      Noted metadata ∧ metadata retentionCutoffKey = some (toString cutoff) ∧
      ∀ runId, ∃ before,
        db.readRemoved (retentionRemovedKey runId) = .ok before ∧
        (db.pruned cutoff metadata).readRemoved (retentionRemovedKey runId) =
          .ok (before + (db.removableSteps cutoff).countP fun step =>
            step.runId = runId) := by
  have noted : Noted (Function.update db.evidenceBundleMetadata
      retentionCutoffKey (some (toString cutoff))) :=
    @Noted.pruned _ _ attested.noted cutoff [] rfl
  obtain ⟨metadata, ran, recorded⟩ := recorded_of_ordered noted
    (show Entries.Ordered (removedByRun (db.removableSteps cutoff)) from
      Entries.ordered_collect _)
  refine ⟨metadata, ?_, Noted.pruned attested.noted ran, ?_, ?_⟩
  · rw [pruneBefore, ran]
    rfl
  · rw [recorded.others _ cutoffKey_ne_removedKey, Function.update_self]
  · intro runId
    obtain ⟨before, read, noticed⟩ := recorded.turns runId
    rw [Function.update_of_ne (cutoffKey_ne_removedKey runId).symm] at read
    rw [get?_removedByRun] at noticed
    exact ⟨before, read, noticed⟩

theorem retained_of_pruned (attested : Attested db) {cutoff : Int}
    {metadata : String → Option String}
    (turns : ∀ runId, ∃ before,
      db.readRemoved (retentionRemovedKey runId) = .ok before ∧
      (db.pruned cutoff metadata).readRemoved (retentionRemovedKey runId) =
        .ok (before + (db.removableSteps cutoff).countP fun step =>
          step.runId = runId)) :
    Retained cutoff db (db.events.countWhere (db.prunes cutoff))
      (db.pruned cutoff metadata) := by
  have kept (row : EventRow) (member : row ∈ db.events.rows)
      (fresh : ¬ db.Outdated cutoff row) :
      row ∈ (db.pruned cutoff metadata).events.rows := by
    refine Table.mem_deleteWhere.mpr ⟨member, ?_⟩
    rw [prunes_eq attested, decide_eq_false fresh]
  have selected : db.removableSteps cutoff =
      db.steps.rows.filter fun step => db.Ended cutoff step :=
    List.filter_congr fun step member => removable_eq attested cutoff member
  refine ⟨?_, ?_, ?_, ?_, ?_, ?_, rfl, rfl⟩
  · refine List.filter_congr fun row _ => ?_
    rw [prunes_eq attested, decide_not]
  · refine List.filter_congr fun step member => ?_
    rw [removable_eq attested cutoff member, decide_not]
  · rw [Table.countWhere, List.countP_eq_length_filter]
    exact congrArg List.length (List.filter_congr fun row _ =>
      prunes_eq attested cutoff row)
  · intro runId
    obtain ⟨before, read, noticed⟩ := turns runId
    refine ⟨before, read, ?_⟩
    rw [noticed, selected, List.countP_filter]
    simp only [Bool.decide_and, Bool.and_comm]
  · intro row member late
    exact kept row member fun outdated =>
      absurd (Outdated.before member outdated) (not_lt.mpr late)
  · intro step held live row member named
    exact kept row member fun outdated =>
      live ((outdated_iff held named).mp outdated)

theorem Attested.pruned (attested : Attested db) {cutoff : Int}
    {metadata : String → Option String} (noted : Noted metadata) :
    Attested (db.pruned cutoff metadata) := by
  refine ⟨fun step member => ?_, noted⟩
  obtain ⟨held, live⟩ := Table.mem_deleteWhere.mp member
  obtain ⟨row, stored, named⟩ := attested.step step held
  refine ⟨row, Table.mem_deleteWhere.mpr ⟨stored, ?_⟩, named⟩
  rw [removable_eq attested cutoff held, decide_eq_false_iff_not] at live
  rw [prunes_eq attested, decide_eq_false_iff_not, outdated_iff held named]
  exact live

/-! ### The next call -/

/-- What is left is neither outdated nor of a turn that has ended. -/
theorem pruned_pruned (attested : Attested db) {cutoff : Int}
    {metadata : String → Option String} (noted : Noted metadata)
    (written : metadata retentionCutoffKey = some (toString cutoff)) :
    (db.pruned cutoff metadata).pruneBefore cutoff =
      .ok (0, db.pruned cutoff metadata) := by
  have again := @Attested.pruned db attested cutoff metadata noted
  have live : ∀ step ∈ (db.pruned cutoff metadata).steps.rows,
      (db.pruned cutoff metadata).removable cutoff step = false := by
    intro step member
    obtain ⟨held, stays⟩ := Table.mem_deleteWhere.mp member
    rw [removable_eq attested cutoff held, decide_eq_false_iff_not] at stays
    rw [removable_eq again cutoff member, decide_eq_false_iff_not]
    rintro ⟨status, early⟩
    refine stays ⟨status, fun row stored named => early row ?_ named⟩
    refine Table.mem_deleteWhere.mpr ⟨stored, ?_⟩
    rw [prunes_eq attested, decide_eq_false_iff_not, outdated_iff held named]
    exact stays
  have fresh : ∀ row ∈ (db.pruned cutoff metadata).events.rows,
      (db.pruned cutoff metadata).prunes cutoff row = false := by
    intro row member
    obtain ⟨held, stays⟩ := Table.mem_deleteWhere.mp member
    rw [prunes_eq attested, decide_eq_false_iff_not] at stays
    rw [prunes_eq again, decide_eq_false_iff_not]
    rintro (old | ⟨step, left, ended, named⟩)
    · exact stays (.inl old)
    · have none_left := live step left
      rw [removable_eq again cutoff left, decide_eq_false_iff_not] at none_left
      exact none_left ended
  have none_removed : (db.pruned cutoff metadata).removableSteps cutoff = [] :=
    List.filter_eq_nil_iff.mpr fun step member => by simp [live step member]
  have same : Function.update metadata retentionCutoffKey
      (some (toString cutoff)) = metadata := by
    rw [← written, Function.update_eq_self]
  have events : (db.pruned cutoff metadata).events.deleteWhere
      ((db.pruned cutoff metadata).prunes cutoff) =
        (db.pruned cutoff metadata).events :=
    Table.ext (List.filter_eq_self.mpr fun row member => by
      simp [fresh row member])
  have steps : (db.pruned cutoff metadata).steps.deleteWhere
      ((db.pruned cutoff metadata).removable cutoff) =
        (db.pruned cutoff metadata).steps :=
    Table.ext (List.filter_eq_self.mpr fun step member => by
      simp [live step member])
  have none_counted : (db.pruned cutoff metadata).events.countWhere
      ((db.pruned cutoff metadata).prunes cutoff) = 0 := by
    rw [Table.countWhere, List.length_eq_zero_iff, List.filter_eq_nil_iff]
    intro row member
    simp [fresh row member]
  have whole : (db.pruned cutoff metadata).pruned cutoff metadata =
      db.pruned cutoff metadata := by
    conv_lhs => rw [EvidenceDatabase.pruned]
    rw [events, steps]
    rfl
  have metadata_eq : (db.pruned cutoff metadata).evidenceBundleMetadata =
      metadata := rfl
  rw [pruneBefore, none_removed, metadata_eq, same, none_counted]
  show Except.ok (0, (db.pruned cutoff metadata).pruned cutoff metadata) = _
  rw [whole]

theorem eventDays_newest {keepDays : Nat} (positive : 0 < keepDays)
    (enough : keepDays ≤ db.eventDays.length) :
    IsNewest keepDays (db.eventDays.getD (keepDays - 1) 0) db.days := by
  have newest := IsNewest.of_decreasing
    (decreasing_insertionSort (db.events.rows.map EventRow.eventDay))
    (show keepDays - 1 < db.eventDays.length by omega)
  have all : (db.eventDays).toFinset = db.days := by
    ext day
    simp [eventDays, days]
  rw [show keepDays - 1 + 1 = keepDays by omega] at newest
  rw [List.getD_eq_getElem _ _ (by omega), ← all]
  exact newest

theorem card_days : db.days.card = db.eventDays.length := by
  rw [days, List.card_toFinset, eventDays, List.length_insertionSort]

/-- The newest days survive. -/
theorem newest_pruned (attested : Attested db) {keepDays : Nat} {cutoff : Int}
    {metadata : String → Option String}
    (newest : IsNewest keepDays cutoff db.days) :
    IsNewest keepDays cutoff (db.pruned cutoff metadata).days := by
  refine newest.of_subset ?_ ?_
  · intro day member
    simp only [days, List.mem_toFinset, List.mem_map] at member ⊢
    obtain ⟨row, held, own⟩ := member
    exact ⟨row, (Table.mem_deleteWhere.mp held).1, own⟩
  · intro day member late
    simp only [days, List.mem_toFinset, List.mem_map] at member ⊢
    obtain ⟨row, held, rfl⟩ := member
    refine ⟨row, Table.mem_deleteWhere.mpr ⟨held, ?_⟩, rfl⟩
    rw [prunes_eq attested, decide_eq_false_iff_not]
    exact fun outdated =>
      absurd (Outdated.before held outdated) (not_lt.mpr late)

/-- One call selects what is asked for, and the next one finds nothing. -/
theorem prune_twice (attested : Attested db) {keepDays : Nat}
    (positive : 0 < keepDays) :
    ∃ removed after,
      db.pruneToActiveEventDays keepDays = .ok (removed, after) ∧
      Attested after ∧
      (db.days.card ≤ keepDays → removed = 0 ∧ after = db) ∧
      (keepDays < db.days.card → ∃ cutoff,
        IsNewest keepDays cutoff db.days ∧ Retained cutoff db removed after) ∧
      after.pruneToActiveEventDays keepDays = .ok (0, after) := by
  have allowed : ensure (0 < keepDays)
      "active event day retention must be positive" = .ok () := by
    rw [ensure_eq_ok]
    exact decide_eq_true positive
  rw [card_days]
  by_cases few : db.eventDays.length ≤ keepDays
  · have nothing : db.pruneToActiveEventDays keepDays = .ok (0, db) := by
      rw [pruneToActiveEventDays, allowed]
      exact if_pos few
    exact ⟨0, db, nothing, attested, fun _ => ⟨rfl, rfl⟩,
      fun many => absurd few (by omega), nothing⟩
  · let cutoff := db.eventDays.getD (keepDays - 1) 0
    have newest : IsNewest keepDays cutoff db.days :=
      eventDays_newest positive (by omega)
    obtain ⟨metadata, ran, noted, written, turns⟩ :=
      pruneBefore_ok attested cutoff
    have again := @Attested.pruned db attested cutoff metadata noted
    refine ⟨_, _, ?_, again, fun many => absurd many few,
      fun _ => ⟨cutoff, newest, retained_of_pruned attested turns⟩, ?_⟩
    · rw [pruneToActiveEventDays, allowed]
      exact (if_neg few).trans ran
    · rw [pruneToActiveEventDays, allowed]
      by_cases fewer : (db.pruned cutoff metadata).eventDays.length ≤ keepDays
      · exact if_pos fewer
      · have same := (newest_pruned attested newest).unique
          (@eventDays_newest (db.pruned cutoff metadata) keepDays positive
            (by omega))
        refine (if_neg fewer).trans ?_
        rw [← same]
        exact pruned_pruned attested noted written

/-! ### Every reachable store -/

theorem Attested.next (attested : Attested db) (call : EvidenceCall) :
    Attested (call.next serde hash db) := by
  cases call with
  | enqueue event =>
      rcases enqueue_cases serde event db with ⟨_, _, enqueued⟩ | ⟨_, same⟩
      · constructor
        · rw [EvidenceCall.next, enqueued.events, enqueued.steps]
          exact attested.step
        · rw [EvidenceCall.next, enqueued.metadata]
          exact attested.noted
      · rw [EvidenceCall.next, same]
        exact attested
  | projectBatch count =>
      rw [EvidenceCall.next]
      cases ran : db.projectBatch serde hash count with
      | error error => exact attested
      | ok final =>
          obtain ⟨_, _, later⟩ := bind_eq_ok.mp ran
          obtain ⟨_, _, batch⟩ := bind_eq_ok.mp later
          exact @Attested.batch _ _ _ ({}, db) final attested batch
  | pruneToActiveEventDays keepDays =>
      rw [EvidenceCall.next]
      rcases Nat.eq_zero_or_pos keepDays with rfl | positive
      · exact attested
      · obtain ⟨removed, after, ran, kept, _⟩ := prune_twice attested positive
        rw [ran]
        exact kept

theorem attested_of_calls (calls : List EvidenceCall) :
    Attested (runFrom (EvidenceCall.next serde hash) .empty calls) :=
  runFrom_invariant (fun _ call attested => attested.next call) calls
    attested_empty

/-- Pruning a reachable store to its newest days. -/
theorem prune_retains (serde : SerdeJson) (hash : String → String)
    (calls : List EvidenceCall) {keepDays : Nat} (positive : 0 < keepDays) :
    let db := runFrom (EvidenceCall.next serde hash) .empty calls
    ∃ removed after,
      db.pruneToActiveEventDays keepDays = .ok (removed, after) ∧
      (db.days.card ≤ keepDays → removed = 0 ∧ after = db) ∧
      (keepDays < db.days.card → ∃ cutoff,
        IsNewest keepDays cutoff db.days ∧ Retained cutoff db removed after) ∧
      after.pruneToActiveEventDays keepDays = .ok (0, after) := by
  intro db
  obtain ⟨removed, after, ran, _, few, many, again⟩ :=
    prune_twice (attested_of_calls calls : Attested db) positive
  exact ⟨removed, after, ran, few, many, again⟩

/-- A turn that has ended on the first day, and a note of the second. -/
def finishedTurn : List EvidenceCall :=
  [.enqueue { noteAt 1 with
      eventId := "first", stepId := some "turn"
      eventType := "turn.completed" },
    .enqueue (noteAt 86400000), .projectBatch 2]

/-- The newest day keeps its note, and the turn is counted as removed. -/
theorem finished_turn_retains :
    let db := runFrom (EvidenceCall.next (bitSerde 8) stableHash) .empty
      finishedTurn
    ∃ after,
      db.pruneToActiveEventDays 1 = .ok (1, after) ∧
      after.events.rows.map EventRow.eventId = ["event"] ∧
      after.steps.rows.map StepRow.stepId = [] ∧
      after.readRemoved (retentionRemovedKey "run") = .ok 1 ∧
      after.pruneToActiveEventDays 1 = .ok (0, after) := by
  intro db
  obtain ⟨removed, after, ran, _, many, again⟩ :=
    @prune_retains (bitSerde 8) stableHash finishedTurn 1 (by decide)
  obtain ⟨cutoff, newest, retained⟩ := many (by decide +kernel)
  have second : cutoff = 1 := newest.unique ⟨by decide +kernel, by decide +kernel⟩
  subst second
  obtain ⟨before, read, counted⟩ := retained.turns "run"
  have none_before : before = 0 := by
    have fresh : db.readRemoved (retentionRemovedKey "run") = .ok 0 := by
      decide +kernel
    exact Except.ok.inj (read.symm.trans fresh)
  subst none_before
  refine ⟨after, ?_, ?_, ?_, ?_, again⟩
  · have one : (db.events.rows.countP fun row => db.Outdated 1 row) = 1 := by
      decide +kernel
    rw [ran, retained.count, one]
  · rw [retained.events]
    decide +kernel
  · rw [retained.steps]
    decide +kernel
  · rw [counted]
    decide +kernel

end EvidenceDatabase

end AgentLedger.Rust
