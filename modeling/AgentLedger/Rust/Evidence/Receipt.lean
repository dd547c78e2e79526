import AgentLedger.Foundation.Framing
import AgentLedger.Rust.Evidence.Bundle
import AgentLedger.Rust.Evidence.Soundness

namespace AgentLedger.Rust

open Foundation

/-! What the hash of a receipt determines.  The canonical text of the events can
be told apart, except that a missing step is written as a step of the name
`<none>`. -/

/-- What is written of an event. -/
@[ext] structure EventFields where
  eventId : String
  runId : String
  sessionId : String
  step : String
  eventType : String
  payloadHash : String
  seq : Nat
  occurredAtMs : Int

def eventFields (event : EvidenceEventRecord) : EventFields :=
  { eventId := event.eventId
    runId := event.runId
    sessionId := event.sessionId
    step := event.stepId.getD "<none>"
    eventType := event.eventType
    payloadHash := event.payloadHash
    seq := event.seq
    occurredAtMs := event.occurredAtMs }

def writeFields (fields : EventFields) : List Char :=
  framed fields.eventId ++ framed fields.runId ++ framed fields.sessionId ++
    framed fields.step ++ framed fields.eventType ++
    framed fields.payloadHash ++ (fields.seq.repr.toList ++ [':']) ++
    ((toString fields.occurredAtMs).toList ++ [';'])

theorem unambiguous_writeFields : Unambiguous writeFields := by
  intro first second rest other texts
  simp only [writeFields, List.append_assoc] at texts
  obtain ⟨event, texts⟩ := unambiguous_framed texts
  obtain ⟨run, texts⟩ := unambiguous_framed texts
  obtain ⟨session, texts⟩ := unambiguous_framed texts
  obtain ⟨step, texts⟩ := unambiguous_framed texts
  obtain ⟨type, texts⟩ := unambiguous_framed texts
  obtain ⟨payloadHash, texts⟩ := unambiguous_framed texts
  obtain ⟨seq, texts⟩ := split_separator (not_mem_repr rfl _)
    (not_mem_repr rfl _) texts
  obtain ⟨time, texts⟩ := split_separator
    (not_mem_toString_int rfl (by decide) _)
    (not_mem_toString_int rfl (by decide) _) texts
  exact ⟨EventFields.ext event run session step type payloadHash
    (repr_injective seq) (toString_int_injective time), texts⟩

private theorem toList_lengthPrefixed (field : String) :
    (lengthPrefixed field).toList = framed field := by
  have colon : (":" : String).toList = [':'] := rfl
  have semicolon : (";" : String).toList = [';'] := rfl
  simp only [lengthPrefixed, framed, String.toList_append, colon, semicolon,
    List.append_assoc, List.cons_append, List.nil_append]

theorem toList_canonicalEvent (event : EvidenceEventRecord) :
    (canonicalEvent event).toList = writeFields (eventFields event) := by
  have colon : (":" : String).toList = [':'] := rfl
  have semicolon : (";" : String).toList = [';'] := rfl
  simp only [canonicalEvent, writeFields, eventFields, String.toList_append,
    toList_lengthPrefixed, colon, semicolon, List.append_assoc]

private theorem toList_join (texts : List String) :
    (String.join texts).toList = (texts.map String.toList).flatten := by
  induction texts with
  | nil => rfl
  | cons first rest ih =>
      rw [String.join_cons, String.toList_append, ih]
      rfl

theorem eventFields_of_canonicalEvents {first second : List EvidenceEventRecord}
    (texts : canonicalEvents first = canonicalEvents second) :
    first.map eventFields = second.map eventFields := by
  have written (events : List EvidenceEventRecord) :
      (canonicalEvents events).toList =
        ((events.map eventFields).map writeFields).flatten := by
    rw [canonicalEvents, toList_join, List.map_map, List.map_map]
    exact congrArg List.flatten (List.map_congr_left fun event _ =>
      toList_canonicalEvent event)
  apply unambiguous_writeFields.flatten
  · intro fields empty
    simp [writeFields] at empty
  · exact (written first).symm.trans
      ((congrArg String.toList texts).trans (written second))

/-! ### What is read from a bundle -/

variable {serde : SerdeJson} {hash : String → String} {limit : Nat}

/-- What `read_events` guarantees of an event. -/
structure Readable (serde : SerdeJson) (hash : String → String) (limit : Nat)
    (event : EvidenceEventRecord) : Prop where
  shallow : event.payload.depth ≤ limit
  hashed : ∃ payloadJson, stateToJson serde event.payload = .ok payloadJson ∧
    event.payloadHash = hash payloadJson

/-- An absent step beside one that is named as absent steps are written. -/
def Confused (first second : Option String) : Prop :=
  first = none ∧ second = some "<none>" ∨ first = some "<none>" ∧ second = none

theorem eq_or_confused {first second : Option String}
    (same : first.getD "<none>" = second.getD "<none>") :
    first = second ∨ Confused first second := by
  cases first with
  | none =>
      cases second with
      | none => exact .inl rfl
      | some name => exact .inr (.inl ⟨rfl, congrArg some same.symm⟩)
  | some name =>
      cases second with
      | none => exact .inr (.inr ⟨congrArg some same, rfl⟩)
      | some other => exact .inl (congrArg some same)

/-- Two events with one encoding agree, but for the absence of a step. -/
theorem eq_of_fields (lawful : serde.Lawful limit)
    (injective : Function.Injective hash) {first second : EvidenceEventRecord}
    (readFirst : Readable serde hash limit first)
    (readSecond : Readable serde hash limit second)
    (fields : eventFields first = eventFields second)
    (clear : ¬ Confused first.stepId second.stepId) : first = second := by
  obtain ⟨firstText, writtenFirst, hashFirst⟩ := readFirst.hashed
  obtain ⟨secondText, writtenSecond, hashSecond⟩ := readSecond.hashed
  obtain ⟨event, run, session, step, type, payloadHash, seq, time⟩ :=
    EventFields.mk.inj fields
  have text : firstText = secondText := by
    apply injective
    rw [← hashFirst, ← hashSecond, payloadHash]
  subst text
  have payload := state_of_text lawful readFirst.shallow readSecond.shallow
    writtenFirst writtenSecond
  have stepSame := (eq_or_confused step).resolve_right clear
  cases first
  cases second
  cases event
  cases run
  cases session
  cases type
  cases payloadHash
  cases seq
  cases time
  cases payload
  cases stepSame
  rfl

theorem timeline_eq (lawful : serde.Lawful limit)
    (injective : Function.Injective hash)
    {first second : List EvidenceEventRecord}
    (readFirst : ∀ event ∈ first, Readable serde hash limit event)
    (readSecond : ∀ event ∈ second, Readable serde hash limit event)
    (fields : first.map eventFields = second.map eventFields)
    (clear : ∀ pair ∈ (first.map EvidenceEventRecord.stepId).zip
      (second.map EvidenceEventRecord.stepId), ¬ Confused pair.1 pair.2) :
    first = second := by
  induction first generalizing second with
  | nil => exact (List.map_eq_nil_iff.mp fields.symm).symm
  | cons event rest ih =>
      cases second with
      | nil => cases fields
      | cons other left =>
          obtain ⟨head, tail⟩ := List.cons.inj fields
          have same := eq_of_fields lawful injective
            (readFirst event (List.mem_cons_self ..))
            (readSecond other (List.mem_cons_self ..)) head
            (clear _ (List.mem_cons_self ..))
          have later := ih
            (fun event member => readFirst event
              (List.mem_cons_of_mem _ member))
            (fun event member => readSecond event
              (List.mem_cons_of_mem _ member)) tail
            (fun pair member => clear pair (List.mem_cons_of_mem _ member))
          rw [same, later]

namespace EvidenceDatabase

variable {bundle : EvidenceDatabase}

theorem readEvent_eq_ok (lawful : serde.Lawful limit) {row : EventRow}
    {event : EvidenceEventRecord} (read : readEvent serde hash row = .ok event) :
    Readable serde hash limit event ∧ event.stepId = row.stepId := by
  unfold readEvent at read
  obtain ⟨payload, parsed, read⟩ := bind_eq_ok.mp read
  obtain ⟨payloadJson, written, read⟩ := bind_eq_ok.mp read
  obtain ⟨_, hashed, read⟩ := bind_eq_ok.mp read
  obtain ⟨_, _, made⟩ := bind_eq_ok.mp read
  cases made
  refine ⟨⟨depth_jsonToState lawful parsed, payloadJson, written, ?_⟩, rfl⟩
  exact (of_decide_eq_true (ensure_eq_ok.mp hashed)).symm

theorem readRows_eq_ok (lawful : serde.Lawful limit) {rows : List EventRow}
    {events : List EvidenceEventRecord}
    (read : rows.mapM (readEvent serde hash) = .ok events) :
    (∀ event ∈ events, Readable serde hash limit event) ∧
      events.map EvidenceEventRecord.stepId = rows.map EventRow.stepId := by
  induction rows generalizing events with
  | nil =>
      cases read
      exact ⟨fun _ member => (by cases member), rfl⟩
  | cons row rest ih =>
      rw [List.mapM_cons] at read
      obtain ⟨event, first, read⟩ := bind_eq_ok.mp read
      obtain ⟨later, others, made⟩ := bind_eq_ok.mp read
      cases made
      obtain ⟨readable, step⟩ := readEvent_eq_ok lawful first
      obtain ⟨laterReadable, steps⟩ := ih others
      refine ⟨?_, by rw [List.map_cons, step, steps, List.map_cons]⟩
      intro other member
      rcases List.mem_cons.mp member with rfl | held
      · exact readable
      · exact laterReadable other held

/-- What an accepted bundle has been checked for. -/
structure Replayed (serde : SerdeJson) (hash : String → String)
    (bundle : EvidenceDatabase) (summary : EvidenceReplaySummary) : Prop where
  events : bundle.readEvents serde hash summary.runId = .ok summary.timeline
  hashed : summary.eventHash = eventHash hash summary.timeline
  steps : deriveSteps summary.timeline = .ok bundle.readSteps
  status : (bundle.runs.get? summary.runId).map RunRow.status =
    some (exportedRunStatus summary.timeline)

private theorem checkRun_status {runId : String}
    {events : List EvidenceEventRecord} {run : RunRow}
    (checked : bundle.checkRun serde runId events = .ok run) :
    (bundle.runs.get? runId).map RunRow.status =
      some (exportedRunStatus events) := by
  unfold checkRun at checked
  split at checked
  case h_1 => cases checked
  case h_2 => cases checked
  case h_3 row first rest found =>
      obtain ⟨_, agrees, _⟩ := bind_eq_ok.mp checked
      have both := ensure_eq_ok.mp agrees
      rw [Bool.and_eq_true, decide_eq_true_eq, decide_eq_true_eq] at both
      rw [found]
      exact congrArg some both.2

theorem replayed_eq_ok {summary : EvidenceReplaySummary}
    (accepted : bundle.replayed serde hash = .ok summary) :
    Replayed serde hash bundle summary := by
  unfold replayed at accepted
  obtain ⟨schema, _, accepted⟩ := bind_eq_ok.mp accepted
  obtain ⟨_, _, accepted⟩ := bind_eq_ok.mp accepted
  obtain ⟨runId, _, accepted⟩ := bind_eq_ok.mp accepted
  obtain ⟨expectedHash, _, accepted⟩ := bind_eq_ok.mp accepted
  obtain ⟨count, _, accepted⟩ := bind_eq_ok.mp accepted
  obtain ⟨expectedCount, _, accepted⟩ := bind_eq_ok.mp accepted
  obtain ⟨events, read, accepted⟩ := bind_eq_ok.mp accepted
  obtain ⟨_, _, accepted⟩ := bind_eq_ok.mp accepted
  obtain ⟨steps, derived, accepted⟩ := bind_eq_ok.mp accepted
  obtain ⟨_, structured, accepted⟩ := bind_eq_ok.mp accepted
  obtain ⟨run, checked, accepted⟩ := bind_eq_ok.mp accepted
  obtain ⟨cutoff, _, accepted⟩ := bind_eq_ok.mp accepted
  obtain ⟨removed, _, made⟩ := bind_eq_ok.mp accepted
  cases made
  exact
    { events := read
      hashed := rfl
      steps := by
        rw [of_decide_eq_true (ensure_eq_ok.mp structured)]
        exact derived
      status := checkRun_status checked }

/-- Two bundles with one receipt say the same, if and only if no event has no
step in one and the step `<none>` in the other. -/
theorem same_timeline_iff (lawful : serde.Lawful limit)
    (injective : Function.Injective hash) {first second : EvidenceDatabase}
    {firstSummary secondSummary : EvidenceReplaySummary}
    (acceptedFirst : first.replayed serde hash = .ok firstSummary)
    (acceptedSecond : second.replayed serde hash = .ok secondSummary)
    (sameHash : firstSummary.eventHash = secondSummary.eventHash) :
    (firstSummary.timeline = secondSummary.timeline ∧
      first.readSteps = second.readSteps ∧
      (first.runs.get? firstSummary.runId).map RunRow.status =
        (second.runs.get? secondSummary.runId).map RunRow.status) ↔
    ∀ pair ∈ ((first.eventRows firstSummary.runId).map EventRow.stepId).zip
        ((second.eventRows secondSummary.runId).map EventRow.stepId),
      ¬ Confused pair.1 pair.2 := by
  have replayedFirst := replayed_eq_ok acceptedFirst
  have replayedSecond := replayed_eq_ok acceptedSecond
  obtain ⟨readFirst, stepsFirst⟩ := readRows_eq_ok lawful replayedFirst.events
  obtain ⟨readSecond, stepsSecond⟩ :=
    readRows_eq_ok lawful replayedSecond.events
  rw [← stepsFirst, ← stepsSecond]
  constructor
  · rintro ⟨timeline, _, _⟩ pair member confused
    rw [timeline, List.zip, List.zipWith_self] at member
    obtain ⟨stepId, _, rfl⟩ := List.mem_map.mp member
    rcases confused with ⟨absent, named⟩ | ⟨named, absent⟩
    · exact absurd (absent.symm.trans named) (by simp)
    · exact absurd (absent.symm.trans named) (by simp)
  · intro clear
    have texts : canonicalEvents firstSummary.timeline =
        canonicalEvents secondSummary.timeline := by
      apply injective
      have hashed := sameHash
      rw [replayedFirst.hashed, replayedSecond.hashed] at hashed
      exact hashed
    have timeline := timeline_eq lawful injective readFirst readSecond
      (eventFields_of_canonicalEvents texts) clear
    refine ⟨timeline, ?_, ?_⟩
    · have steps := replayedFirst.steps
      rw [timeline, replayedSecond.steps] at steps
      exact (Except.ok.inj steps).symm
    · rw [replayedFirst.status, replayedSecond.status, timeline]

/-! ### Two bundles that are told apart by nothing but a step -/

/-- A bundle of one event. -/
def noteBundle (stepId : Option String) (cutoff : Option Int) :
    EvidenceDatabase :=
  let note : EvidenceEventRecord :=
    { eventId := "event"
      runId := "run"
      sessionId := "session"
      stepId := stepId
      seq := 1
      eventType := "note"
      occurredAtMs := 0
      payloadHash := "\x7b\x7d"
      payload := .new }
  ((exportBundleFile (bitSerde 8) id "run" note [] cutoff 0).toOption).getD
    .empty

/-- The cutoff is no part of what the receipt says. -/
theorem notes_same_timeline : ∃ firstSummary secondSummary,
    (noteBundle (some "turn") none).replayed (bitSerde 8) id =
      .ok firstSummary ∧
    (noteBundle (some "turn") (some 3)).replayed (bitSerde 8) id =
      .ok secondSummary ∧
    ((firstSummary.timeline = secondSummary.timeline ∧
      (noteBundle (some "turn") none).readSteps =
        (noteBundle (some "turn") (some 3)).readSteps ∧
      ((noteBundle (some "turn") none).runs.get? firstSummary.runId).map
          RunRow.status =
        ((noteBundle (some "turn") (some 3)).runs.get?
          secondSummary.runId).map RunRow.status) ↔
    ∀ pair ∈ (((noteBundle (some "turn") none).eventRows
          firstSummary.runId).map EventRow.stepId).zip
        (((noteBundle (some "turn") (some 3)).eventRows
          secondSummary.runId).map EventRow.stepId),
      ¬ Confused pair.1 pair.2) := by
  have receipts : ((noteBundle (some "turn") none).replayed (bitSerde 8)
        id).toOption.map EvidenceReplaySummary.eventHash =
      some "5:event;3:run;7:session;4:turn;4:note;2:\x7b\x7d;1:0;" ∧
      ((noteBundle (some "turn") (some 3)).replayed (bitSerde 8)
        id).toOption.map EvidenceReplaySummary.eventHash =
      some "5:event;3:run;7:session;4:turn;4:note;2:\x7b\x7d;1:0;" := by
    decide +kernel
  cases first : (noteBundle (some "turn") none).replayed (bitSerde 8) id with
  | error error =>
      rw [first] at receipts
      cases receipts.1
  | ok firstSummary =>
      cases second : (noteBundle (some "turn") (some 3)).replayed (bitSerde 8)
          id with
      | error error =>
          rw [second] at receipts
          cases receipts.2
      | ok secondSummary =>
          rw [first, second] at receipts
          exact ⟨firstSummary, secondSummary, rfl, rfl,
            same_timeline_iff (bitSerde_lawful 8) Function.injective_id first
              second ((Option.some.inj receipts.1).trans
                (Option.some.inj receipts.2).symm)⟩

/-- One receipt for an event without a step, and for one of the step
`<none>`. -/
theorem absent_step_confused :
    ((noteBundle none none).replayed (bitSerde 8) id).toOption.map
        (fun summary => (summary.runId, summary.eventHash,
          summary.timeline.map EvidenceEventRecord.stepId)) =
      some ("run", "5:event;3:run;7:session;6:<none>;4:note;2:\x7b\x7d;1:0;",
        [none]) ∧
    ((noteBundle (some "<none>") none).replayed (bitSerde 8) id).toOption.map
        (fun summary => (summary.runId, summary.eventHash,
          summary.timeline.map EvidenceEventRecord.stepId)) =
      some ("run", "5:event;3:run;7:session;6:<none>;4:note;2:\x7b\x7d;1:0;",
        [some "<none>"]) := by
  decide +kernel

end EvidenceDatabase

end AgentLedger.Rust
