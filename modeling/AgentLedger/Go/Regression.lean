import AgentLedger.Go.Schema
import AgentLedger.Ports.Evidence
import AgentLedger.Ports.Requests

namespace AgentLedger.Go

open Foundation Ports

/-! `DiffEvidence` and `EvaluateEvidenceRegression`. -/

variable (numerals : JsonText.Numerals Rat)

def style : TreeStyle Rat := ⟨numerals, escape, reads_escape⟩

def mustJSON (value : Json) : List Char := (style numerals).print value.tree

/-- A value that is missing is `nil`. -/
def textOf (value : Option Json) : List Char :=
  mustJSON numerals (value.getD .null)

theorem textOf_eq_iff {first second : Option Json} :
    textOf numerals first = textOf numerals second ↔
      (first.getD .null).tree = (second.getD .null).tree :=
  (style numerals).print_injective.eq_iff

/-- What the functions of the gate read of it. -/
structure EvidenceBundle where
  bundleHash : String
  run : Run
  events : List Event
  toolLedger : List ToolLedgerEntry
  mediaArtifacts : List JsonObject
  streamCheckpoints : List JsonObject
  totalUSD : Float64
  summary : JsonObject
  finalState : JsonObject

def diffDict (left right : JsonObject) : Ports.DictDiff :=
  Ports.diffDict (textOf numerals) (unionKeys left.fields right.fields)
    left.fields right.fields

def diffSequence (left right : List Json) : Ports.SequenceDiff :=
  Ports.diffSequence (textOf numerals) left right

def eventTypes (events : List Event) : List Json :=
  events.map fun event => .str event.type

def ledgerStatuses (entries : List ToolLedgerEntry) : List Json :=
  entries.map fun entry => .str entry.status

/-- The keys are those of a map. -/
def fingerprints (rows : List JsonObject) (keys : List String) : List Json :=
  rows.map fun row => fingerprint keys row.fields

structure EvidenceChanges where
  bundleHashChanged : Bool
  summary : Ports.DictDiff
  finalState : Ports.DictDiff
  eventTypes : Ports.SequenceDiff
  toolLedger : Ports.SequenceDiff
  mediaArtifacts : Ports.SequenceDiff
  streamCheckpoints : Ports.SequenceDiff

/-- `hasChanges` -/
def EvidenceChanges.any (changes : EvidenceChanges) : Bool :=
  changes.bundleHashChanged ||
    [changes.summary.changedCount, changes.finalState.changedCount,
      changes.eventTypes.changedCount, changes.toolLedger.changedCount,
      changes.mediaArtifacts.changedCount,
      changes.streamCheckpoints.changedCount].any (0 < ·)

structure EvidenceDiffReport where
  leftRunId : String
  rightRunId : String
  same : Bool
  changes : EvidenceChanges

def diffEvidence (left right : EvidenceBundle) : EvidenceDiffReport :=
  let changes : EvidenceChanges :=
    { bundleHashChanged := left.bundleHash ≠ right.bundleHash
      summary := diffDict numerals left.summary right.summary
      finalState := diffDict numerals left.finalState right.finalState
      eventTypes := diffSequence numerals (eventTypes left.events)
        (eventTypes right.events)
      toolLedger := diffSequence numerals (ledgerStatuses left.toolLedger)
        (ledgerStatuses right.toolLedger)
      mediaArtifacts := diffSequence numerals
        (fingerprints left.mediaArtifacts mediaKeys)
        (fingerprints right.mediaArtifacts mediaKeys)
      streamCheckpoints := diffSequence numerals
        (fingerprints left.streamCheckpoints streamKeys)
        (fingerprints right.streamCheckpoints streamKeys) }
  { leftRunId := left.run.runId
    rightRunId := right.run.runId
    same := !changes.any
    changes := changes }

/-- `%v` of a number. -/
def evaluateEvidenceRegression (shown : Float64 → String)
    (golden current : EvidenceBundle) (maxTotalUSDDelta : Option Float64) :
    EvidenceCheckReport EvidenceDiffReport :=
  let diff := diffEvidence numerals golden current
  let changes := diff.changes
  let check (name text : String) (changed : Nat) : EvidenceCheck :=
    ⟨name, changed = 0, text ++ toString changed⟩
  let checks :=
    [check "final_state_regression" "changed_final_state_keys="
        changes.finalState.changedCount,
      check "event_type_regression" "changed_event_type_positions="
        changes.eventTypes.changedCount,
      check "tool_ledger_status_regression" "changed_ledger_status_positions="
        changes.toolLedger.changedCount,
      check "media_artifact_regression" "changed_media_artifacts="
        changes.mediaArtifacts.changedCount,
      check "stream_checkpoint_regression" "changed_stream_checkpoints="
        changes.streamCheckpoints.changedCount]
  let limited := maxTotalUSDDelta.map fun limit =>
    let delta := current.totalUSD.sub golden.totalUSD
    (⟨"max_total_usd_delta", delta.le limit,
      "total_usd_delta=" ++ shown delta ++ ", limit=" ++ shown limit⟩ :
        EvidenceCheck)
  .ofChecks (checks ++ limited.toList) diff

/-! ### What passes -/

namespace EvidenceBundle

def view (bundle : EvidenceBundle) : EvidenceView where
  finalState := bundle.finalState.value.tree
  eventTypes := bundle.events.map Event.type
  ledgerStatuses := bundle.toolLedger.map ToolLedgerEntry.status
  mediaArtifacts :=
    bundle.mediaArtifacts.map fun row => projection mediaKeys row.fields
  streamCheckpoints :=
    bundle.streamCheckpoints.map fun row => projection streamKeys row.fields

/-- The members of a row under the keys, those that are missing as null. -/
def blurred (keys : List String) (row : JsonObject) : List (JsonTree Rat) :=
  keys.map fun key => (getOrNone row.fields key).tree

def present (keys : List String) (row : JsonObject) : List Bool :=
  keys.map fun key => (Fields.get? row.fields key).isSome

/-- The bundles are alike if what is missing is taken for null. -/
structure Alike (golden current : EvidenceBundle) : Prop where
  finalState : ∀ key, (getOrNone golden.finalState.fields key).tree =
    (getOrNone current.finalState.fields key).tree
  eventTypes : golden.events.map Event.type = current.events.map Event.type
  ledgerStatuses : golden.toolLedger.map ToolLedgerEntry.status =
    current.toolLedger.map ToolLedgerEntry.status
  mediaArtifacts : golden.mediaArtifacts.map (blurred mediaKeys) =
    current.mediaArtifacts.map (blurred mediaKeys)
  streamCheckpoints : golden.streamCheckpoints.map (blurred streamKeys) =
    current.streamCheckpoints.map (blurred streamKeys)

/-- What is missing in one bundle is missing in the other. -/
structure SamePresence (golden current : EvidenceBundle) : Prop where
  finalState : ∀ key, (Fields.get? golden.finalState.fields key).isSome =
    (Fields.get? current.finalState.fields key).isSome
  mediaArtifacts : golden.mediaArtifacts.map (present mediaKeys) =
    current.mediaArtifacts.map (present mediaKeys)
  streamCheckpoints : golden.streamCheckpoints.map (present streamKeys) =
    current.streamCheckpoints.map (present streamKeys)

end EvidenceBundle

theorem tree_eq_iff {first second : Option Json} :
    first.map Json.tree = second.map Json.tree ↔
      (first.getD .null).tree = (second.getD .null).tree ∧
        first.isSome = second.isSome := by
  cases first <;> cases second <;> simp

theorem projection_eq_iff (keys : List String) (first second : JsonObject) :
    projection keys first.fields = projection keys second.fields ↔
      EvidenceBundle.blurred keys first = EvidenceBundle.blurred keys second ∧
        EvidenceBundle.present keys first =
          EvidenceBundle.present keys second := by
  simp only [projection, EvidenceBundle.blurred, EvidenceBundle.present,
    getOrNone]
  induction keys with
  | nil => simp
  | cons key rest ih =>
      simp only [List.map_cons, List.cons.injEq, tree_eq_iff, ih]
      constructor
      · rintro ⟨⟨values, here⟩, later, last⟩
        exact ⟨⟨values, later⟩, here, last⟩
      · rintro ⟨⟨values, later⟩, here, last⟩
        exact ⟨⟨values, here⟩, later, last⟩

namespace EvidenceBundle

variable {golden current : EvidenceBundle}

/-- Bundles that are alike and lack the same are equal. -/
theorem view_eq_iff :
    golden.view = current.view ↔
      Alike golden current ∧ SamePresence golden current := by
  have media := @map_eq_map_iff_and _ _ _ _ _ _ _
    (projection_eq_iff mediaKeys) golden.mediaArtifacts current.mediaArtifacts
  have streams := @map_eq_map_iff_and _ _ _ _ _ _ _
    (projection_eq_iff streamKeys) golden.streamCheckpoints
    current.streamCheckpoints
  rw [EvidenceView.ext_iff]
  simp only [view, objectTree_eq_iff, media, streams, tree_eq_iff]
  constructor
  · rintro ⟨states, types, statuses, ⟨media, hasMedia⟩, streams, hasStreams⟩
    exact ⟨⟨fun key => (states key).1, types, statuses, media, streams⟩,
      ⟨fun key => (states key).2, hasMedia, hasStreams⟩⟩
  · rintro ⟨alike, presence⟩
    exact ⟨fun key => ⟨alike.finalState key, presence.finalState key⟩,
      alike.eventTypes, alike.ledgerStatuses,
      ⟨alike.mediaArtifacts, presence.mediaArtifacts⟩,
      alike.streamCheckpoints, presence.streamCheckpoints⟩

end EvidenceBundle

variable {numerals} {shown : Float64 → String} {golden current : EvidenceBundle}

theorem diffDict_unchanged_iff {left right : JsonObject} :
    (diffDict numerals left right).changedCount = 0 ↔
      ∀ key, (getOrNone left.fields key).tree =
        (getOrNone right.fields key).tree := by
  rw [diffDict, Ports.diffDict_unchanged_iff]
  simp only [textOf_eq_iff, getOrNone]
  constructor
  · intro unchanged key
    by_cases present : Fields.get? left.fields key ≠ none ∨
        Fields.get? right.fields key ≠ none
    · exact unchanged key (mem_unionKeys present)
    · simp only [ne_eq, not_or, not_not] at present
      rw [present.1, present.2]
  · intro unchanged key _
    exact unchanged key

theorem texts_unchanged_iff {α : Type} {text : α → String}
    {left right : List α} :
    (diffSequence numerals (left.map fun item => .str (text item))
      (right.map fun item => .str (text item))).changedCount = 0 ↔
        left.map text = right.map text := by
  rw [diffSequence, diffSequence_unchanged_iff_map, List.map_map, List.map_map]
  · apply map_eq_map_iff
    intro first second
    rw [Function.comp_apply, Function.comp_apply, textOf_eq_iff]
    simp [Json.tree]
  · intro value member missing
    rw [← List.mem_append, ← List.map_append] at member
    obtain ⟨item, _, rfl⟩ := List.mem_map.mp member
    rw [textOf_eq_iff] at missing
    cases missing

theorem fingerprint_eq_iff (keys : List String) (first second : JsonObject) :
    (fingerprint keys first.fields).tree =
        (fingerprint keys second.fields).tree ↔
      EvidenceBundle.blurred keys first =
        EvidenceBundle.blurred keys second := by
  simp [fingerprint, Json.tree, Json.treeFields_eq, EvidenceBundle.blurred,
    List.map_inj_left]

theorem fingerprints_unchanged_iff {keys : List String}
    {left right : List JsonObject} :
    (diffSequence numerals (fingerprints left keys)
      (fingerprints right keys)).changedCount = 0 ↔
        left.map (EvidenceBundle.blurred keys) =
          right.map (EvidenceBundle.blurred keys) := by
  unfold fingerprints
  rw [diffSequence, diffSequence_unchanged_iff_map, List.map_map, List.map_map]
  · apply map_eq_map_iff
    intro first second
    rw [Function.comp_apply, Function.comp_apply, textOf_eq_iff]
    exact fingerprint_eq_iff keys first second
  · intro value member missing
    rw [← List.mem_append, ← List.map_append] at member
    obtain ⟨row, _, rfl⟩ := List.mem_map.mp member
    rw [textOf_eq_iff] at missing
    cases missing

theorem passed_iff :
    (evaluateEvidenceRegression numerals shown golden current none).passed =
        true ↔ golden.Alike current := by
  have checks :
      (evaluateEvidenceRegression numerals shown golden current none).passed =
          true ↔
        (diffDict numerals golden.finalState
          current.finalState).changedCount = 0 ∧
        (diffSequence numerals (eventTypes golden.events)
          (eventTypes current.events)).changedCount = 0 ∧
        (diffSequence numerals (ledgerStatuses golden.toolLedger)
          (ledgerStatuses current.toolLedger)).changedCount = 0 ∧
        (diffSequence numerals (fingerprints golden.mediaArtifacts mediaKeys)
          (fingerprints current.mediaArtifacts mediaKeys)).changedCount = 0 ∧
        (diffSequence numerals
          (fingerprints golden.streamCheckpoints streamKeys)
          (fingerprints current.streamCheckpoints streamKeys)).changedCount =
            0 := by
    simp [evaluateEvidenceRegression, EvidenceCheckReport.ofChecks,
      diffEvidence]
  rw [checks, diffDict_unchanged_iff, eventTypes, eventTypes,
    texts_unchanged_iff, ledgerStatuses, ledgerStatuses, texts_unchanged_iff,
    fingerprints_unchanged_iff, fingerprints_unchanged_iff]
  constructor
  · rintro ⟨states, types, statuses, media, streams⟩
    exact ⟨states, types, statuses, media, streams⟩
  · intro alike
    exact ⟨alike.finalState, alike.eventTypes, alike.ledgerStatuses,
      alike.mediaArtifacts, alike.streamCheckpoints⟩

/-- When the gate passes exactly where the runs are equal. -/
theorem regression_complete_iff :
    ((evaluateEvidenceRegression numerals shown golden current none).passed =
        true ↔ golden.view = current.view) ↔
      (golden.Alike current → golden.SamePresence current) := by
  rw [passed_iff, EvidenceBundle.view_eq_iff]
  constructor
  · intro complete alike
    exact (complete.mp alike).2
  · intro presence
    exact ⟨fun alike => ⟨alike, presence alike⟩, fun both => both.1⟩

end AgentLedger.Go
