import AgentLedger.Ports.Evidence
import AgentLedger.TypeScript.Schema

namespace AgentLedger.TypeScript

open Foundation Ports

/-! `diffEvidence` and `evaluateEvidenceRegression`. -/

variable (numerals : JsonText.Numerals Rat)

def style : TreeStyle Rat :=
  ⟨numerals, JsonText.escape, JsonText.stringBody_escape⟩

/-- `JSON.stringify`: what is `undefined` has no text. -/
def textOf (value : Option Json) : Option (List Char) :=
  (value.map Json.tree).map (style numerals).print

theorem textOf_eq_iff {first second : Option Json} :
    textOf numerals first = textOf numerals second ↔
      first.map Json.tree = second.map Json.tree :=
  (Option.map_injective (style numerals).print_injective).eq_iff

/-- What the functions of the gate read of it. -/
structure EvidenceBundle where
  bundleHash : String
  run : Run
  events : List Event
  toolLedger : List ToolLedgerEntry
  mediaArtifacts : List OrderedObject
  streamCheckpoints : List OrderedObject
  totalUsd : Number
  summary : OrderedObject
  finalState : OrderedObject

/-- What is assigned under `__proto__` is no member of `changed`.  The other
members that every object inherits are functions, which have no text. -/
def diffDict (left right : OrderedObject) : Ports.DictDiff :=
  Ports.diffDict (textOf numerals)
    ((unionKeys left.fields right.fields).filter (· ≠ "__proto__"))
    left.fields right.fields

def diffSequence (left right : List Json) : Ports.SequenceDiff :=
  Ports.diffSequence (textOf numerals) left right

/-- A member that is `undefined` is not written. -/
def fingerprint (keys : List String) (row : OrderedObject) : Json :=
  .obj (keys.filterMap fun key =>
    (Fields.get? row.fields key).map fun value => (key, value))

def fingerprints (rows : List OrderedObject) (keys : List String) :
    List Json :=
  rows.map (fingerprint keys)

structure EvidenceChanges where
  bundleHashChanged : Bool
  summary : Ports.DictDiff
  finalState : Ports.DictDiff
  eventTypes : Ports.SequenceDiff
  toolLedger : Ports.SequenceDiff
  mediaArtifacts : Ports.SequenceDiff
  streamCheckpoints : Ports.SequenceDiff

/-- `hasDiffChanges` -/
def EvidenceChanges.any (changes : EvidenceChanges) : Bool :=
  changes.bundleHashChanged ||
    [changes.summary.changedCount, changes.finalState.changedCount,
      changes.eventTypes.changedCount, changes.toolLedger.changedCount,
      changes.mediaArtifacts.changedCount,
      changes.streamCheckpoints.changedCount].any (0 < ·)

structure EvidenceDiffReport where
  leftRunId : String
  rightRunId : String
  same : Bool
  changes : EvidenceChanges

def diffEvidence (left right : EvidenceBundle) : EvidenceDiffReport :=
  let changes : EvidenceChanges :=
    { bundleHashChanged := left.bundleHash ≠ right.bundleHash
      summary := diffDict numerals left.summary right.summary
      finalState := diffDict numerals left.finalState right.finalState
      eventTypes := diffSequence numerals
        (left.events.map fun event => .str event.type)
        (right.events.map fun event => .str event.type)
      toolLedger := diffSequence numerals
        (left.toolLedger.map fun entry => .str entry.status)
        (right.toolLedger.map fun entry => .str entry.status)
      mediaArtifacts := diffSequence numerals
        (fingerprints left.mediaArtifacts mediaKeys)
        (fingerprints right.mediaArtifacts mediaKeys)
      streamCheckpoints := diffSequence numerals
        (fingerprints left.streamCheckpoints streamKeys)
        (fingerprints right.streamCheckpoints streamKeys) }
  { leftRunId := left.run.runId
    rightRunId := right.run.runId
    same := !changes.any
    changes := changes }

/-- `shown` is how a number is written in a template. -/
def evaluateEvidenceRegression (shown : Number → String)
    (golden current : EvidenceBundle) (maxTotalUsdDelta : Option Number) :
    EvidenceCheckReport EvidenceDiffReport :=
  let diff := diffEvidence numerals golden current
  let changes := diff.changes
  let check (name text : String) (changed : Nat) : EvidenceCheck :=
    ⟨name, changed = 0, text ++ toString changed⟩
  let checks :=
    [check "final_state_regression" "changed_final_state_keys="
        changes.finalState.changedCount,
      check "event_type_regression" "changed_event_type_positions="
        changes.eventTypes.changedCount,
      check "tool_ledger_status_regression" "changed_ledger_status_positions="
        changes.toolLedger.changedCount,
      check "media_artifact_regression" "changed_media_artifacts="
        changes.mediaArtifacts.changedCount,
      check "stream_checkpoint_regression" "changed_stream_checkpoints="
        changes.streamCheckpoints.changedCount]
  let limited := maxTotalUsdDelta.map fun limit =>
    let delta := Rust.F64.sub current.totalUsd golden.totalUsd
    (⟨"max_total_usd_delta", delta.le limit,
      "total_usd_delta=" ++ shown delta ++ ", limit=" ++ shown limit⟩ :
        EvidenceCheck)
  .ofChecks (checks ++ limited.toList) diff

/-! ### What passes -/

namespace EvidenceBundle

def view (bundle : EvidenceBundle) : EvidenceView where
  finalState := bundle.finalState.json.value.tree
  eventTypes := bundle.events.map Event.type
  ledgerStatuses := bundle.toolLedger.map ToolLedgerEntry.status
  mediaArtifacts :=
    bundle.mediaArtifacts.map fun row => projection mediaKeys row.json.fields
  streamCheckpoints :=
    bundle.streamCheckpoints.map fun row =>
      projection streamKeys row.json.fields

/-- The members of every object stand in the same order, but for what is under
`__proto__` of the final state. -/
structure SameOrder (golden current : EvidenceBundle) : Prop where
  finalState : ∀ key, key ≠ "__proto__" →
    (Fields.get? golden.finalState.fields key).map Json.tree =
      (Fields.get? current.finalState.fields key).map Json.tree
  mediaArtifacts :
    golden.mediaArtifacts.map (fun row => projection mediaKeys row.fields) =
      current.mediaArtifacts.map fun row => projection mediaKeys row.fields
  streamCheckpoints :
    golden.streamCheckpoints.map (fun row => projection streamKeys row.fields) =
      current.streamCheckpoints.map fun row => projection streamKeys row.fields

structure Alike (golden current : EvidenceBundle) : Prop
    extends SameOrder golden current where
  eventTypes : golden.events.map Event.type = current.events.map Event.type
  ledgerStatuses : golden.toolLedger.map ToolLedgerEntry.status =
    current.toolLedger.map ToolLedgerEntry.status

/-- What the final states have under `__proto__` is equal as JSON. -/
def SamePrototype (golden current : EvidenceBundle) : Prop :=
  ((Fields.get? golden.finalState.fields "__proto__").map Json.tree).map
      JsonTree.sorted =
    ((Fields.get? current.finalState.fields "__proto__").map Json.tree).map
      JsonTree.sorted

end EvidenceBundle

theorem get?_json (object : OrderedObject) (key : String) :
    (Fields.get? object.json.fields key).map Json.tree =
      ((Fields.get? object.fields key).map Json.tree).map JsonTree.sorted := by
  rw [OrderedObject.json, Json.get?_normalFields, Option.map_map,
    Option.map_map]
  congr 1
  funext value
  exact Json.tree_normal value

theorem projection_json (keys : List String) (row : OrderedObject) :
    projection keys row.json.fields =
      (projection keys row.fields).map (Option.map JsonTree.sorted) := by
  rw [projection, projection, List.map_map]
  apply List.map_congr_left
  intro key _
  exact get?_json row key

theorem projections_json {keys : List String} {left right : List OrderedObject}
    (same : left.map (fun row => projection keys row.fields) =
      right.map fun row => projection keys row.fields) :
    left.map (fun row => projection keys row.json.fields) =
      right.map fun row => projection keys row.json.fields := by
  simp only [projection_json]
  have sorted := congrArg (List.map (List.map (Option.map JsonTree.sorted)))
    same
  rw [List.map_map, List.map_map] at sorted
  exact sorted

variable {numerals} {shown : Number → String} {golden current : EvidenceBundle}

namespace EvidenceBundle

theorem Alike.view (alike : Alike golden current)
    (prototype : SamePrototype golden current) :
    golden.view = current.view := by
  apply EvidenceView.ext
  · apply objectTree_eq_iff.mpr
    intro key
    rw [get?_json, get?_json]
    by_cases hidden : key = "__proto__"
    · rw [hidden]
      exact prototype
    · rw [alike.finalState key hidden]
  · exact alike.eventTypes
  · exact alike.ledgerStatuses
  · exact projections_json alike.mediaArtifacts
  · exact projections_json alike.streamCheckpoints

end EvidenceBundle

/-! ### The texts -/

theorem diffDict_unchanged_iff {left right : OrderedObject} :
    (diffDict numerals left right).changedCount = 0 ↔
      ∀ key, key ≠ "__proto__" →
        (Fields.get? left.fields key).map Json.tree =
          (Fields.get? right.fields key).map Json.tree := by
  rw [diffDict, Ports.diffDict_unchanged_iff]
  simp only [textOf_eq_iff, List.mem_filter, decide_eq_true_eq]
  constructor
  · intro unchanged key shown
    by_cases present : Fields.get? left.fields key ≠ none ∨
        Fields.get? right.fields key ≠ none
    · exact unchanged key ⟨mem_unionKeys present, shown⟩
    · simp only [ne_eq, not_or, not_not] at present
      rw [present.1, present.2]
  · intro unchanged key listed
    exact unchanged key listed.2

theorem diffSequence_map_unchanged_iff {α : Type} {value : α → Json}
    {left right : List α} :
    (diffSequence numerals (left.map value) (right.map value)).changedCount =
        0 ↔
      left.map (fun item => (value item).tree) =
        right.map fun item => (value item).tree := by
  rw [diffSequence, diffSequence_unchanged_iff_map, List.map_map, List.map_map]
  · apply map_eq_map_iff
    intro first second
    rw [Function.comp_apply, Function.comp_apply, textOf_eq_iff]
    simp
  · intro value _ missing
    cases missing

theorem texts_unchanged_iff {α : Type} {text : α → String}
    {left right : List α} :
    (diffSequence numerals (left.map fun item => .str (text item))
      (right.map fun item => .str (text item))).changedCount = 0 ↔
        left.map text = right.map text := by
  rw [diffSequence_map_unchanged_iff]
  apply map_eq_map_iff
  intro first second
  simp [Json.tree]

/-- Members that are listed under distinct keys where they are there. -/
theorem filterMap_entries_eq_iff {β : Type} {keys : List String}
    (distinct : keys.Nodup) {first second : String → Option β} :
    (keys.filterMap fun key => (first key).map fun value => (key, value)) =
        (keys.filterMap fun key => (second key).map fun value =>
          (key, value)) ↔
      keys.map first = keys.map second := by
  have absent {key : String} {rest : List String} (fresh : key ∉ rest)
      (held : String → Option β) (value : β) (later : List (String × β)) :
      (key, value) :: later ≠ rest.filterMap fun key =>
        (held key).map fun value => (key, value) := by
    intro same
    have member : (key, value) ∈ rest.filterMap fun key =>
        (held key).map fun value => (key, value) :=
      same ▸ List.mem_cons_self
    obtain ⟨other, listed, found⟩ := List.mem_filterMap.mp member
    obtain ⟨_, _, named⟩ := Option.map_eq_some_iff.mp found
    cases named
    exact fresh listed
  induction keys with
  | nil => simp
  | cons key rest ih =>
      obtain ⟨fresh, distinct⟩ := List.nodup_cons.mp distinct
      have later := (ih distinct).symm
      rw [List.filterMap_cons, List.filterMap_cons, List.map_cons,
        List.map_cons, List.cons.injEq, later]
      cases one : first key with
      | none =>
          cases other : second key with
          | none => simp
          | some value =>
              simpa using (absent fresh first value _).symm
      | some value =>
          cases other : second key with
          | none => simpa using absent fresh second value _
          | some held => simp

theorem fingerprint_eq_iff {keys : List String} (distinct : keys.Nodup)
    (first second : OrderedObject) :
    (fingerprint keys first).tree = (fingerprint keys second).tree ↔
      projection keys first.fields = projection keys second.fields := by
  have entries (row : OrderedObject) : (fingerprint keys row).tree =
      .object (keys.filterMap fun key =>
        ((Fields.get? row.fields key).map Json.tree).map fun value =>
          (key, value)) := by
    rw [fingerprint, Json.tree, Json.treeFields_eq, List.map_filterMap]
    simp only [Option.map_map]
    rfl
  rw [entries, entries, JsonTree.object.injEq,
    filterMap_entries_eq_iff distinct]
  rfl

theorem fingerprints_unchanged_iff {keys : List String}
    (distinct : keys.Nodup) {left right : List OrderedObject} :
    (diffSequence numerals (fingerprints left keys)
      (fingerprints right keys)).changedCount = 0 ↔
        left.map (fun row => projection keys row.fields) =
          right.map fun row => projection keys row.fields := by
  rw [fingerprints, fingerprints, diffSequence_map_unchanged_iff]
  exact map_eq_map_iff (fingerprint_eq_iff distinct)

theorem passed_iff :
    (evaluateEvidenceRegression numerals shown golden current none).passed =
        true ↔ golden.Alike current := by
  have checks :
      (evaluateEvidenceRegression numerals shown golden current none).passed =
          true ↔
        (diffDict numerals golden.finalState
          current.finalState).changedCount = 0 ∧
        (diffSequence numerals
          (golden.events.map fun event => .str event.type)
          (current.events.map fun event => .str event.type)).changedCount =
            0 ∧
        (diffSequence numerals
          (golden.toolLedger.map fun entry => .str entry.status)
          (current.toolLedger.map fun entry =>
            .str entry.status)).changedCount = 0 ∧
        (diffSequence numerals (fingerprints golden.mediaArtifacts mediaKeys)
          (fingerprints current.mediaArtifacts mediaKeys)).changedCount = 0 ∧
        (diffSequence numerals
          (fingerprints golden.streamCheckpoints streamKeys)
          (fingerprints current.streamCheckpoints streamKeys)).changedCount =
            0 := by
    simp [evaluateEvidenceRegression, EvidenceCheckReport.ofChecks,
      diffEvidence]
  rw [checks, diffDict_unchanged_iff, texts_unchanged_iff,
    texts_unchanged_iff, fingerprints_unchanged_iff (by decide),
    fingerprints_unchanged_iff (by decide)]
  constructor
  · rintro ⟨states, types, statuses, media, streams⟩
    exact ⟨⟨states, media, streams⟩, types, statuses⟩
  · intro alike
    exact ⟨alike.finalState, alike.eventTypes, alike.ledgerStatuses,
      alike.mediaArtifacts, alike.streamCheckpoints⟩

/-- When the gate passes exactly where the runs are equal. -/
theorem regression_complete_iff :
    ((evaluateEvidenceRegression numerals shown golden current none).passed =
        true ↔ golden.view = current.view) ↔
      (golden.Alike current → golden.SamePrototype current) ∧
        (golden.view = current.view → golden.SameOrder current) := by
  rw [passed_iff]
  constructor
  · intro complete
    refine ⟨?_, fun same => (complete.mpr same).toSameOrder⟩
    intro alike
    have states := congrArg EvidenceView.finalState (complete.mp alike)
    have member := objectTree_eq_iff.mp states "__proto__"
    rwa [get?_json, get?_json] at member
  · rintro ⟨prototype, order⟩
    constructor
    · intro alike
      exact alike.view (prototype alike)
    · intro same
      have types := congrArg EvidenceView.eventTypes same
      have statuses := congrArg EvidenceView.ledgerStatuses same
      exact ⟨order same, types, statuses⟩

end AgentLedger.TypeScript
