import AgentLedger.Ports.Evidence
import AgentLedger.Ports.Schemas
import AgentLedger.Rust.Memory.ValueCodec
import AgentLedger.Rust.Numbers

namespace AgentLedger.Rust

open Foundation Ports

/-! `diff_evidence` and `evaluate_evidence_regression`. -/

def eqOption : Option Value → Option Value → Bool
  | none, none => true
  | some first, some second => first.eq second
  | _, _ => false

mutual
theorem Value.eq_iff : (first second : Value) → first.finite = true →
    second.finite = true →
      (first.eq second = true ↔ first.json.tree = second.json.tree)
  | .null, second, _, _ => by
      cases second with
      | number value => simp [Value.eq, Value.json, Json.tree, F64.tree_json]
      | _ => simp [Value.eq, Value.json, Json.tree]
  | .bool first, second, _, _ => by
      cases second with
      | number value => simp [Value.eq, Value.json, Json.tree, F64.tree_json]
      | _ => simp [Value.eq, Value.json, Json.tree]
  | .string first, second, _, _ => by
      cases second with
      | number value => simp [Value.eq, Value.json, Json.tree, F64.tree_json]
      | _ => simp [Value.eq, Value.json, Json.tree]
  | .number first, second, finite, other => by
      cases second with
      | number value =>
          rw [Value.eq, F64.partialCmp_of_finite finite other]
          simp [Value.json, F64.tree_json]
      | _ => simp [Value.eq, Value.json, Json.tree, F64.tree_json]
  | .array first, second, finite, other => by
      cases second with
      | number value => simp [Value.eq, Value.json, Json.tree, F64.tree_json]
      | array second =>
          simp [Value.eq, Value.json, Json.tree,
            itemsEq_iff first second finite other]
      | _ => simp [Value.eq, Value.json, Json.tree]
  | .object first, second, finite, other => by
      cases second with
      | number value => simp [Value.eq, Value.json, Json.tree, F64.tree_json]
      | object second =>
          simp [Value.eq, Value.json, Json.tree,
            entriesEq_iff first second finite other]
      | _ => simp [Value.eq, Value.json, Json.tree]

theorem itemsEq_iff : (first second : List Value) →
    Value.finiteItems first = true → Value.finiteItems second = true →
      (itemsEq first second = true ↔
        Json.treeItems (jsonItems first) = Json.treeItems (jsonItems second))
  | [], [], _, _ => by simp [itemsEq]
  | [], second :: later, _, _ => by simp [itemsEq, jsonItems, Json.treeItems]
  | first :: rest, [], _, _ => by simp [itemsEq, jsonItems, Json.treeItems]
  | first :: rest, second :: later, finite, other => by
      rw [Value.finiteItems, Bool.and_eq_true] at finite other
      simp [itemsEq, jsonItems, Json.treeItems,
        Value.eq_iff first second finite.1 other.1,
        itemsEq_iff rest later finite.2 other.2]

theorem entriesEq_iff : (first second : List (String × Value)) →
    Value.finiteEntries first = true → Value.finiteEntries second = true →
      (entriesEq first second = true ↔
        Json.treeFields (jsonEntries first) =
          Json.treeFields (jsonEntries second))
  | [], [], _, _ => by simp [entriesEq]
  | [], (_, _) :: _, _, _ => by simp [entriesEq, jsonEntries, Json.treeFields]
  | (_, _) :: _, [], _, _ => by simp [entriesEq, jsonEntries, Json.treeFields]
  | (key, first) :: rest, (name, second) :: later, finite, other => by
      rw [Value.finiteEntries, Bool.and_eq_true] at finite other
      simp [entriesEq, jsonEntries, Json.treeFields,
        Value.eq_iff first second finite.1 other.1,
        entriesEq_iff rest later finite.2 other.2, and_assoc]
end

variable (text : F64Text)

/-- What the functions of the gate read of it.  JSON has finite numbers only. -/
structure EvidenceBundle where
  bundleHash : String
  run : Run
  events : List Event
  toolLedger : List ToolLedgerEntry
  mediaArtifacts : List State
  streamCheckpoints : List State
  totalUsd : F64
  finalState : State
  finite : finalState.finite = true
  finiteRows : ∀ row ∈ mediaArtifacts ++ streamCheckpoints, row.finite = true

/-- `diff_state`: how many members have changed. -/
def diffState (left right : State) : Nat :=
  let keys := (((left.entries ++ right.entries).map Prod.fst).insertionSort
    (· ≤ ·)).dedup
  (keys.filter fun key =>
    !eqOption (Entries.get? key left.entries)
      (Entries.get? key right.entries)).length

/-- `diff_values`: how many places have changed. -/
def diffValues (left right : List Value) : Nat :=
  ((List.range (max left.length right.length)).filter fun index =>
    !eqOption left[index]? right[index]?).length

def eventTypes (events : List Event) : List Value :=
  events.map fun event => .string event.eventType

def stateFingerprints (rows : List State) : List Value :=
  rows.map fun row => .string (encodeState text row)

structure EvidenceDiffReport where
  leftRunId : String
  rightRunId : String
  same : Bool
  finalStateChangedCount : Nat
  eventTypesChangedCount : Nat
  mediaArtifactsChangedCount : Nat
  streamCheckpointsChangedCount : Nat

def diffEvidence (left right : EvidenceBundle) : EvidenceDiffReport :=
  let finalState := diffState left.finalState right.finalState
  let events := diffValues (eventTypes left.events) (eventTypes right.events)
  let media := diffValues (stateFingerprints text left.mediaArtifacts)
    (stateFingerprints text right.mediaArtifacts)
  let streams := diffValues (stateFingerprints text left.streamCheckpoints)
    (stateFingerprints text right.streamCheckpoints)
  { leftRunId := left.run.runId
    rightRunId := right.run.runId
    same := finalState = 0 && events = 0 && media = 0 && streams = 0 &&
      left.bundleHash = right.bundleHash
    finalStateChangedCount := finalState
    eventTypesChangedCount := events
    mediaArtifactsChangedCount := media
    streamCheckpointsChangedCount := streams }

def evaluateEvidenceRegression (golden current : EvidenceBundle)
    (maxTotalUsdDelta : Option F64) : EvidenceCheckReport State :=
  let diff := diffEvidence text golden current
  let checks : List EvidenceCheck :=
    [⟨"final_state_regression", diff.finalStateChangedCount = 0,
        "final state regression check"⟩,
      ⟨"event_type_regression", diff.eventTypesChangedCount = 0,
        "event type regression check"⟩,
      -- The ledgers are not compared.
      ⟨"tool_ledger_status_regression", true,
        "tool ledger status regression check"⟩,
      ⟨"media_artifact_regression", diff.mediaArtifactsChangedCount = 0,
        "media artifact regression check"⟩,
      ⟨"stream_checkpoint_regression", diff.streamCheckpointsChangedCount = 0,
        "stream checkpoint regression check"⟩]
  let limited := maxTotalUsdDelta.map fun limit =>
    (⟨"max_total_usd_delta", (current.totalUsd.sub golden.totalUsd).le limit,
      "cost delta limit check"⟩ : EvidenceCheck)
  .ofChecks (checks ++ limited.toList) State.new

/-! ### What passes -/

namespace EvidenceBundle

def view (bundle : EvidenceBundle) : EvidenceView where
  finalState := bundle.finalState.json.value.tree
  eventTypes := bundle.events.map Event.eventType
  ledgerStatuses := bundle.toolLedger.map ToolLedgerEntry.status
  mediaArtifacts :=
    bundle.mediaArtifacts.map fun row => projection mediaKeys row.json.fields
  streamCheckpoints :=
    bundle.streamCheckpoints.map fun row =>
      projection streamKeys row.json.fields

/-- The rows are the same, with all that they hold. -/
structure SameRows (golden current : EvidenceBundle) : Prop where
  mediaArtifacts : golden.mediaArtifacts = current.mediaArtifacts
  streamCheckpoints : golden.streamCheckpoints = current.streamCheckpoints

/-- The bundles are alike but for the tool ledgers. -/
structure Alike (golden current : EvidenceBundle) : Prop
    extends SameRows golden current where
  finalState : golden.finalState.json.value.tree =
    current.finalState.json.value.tree
  eventTypes : golden.events.map Event.eventType =
    current.events.map Event.eventType

end EvidenceBundle

variable {text} {golden current : EvidenceBundle}

theorem finite_of_get? {entries : List (String × Value)}
    (finite : Value.finiteEntries entries = true) {key : String} {value : Value}
    (found : Entries.get? key entries = some value) : value.finite = true := by
  induction entries with
  | nil => cases found
  | cons entry rest ih =>
      obtain ⟨first, held⟩ := entry
      rw [Value.finiteEntries, Bool.and_eq_true] at finite
      rw [Entries.get?] at found
      split at found
      · cases found
        exact finite.1
      · exact ih finite.2 found

theorem diffState_eq_zero_iff {left right : State}
    (finite : left.finite = true) (other : right.finite = true) :
    diffState left right = 0 ↔
      left.json.value.tree = right.json.value.tree := by
  have member (state : State) (key : String) :
      (Fields.get? state.json.fields key).map Json.tree =
        (Entries.get? key state.entries).map fun value => value.json.tree := by
    rw [State.json, get?_jsonEntries, Option.map_map]
    rfl
  have same (key : String) : eqOption (Entries.get? key left.entries)
        (Entries.get? key right.entries) = true ↔
      (Entries.get? key left.entries).map (fun value => value.json.tree) =
        (Entries.get? key right.entries).map fun value => value.json.tree := by
    cases first : Entries.get? key left.entries with
    | none => cases Entries.get? key right.entries <;> simp [eqOption]
    | some value =>
        cases second : Entries.get? key right.entries with
        | none => simp [eqOption]
        | some held =>
            rw [eqOption, Value.eq_iff value held (finite_of_get? finite first)
              (finite_of_get? other second)]
            simp
  rw [objectTree_eq_iff]
  simp only [diffState, List.length_eq_zero_iff, List.filter_eq_nil_iff,
    Bool.not_eq_true', Bool.not_eq_false, member, ← same]
  constructor
  · intro unchanged key
    by_cases listed : key ∈ (left.entries ++ right.entries).map Prod.fst
    · exact unchanged key (by simpa using listed)
    · have absent : Entries.get? key left.entries = none ∧
          Entries.get? key right.entries = none := by
        rw [List.map_append, List.mem_append, not_or] at listed
        constructor
        · cases found : Entries.get? key left.entries with
          | none => rfl
          | some value =>
              have member := List.mem_map_of_mem (f := Prod.fst) (Entries.mem_of_get? found)
              exact absurd member listed.1
        · cases found : Entries.get? key right.entries with
          | none => rfl
          | some value =>
              have member := List.mem_map_of_mem (f := Prod.fst) (Entries.mem_of_get? found)
              exact absurd member listed.2
      rw [absent.1, absent.2]
      rfl
  · intro unchanged key _
    exact unchanged key

theorem diffValues_texts_eq_zero_iff {left right : List String} :
    diffValues (left.map Value.string) (right.map Value.string) = 0 ↔
      left = right := by
  have same (index : Nat) : eqOption (left.map Value.string)[index]?
        (right.map Value.string)[index]? = true ↔
      left[index]? = right[index]? := by
    rw [List.getElem?_map, List.getElem?_map]
    cases left[index]? <;> cases right[index]? <;> simp [eqOption, Value.eq]
  simp only [diffValues, List.length_eq_zero_iff, List.filter_eq_nil_iff,
    Bool.not_eq_true', Bool.not_eq_false, same, List.mem_range,
    List.length_map, lt_max_iff]
  constructor
  · intro unchanged
    apply List.ext_getElem?
    intro index
    by_cases inside : index < left.length ∨ index < right.length
    · exact unchanged index inside
    · simp only [not_or, not_lt] at inside
      rw [List.getElem?_eq_none inside.1, List.getElem?_eq_none inside.2]
  · intro same index _
    rw [same]

theorem encodeState_injective (lawful : text.Lawful) {first second : State}
    (finite : first.finite = true) (other : second.finite = true)
    (same : encodeState text first = encodeState text second) :
    first = second := by
  have read := decodeState_encodeState lawful first finite
  rw [same, decodeState_encodeState lawful second other] at read
  exact (Except.ok.inj read).symm

theorem fingerprints_eq_zero_iff (lawful : text.Lawful)
    {left right : List State} (finite : ∀ row ∈ left ++ right,
      row.finite = true) :
    diffValues (stateFingerprints text left) (stateFingerprints text right) =
      0 ↔ left = right := by
  have texts (rows : List State) : stateFingerprints text rows =
      (rows.map (encodeState text)).map Value.string := by
    rw [List.map_map]
    rfl
  rw [texts, texts, diffValues_texts_eq_zero_iff]
  constructor
  · intro same
    induction left generalizing right with
    | nil =>
        cases right with
        | nil => rfl
        | cons row later => cases same
    | cons first left ih =>
        cases right with
        | nil => cases same
        | cons second right =>
            obtain ⟨here, later⟩ := List.cons.inj same
            have own := encodeState_injective lawful
              (finite first (by simp)) (finite second (by simp)) here
            rw [own, ih _ later]
            intro row member
            apply finite row
            simp only [List.cons_append, List.mem_cons, List.mem_append]
              at member ⊢
            tauto
  · intro same
    rw [same]

theorem passed_iff (lawful : text.Lawful) :
    (evaluateEvidenceRegression text golden current none).passed = true ↔
      golden.Alike current := by
  have checks :
      (evaluateEvidenceRegression text golden current none).passed = true ↔
        diffState golden.finalState current.finalState = 0 ∧
        diffValues (eventTypes golden.events) (eventTypes current.events) =
          0 ∧
        diffValues (stateFingerprints text golden.mediaArtifacts)
          (stateFingerprints text current.mediaArtifacts) = 0 ∧
        diffValues (stateFingerprints text golden.streamCheckpoints)
          (stateFingerprints text current.streamCheckpoints) = 0 := by
    simp only [evaluateEvidenceRegression, EvidenceCheckReport.ofChecks,
      Option.map_none, Option.toList_none, List.append_nil, List.all_cons,
      List.all_nil, Bool.and_true, Bool.true_and, Bool.and_eq_true,
      decide_eq_true_eq]
    exact Iff.rfl
  have types (events : List Event) : eventTypes events =
      (events.map Event.eventType).map Value.string := by
    rw [List.map_map]
    rfl
  have media : ∀ row ∈ golden.mediaArtifacts ++ current.mediaArtifacts,
      row.finite = true := by
    intro row member
    rcases List.mem_append.mp member with own | other
    · exact golden.finiteRows row (List.mem_append_left _ own)
    · exact current.finiteRows row (List.mem_append_left _ other)
  have streams : ∀ row ∈ golden.streamCheckpoints ++ current.streamCheckpoints,
      row.finite = true := by
    intro row member
    rcases List.mem_append.mp member with own | other
    · exact golden.finiteRows row (List.mem_append_right _ own)
    · exact current.finiteRows row (List.mem_append_right _ other)
  rw [checks, diffState_eq_zero_iff golden.finite current.finite, types, types,
    diffValues_texts_eq_zero_iff, fingerprints_eq_zero_iff lawful media,
    fingerprints_eq_zero_iff lawful streams]
  constructor
  · rintro ⟨states, types, media, streams⟩
    exact ⟨⟨media, streams⟩, states, types⟩
  · intro alike
    exact ⟨alike.finalState, alike.eventTypes, alike.mediaArtifacts,
      alike.streamCheckpoints⟩

/-- When the gate passes exactly where the runs are equal. -/
theorem regression_complete_iff (lawful : text.Lawful) :
    ((evaluateEvidenceRegression text golden current none).passed = true ↔
        golden.view = current.view) ↔
      (golden.Alike current →
        golden.toolLedger.map ToolLedgerEntry.status =
          current.toolLedger.map ToolLedgerEntry.status) ∧
        (golden.view = current.view → golden.SameRows current) := by
  rw [passed_iff lawful]
  constructor
  · intro complete
    refine ⟨?_, fun same => (complete.mpr same).toSameRows⟩
    intro alike
    exact congrArg EvidenceView.ledgerStatuses (complete.mp alike)
  · rintro ⟨statuses, rows⟩
    constructor
    · intro alike
      apply EvidenceView.ext
      · exact alike.finalState
      · exact alike.eventTypes
      · exact statuses alike
      · simp only [EvidenceBundle.view, alike.mediaArtifacts]
      · simp only [EvidenceBundle.view, alike.streamCheckpoints]
    · intro same
      have states := congrArg EvidenceView.finalState same
      have types := congrArg EvidenceView.eventTypes same
      exact ⟨rows same, states, types⟩

end AgentLedger.Rust
