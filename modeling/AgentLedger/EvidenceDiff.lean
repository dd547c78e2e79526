import AgentLedger.Equality
import AgentLedger.Python

namespace AgentLedger

open Foundation

/-! `diff.py`: the comparison of two evidence bundles. -/

structure SequenceChange where
  index : Nat
  left : Json
  right : Json

structure SequenceDiff where
  leftCount : Nat
  rightCount : Nat
  changedCount : Nat
  changed : List SequenceChange

def diffSequence (left right : List Json) : SequenceDiff :=
  let changed := (List.range (max left.length right.length)).filterMap
    fun index =>
      let leftValue := left[index]?.getD .null
      let rightValue := right[index]?.getD .null
      if pyEq leftValue rightValue then none
      else some ⟨index, leftValue, rightValue⟩
  { leftCount := left.length
    rightCount := right.length
    changedCount := changed.length
    changed := changed }

/-! ### Evidence bundles -/

def isObject : Json → Bool
  | .obj _ => true
  | _ => false

def isRows : Json → Bool
  | .arr rows => rows.all isObject
  | _ => false

/-- What is read of a bundle has the type `export` gives it, where it is
there. -/
structure EvidenceBundle where
  data : Fields
  canonical : Json.CanonicalFields data
  objects : ∀ key ∈ ["run", "summary", "final_state"],
    (Fields.get? data key).all isObject = true
  costs : ((Fields.get? data "summary").bind fun summary =>
    Fields.get? summary.fields "cost_summary").all isObject = true
  rows : ∀ key ∈ ["events", "tool_ledger", "artifacts", "media_artifacts",
      "stream_checkpoints"],
    (Fields.get? data key).all isRows = true

/-- `fields.get(key, {})`. -/
def getObject (fields : Fields) (key : String) : Fields :=
  ((Fields.get? fields key).getD (.obj [])).fields

/-- `fields.get(key, [])`. -/
def getRows (fields : Fields) (key : String) : List Fields :=
  match Fields.get? fields key with
  | some (.arr rows) => rows.map Json.fields
  | _ => []

/-- A dictionary with the values the row has under some of its keys. -/
def fingerprint (keys : List String) (row : Fields) : Json :=
  .obj (keys.map fun key => (key, getOrNone row key))

namespace EvidenceBundle

variable (bundle : EvidenceBundle)

def summary : Fields := getObject bundle.data "summary"

def finalState : Fields := getObject bundle.data "final_state"

def costSummary : Fields := getObject bundle.summary "cost_summary"

def runId : Json := getOrNone (getObject bundle.data "run") "run_id"

def eventTypes : List Json :=
  (getRows bundle.data "events").map fun event => getOrNone event "type"

def ledgerStatuses : List Json :=
  (getRows bundle.data "tool_ledger").map fun row => getOrNone row "status"

def artifactFingerprints : List Json :=
  (getRows bundle.data "artifacts").map <|
    fingerprint ["blob_hash", "metadata_json", "name"]

def mediaArtifactFingerprints : List Json :=
  (getRows bundle.data "media_artifacts").map <|
    fingerprint ["blob_hash", "content_ref", "kind", "lineage", "name", "uri"]

def streamCheckpointFingerprints : List Json :=
  (getRows bundle.data "stream_checkpoints").map <|
    fingerprint ["chunk", "consumer_id", "name", "offset",
      "partial_result_ref", "stream_id", "watermark"]

def ledgerFingerprints : List Json :=
  (getRows bundle.data "tool_ledger").map <|
    fingerprint ["error_type", "external_id", "request_hash", "response_hash",
      "status", "tool_name"]

/-- A payload that is no dictionary is taken as it is. -/
def modelOutput (event : Fields) : Json :=
  match getOrNone event "payload" with
  | .obj payload => fingerprint ["content", "provider", "usage"] payload
  | payload => .obj [("payload", payload)]

def modelOutputs : List Json :=
  ((getRows bundle.data "events").filter fun event =>
    pyEq (getOrNone event "type") (.str "model_call_completed")).map
      modelOutput

end EvidenceBundle

/-! ### `EvidenceDiffer` -/

structure EvidenceChanges where
  bundleHashChanged : Bool
  summary : DictDiff
  finalState : DictDiff
  eventTypes : SequenceDiff
  toolLedger : SequenceDiff
  mediaArtifacts : SequenceDiff
  streamCheckpoints : SequenceDiff
  costSummary : DictDiff

/-- `_has_changes`. -/
def EvidenceChanges.any (changes : EvidenceChanges) : Bool :=
  changes.bundleHashChanged ||
    [changes.summary.changedCount, changes.finalState.changedCount,
      changes.eventTypes.changedCount, changes.toolLedger.changedCount,
      changes.mediaArtifacts.changedCount,
      changes.streamCheckpoints.changedCount,
      changes.costSummary.changedCount].any (· ≠ 0)

structure DiffReport where
  leftRunId : Json
  rightRunId : Json
  same : Bool
  changes : EvidenceChanges

def EvidenceDiffer.compare (left right : EvidenceBundle) : DiffReport :=
  let changes : EvidenceChanges :=
    { bundleHashChanged := !pyEq (getOrNone left.data "bundle_hash")
        (getOrNone right.data "bundle_hash")
      summary := diffDict left.summary right.summary
      finalState := diffDict left.finalState right.finalState
      eventTypes := diffSequence left.eventTypes right.eventTypes
      toolLedger := diffSequence left.ledgerStatuses right.ledgerStatuses
      mediaArtifacts := diffSequence left.mediaArtifactFingerprints
        right.mediaArtifactFingerprints
      streamCheckpoints := diffSequence left.streamCheckpointFingerprints
        right.streamCheckpointFingerprints
      costSummary := diffDict left.costSummary right.costSummary }
  { leftRunId := left.runId
    rightRunId := right.runId
    same := !changes.any
    changes := changes }

/-! ### `DivergenceReporter` -/

inductive Dimension
  | events
  | state
  | artifacts
  | mediaArtifacts
  | streamCheckpoints
  | ledger
  | cost
  | modelOutputs
  deriving DecidableEq, Repr

inductive DimensionDiff
  | dict (diff : DictDiff)
  | sequence (diff : SequenceDiff)

/-- `_dimension_changed`. -/
def DimensionDiff.changed : DimensionDiff → Bool
  | .dict diff => decide (diff.changedCount ≠ 0)
  | .sequence diff => decide (diff.changedCount ≠ 0)

namespace Dimension

def all : List Dimension :=
  [.events, .state, .artifacts, .mediaArtifacts, .streamCheckpoints, .ledger,
    .cost, .modelOutputs]

def name : Dimension → String
  | .events => "events"
  | .state => "state"
  | .artifacts => "artifacts"
  | .mediaArtifacts => "media_artifacts"
  | .streamCheckpoints => "stream_checkpoints"
  | .ledger => "ledger"
  | .cost => "cost"
  | .modelOutputs => "model_outputs"

/-- What the dimension looks at: a dictionary or a sequence. -/
def project (bundle : EvidenceBundle) : Dimension → Fields ⊕ List Json
  | .events => .inr bundle.eventTypes
  | .state => .inl bundle.finalState
  | .artifacts => .inr bundle.artifactFingerprints
  | .mediaArtifacts => .inr bundle.mediaArtifactFingerprints
  | .streamCheckpoints => .inr bundle.streamCheckpointFingerprints
  | .ledger => .inr bundle.ledgerFingerprints
  | .cost => .inl bundle.costSummary
  | .modelOutputs => .inr bundle.modelOutputs

def diff (left right : EvidenceBundle) : Dimension → DimensionDiff
  | .events => .sequence (diffSequence left.eventTypes right.eventTypes)
  | .state => .dict (diffDict left.finalState right.finalState)
  | .artifacts => .sequence <|
      diffSequence left.artifactFingerprints right.artifactFingerprints
  | .mediaArtifacts => .sequence <|
      diffSequence left.mediaArtifactFingerprints
        right.mediaArtifactFingerprints
  | .streamCheckpoints => .sequence <|
      diffSequence left.streamCheckpointFingerprints
        right.streamCheckpointFingerprints
  | .ledger => .sequence <|
      diffSequence left.ledgerFingerprints right.ledgerFingerprints
  | .cost => .dict (diffDict left.costSummary right.costSummary)
  | .modelOutputs => .sequence <|
      diffSequence left.modelOutputs right.modelOutputs

end Dimension

structure DivergenceReport where
  leftRunId : Json
  rightRunId : Json
  same : Bool
  changedDimensions : List Dimension
  dimensions : List (Dimension × DimensionDiff)

def DivergenceReporter.compare (left right : EvidenceBundle) :
    DivergenceReport :=
  let dimensions := Dimension.all.map fun dimension =>
    (dimension, dimension.diff left right)
  let changed := (dimensions.filter fun entry => entry.2.changed).map Prod.fst
  { leftRunId := left.runId
    rightRunId := right.runId
    same := changed.isEmpty
    changedDimensions := changed
    dimensions := dimensions }

/-! ### What goes unnoticed -/

/-- If `==` tells no member apart, with `None` for one that is missing, then
both objects have it or neither, with numbers of the same types. -/
def ApartFields (left right : Fields) : Prop :=
  (∀ key, Blurred (Fields.get? left key) (Fields.get? right key)) →
    ∀ key, SameForm (Fields.get? left key) (Fields.get? right key)

/-- The same of the items of two sequences. -/
def ApartItems (left right : List Json) : Prop :=
  (∀ index : Nat, Blurred left[index]? right[index]?) →
    ∀ index : Nat, SameForm left[index]? right[index]?

theorem mem_unionKeys {left right : Fields} {key : String}
    (present : Fields.get? left key ≠ none ∨ Fields.get? right key ≠ none) :
    key ∈ unionKeys left right := by
  unfold unionKeys
  rw [List.mem_insertionSort, List.mem_dedup, List.map_append,
    List.mem_append]
  rcases present with held | held
  · obtain ⟨value, found⟩ := Option.ne_none_iff_exists'.mp held
    exact .inl (List.mem_map_of_mem (Fields.mem_of_get? found))
  · obtain ⟨value, found⟩ := Option.ne_none_iff_exists'.mp held
    exact .inr (List.mem_map_of_mem (Fields.mem_of_get? found))

theorem diffDict_unchanged_iff {left right : Fields} :
    (diffDict left right).changedCount = 0 ↔
      ∀ key, Blurred (Fields.get? left key) (Fields.get? right key) := by
  simp only [diffDict, List.length_eq_zero_iff, List.filterMap_eq_nil_iff,
    blurred_iff, ite_eq_left_iff, reduceCtorEq, imp_false,
    Bool.not_eq_true, Bool.not_eq_false]
  constructor
  · intro unchanged key
    by_cases present : Fields.get? left key ≠ none ∨
        Fields.get? right key ≠ none
    · exact unchanged key (mem_unionKeys present)
    · simp only [ne_eq, not_or, not_not] at present
      rw [present.1, present.2]
      rfl
  · intro unchanged key _
    exact unchanged key

theorem diffSequence_unchanged_iff {left right : List Json} :
    (diffSequence left right).changedCount = 0 ↔
      ∀ index : Nat, Blurred left[index]? right[index]? := by
  simp only [diffSequence, List.length_eq_zero_iff, List.filterMap_eq_nil_iff,
    blurred_iff, ite_eq_left_iff, reduceCtorEq, imp_false,
    Bool.not_eq_true, Bool.not_eq_false, List.mem_range, lt_max_iff]
  constructor
  · intro unchanged index
    by_cases inside : index < left.length ∨ index < right.length
    · exact unchanged index inside
    · simp only [not_or, not_lt] at inside
      rw [List.getElem?_eq_none inside.1, List.getElem?_eq_none inside.2]
      rfl
  · intro unchanged index _
    exact unchanged index

theorem diffDict_complete_iff {left right : Fields}
    (canonical : Json.CanonicalFields left)
    (other : Json.CanonicalFields right) :
    ((diffDict left right).changedCount = 0 ↔ left = right) ↔
      ApartFields left right := by
  rw [diffDict_unchanged_iff]
  constructor
  · intro complete blurred key
    rw [← eq_iff_sameForm (blurred key), complete.mp blurred]
  · intro apart
    constructor
    · intro blurred
      exact canonical.ext other fun key =>
        (eq_iff_sameForm (blurred key)).mpr (apart blurred key)
    · intro same key
      rw [same]
      rfl

theorem diffSequence_complete_iff {left right : List Json} :
    ((diffSequence left right).changedCount = 0 ↔ left = right) ↔
      ApartItems left right := by
  rw [diffSequence_unchanged_iff]
  constructor
  · intro complete blurred index
    rw [← eq_iff_sameForm (blurred index), complete.mp blurred]
  · intro apart
    constructor
    · intro blurred
      exact List.ext_getElem? fun index =>
        (eq_iff_sameForm (blurred index)).mpr (apart blurred index)
    · intro same index
      rw [same]
      rfl

/-! ### Bundles -/

theorem getObject_canonical {fields : Fields} {key : String}
    (canonical : Json.CanonicalFields fields) :
    Json.CanonicalFields (getObject fields key) := by
  unfold getObject
  cases found : Fields.get? fields key with
  | none => trivial
  | some value =>
      have own := canonical.value (Fields.mem_of_get? found)
      cases value with
      | obj inner => simpa [Json.Canonical, Json.fields] using own
      | _ => trivial

namespace EvidenceBundle

variable (bundle : EvidenceBundle)

theorem canonical_finalState : Json.CanonicalFields bundle.finalState :=
  getObject_canonical bundle.canonical

theorem canonical_costSummary : Json.CanonicalFields bundle.costSummary :=
  getObject_canonical (getObject_canonical bundle.canonical)

end EvidenceBundle

namespace Dimension

/-- Where a dimension tells two bundles apart. -/
def Apart (left right : EvidenceBundle) (dimension : Dimension) : Prop :=
  match dimension.project left, dimension.project right with
  | .inl first, .inl second => ApartFields first second
  | .inr first, .inr second => ApartItems first second
  | _, _ => True

theorem mem_changedDimensions {left right : EvidenceBundle}
    {dimension : Dimension} :
    dimension ∈ (DivergenceReporter.compare left right).changedDimensions ↔
      (dimension.diff left right).changed = true := by
  have listed : dimension ∈ all := by cases dimension <;> decide
  simp [DivergenceReporter.compare, listed]

theorem unchanged_iff {left right : EvidenceBundle} {dimension : Dimension} :
    (dimension ∉ (DivergenceReporter.compare left right).changedDimensions ↔
      dimension.project left = dimension.project right) ↔
        dimension.Apart left right := by
  rw [mem_changedDimensions]
  cases dimension with
  | state =>
      have states := diffDict_complete_iff left.canonical_finalState
        right.canonical_finalState
      simpa [diff, DimensionDiff.changed, project, Apart] using states
  | cost =>
      have costs := diffDict_complete_iff left.canonical_costSummary
        right.canonical_costSummary
      simpa [diff, DimensionDiff.changed, project, Apart] using costs
  | events =>
      have events := @diffSequence_complete_iff left.eventTypes right.eventTypes
      simpa [diff, DimensionDiff.changed, project, Apart] using events
  | _ =>
      simpa [diff, DimensionDiff.changed, project, Apart] using
        diffSequence_complete_iff

end Dimension

/-- Nothing is reported of two bundles exactly where they have nothing to
report, as far as they differ by more than an entry that is null or missing and
by the type of a number.  The bundles are the same where their JSON is, the
types of numbers included; the differ asks Python's `==`, which is `pyEq`. -/
theorem comparison_complete_iff (left right : EvidenceBundle) :
    let changes := (EvidenceDiffer.compare left right).changes
    let report := DivergenceReporter.compare left right
    ((changes.finalState.changedCount = 0 ↔
        left.finalState = right.finalState) ↔
      ApartFields left.finalState right.finalState) ∧
    ((changes.eventTypes.changedCount = 0 ↔
        left.eventTypes = right.eventTypes) ↔
      ApartItems left.eventTypes right.eventTypes) ∧
    ((changes.toolLedger.changedCount = 0 ↔
        left.ledgerStatuses = right.ledgerStatuses) ↔
      ApartItems left.ledgerStatuses right.ledgerStatuses) ∧
    ∀ dimension : Dimension,
      (dimension ∉ report.changedDimensions ↔
        dimension.project left = dimension.project right) ↔
      dimension.Apart left right :=
  ⟨diffDict_complete_iff left.canonical_finalState right.canonical_finalState,
    diffSequence_complete_iff, diffSequence_complete_iff,
    fun _ => Dimension.unchanged_iff⟩

/-- The final state of a run whose agent left a note empty. -/
def notedBundle : EvidenceBundle where
  data := [("final_state",
    .obj [("approved", .bool true), ("note", .null)])]
  canonical := by
    refine ⟨nofun, ⟨?_, trivial, nofun, trivial, trivial⟩, trivial⟩
    exact Fields.above_of_keys ["note"] rfl (by decide)
  objects := by decide
  costs := rfl
  rows := by decide

/-- The same of an agent that wrote no note, and a number for the approval. -/
def plainBundle : EvidenceBundle where
  data := [("final_state", .obj [("approved", .int 1)])]
  canonical := ⟨nofun, ⟨nofun, trivial, trivial⟩, trivial⟩
  objects := by decide
  costs := rfl
  rows := by decide

theorem note_unnoticed :
    let report := EvidenceDiffer.compare notedBundle plainBundle
    report.changes.finalState.changedCount = 0 ∧
      (DivergenceReporter.compare notedBundle plainBundle).same = true ∧
      notedBundle.finalState ≠ plainBundle.finalState := by
  decide

end AgentLedger
