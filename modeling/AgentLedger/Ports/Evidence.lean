import AgentLedger.EvidenceDiff
import AgentLedger.Foundation.TreeText
import AgentLedger.Rust.Json

namespace AgentLedger

open Foundation

/-! What the golden regression gates of the ports have in common. -/

namespace Rust.F64

def neg (number : F64) : F64 := ⟨number.bits ^^^ (1#64 <<< 63)⟩

def sub (first second : F64) : F64 := first.add second.neg

theorem tree_json (number : F64) : number.json.tree = .number number.toRat := by
  unfold json
  split
  · rename_i integral
    rw [Json.tree, Rat.coe_int_num_of_den_eq_one integral]
  · rfl

end Rust.F64

namespace Ports

structure EvidenceCheck where
  name : String
  passed : Bool
  detail : String

structure EvidenceCheckReport (Metadata : Type) where
  passed : Bool
  checks : List EvidenceCheck
  metadata : Metadata

def EvidenceCheckReport.ofChecks {Metadata : Type}
    (checks : List EvidenceCheck) (metadata : Metadata) :
    EvidenceCheckReport Metadata where
  passed := checks.all EvidenceCheck.passed
  checks := checks
  metadata := metadata

/-- An entry that is missing is `none`. -/
structure DictDiff where
  changedCount : Nat
  changed : List (String × Option Json × Option Json)

structure SequenceDiff where
  leftCount : Nat
  rightCount : Nat
  changedCount : Nat
  changed : List (Nat × Json × Json)

/-! ### Comparison by texts -/

section Texts

variable {Text : Type} [DecidableEq Text] (text : Option Json → Text)

/-- The members under these keys. -/
def diffDict (keys : List String) (left right : Fields) : DictDiff :=
  let changed := keys.filterMap fun key =>
    let first := Fields.get? left key
    let second := Fields.get? right key
    if text first = text second then none else some (key, first, second)
  { changedCount := changed.length
    changed := changed }

def diffSequence (left right : List Json) : SequenceDiff :=
  let changed := (List.range (max left.length right.length)).filterMap
    fun index =>
      if text left[index]? = text right[index]? then none
      else some (index, left[index]?.getD .null, right[index]?.getD .null)
  { leftCount := left.length
    rightCount := right.length
    changedCount := changed.length
    changed := changed }

variable {text}

theorem diffDict_unchanged_iff {keys : List String} {left right : Fields} :
    (diffDict text keys left right).changedCount = 0 ↔
      ∀ key ∈ keys, text (Fields.get? left key) =
        text (Fields.get? right key) := by
  simp [diffDict, List.filterMap_eq_nil_iff]

theorem diffSequence_unchanged_iff {left right : List Json} :
    (diffSequence text left right).changedCount = 0 ↔
      ∀ index : Nat, text left[index]? = text right[index]? := by
  simp only [diffSequence, List.length_eq_zero_iff, List.filterMap_eq_nil_iff,
    ite_eq_left_iff, reduceCtorEq, imp_false, not_not, List.mem_range,
    lt_max_iff]
  constructor
  · intro unchanged index
    by_cases inside : index < left.length ∨ index < right.length
    · exact unchanged index inside
    · simp only [not_or, not_lt] at inside
      rw [List.getElem?_eq_none inside.1, List.getElem?_eq_none inside.2]
  · intro unchanged index _
    exact unchanged index

theorem diffSequence_unchanged_iff_map {left right : List Json}
    (present : ∀ value, value ∈ left ∨ value ∈ right →
      text (some value) ≠ text none) :
    (diffSequence text left right).changedCount = 0 ↔
      left.map (fun value => text (some value)) =
        right.map fun value => text (some value) := by
  rw [diffSequence_unchanged_iff]
  constructor
  · intro unchanged
    apply List.ext_getElem?
    intro index
    have same := unchanged index
    rw [List.getElem?_map, List.getElem?_map]
    cases first : left[index]? with
    | none =>
        cases second : right[index]? with
        | none => rfl
        | some value =>
            rw [first, second] at same
            have member := List.mem_of_getElem? second
            exact absurd same.symm (present value (.inr member))
    | some value =>
        cases second : right[index]? with
        | none =>
            rw [first, second] at same
            have member := List.mem_of_getElem? first
            exact absurd same (present value (.inl member))
        | some other =>
            rw [first, second] at same
            exact congrArg some same
  · intro same index
    have here := congrArg (fun texts => texts[index]?) same
    simp only [List.getElem?_map] at here
    cases first : left[index]? with
    | none =>
        cases second : right[index]? with
        | none => rfl
        | some value =>
            rw [first, second] at here
            cases here
    | some value =>
        cases second : right[index]? with
        | none =>
            rw [first, second] at here
            cases here
        | some other =>
            rw [first, second] at here
            exact Option.some.inj here

end Texts

/-! ### What the gate is about -/

def mediaKeys : List String :=
  ["name", "kind", "uri", "content_ref", "blob_hash", "lineage"]

def streamKeys : List String :=
  ["name", "stream_id", "consumer_id", "offset", "watermark", "chunk",
    "partial_result_ref"]

/-- The members of a row under the keys, as JSON. -/
def projection (keys : List String) (row : Fields) :
    List (Option (JsonTree Rat)) :=
  keys.map fun key => (Fields.get? row key).map Json.tree

/-- What two runs are compared by: as JSON, and without generated ids. -/
@[ext] structure EvidenceView where
  finalState : JsonTree Rat
  eventTypes : List String
  ledgerStatuses : List String
  mediaArtifacts : List (List (Option (JsonTree Rat)))
  streamCheckpoints : List (List (Option (JsonTree Rat)))

theorem objectTree_eq_iff {first second : JsonObject} :
    first.value.tree = second.value.tree ↔
      ∀ key, (Fields.get? first.fields key).map Json.tree =
        (Fields.get? second.fields key).map Json.tree := by
  rw [← Json.treeFields_eq_iff first.canonical second.canonical]
  simp [JsonObject.value, Json.tree]

theorem map_eq_map_iff {α β γ : Type} {whole : α → β} {part : α → γ}
    (alike : ∀ first second, whole first = whole second ↔
      part first = part second) {left right : List α} :
    left.map whole = right.map whole ↔ left.map part = right.map part := by
  induction left generalizing right with
  | nil => cases right <;> simp
  | cons first left ih =>
      cases right with
      | nil => simp
      | cons second right =>
          simp only [List.map_cons, List.cons.injEq, alike, ih]

theorem map_eq_map_iff_and {α β γ δ : Type} {whole : α → β} {part : α → γ}
    {other : α → δ}
    (split : ∀ first second, whole first = whole second ↔
      part first = part second ∧ other first = other second)
    {left right : List α} :
    left.map whole = right.map whole ↔
      left.map part = right.map part ∧ left.map other = right.map other := by
  induction left generalizing right with
  | nil => cases right <;> simp
  | cons first left ih =>
      cases right with
      | nil => simp
      | cons second right =>
          simp only [List.map_cons, List.cons.injEq, split, ih]
          constructor
          · rintro ⟨⟨parts, others⟩, later, last⟩
            exact ⟨⟨parts, later⟩, others, last⟩
          · rintro ⟨⟨parts, later⟩, others, last⟩
            exact ⟨⟨parts, others⟩, later, last⟩

end Ports

end AgentLedger
