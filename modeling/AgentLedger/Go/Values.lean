import AgentLedger.Go.Clone
import AgentLedger.MergePatch

namespace AgentLedger.Go

open Foundation

/-! Objects of the Go port, as `encoding/json` decodes them: every object in
them is a `map[string]any`.  The order in which a map is iterated is left out,
as no function here depends on it. -/

mutual
/-- What the key holds after the patch. -/
def mergeMember (held : Option Json) : Json → Option Json
  | .null => none
  | .obj patch =>
      match held with
      | some (.obj base) => some (.obj (mergeEntries (cloneFields base) patch))
      | _ => some (cloneAny (.obj patch))
  | value => some (cloneAny value)

/-- The loop of `mergePatch`, over the clone of the base. -/
def mergeEntries (out : Fields) : List (String × Json) → Fields
  | [] => out
  | (key, value) :: rest =>
      mergeEntries
        (match mergeMember (Fields.get? out key) value with
          | some merged => Fields.set out key merged
          | none => Fields.erase out key) rest
end

mutual
theorem canonical_mergeMember {held : Option Json}
    (known : ∀ value ∈ held, value.Canonical) : (value : Json) →
      value.Canonical → ∀ merged ∈ mergeMember held value, merged.Canonical
  | .null, _, merged, member => by cases member
  | .bool value, own, merged, member => by
      cases member
      exact canonical_cloneAny (.bool value) own
  | .int value, own, merged, member => by
      cases member
      exact canonical_cloneAny (.int value) own
  | .float value, own, merged, member => by
      cases member
      exact canonical_cloneAny (.float value) own
  | .str value, own, merged, member => by
      cases member
      exact canonical_cloneAny (.str value) own
  | .arr items, own, merged, member => by
      cases member
      exact canonical_cloneAny (.arr items) own
  | .obj patch, own, merged, member => by
      unfold mergeMember at member
      split at member
      case h_1 base =>
          cases member
          exact canonical_mergeEntries _
            (canonical_cloneFields base (known (.obj base) rfl)) patch own
      case h_2 =>
          cases member
          exact canonical_cloneAny (.obj patch) own

theorem canonical_mergeEntries (out : Fields)
    (known : Json.CanonicalFields out) : (patch : List (String × Json)) →
      Json.CanonicalFields patch →
      Json.CanonicalFields (mergeEntries out patch)
  | [], _ => known
  | (key, value) :: rest, canonical => by
      obtain ⟨_, own, later⟩ := canonical
      have each : ∀ merged ∈ mergeMember (Fields.get? out key) value,
          merged.Canonical :=
        canonical_mergeMember
          (fun held found => known.value (Fields.mem_of_get? found)) value own
      rw [mergeEntries]
      split
      case h_1 merged same =>
          exact canonical_mergeEntries _ (known.set (each merged same)) rest
            later
      case h_2 => exact canonical_mergeEntries _ known.erase rest later
end

def mergePatch (base patch : JsonObject) : JsonObject where
  fields := mergeEntries (cloneFields base.fields) patch.fields
  canonical := canonical_mergeEntries _
    (canonical_cloneFields base.fields base.canonical) patch.fields
    patch.canonical

end AgentLedger.Go
