import AgentLedger.Foundation.Json

namespace AgentLedger

open Foundation

/-! `jsonutil.py`: RFC 7396 merge patches. -/

mutual
/-- A patch that is no object replaces the target; a target that is no
object counts as an empty one. -/
def mergePatch (target : Json) : Json → Json
  | .obj patch => .obj (mergeFields target.fields patch)
  | patch => patch

/-- The loop over the items of the patch, from the result so far. -/
def mergeFields (result : Fields) : List (String × Json) → Fields
  | [] => result
  | (key, value) :: rest =>
      mergeFields
        (match value with
          | .null => result.erase key
          | .obj _ => result.set key
              (mergePatch ((result.get? key).getD (.obj [])) value)
          | _ => result.set key value)
        rest
end

/-! ### Patching an empty object

What is left of the patch is the patch without its null members, at every depth
that objects alone lead to: an array is taken as it is. -/

mutual
def stripNulls : Json → Json
  | .obj fields => .obj (stripFields fields)
  | value => value

def stripFields : List (String × Json) → Fields
  | [] => []
  | (key, value) :: rest =>
      match value with
      | .null => stripFields rest
      | _ => (key, stripNulls value) :: stripFields rest
end

mutual
/-- No object, however deep in objects, has a null member. -/
def NoNulls : Json → Prop
  | .obj fields => NoNullFields fields
  | _ => True

def NoNullFields : List (String × Json) → Prop
  | [] => True
  | (_, value) :: rest => value ≠ .null ∧ NoNulls value ∧ NoNullFields rest
end

private theorem below_append {held : Fields} {key : String} {value : Json}
    {rest : List (String × Json)}
    (below : ∀ first ∈ held, ∀ field ∈ (key, value) :: rest,
      first.1 < field.1)
    (above : Fields.Above key rest) (other : Json) :
    ∀ first ∈ held ++ [(key, other)], ∀ field ∈ rest, first.1 < field.1 := by
  intro first member field later
  rcases List.mem_append.mp member with early | last
  · exact below first early field (List.mem_cons_of_mem _ later)
  · rw [List.mem_singleton] at last
    subst last
    exact above field later

mutual
theorem mergePatch_empty : ∀ value : Json, value.Canonical →
    mergePatch (.obj []) value = stripNulls value
  | .obj fields, canonical => by
      have merged := mergeFields_above fields [] (by simp) canonical
      simpa [mergePatch, stripNulls, Json.fields] using merged
  | .null, _ => rfl
  | .bool _, _ => rfl
  | .int _, _ => rfl
  | .float _, _ => rfl
  | .str _, _ => rfl
  | .arr _, _ => rfl

/-- The keys of the patch come after those held, so nothing is overwritten. -/
theorem mergeFields_above : ∀ (fields : List (String × Json)) (held : Fields),
    (∀ first ∈ held, ∀ field ∈ fields, first.1 < field.1) →
    Json.CanonicalFields fields →
    mergeFields held fields = held ++ stripFields fields
  | [], held, _, _ => by simp [mergeFields, stripFields]
  | (key, value) :: rest, held, below, canonical => by
      obtain ⟨above, own, later⟩ := canonical
      have under : ∀ first ∈ held, first.1 < key := fun first member =>
        below first member (key, value) List.mem_cons_self
      have continued (other : Json) :
          mergeFields (held.set key other) rest =
            held ++ (key, other) :: stripFields rest := by
        rw [Fields.set_append_of_above other under,
          mergeFields_above rest _ (below_append below above other) later]
        simp
      cases value with
      | null =>
          have kept : held.erase key = held := by
            refine List.filter_eq_self.mpr fun first member => ?_
            simpa using ne_of_lt (under first member)
          simp only [mergeFields, stripFields, kept]
          exact mergeFields_above rest held (fun first member field present =>
            below first member field (List.mem_cons_of_mem _ present)) later
      | obj fields =>
          have inner := mergePatch_empty (.obj fields) own
          simp only [mergeFields, stripFields,
            Fields.get?_none_of_below under, Option.getD_none, inner]
          exact continued _
      | bool _ => exact continued _
      | int _ => exact continued _
      | float _ => exact continued _
      | str _ => exact continued _
      | arr _ => exact continued _
end

mutual
theorem stripNulls_eq_iff : ∀ value : Json,
    stripNulls value = value ↔ NoNulls value
  | .obj fields => by
      simp [stripNulls, NoNulls, stripFields_eq_iff fields]
  | .null => by simp [stripNulls, NoNulls]
  | .bool _ => by simp [stripNulls, NoNulls]
  | .int _ => by simp [stripNulls, NoNulls]
  | .float _ => by simp [stripNulls, NoNulls]
  | .str _ => by simp [stripNulls, NoNulls]
  | .arr _ => by simp [stripNulls, NoNulls]

theorem stripFields_length_le : ∀ fields : List (String × Json),
    (stripFields fields).length ≤ fields.length
  | [] => le_refl _
  | (key, value) :: rest => by
      have shorter := stripFields_length_le rest
      cases value with
      | null => exact Nat.le_succ_of_le shorter
      | _ => exact Nat.succ_le_succ shorter

theorem stripFields_eq_iff : ∀ fields : List (String × Json),
    stripFields fields = fields ↔ NoNullFields fields
  | [] => by simp [stripFields, NoNullFields]
  | (key, value) :: rest => by
      have own := stripNulls_eq_iff value
      have later := stripFields_eq_iff rest
      cases value with
      | null =>
          simp only [stripFields, NoNullFields, ne_eq, not_true, false_and,
            iff_false]
          intro same
          have shorter := stripFields_length_le rest
          rw [same, List.length_cons] at shorter
          omega
      | _ => simp [stripFields, NoNullFields, own, later]
end

/-- Patching an empty object reproduces the value unless a null goes lost. -/
theorem mergePatch_empty_eq_iff {value : Json} (canonical : value.Canonical) :
    mergePatch (.obj []) value = value ↔ NoNulls value := by
  rw [mergePatch_empty value canonical, stripNulls_eq_iff]

end AgentLedger
