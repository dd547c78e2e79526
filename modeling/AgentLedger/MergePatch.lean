import AgentLedger.JsonUtil

namespace AgentLedger

open Foundation

/-! What a merge patch leaves under each key, and when the patch is all that is
left. -/

/-- What a patch leaves of a key that it has. -/
def mergedMember (held : Option Json) : Json → Option Json
  | .null => none
  | .obj fields => some (mergePatch (held.getD (.obj [])) (.obj fields))
  | value => some value

theorem nodup_keys {fields : Fields} (canonical : Json.CanonicalFields fields) :
    (fields.map Prod.fst).Nodup := by
  induction fields with
  | nil => exact .nil
  | cons field rest ih =>
      obtain ⟨key, value⟩ := field
      rw [Json.canonicalFields_iff] at canonical
      rw [List.map_cons, List.nodup_cons]
      refine ⟨?_, ih canonical.2.2⟩
      intro listed
      obtain ⟨field, member, same⟩ := List.mem_map.mp listed
      have above := canonical.1 field member
      rw [same] at above
      exact lt_irrefl _ above

theorem mem_keys_iff {fields : Fields} {key : String} :
    key ∈ fields.map Prod.fst ↔ ∃ value, Fields.get? fields key = some value := by
  induction fields with
  | nil => simp [Fields.get?]
  | cons field rest ih =>
      obtain ⟨first, held⟩ := field
      simp only [List.map_cons, List.mem_cons, ih, Fields.get?]
      split
      · rename_i same
        exact iff_of_true (.inl same.symm) ⟨held, rfl⟩
      · rename_i different
        exact or_iff_right (Ne.symm different)

theorem get?_none_of_not_mem {fields : Fields} {key : String}
    (missing : key ∉ fields.map Prod.fst) : Fields.get? fields key = none := by
  apply Option.eq_none_iff_forall_ne_some.mpr
  intro value found
  exact missing (mem_keys_iff.mpr ⟨value, found⟩)

theorem get?_mergeFields {fields : List (String × Json)} (held : Fields)
    (distinct : (fields.map Prod.fst).Nodup) (key : String) :
    Fields.get? (mergeFields held fields) key =
      match Fields.get? fields key with
      | none => Fields.get? held key
      | some value => mergedMember (Fields.get? held key) value := by
  induction fields generalizing held with
  | nil => simp [mergeFields, Fields.get?]
  | cons field rest ih =>
      obtain ⟨first, value⟩ := field
      rw [List.map_cons, List.nodup_cons] at distinct
      obtain ⟨fresh, later⟩ := distinct
      have next (result : Fields)
          (after : ∀ other, Fields.get? result other =
            if other = first then mergedMember (Fields.get? held first) value
            else Fields.get? held other) :
          Fields.get? (mergeFields result rest) key =
            match (if first = key then some value else Fields.get? rest key) with
            | none => Fields.get? held key
            | some value => mergedMember (Fields.get? held key) value := by
        rw [ih result later, after]
        by_cases same : first = key
        · subst same
          simp [get?_none_of_not_mem fresh]
        · simp [same, Ne.symm same]
      unfold mergeFields
      simp only [Fields.get?]
      apply next
      intro other
      cases value <;>
        simp only [Fields.get?_set, Fields.get?_erase, mergedMember]

theorem canonical_getD {held : Fields} {key : String}
    (known : Json.CanonicalFields held) :
    ((Fields.get? held key).getD (.obj [])).Canonical := by
  cases found : Fields.get? held key with
  | none => trivial
  | some old => exact known.value (Fields.mem_of_get? found)

theorem canonical_fields {target : Json} (known : target.Canonical) :
    Json.CanonicalFields target.fields := by
  cases target <;> first | exact known | trivial

mutual
theorem canonical_mergePatch : ∀ (target value : Json), target.Canonical →
    value.Canonical → (mergePatch target value).Canonical
  | target, .obj fields, known, own => by
      unfold mergePatch
      exact canonical_mergeFields _ fields (canonical_fields known) own
  | _, .null, _, _ => trivial
  | _, .bool _, _, _ => trivial
  | _, .int _, _, _ => trivial
  | _, .float _, _, _ => trivial
  | _, .str _, _, _ => trivial
  | _, .arr _, _, own => own

theorem canonical_mergeFields : ∀ (held : Fields) (fields : List (String × Json)),
    Json.CanonicalFields held → Json.CanonicalFields fields →
    Json.CanonicalFields (mergeFields held fields)
  | held, [], known, _ => known
  | held, (key, value) :: rest, known, own => by
      rw [Json.canonicalFields_iff] at own
      obtain ⟨_, inner, later⟩ := own
      unfold mergeFields
      apply canonical_mergeFields _ rest _ later
      cases value with
      | null => exact known.erase
      | obj fields =>
          apply known.set
          exact canonical_mergePatch _ (.obj fields) (canonical_getD known)
            inner
      | _ => exact known.set inner
end

mutual
/-- Nothing held survives the patch: it has every key that is held, at every
depth, and no null. -/
def Overwrites (held : Json) : Json → Prop
  | .obj fields =>
      (∀ field ∈ held.fields, field.1 ∈ fields.map Prod.fst) ∧
        OverwritesFields held.fields fields
  | _ => True

def OverwritesFields (held : Fields) : List (String × Json) → Prop
  | [] => True
  | (key, value) :: rest =>
      value ≠ .null ∧
      Overwrites ((Fields.get? held key).getD (.obj [])) value ∧
      OverwritesFields held rest
end

theorem overwritesFields_iff {held fields : Fields} :
    OverwritesFields held fields ↔ ∀ field ∈ fields, field.2 ≠ .null ∧
      Overwrites ((Fields.get? held field.1).getD (.obj [])) field.2 := by
  induction fields with
  | nil => simp [OverwritesFields]
  | cons field rest ih =>
      obtain ⟨key, value⟩ := field
      simp [OverwritesFields, ih, and_assoc]

theorem get?_of_mem {fields : Fields} {field : String × Json}
    (canonical : Json.CanonicalFields fields) (member : field ∈ fields) :
    Fields.get? fields field.1 = some field.2 := by
  induction fields with
  | nil => cases member
  | cons first rest ih =>
      obtain ⟨key, value⟩ := first
      rw [Json.canonicalFields_iff] at canonical
      simp only [Fields.get?]
      rcases List.mem_cons.mp member with same | later
      · rw [same, if_pos rfl]
      · rw [if_neg (ne_of_lt (canonical.1 field later))]
        exact ih canonical.2.2 later

theorem mergedMember_eq_iff {held : Option Json} {value : Json} :
    mergedMember held value = some value ↔
      value ≠ .null ∧ mergePatch (held.getD (.obj [])) value = value := by
  cases value <;> simp [mergedMember, mergePatch]

mutual
/-- The patch is all that is left exactly when it overwrites what is held. -/
theorem mergePatch_eq_iff : ∀ (value target : Json), target.Canonical →
    value.Canonical → (mergePatch target value = value ↔ Overwrites target value)
  | .obj fields, target, known, own => by
      have held := canonical_fields known
      have members := members_eq_iff fields own
      have lookup := get?_mergeFields target.fields (nodup_keys own)
      unfold mergePatch Overwrites
      rw [Json.obj.injEq, overwritesFields_iff]
      constructor
      · intro same
        rw [same] at lookup
        constructor
        · intro field member
          apply Classical.byContradiction
          intro missing
          have absent := get?_none_of_not_mem missing
          have kept := lookup field.1
          rw [absent, get?_of_mem held member] at kept
          cases kept
        · intro field member
          have found := get?_of_mem own member
          have left := lookup field.1
          simp only [found] at left
          have exact_ := mergedMember_eq_iff.mp left.symm
          refine ⟨exact_.1, ?_⟩
          apply (members field member _ ?_).mp exact_.2
          exact canonical_getD held
      · rintro ⟨covered, each⟩
        apply Json.CanonicalFields.ext
          (canonical_mergeFields _ _ held own) own
        intro key
        rw [lookup]
        cases found : Fields.get? fields key with
        | none =>
            apply Option.eq_none_iff_forall_ne_some.mpr
            intro value kept
            have listed := covered (key, value) (Fields.mem_of_get? kept)
            obtain ⟨other, present⟩ := mem_keys_iff.mp listed
            rw [found] at present
            cases present
        | some value =>
            have member := Fields.mem_of_get? found
            have overwrites := each (key, value) member
            apply mergedMember_eq_iff.mpr
            refine ⟨overwrites.1, ?_⟩
            apply (members (key, value) member _ ?_).mpr overwrites.2
            exact canonical_getD held
  | .null, _, _, _ => by simp [mergePatch, Overwrites]
  | .bool _, _, _, _ => by simp [mergePatch, Overwrites]
  | .int _, _, _, _ => by simp [mergePatch, Overwrites]
  | .float _, _, _, _ => by simp [mergePatch, Overwrites]
  | .str _, _, _, _ => by simp [mergePatch, Overwrites]
  | .arr _, _, _, _ => by simp [mergePatch, Overwrites]

theorem members_eq_iff : ∀ fields : List (String × Json),
    Json.CanonicalFields fields → ∀ field ∈ fields, ∀ target : Json,
      target.Canonical →
      (mergePatch target field.2 = field.2 ↔ Overwrites target field.2)
  | [], _, _, member => by cases member
  | (key, value) :: rest, own, field, member => by
      rw [Json.canonicalFields_iff] at own
      intro target known
      rcases List.mem_cons.mp member with same | later
      · rw [same]
        exact mergePatch_eq_iff value target known own.2.1
      · exact members_eq_iff rest own.2.2 field later target known
end

end AgentLedger
