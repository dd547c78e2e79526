import AgentLedger.Go.Values
import AgentLedger.Rust.Json
import AgentLedger.Rust.Memory.Operations
import AgentLedger.TypeScript.Values

namespace AgentLedger.Ports

open Foundation

/-! State merging in the four languages. -/

mutual
/-- RFC 7396. -/
def rfcMerge (target : Json) : Json → Json
  | .obj patch => .obj (rfcMembers target.fields patch)
  | patch => patch

def rfcMembers (target : Fields) : List (String × Json) → Fields
  | [] => target
  | (name, value) :: rest =>
      rfcMembers
        (if value = .null then Fields.erase target name
          else Fields.set target name
            (rfcMerge ((Fields.get? target name).getD .null) value)) rest
end

mutual
/-- The reference runtime merges as the RFC says. -/
theorem mergePatch_eq_rfc : (value target : Json) →
    mergePatch target value = rfcMerge target value
  | .obj patch, target =>
      congrArg Json.obj (mergeFields_eq_rfc patch target.fields)
  | .null, _ => rfl
  | .bool _, _ => rfl
  | .int _, _ => rfl
  | .float _, _ => rfl
  | .str _, _ => rfl
  | .arr _, _ => rfl

theorem mergeFields_eq_rfc : (patch : List (String × Json)) →
    (held : Fields) → mergeFields held patch = rfcMembers held patch
  | [], _ => rfl
  | (key, value) :: rest, held => by
      unfold mergeFields rfcMembers
      rw [mergeFields_eq_rfc rest]
      congr 1
      cases value with
      | null => rfl
      | obj patch =>
          have target : ((Fields.get? held key).getD (.obj [])).fields =
              ((Fields.get? held key).getD .null).fields := by
            cases Fields.get? held key <;> rfl
          rw [if_neg nofun, mergePatch, rfcMerge, target,
            mergeFields_eq_rfc patch]
      | bool _ | int _ | float _ | str _ | arr _ => rfl
end

/-! ### What the ports do

Go and Rust do the same, but for the clones that Go makes. -/

mutual
/-- What the key holds after the patch. -/
def setMember (held : Option Json) : Json → Option Json
  | .null => none
  | .obj patch =>
      match held with
      | some (.obj base) => some (.obj (setEntries base patch))
      | _ => some (.obj patch)
  | value => some value

def setEntries (out : Fields) : List (String × Json) → Fields
  | [] => out
  | (key, value) :: rest =>
      setEntries
        (match setMember (Fields.get? out key) value with
          | some merged => Fields.set out key merged
          | none => Fields.erase out key) rest
end

mutual
theorem canonical_setMember {held : Option Json}
    (known : ∀ value ∈ held, value.Canonical) : (value : Json) →
      value.Canonical → ∀ merged ∈ setMember held value, merged.Canonical
  | .null, _, merged, member => by cases member
  | .bool _, own, merged, member => by
      cases member
      exact own
  | .int _, own, merged, member => by
      cases member
      exact own
  | .float _, own, merged, member => by
      cases member
      exact own
  | .str _, own, merged, member => by
      cases member
      exact own
  | .arr _, own, merged, member => by
      cases member
      exact own
  | .obj patch, own, merged, member => by
      unfold setMember at member
      split at member
      case h_1 base =>
          cases member
          exact canonical_setEntries base (known (.obj base) rfl) patch own
      case h_2 =>
          cases member
          exact own

theorem canonical_setEntries (out : Fields)
    (known : Json.CanonicalFields out) : (patch : List (String × Json)) →
      Json.CanonicalFields patch →
      Json.CanonicalFields (setEntries out patch)
  | [], _ => known
  | (key, value) :: rest, canonical => by
      obtain ⟨_, own, later⟩ := canonical
      have each : ∀ merged ∈ setMember (Fields.get? out key) value,
          merged.Canonical :=
        canonical_setMember
          (fun held found => known.value (Fields.mem_of_get? found)) value own
      rw [setEntries]
      split
      case h_1 merged same =>
          exact canonical_setEntries _ (known.set (each merged same)) rest
            later
      case h_2 => exact canonical_setEntries _ known.erase rest later
end

theorem get?_setEntries {patch : List (String × Json)} (out : Fields)
    (distinct : (patch.map Prod.fst).Nodup) (key : String) :
    Fields.get? (setEntries out patch) key =
      match Fields.get? patch key with
      | none => Fields.get? out key
      | some value => setMember (Fields.get? out key) value := by
  induction patch generalizing out with
  | nil => rfl
  | cons entry rest ih =>
      obtain ⟨first, value⟩ := entry
      obtain ⟨fresh, later⟩ := List.nodup_cons.mp distinct
      rw [setEntries, ih _ later, Fields.get?]
      have after : Fields.get?
          (match setMember (Fields.get? out first) value with
            | some merged => Fields.set out first merged
            | none => Fields.erase out first) key =
          if key = first then setMember (Fields.get? out first) value
          else Fields.get? out key := by
        split
        · rename_i merged same
          rw [Fields.get?_set, same]
        · rename_i same
          rw [Fields.get?_erase, same]
      rw [after]
      by_cases same : first = key
      · subst same
        rw [get?_none_of_not_mem fresh, if_pos rfl, if_pos rfl]
      · rw [if_neg same, if_neg (Ne.symm same)]

theorem object_or_unmet (held : Option Json) :
    (∃ base, held = some (.obj base)) ∨
      ∀ base, held ≠ some (.obj base) := by
  by_cases object : ∃ base, held = some (.obj base)
  · exact .inl object
  · exact .inr fun base same => object ⟨base, same⟩

theorem unmet_none (base : Fields) : (none : Option Json) ≠ some (.obj base) :=
  nofun

theorem setMember_unmet {held : Option Json} {patch : List (String × Json)}
    (unmet : ∀ base, held ≠ some (.obj base)) :
    setMember held (.obj patch) = some (.obj patch) := by
  rw [setMember]
  exact unmet

private theorem cloned_unmet {held : Option Json}
    (unmet : ∀ base, held ≠ some (.obj base)) (base : Fields) :
    held.map Go.cloneAny ≠ some (.obj base) := by
  intro same
  obtain ⟨value, rfl, shown⟩ := Option.map_eq_some_iff.mp same
  cases value with
  | obj fields => exact unmet fields rfl
  | int value | float value =>
      rw [Go.cloneAny] at shown
      split at shown <;> cases shown
  | null | bool _ | str _ | arr _ => cases shown

mutual
theorem go_member : (value : Json) → (held : Option Json) →
    Go.mergeMember (held.map Go.cloneAny) value =
      (setMember held value).map Go.cloneAny
  | .null, _ => rfl
  | .bool _, _ => rfl
  | .int _, _ => rfl
  | .float _, _ => rfl
  | .str _, _ => rfl
  | .arr _, _ => rfl
  | .obj patch, held => by
      rcases object_or_unmet held with ⟨base, rfl⟩ | unmet
      · rw [setMember, Option.map_some, Option.map_some, Go.cloneAny,
          Go.cloneAny, Go.mergeMember, Go.cloneFields_cloneFields,
          go_entries patch base]
      · rw [setMember_unmet unmet, Go.mergeMember]
        · rfl
        · exact cloned_unmet unmet

/-- Go clones before, in between and after; a clone of all that is merged comes
to the same. -/
theorem go_entries : (patch : List (String × Json)) → (out : Fields) →
    Go.mergeEntries (Go.cloneFields out) patch =
      Go.cloneFields (setEntries out patch)
  | [], _ => rfl
  | (key, value) :: rest, out => by
      have member := go_member value (Fields.get? out key)
      rw [← Go.get?_cloneFields] at member
      rw [Go.mergeEntries, setEntries, member, ← go_entries rest]
      cases setMember (Fields.get? out key) value with
      | none =>
          exact congrArg (fun out => Go.mergeEntries out rest)
            (Go.cloneFields_erase out key).symm
      | some merged =>
          exact congrArg (fun out => Go.mergeEntries out rest)
            (Go.cloneFields_set out key merged).symm
end

/-! ### Where the ports merge so -/

mutual
/-- An object of the patch that meets no object has no null, however deep in
objects. -/
def Meets (held : Option Json) : Json → Prop
  | .obj patch =>
      match held with
      | some (.obj base) => MeetsFields base patch
      | _ => NoNullFields patch
  | _ => True

def MeetsFields (base : Fields) : List (String × Json) → Prop
  | [] => True
  | (key, value) :: rest =>
      Meets (Fields.get? base key) value ∧ MeetsFields base rest
end

section Keeps

variable (good : Json → Prop)

mutual
/-- What the patch sets is good, and what it leaves of the objects that it is
merged with. -/
def Keeps (held : Option Json) : Json → Prop
  | .null => True
  | .obj patch =>
      match held with
      | some (.obj base) =>
          KeepsFields base patch ∧
            ∀ field ∈ base, Fields.get? patch field.1 = none → good field.2
      | _ => good (.obj patch)
  | value => good value

def KeepsFields (base : Fields) : List (String × Json) → Prop
  | [] => True
  | (key, value) :: rest =>
      Keeps (Fields.get? base key) value ∧ KeepsFields base rest
end

end Keeps

mutual
/-- What the patch has under `__proto__` is null, or meets a member of that
name. -/
def KeepsPrototype (held : Option Json) : Json → Prop
  | .obj patch =>
      match held with
      | some (.obj base) => KeepsPrototypeFields base patch
      | _ => True
  | _ => True

def KeepsPrototypeFields (base : Fields) : List (String × Json) → Prop
  | [] => True
  | (key, value) :: rest =>
      (key = "__proto__" → value = .null ∨ Fields.get? base key ≠ none) ∧
      KeepsPrototype (Fields.get? base key) value ∧
      KeepsPrototypeFields base rest
end

theorem meetsFields_iff {base : Fields} {patch : List (String × Json)} :
    MeetsFields base patch ↔
      ∀ field ∈ patch, Meets (Fields.get? base field.1) field.2 := by
  induction patch with
  | nil => simp [MeetsFields]
  | cons field rest ih =>
      rw [MeetsFields, ih, List.forall_mem_cons]

theorem keepsFields_iff {good : Json → Prop} {base : Fields}
    {patch : List (String × Json)} : KeepsFields good base patch ↔
      ∀ field ∈ patch, Keeps good (Fields.get? base field.1) field.2 := by
  induction patch with
  | nil => simp [KeepsFields]
  | cons field rest ih =>
      rw [KeepsFields, ih, List.forall_mem_cons]

theorem keepsPrototypeFields_iff {base : Fields}
    {patch : List (String × Json)} : KeepsPrototypeFields base patch ↔
      ∀ field ∈ patch, (field.1 = "__proto__" →
        field.2 = .null ∨ Fields.get? base field.1 ≠ none) ∧
        KeepsPrototype (Fields.get? base field.1) field.2 := by
  induction patch with
  | nil => simp [KeepsPrototypeFields]
  | cons field rest ih =>
      rw [KeepsPrototypeFields, ih, List.forall_mem_cons, and_assoc]

theorem noNullFields_iff {fields : List (String × Json)} :
    NoNullFields fields ↔
      ∀ field ∈ fields, field.2 ≠ .null ∧ NoNulls field.2 := by
  induction fields with
  | nil => simp [NoNullFields]
  | cons field rest ih =>
      rw [NoNullFields, ih, List.forall_mem_cons, and_assoc]

/-- An object that adds nothing to the base and the patch is the merged one
exactly when it has what the RFC leaves under each key of the patch, and what
the base has under each other key. -/
theorem merged_iff {base patch result : Fields}
    (base_canonical : Json.CanonicalFields base)
    (patch_canonical : Json.CanonicalFields patch)
    (canonical : Json.CanonicalFields result)
    (added : ∀ key, Fields.get? patch key = none →
      Fields.get? base key = none → Fields.get? result key = none) :
    result = mergeFields base patch ↔
      (∀ field ∈ patch, Fields.get? result field.1 =
        mergedMember (Fields.get? base field.1) field.2) ∧
      ∀ field ∈ base, Fields.get? patch field.1 = none →
        Fields.get? result field.1 = some field.2 := by
  have lookup := get?_mergeFields base (nodup_keys patch_canonical)
  constructor
  · rintro rfl
    constructor
    · intro field member
      rw [lookup, get?_of_mem patch_canonical member]
    · intro field member missing
      rw [lookup, missing, get?_of_mem base_canonical member]
  · rintro ⟨each, others⟩
    apply Json.CanonicalFields.ext canonical
      (canonical_mergeFields _ _ base_canonical patch_canonical)
    intro key
    rw [lookup]
    cases found : Fields.get? patch key with
    | some value => exact each (key, value) (Fields.mem_of_get? found)
    | none =>
        cases held : Fields.get? base key with
        | none => exact added key found held
        | some value =>
            exact others (key, value) (Fields.mem_of_get? held) found

theorem meets_unmet {held : Option Json} {patch : List (String × Json)}
    (unmet : ∀ base, held ≠ some (.obj base)) :
    Meets held (.obj patch) ↔ NoNullFields patch := by
  unfold Meets
  split
  case h_1 base => exact absurd rfl (unmet base)
  case h_2 => exact Iff.rfl

theorem keeps_unmet {good : Json → Prop} {held : Option Json}
    {patch : List (String × Json)}
    (unmet : ∀ base, held ≠ some (.obj base)) :
    Keeps good held (.obj patch) ↔ good (.obj patch) := by
  unfold Keeps
  split
  case h_1 base => exact absurd rfl (unmet base)
  case h_2 => exact Iff.rfl

/-- Where the patch meets no object, it is stripped of its nulls. -/
theorem mergedMember_unmet {held : Option Json} {patch : Fields}
    (unmet : ∀ base, held ≠ some (.obj base)) :
    mergedMember held (.obj patch) = some (.obj (mergeFields [] patch)) := by
  have nothing : (held.getD (.obj [])).fields = [] := by
    cases held with
    | none => rfl
    | some value =>
        cases value with
        | obj base => exact absurd rfl (unmet base)
        | null | bool _ | int _ | float _ | str _ | arr _ => rfl
  rw [mergedMember, mergePatch, nothing]

/-! ### Copies -/

/-- A copy that goes through the members of objects, and leaves the good values
as they are. -/
structure Copies (copy : Json → Json) (good : Json → Prop) : Prop where
  object : ∀ fields, copy (.obj fields) =
    .obj (fields.map fun field => (field.1, copy field.2))
  fixed : ∀ value, copy value = value ↔ good value
  canonical : ∀ value, value.Canonical → (copy value).Canonical

theorem copies_id : Copies id fun _ => True where
  object fields := by
    exact congrArg Json.obj (List.map_id' fields).symm
  fixed _ := iff_of_true rfl trivial
  canonical _ own := own

theorem copies_clone : Copies Go.cloneAny Go.Doubles where
  object fields := by
    rw [Go.cloneAny, Go.cloneFields_eq_map]
  fixed := Go.cloneAny_eq_iff
  canonical := Go.canonical_cloneAny

section Copies

variable {copy : Json → Json} {good : Json → Prop}

theorem get?_map_copy (fields : List (String × Json)) (key : String) :
    Fields.get? (fields.map fun field => (field.1, copy field.2)) key =
      (Fields.get? fields key).map copy := by
  induction fields with
  | nil => rfl
  | cons field rest ih =>
      rw [List.map_cons, Fields.get?, Fields.get?, ih]
      split <;> rfl

variable (copies : Copies copy good)

include copies

theorem Copies.good_object {fields : List (String × Json)} :
    good (.obj fields) ↔ ∀ field ∈ fields, good field.2 := by
  rw [← copies.fixed, copies.object, Json.obj.injEq]
  induction fields with
  | nil => simp
  | cons field rest ih =>
      rw [List.map_cons, List.cons.injEq, ih, List.forall_mem_cons,
        ← copies.fixed, Prod.ext_iff, eq_self_iff_true, true_and]

theorem Copies.canonical_fields {fields : Fields}
    (canonical : Json.CanonicalFields fields) :
    Json.CanonicalFields (fields.map fun field => (field.1, copy field.2)) := by
  have whole := copies.canonical (.obj fields) canonical
  rwa [copies.object] at whole

mutual
/-- A copy of a member that meets nothing is what the RFC leaves of it exactly
when there are no nulls to strip and all is good. -/
theorem copied_iff : (value : Json) → value.Canonical →
    (some (copy value) = mergedMember none value ↔
      value ≠ .null ∧ NoNulls value ∧ good value)
  | .null, _ => iff_of_false nofun fun present => present.1 rfl
  | .bool value, _ => by
      rw [mergedMember, Option.some.injEq, copies.fixed]
      · exact (and_iff_right nofun).trans (and_iff_right trivial) |>.symm
      all_goals exact nofun
  | .int value, _ => by
      rw [mergedMember, Option.some.injEq, copies.fixed]
      · exact (and_iff_right nofun).trans (and_iff_right trivial) |>.symm
      all_goals exact nofun
  | .float value, _ => by
      rw [mergedMember, Option.some.injEq, copies.fixed]
      · exact (and_iff_right nofun).trans (and_iff_right trivial) |>.symm
      all_goals exact nofun
  | .str value, _ => by
      rw [mergedMember, Option.some.injEq, copies.fixed]
      · exact (and_iff_right nofun).trans (and_iff_right trivial) |>.symm
      all_goals exact nofun
  | .arr value, _ => by
      rw [mergedMember, Option.some.injEq, copies.fixed]
      · exact (and_iff_right nofun).trans (and_iff_right trivial) |>.symm
      all_goals exact nofun
  | .obj fields, own => by
      have members := copied_members fields own
      have added : ∀ key, Fields.get? fields key = none →
          Fields.get? [] key = none →
            Fields.get? (fields.map fun field => (field.1, copy field.2)) key =
              none := by
        intro key missing _
        rw [get?_map_copy, missing]
        rfl
      rw [mergedMember_unmet unmet_none, copies.object, Option.some.injEq,
        Json.obj.injEq, @merged_iff [] fields _ trivial own
          (copies.canonical_fields own) added,
        NoNulls, noNullFields_iff, copies.good_object, ← forall₂_and]
      refine (and_iff_left nofun).trans ((forall₂_congr ?_).trans
        (and_iff_right nofun).symm)
      intro field member
      rw [get?_map_copy, get?_of_mem own member, Option.map_some, Fields.get?,
        members field member, and_assoc]

theorem copied_members : (fields : List (String × Json)) →
    Json.CanonicalFields fields → ∀ field ∈ fields,
      (some (copy field.2) = mergedMember none field.2 ↔
        field.2 ≠ .null ∧ NoNulls field.2 ∧ good field.2)
  | [], _, _, member => by cases member
  | (key, value) :: rest, own, field, member => by
      rcases List.mem_cons.mp member with rfl | later
      · exact copied_iff value own.2.1
      · exact copied_members rest own.2.2 field later
end

/-- An object that meets none is copied as the RFC has it exactly when it has no
nulls, and all is good. -/
theorem copied_unmet_iff {held : Option Json} {patch : Fields}
    (canonical : Json.CanonicalFields patch)
    (unmet : ∀ base, held ≠ some (.obj base)) :
    some (copy (.obj patch)) = mergedMember held (.obj patch) ↔
      NoNullFields patch ∧ good (.obj patch) := by
  rw [mergedMember_unmet unmet, ← mergedMember_unmet unmet_none,
    copied_iff copies (.obj patch) canonical]
  exact and_iff_right nofun

mutual
theorem member_iff : (value : Json) → value.Canonical →
    (held : Option Json) → (∀ value ∈ held, value.Canonical) →
      ((setMember held value).map copy = mergedMember held value ↔
        Meets held value ∧ Keeps good held value)
  | .null, _, _, _ => iff_of_true rfl ⟨trivial, trivial⟩
  | .bool value, _, _, _ =>
      (Option.some_inj.trans (copies.fixed (.bool value))).trans
        (and_iff_right trivial).symm
  | .int value, _, _, _ =>
      (Option.some_inj.trans (copies.fixed (.int value))).trans
        (and_iff_right trivial).symm
  | .float value, _, _, _ =>
      (Option.some_inj.trans (copies.fixed (.float value))).trans
        (and_iff_right trivial).symm
  | .str value, _, _, _ =>
      (Option.some_inj.trans (copies.fixed (.str value))).trans
        (and_iff_right trivial).symm
  | .arr items, _, _, _ =>
      (Option.some_inj.trans (copies.fixed (.arr items))).trans
        (and_iff_right trivial).symm
  | .obj patch, own, held, known => by
      rcases object_or_unmet held with ⟨base, rfl⟩ | unmet
      · have base_canonical : Json.CanonicalFields base := known (.obj base) rfl
        have members := members_iff patch own
        have result := copies.canonical_fields
          (canonical_setEntries base base_canonical patch own)
        have lookup := get?_setEntries base (nodup_keys own)
        rw [setMember, Option.map_some, copies.object, Meets, Keeps,
          mergedMember, mergePatch, Option.getD_some, Json.fields,
          Option.some.injEq, Json.obj.injEq,
          merged_iff base_canonical own result, meetsFields_iff,
          keepsFields_iff, ← and_assoc, ← forall₂_and]
        · apply and_congr
          · apply forall₂_congr
            intro field member
            rw [get?_map_copy, lookup, get?_of_mem own member]
            apply members field member
            intro value found
            exact base_canonical.value (Fields.mem_of_get? found)
          · apply forall₂_congr
            intro field member
            apply forall_congr'
            intro missing
            rw [get?_map_copy, lookup, missing,
              get?_of_mem base_canonical member, Option.map_some,
              Option.some_inj, copies.fixed]
        · intro key missing absent
          rw [get?_map_copy, lookup, missing, absent]
          rfl
      · rw [setMember_unmet unmet, meets_unmet unmet, keeps_unmet unmet,
          Option.map_some]
        exact copied_unmet_iff copies own unmet

theorem members_iff : (patch : List (String × Json)) →
    Json.CanonicalFields patch → ∀ field ∈ patch, ∀ held : Option Json,
      (∀ value ∈ held, value.Canonical) →
      ((setMember held field.2).map copy = mergedMember held field.2 ↔
        Meets held field.2 ∧ Keeps good held field.2)
  | [], _, _, member => by cases member
  | (key, value) :: rest, own, field, member => by
      intro held known
      rcases List.mem_cons.mp member with rfl | later
      · exact member_iff value own.2.1 held known
      · exact members_iff rest own.2.2 field later held known
end

theorem merge_iff (base patch : JsonObject) :
    copy (.obj (setEntries base.fields patch.fields)) =
        rfcMerge base.value patch.value ↔
      Meets (some base.value) patch.value ∧
        Keeps good (some base.value) patch.value := by
  have each := member_iff copies patch.value patch.canonical (some base.value)
    fun value same => Option.some.inj same ▸ base.canonical
  rw [JsonObject.value, JsonObject.value, setMember, Option.map_some,
    mergedMember, Option.some.injEq, Option.getD_some, mergePatch_eq_rfc] at each
  exact each

end Copies

/-! ### Go -/

theorem go_merge (base patch : JsonObject) :
    (Go.mergePatch base patch).value =
      Go.cloneAny (.obj (setEntries base.fields patch.fields)) := by
  rw [Go.cloneAny]
  exact congrArg Json.obj (go_entries patch.fields base.fields)

theorem go_merge_iff (base patch : JsonObject) :
    (Go.mergePatch base patch).value = rfcMerge base.value patch.value ↔
      MeetsFields base.fields patch.fields ∧
        Keeps Go.Doubles (some base.value) patch.value := by
  rw [go_merge]
  exact merge_iff copies_clone base patch

/-! ### Rust -/

private theorem rust_object {held : Option Rust.Value} {base : Fields}
    (same : held.map Rust.Value.json = some (.obj base)) :
    ∃ entries, held = some (.object entries) ∧
      Rust.jsonEntries entries = base := by
  obtain ⟨value, rfl, shown⟩ := Option.map_eq_some_iff.mp same
  cases value with
  | object entries => exact ⟨entries, rfl, Json.obj.inj shown⟩
  | number value =>
      rcases value.json_cases with ⟨_, shape⟩ | ⟨_, shape⟩ <;>
        (rw [Rust.Value.json, shape] at shown; cases shown)
  | null | bool _ | string _ | array _ => cases shown

mutual
theorem rust_member : (value : Rust.Value) → (held : Option Rust.Value) →
    (Rust.mergeValue held value).map Rust.Value.json =
      setMember (held.map Rust.Value.json) value.json
  | .null, _ => rfl
  | .bool _, _ => rfl
  | .string _, _ => rfl
  | .array _, _ => rfl
  | .number value, _ => by
      rcases value.json_cases with ⟨_, shape⟩ | ⟨_, shape⟩ <;>
        (rw [Rust.mergeValue, Option.map_some, Rust.Value.json, shape]
         · rfl
         all_goals exact nofun)
  | .object patch, held => by
      rcases object_or_unmet (held.map Rust.Value.json) with
        ⟨base, found⟩ | unmet
      · obtain ⟨entries, rfl, rfl⟩ := rust_object found
        exact congrArg (fun fields => some (Json.obj fields))
          (rust_entries patch entries)
      · rw [Rust.Value.json, setMember_unmet unmet]
        unfold Rust.mergeValue
        split
        case h_1 entries => exact absurd rfl (unmet (Rust.jsonEntries entries))
        case h_2 => rfl

theorem rust_entries : (patch base : List (String × Rust.Value)) →
    Rust.jsonEntries (Rust.mergeEntries base patch) =
      setEntries (Rust.jsonEntries base) (Rust.jsonEntries patch)
  | [], _ => rfl
  | (key, value) :: rest, base => by
      have member := rust_member value (Entries.get? key base)
      rw [← Rust.get?_jsonEntries] at member
      rw [Rust.mergeEntries, Rust.jsonEntries, setEntries, ← member,
        rust_entries rest]
      cases Rust.mergeValue (Entries.get? key base) value with
      | none =>
          exact congrArg (fun out => setEntries out _)
            (Rust.jsonEntries_erase base key)
      | some merged =>
          exact congrArg (fun out => setEntries out _)
            (Rust.jsonEntries_insert base key merged)
end

mutual
private theorem keeps_all : (value : Json) → (held : Option Json) →
    Keeps (fun _ => True) held value
  | .obj patch, held => by
      rcases object_or_unmet held with ⟨base, rfl⟩ | unmet
      · exact ⟨keepsFields_all patch base, fun _ _ _ => trivial⟩
      · exact (keeps_unmet unmet).mpr trivial
  | .null, _ => trivial
  | .bool _, _ => trivial
  | .int _, _ => trivial
  | .float _, _ => trivial
  | .str _, _ => trivial
  | .arr _, _ => trivial

private theorem keepsFields_all : (patch : List (String × Json)) →
    (base : Fields) → KeepsFields (fun _ => True) base patch
  | [], _ => trivial
  | (key, value) :: rest, base =>
      ⟨keeps_all value (Fields.get? base key), keepsFields_all rest base⟩
end

theorem rust_merge_iff (base patch : Rust.State) :
    (Rust.mergePatch base patch).json.value =
        rfcMerge base.json.value patch.json.value ↔
      MeetsFields base.json.fields patch.json.fields := by
  have merged : (Rust.mergePatch base patch).json.value =
      .obj (setEntries base.json.fields patch.json.fields) :=
    congrArg Json.obj (rust_entries patch.entries base.entries)
  rw [merged]
  exact (merge_iff copies_id base.json patch.json).trans
    (and_iff_left (keeps_all _ _))

/-! ### TypeScript -/

mutual
theorem noNulls_normal : (value : Json) → value.Distinct →
    (NoNulls value.normal ↔ NoNulls value)
  | .obj fields, distinct => by
      have members := noNulls_members fields distinct
      have each := Json.forall_normalFields distinct fun _ value =>
        value ≠ .null ∧ NoNulls value
      rw [Json.normal, NoNulls, NoNulls, noNullFields_iff, noNullFields_iff,
        each]
      apply forall₂_congr
      intro field member
      rw [members field member, ne_eq, Json.normal_eq_null_iff]
  | .null, _ => Iff.rfl
  | .bool _, _ => Iff.rfl
  | .int _, _ => Iff.rfl
  | .float _, _ => Iff.rfl
  | .str _, _ => Iff.rfl
  | .arr _, _ => Iff.rfl

theorem noNulls_members : (fields : List (String × Json)) →
    Json.DistinctFields fields → ∀ field ∈ fields,
      (NoNulls field.2.normal ↔ NoNulls field.2)
  | [], _, _, member => by cases member
  | (key, value) :: rest, distinct, field, member => by
      rcases List.mem_cons.mp member with rfl | later
      · exact noNulls_normal value distinct.2.1
      · exact noNulls_members rest distinct.2.2 field later
end

private theorem keepsPrototype_unmet {held : Option Json}
    {patch : List (String × Json)}
    (unmet : ∀ base, held ≠ some (.obj base)) :
    KeepsPrototype held (.obj patch) := by
  unfold KeepsPrototype
  split
  case h_1 base => exact absurd rfl (unmet base)
  case h_2 => trivial

private theorem typeScript_unmet {held : Option Json}
    {patch : List (String × Json)}
    (unmet : ∀ base, held ≠ some (.obj base)) :
    TypeScript.memberAfter held (.obj patch) = some (.obj patch) := by
  rw [TypeScript.memberAfter]
  exact unmet

private theorem unmet_iff {held : Option Json} {patch : Fields}
    (canonical : Json.CanonicalFields patch)
    (unmet : ∀ base, held ≠ some (.obj base)) :
    some (Json.obj patch) = mergedMember held (.obj patch) ↔
      NoNullFields patch :=
  (copied_unmet_iff copies_id canonical unmet).trans (and_iff_left trivial)

private theorem normal_unmet {held : Option Json}
    (unmet : ∀ base, held ≠ some (.obj base)) (base : Fields) :
    held.map Json.normal ≠ some (.obj base) := by
  intro same
  obtain ⟨value, rfl, shown⟩ := Option.map_eq_some_iff.mp same
  cases value with
  | obj fields => exact unmet fields rfl
  | null | bool _ | int _ | float _ | str _ | arr _ => cases shown

theorem mergedMember_ne_none {held : Option Json} {value : Json}
    (present : value ≠ .null) : mergedMember held value ≠ none := by
  cases value with
  | null => exact absurd rfl present
  | bool _ | int _ | float _ | str _ | arr _ | obj _ => exact nofun

/-- The merged object is the RFC's exactly when the members that the patch
names are, and none of them goes to the prototype. -/
private theorem typeScript_fields_iff {base patch : Fields}
    (distinct : Json.DistinctFields patch)
    (members : ∀ field ∈ patch,
      ((TypeScript.memberAfter (Fields.get? base field.1) field.2).map
          Json.normal =
        mergedMember ((Fields.get? base field.1).map Json.normal)
          field.2.normal ↔
        Meets (Fields.get? base field.1) field.2 ∧
          KeepsPrototype (Fields.get? base field.1) field.2)) :
    Json.normalFields (TypeScript.mergeFields base patch) =
        mergeFields (Json.normalFields base) (Json.normalFields patch) ↔
      MeetsFields base patch ∧ KeepsPrototypeFields base patch := by
  have kept : ∀ key, Fields.get? (Json.normalFields patch) key = none →
      Fields.get? (Json.normalFields (TypeScript.mergeFields base patch)) key =
        Fields.get? (Json.normalFields base) key := by
    intro key missing
    rw [Json.get?_normalFields, Option.map_eq_none_iff] at missing
    rw [Json.get?_normalFields, Json.get?_normalFields,
      TypeScript.mergeFields, TypeScript.mergeEntries_other missing]
  have each := Json.forall_normalFields distinct fun key value =>
    Fields.get? (Json.normalFields (TypeScript.mergeFields base patch)) key =
      mergedMember (Fields.get? (Json.normalFields base) key) value
  have base_canonical := Json.canonical_normalFields base
  have merged := merged_iff base_canonical (Json.canonical_normalFields patch)
    (Json.canonical_normalFields (TypeScript.mergeFields base patch))
    fun key missing absent => (kept key missing).trans absent
  have others : ∀ field ∈ Json.normalFields base,
      Fields.get? (Json.normalFields patch) field.1 = none →
        Fields.get? (Json.normalFields (TypeScript.mergeFields base patch))
          field.1 = some field.2 := fun field member missing =>
    (kept field.1 missing).trans (get?_of_mem base_canonical member)
  rw [merged, and_iff_left others, each]
  simp only [Json.get?_normalFields]
  rw [meetsFields_iff, keepsPrototypeFields_iff]
  by_cases plain : ∀ field ∈ patch, TypeScript.Plain base field.1 field.2
  · obtain ⟨after, result, held⟩ := TypeScript.mergeEntries_plain
      (Json.distinctFields_iff.mp distinct).1 plain
    have same : TypeScript.mergeFields base patch = after := by
      rw [TypeScript.mergeFields, result]
    rw [same]
    constructor
    · intro merged
      have both : ∀ field ∈ patch, Meets (Fields.get? base field.1) field.2 ∧
          KeepsPrototype (Fields.get? base field.1) field.2 := by
        intro field member
        apply (members field member).mp
        have here := merged field member
        rw [held, distinct.get? member] at here
        exact here
      exact ⟨fun field member => (both field member).1,
        fun field member => ⟨plain field member, (both field member).2⟩⟩
    · intro ⟨meets, keeps⟩ field member
      rw [held, distinct.get? member]
      exact (members field member).mpr
        ⟨meets field member, (keeps field member).2⟩
  · constructor
    · intro merged
      refine absurd (fun field member => ?_) plain
      intro named
      by_cases taken : field.2 = .null ∨ Fields.get? base field.1 ≠ none
      · exact taken
      · obtain ⟨present, missing⟩ := not_or.mp taken
        have here := merged field member
        rw [ne_eq, not_not, named] at missing
        rw [named, TypeScript.mergeFields,
          TypeScript.mergeEntries_prototype patch missing] at here
        exact absurd here.symm (mergedMember_ne_none
          (mt Json.normal_eq_null_iff.mp present))
    · intro ⟨_, keeps⟩
      exact absurd (fun field member => (keeps field member).1) plain

mutual
theorem typeScript_member_iff : (value : Json) → value.Distinct →
    (held : Option Json) → (∀ value ∈ held, value.Distinct) →
      ((TypeScript.memberAfter held value).map Json.normal =
          mergedMember (held.map Json.normal) value.normal ↔
        Meets held value ∧ KeepsPrototype held value)
  | .null, _, _, _ => ⟨fun _ => ⟨trivial, trivial⟩, fun _ => rfl⟩
  | .bool _, _, _, _ => ⟨fun _ => ⟨trivial, trivial⟩, fun _ => rfl⟩
  | .int _, _, _, _ => ⟨fun _ => ⟨trivial, trivial⟩, fun _ => rfl⟩
  | .float _, _, _, _ => ⟨fun _ => ⟨trivial, trivial⟩, fun _ => rfl⟩
  | .str _, _, _, _ => ⟨fun _ => ⟨trivial, trivial⟩, fun _ => rfl⟩
  | .arr _, _, _, _ => ⟨fun _ => ⟨trivial, trivial⟩, fun _ => rfl⟩
  | .obj patch, distinct, held, known => by
      rcases object_or_unmet held with ⟨base, rfl⟩ | unmet
      · have base_distinct : Json.DistinctFields base :=
          known (.obj base) rfl
        have members := typeScript_members_iff patch distinct
        rw [TypeScript.memberAfter, Meets, KeepsPrototype, Option.map_some,
          Option.map_some, Json.normal, Json.normal, Json.normal, mergedMember,
          mergePatch, Option.getD_some, Json.fields, Option.some.injEq,
          Json.obj.injEq]
        apply typeScript_fields_iff distinct
        intro field member
        exact members field member _ fun value => base_distinct.value
      · rw [typeScript_unmet unmet, meets_unmet unmet, Option.map_some,
          Json.normal, unmet_iff (Json.canonical_normalFields patch)
            (normal_unmet unmet)]
        have nulls := noNulls_normal (.obj patch) distinct
        exact nulls.trans (and_iff_left (keepsPrototype_unmet unmet)).symm

theorem typeScript_members_iff : (patch : List (String × Json)) →
    Json.DistinctFields patch → ∀ field ∈ patch, ∀ held : Option Json,
      (∀ value ∈ held, value.Distinct) →
      ((TypeScript.memberAfter held field.2).map Json.normal =
          mergedMember (held.map Json.normal) field.2.normal ↔
        Meets held field.2 ∧ KeepsPrototype held field.2)
  | [], _, _, member => by cases member
  | (key, value) :: rest, distinct, field, member => by
      intro held known
      rcases List.mem_cons.mp member with rfl | later
      · exact typeScript_member_iff value distinct.2.1 held known
      · exact typeScript_members_iff rest distinct.2.2 field later held known
end

theorem typeScript_merge_iff (base patch : OrderedObject) :
    (TypeScript.mergePatch base patch).json.value =
        rfcMerge base.json.value patch.json.value ↔
      MeetsFields base.fields patch.fields ∧
        KeepsPrototypeFields base.fields patch.fields := by
  have members := typeScript_members_iff patch.fields patch.distinct
  rw [← mergePatch_eq_rfc, JsonObject.value, JsonObject.value,
    JsonObject.value, mergePatch, Json.obj.injEq]
  apply typeScript_fields_iff patch.distinct
  intro field member
  exact members field member _ fun value => base.distinct.value

/-! ### All four -/

/-- `a` holds an object whose `b` is null. -/
def nestedNull : JsonObject :=
  ⟨[("a", .obj [("b", .null)])], nofun, ⟨nofun, trivial, trivial⟩, trivial⟩

/-- Go writes the number and reads the nearest double. -/
example : Go.mergeEntries [] [("n", .int 9007199254740993)] =
    [("n", .int 9007199254740992)] := by
  decide +kernel

/-- An object under `__proto__` goes lost. -/
example : TypeScript.mergeFields [] [("__proto__", .obj [("x", .int 1)])] =
    [] := by
  decide

end AgentLedger.Ports
