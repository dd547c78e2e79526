import AgentLedger.Foundation.JsonNormal

namespace AgentLedger.TypeScript

open Foundation

/-! Objects of the TypeScript port, with their own members in the order in which
`Object.entries` lists them. -/

/-- An object that is assigned to.  Under `__proto__` it shows its prototype,
unless it has a member of that name; the members of the prototypes are seen
through it, the nearest first. -/
structure Out where
  own : Fields
  chain : List Fields

namespace Out

/-- `out[key]`, where it is data. -/
def read (out : Out) (key : String) : Option Json :=
  match Fields.get? out.own key with
  | some value => some value
  | none =>
      if key = "__proto__" then some (.obj (out.chain.headD []))
      else out.chain.findSome? fun fields => Fields.get? fields key

/-- `out[key] = value`, of a value with these prototypes. -/
def assign (out : Out) (key : String) (value : Json) (chain : List Fields) :
    Out :=
  if key = "__proto__" ∧ Fields.get? out.own key = none then
    match value with
    | .obj fields => { out with chain := fields :: chain }
    -- What an array has under its indices no later key of the patch reads.
    | .arr _ => { out with chain := [] }
    | _ => out
  else { out with own := Fields.assign out.own key value }

/-- `delete out[key]` -/
def delete (out : Out) (key : String) : Out :=
  { out with own := Fields.erase out.own key }

end Out

mutual
/-- One turn of the loop of `mergePatch`. -/
def mergeMember (out : Out) (key : String) : Json → Out
  | .null => out.delete key
  | .obj patch =>
      match out.read key with
      | some (.obj base) =>
          let merged := mergeEntries ⟨base, []⟩ patch
          out.assign key (.obj merged.own) merged.chain
      | _ => out.assign key (.obj patch) []
  | value => out.assign key value []

def mergeEntries (out : Out) : List (String × Json) → Out
  | [] => out
  | (key, value) :: rest => mergeEntries (mergeMember out key value) rest
end

/-- The own members of what `mergePatch` returns. -/
def mergeFields (base patch : Fields) : Fields :=
  (mergeEntries ⟨base, []⟩ patch).own

/-! ### What the loop leaves under each key -/

/-- What the key holds after the patch, where the prototype is left alone. -/
def memberAfter (held : Option Json) : Json → Option Json
  | .null => none
  | .obj patch =>
      match held with
      | some (.obj base) => some (.obj (mergeFields base patch))
      | _ => some (.obj patch)
  | value => some value

/-- The value takes the place of a member, or that of no prototype. -/
def Plain (own : Fields) (key : String) (value : Json) : Prop :=
  key = "__proto__" → value = .null ∨ Fields.get? own key ≠ none

private theorem read_plain {own : Fields} {key : String}
    (plain : key = "__proto__" → Fields.get? own key ≠ none) :
    Out.read ⟨own, []⟩ key = Fields.get? own key := by
  unfold Out.read
  cases found : Fields.get? own key with
  | some value => rfl
  | none =>
      have other : key ≠ "__proto__" := fun same => plain same found
      simp [other]

private theorem assign_member {own : Fields} {key : String}
    (plain : key = "__proto__" → Fields.get? own key ≠ none) (value : Json)
    (chain : List Fields) : Out.assign ⟨own, []⟩ key value chain =
      ⟨Fields.assign own key value, []⟩ := by
  unfold Out.assign
  rw [if_neg fun both => plain both.1 both.2]

theorem mergeMember_plain {own : Fields} {key : String} {value : Json}
    (plain : Plain own key value) :
    ∃ after, mergeMember ⟨own, []⟩ key value = ⟨after, []⟩ ∧
      ∀ other, Fields.get? after other =
        if other = key then memberAfter (Fields.get? own key) value
        else Fields.get? own other := by
  by_cases null : value = .null
  · subst null
    exact ⟨Fields.erase own key, rfl, Fields.get?_erase own key⟩
  · have taken : key = "__proto__" → Fields.get? own key ≠ none :=
      fun same => (plain same).resolve_left null
    have assigned (other : Json) (chain : List Fields) :=
      assign_member taken other chain
    cases value with
    | null => exact absurd rfl null
    | obj patch =>
        rw [mergeMember, read_plain taken]
        unfold memberAfter
        split
        case h_1 base found =>
            rw [assigned]
            exact ⟨_, rfl, fun other => Fields.get?_assign own key other _⟩
        case h_2 unmet =>
            rw [assigned]
            exact ⟨_, rfl, fun other => Fields.get?_assign own key other _⟩
    | bool _ | int _ | float _ | str _ | arr _ =>
        rw [mergeMember, assigned]
        · exact ⟨_, rfl, fun other => Fields.get?_assign own key other _⟩
        all_goals exact nofun

theorem mergeEntries_plain {patch : List (String × Json)}
    (distinct : (Fields.keys patch).Nodup) {own : Fields}
    (plain : ∀ field ∈ patch, Plain own field.1 field.2) :
    ∃ after, mergeEntries ⟨own, []⟩ patch = ⟨after, []⟩ ∧
      ∀ key, Fields.get? after key =
        match Fields.get? patch key with
        | none => Fields.get? own key
        | some value => memberAfter (Fields.get? own key) value := by
  induction patch generalizing own with
  | nil => exact ⟨own, rfl, fun key => rfl⟩
  | cons field rest ih =>
      obtain ⟨first, value⟩ := field
      obtain ⟨fresh, later⟩ := List.nodup_cons.mp distinct
      obtain ⟨middle, same, changed⟩ :=
        mergeMember_plain (plain _ List.mem_cons_self)
      have others : ∀ field ∈ rest, Plain middle field.1 field.2 := by
        intro field member
        have listed : field.1 ∈ Fields.keys rest :=
          List.mem_map_of_mem member
        have different : field.1 ≠ first := fun same => fresh (same ▸ listed)
        unfold Plain
        rw [changed, if_neg different]
        exact plain field (List.mem_cons_of_mem _ member)
      obtain ⟨after, result, held⟩ := ih later others
      refine ⟨after, ?_, fun key => ?_⟩
      · rw [mergeEntries, same, result]
      · rw [held, changed, Fields.get?]
        by_cases here : first = key
        · subst here
          have missing : Fields.get? rest first = none := by
            apply Option.eq_none_iff_forall_ne_some.mpr
            intro value found
            exact fresh (List.mem_map.mpr
              ⟨(first, value), Fields.mem_of_get? found, rfl⟩)
          rw [missing, if_pos rfl, if_pos rfl]
        · rw [if_neg here, if_neg (Ne.symm here)]

private theorem assign_other {out : Out} {key other : String}
    (different : other ≠ key) (value : Json) (chain : List Fields) :
    Fields.get? (out.assign key value chain).own other =
      Fields.get? out.own other := by
  unfold Out.assign
  split
  · split <;> rfl
  · rw [Fields.get?_assign, if_neg different]

theorem mergeMember_other {out : Out} {key other : String}
    (different : other ≠ key) (value : Json) :
    Fields.get? (mergeMember out key value).own other =
      Fields.get? out.own other := by
  unfold mergeMember
  split
  · exact (Fields.get?_erase _ _ _).trans (if_neg different)
  · split
    · exact assign_other different _ _
    · exact assign_other different _ _
  · exact assign_other different _ _

theorem mergeEntries_other {patch : List (String × Json)} {key : String}
    (missing : Fields.get? patch key = none) (out : Out) :
    Fields.get? (mergeEntries out patch).own key =
      Fields.get? out.own key := by
  induction patch generalizing out with
  | nil => rfl
  | cons field rest ih =>
      obtain ⟨first, value⟩ := field
      rw [Fields.get?] at missing
      split at missing
      · cases missing
      · rename_i different
        rw [mergeEntries, ih missing, mergeMember_other (Ne.symm different)]

private theorem assign_prototype {out : Out} {key : String}
    (missing : Fields.get? out.own "__proto__" = none) (value : Json)
    (chain : List Fields) :
    Fields.get? (out.assign key value chain).own "__proto__" = none := by
  unfold Out.assign
  split
  case isTrue => split <;> exact missing
  case isFalse outside =>
      rw [Fields.get?_assign]
      split
      · rename_i same
        exact absurd ⟨same.symm, same ▸ missing⟩ outside
      · exact missing

/-- No member of that name comes to be. -/
theorem mergeEntries_prototype (patch : List (String × Json)) {out : Out}
    (missing : Fields.get? out.own "__proto__" = none) :
    Fields.get? (mergeEntries out patch).own "__proto__" = none := by
  induction patch generalizing out with
  | nil => exact missing
  | cons field rest ih =>
      obtain ⟨key, value⟩ := field
      rw [mergeEntries]
      apply ih
      unfold mergeMember
      split
      · rw [Out.delete, Fields.get?_erase]
        split
        · rfl
        · exact missing
      · split
        · exact assign_prototype missing _ _
        · exact assign_prototype missing _ _
      · exact assign_prototype missing _ _

/-! ### Objects with distinct members -/

/-- The members that are seen have names of their own. -/
structure Out.Distinct (out : Out) : Prop where
  own : Json.DistinctFields out.own
  chain : ∀ fields ∈ out.chain, Json.DistinctFields fields

namespace Out.Distinct

variable {out : Out}

theorem read (distinct : out.Distinct) {key : String} {base : Fields}
    (found : out.read key = some (.obj base)) : Json.DistinctFields base := by
  unfold Out.read at found
  split at found
  case h_1 value held =>
      cases found
      exact distinct.own.value held
  case h_2 =>
      split at found
      · cases found
        cases held : out.chain with
        | nil => trivial
        | cons fields rest =>
            exact distinct.chain fields (held ▸ List.mem_cons_self ..)
      · obtain ⟨fields, listed, held⟩ := List.exists_of_findSome?_eq_some found
        exact (distinct.chain fields listed).value held

theorem assign (distinct : out.Distinct) (key : String) {value : Json}
    (own : value.Distinct) {chain : List Fields}
    (seen : ∀ fields ∈ chain, Json.DistinctFields fields) :
    (out.assign key value chain).Distinct := by
  unfold Out.assign
  split
  · split
    · refine ⟨distinct.own, fun fields member => ?_⟩
      rcases List.mem_cons.mp member with rfl | later
      · exact own
      · exact seen fields later
    · exact ⟨distinct.own, fun fields member => by cases member⟩
    · exact distinct
  · exact ⟨distinct.own.assign key own, distinct.chain⟩

theorem assign_plain (distinct : out.Distinct) (key : String) {value : Json}
    (own : value.Distinct) : (out.assign key value []).Distinct :=
  distinct.assign key own fun _ member => by cases member

end Out.Distinct

mutual
theorem distinct_mergeMember {out : Out} (distinct : out.Distinct)
    (key : String) : (value : Json) → value.Distinct →
      (mergeMember out key value).Distinct
  | .null, _ => ⟨distinct.own.erase key, distinct.chain⟩
  | .bool _, own => distinct.assign_plain key own
  | .int _, own => distinct.assign_plain key own
  | .float _, own => distinct.assign_plain key own
  | .str _, own => distinct.assign_plain key own
  | .arr _, own => distinct.assign_plain key own
  | .obj patch, own => by
      unfold mergeMember
      split
      case h_1 base found =>
          have start : Out.Distinct ⟨base, []⟩ :=
            ⟨distinct.read found, fun _ member => by cases member⟩
          have merged := distinct_mergeEntries start patch own
          have inner : (Json.obj (mergeEntries ⟨base, []⟩ patch).own).Distinct :=
            merged.own
          exact distinct.assign key inner merged.chain
      case h_2 => exact distinct.assign_plain key own

theorem distinct_mergeEntries {out : Out} (distinct : out.Distinct) :
    (patch : List (String × Json)) → Json.DistinctFields patch →
      (mergeEntries out patch).Distinct
  | [], _ => distinct
  | (key, value) :: rest, own =>
      distinct_mergeEntries (distinct_mergeMember distinct key value own.2.1)
        rest own.2.2
end

private theorem distinct_merged (base patch : OrderedObject) :
    Json.DistinctFields (mergeFields base.fields patch.fields) := by
  have start : Out.Distinct ⟨base.fields, []⟩ :=
    ⟨base.distinct, fun _ member => by cases member⟩
  exact (distinct_mergeEntries start patch.fields patch.distinct).own

def mergePatch (base patch : OrderedObject) : OrderedObject where
  fields := mergeFields base.fields patch.fields
  distinct := distinct_merged base patch

end AgentLedger.TypeScript
