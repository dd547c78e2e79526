import AgentLedger.Foundation.Json

namespace Foundation

/-! Objects whose members are in any order, and their canonical forms: equality
as JSON is equality of these. -/

namespace Fields

def keys (fields : Fields) : List String := fields.map Prod.fst

/-- Assignment of one key: in its place, or after the others. -/
def assign : Fields → String → Json → Fields
  | [], key, value => [(key, value)]
  | (first, held) :: rest, key, value =>
      if first = key then (key, value) :: rest
      else (first, held) :: assign rest key value

theorem get?_assign (fields : Fields) (key other : String) (value : Json) :
    get? (assign fields key value) other =
      if other = key then some value else get? fields other := by
  induction fields with
  | nil => simp [assign, get?, eq_comm]
  | cons field rest ih =>
      obtain ⟨first, held⟩ := field
      simp only [assign]
      by_cases same : first = key
      · subst same
        simp only [if_pos, get?, eq_comm (a := other)]
        split <;> rfl
      · rw [if_neg same, get?, get?, ih]
        by_cases found : first = other
        · subst found
          rw [if_pos rfl, if_pos rfl, if_neg same]
        · rw [if_neg found, if_neg found]

theorem mem_assign {fields : Fields} {key : String} {value : Json}
    {field : String × Json} (member : field ∈ assign fields key value) :
    field = (key, value) ∨ field ∈ fields := by
  induction fields with
  | nil => exact .inl (List.mem_singleton.mp member)
  | cons first rest ih =>
      simp only [assign] at member
      split at member
      · rcases List.mem_cons.mp member with same | later
        · exact .inl same
        · exact .inr (List.mem_cons_of_mem _ later)
      · rcases List.mem_cons.mp member with same | later
        · exact .inr (same ▸ List.mem_cons_self ..)
        · rcases ih later with same | held
          · exact .inl same
          · exact .inr (List.mem_cons_of_mem _ held)

theorem keys_assign {fields : Fields} {key other : String} {value : Json}
    (listed : other ∈ keys (assign fields key value)) :
    other = key ∨ other ∈ keys fields := by
  obtain ⟨field, member, rfl⟩ := List.mem_map.mp listed
  rcases mem_assign member with rfl | held
  · exact .inl rfl
  · exact .inr (List.mem_map_of_mem held)

end Fields

namespace Json

mutual
/-- The members of every object have names of their own. -/
def Distinct : Json → Prop
  | .arr items => DistinctItems items
  | .obj fields => DistinctFields fields
  | _ => True

def DistinctItems : List Json → Prop
  | [] => True
  | item :: rest => item.Distinct ∧ DistinctItems rest

def DistinctFields : List (String × Json) → Prop
  | [] => True
  | (key, value) :: rest =>
      key ∉ Fields.keys rest ∧ value.Distinct ∧ DistinctFields rest
end

theorem distinctFields_iff {fields : Fields} : DistinctFields fields ↔
    (Fields.keys fields).Nodup ∧ ∀ field ∈ fields, field.2.Distinct := by
  induction fields with
  | nil => simp [DistinctFields, Fields.keys]
  | cons field rest ih =>
      obtain ⟨key, value⟩ := field
      have keys : Fields.keys ((key, value) :: rest) =
          key :: Fields.keys rest := rfl
      rw [DistinctFields, ih, keys, List.nodup_cons, List.forall_mem_cons]
      exact ⟨fun ⟨fresh, own, keys, each⟩ => ⟨⟨fresh, keys⟩, own, each⟩,
        fun ⟨⟨fresh, keys⟩, own, each⟩ => ⟨fresh, own, keys, each⟩⟩

theorem DistinctFields.value {fields : Fields}
    (distinct : DistinctFields fields) {key : String} {value : Json}
    (found : Fields.get? fields key = some value) : value.Distinct :=
  (distinctFields_iff.mp distinct).2 _ (Fields.mem_of_get? found)

theorem DistinctFields.assign {fields : Fields}
    (distinct : DistinctFields fields) (key : String) {value : Json}
    (own : value.Distinct) : DistinctFields (Fields.assign fields key value) := by
  induction fields with
  | nil => exact ⟨List.not_mem_nil, own, trivial⟩
  | cons field rest ih =>
      obtain ⟨first, held⟩ := field
      obtain ⟨fresh, inner, later⟩ := distinct
      simp only [Fields.assign]
      split
      · rename_i same
        subst same
        exact ⟨fresh, own, later⟩
      · rename_i different
        refine ⟨fun listed => ?_, inner, ih later⟩
        rcases Fields.keys_assign listed with same | held
        · exact different same
        · exact fresh held

theorem DistinctFields.erase {fields : Fields}
    (distinct : DistinctFields fields) (key : String) :
    DistinctFields (Fields.erase fields key) := by
  rw [distinctFields_iff] at distinct ⊢
  refine ⟨distinct.1.sublist ?_, fun field member => ?_⟩
  · exact List.Sublist.map _ List.filter_sublist
  · exact distinct.2 field (List.mem_filter.mp member).1

mutual
theorem Canonical.distinct : (value : Json) → value.Canonical → value.Distinct
  | .arr items, canonical => CanonicalItems.distinct items canonical
  | .obj fields, canonical => CanonicalFields.distinct fields canonical
  | .null, _ => trivial
  | .bool _, _ => trivial
  | .int _, _ => trivial
  | .float _, _ => trivial
  | .str _, _ => trivial

theorem CanonicalItems.distinct : (items : List Json) → CanonicalItems items →
    DistinctItems items
  | [], _ => trivial
  | item :: rest, canonical =>
      ⟨Canonical.distinct item canonical.1,
        CanonicalItems.distinct rest canonical.2⟩

theorem CanonicalFields.distinct : (fields : List (String × Json)) →
    CanonicalFields fields → DistinctFields fields
  | [], _ => trivial
  | (key, value) :: rest, canonical => by
      obtain ⟨above, own, later⟩ := canonical
      refine ⟨fun listed => ?_, Canonical.distinct value own,
        CanonicalFields.distinct rest later⟩
      obtain ⟨field, member, same⟩ := List.mem_map.mp listed
      exact absurd (above field member) (same ▸ lt_irrefl _)
end

/-! ### The canonical form -/

mutual
def normal : Json → Json
  | .arr items => .arr (normalItems items)
  | .obj fields => .obj (normalFields fields)
  | value => value

def normalItems : List Json → List Json
  | [] => []
  | item :: rest => item.normal :: normalItems rest

def normalFields : List (String × Json) → Fields
  | [] => []
  | (key, value) :: rest => Fields.set (normalFields rest) key value.normal
end

mutual
theorem canonical_normal : (value : Json) → value.normal.Canonical
  | .arr items => canonical_normalItems items
  | .obj fields => canonical_normalFields fields
  | .null => trivial
  | .bool _ => trivial
  | .int _ => trivial
  | .float _ => trivial
  | .str _ => trivial

theorem canonical_normalItems : (items : List Json) →
    CanonicalItems (normalItems items)
  | [] => trivial
  | item :: rest => ⟨canonical_normal item, canonical_normalItems rest⟩

theorem canonical_normalFields : (fields : List (String × Json)) →
    CanonicalFields (normalFields fields)
  | [] => trivial
  | (_, value) :: rest =>
      (canonical_normalFields rest).set (canonical_normal value)
end

theorem get?_normalFields (fields : Fields) (key : String) :
    Fields.get? (normalFields fields) key =
      (Fields.get? fields key).map normal := by
  induction fields with
  | nil => rfl
  | cons field rest ih =>
      obtain ⟨first, value⟩ := field
      rw [normalFields, Fields.get?_set, ih, Fields.get?]
      by_cases same : key = first
      · rw [if_pos same, if_pos same.symm, Option.map_some]
      · rw [if_neg same, if_neg (Ne.symm same)]

theorem normal_eq_null_iff {value : Json} : value.normal = .null ↔
    value = .null := by
  cases value <;> simp [normal]

/-- Each member is there under its name. -/
theorem DistinctFields.get? {fields : Fields}
    (distinct : DistinctFields fields) {field : String × Json}
    (member : field ∈ fields) :
    Fields.get? fields field.1 = some field.2 := by
  induction fields with
  | nil => cases member
  | cons first rest ih =>
      obtain ⟨key, value⟩ := first
      obtain ⟨fresh, _, later⟩ := distinct
      rcases List.mem_cons.mp member with rfl | listed
      · exact if_pos rfl
      · have different : key ≠ field.1 := fun same =>
          fresh (same ▸ List.mem_map_of_mem listed)
        rw [Fields.get?, if_neg different, ih later listed]

/-- The members of the canonical form are those of the object. -/
theorem forall_normalFields {fields : Fields}
    (distinct : DistinctFields fields) (good : String → Json → Prop) :
    (∀ field ∈ normalFields fields, good field.1 field.2) ↔
      ∀ field ∈ fields, good field.1 field.2.normal := by
  constructor
  · intro each field member
    have found := get?_normalFields fields field.1
    rw [distinct.get? member] at found
    exact each _ (Fields.mem_of_get? found)
  · intro each field member
    have held := get?_normalFields fields field.1
    rw [(CanonicalFields.distinct _ (canonical_normalFields fields)).get? member] at held
    obtain ⟨value, found, same⟩ := Option.map_eq_some_iff.mp held.symm
    rw [← same]
    exact each _ (Fields.mem_of_get? found)

theorem set_of_above {fields : Fields} {key : String} {value : Json}
    (above : Fields.Above key fields) :
    Fields.set fields key value = (key, value) :: fields := by
  cases fields with
  | nil => rfl
  | cons field rest =>
      rw [Fields.set, if_pos (above field List.mem_cons_self)]

mutual
theorem normal_of_canonical : (value : Json) → value.Canonical →
    value.normal = value
  | .arr items, canonical =>
      congrArg Json.arr (normalItems_of_canonical items canonical)
  | .obj fields, canonical =>
      congrArg Json.obj (normalFields_of_canonical fields canonical)
  | .null, _ => rfl
  | .bool _, _ => rfl
  | .int _, _ => rfl
  | .float _, _ => rfl
  | .str _, _ => rfl

theorem normalItems_of_canonical : (items : List Json) →
    CanonicalItems items → normalItems items = items
  | [], _ => rfl
  | item :: rest, canonical => by
      rw [normalItems, normal_of_canonical item canonical.1,
        normalItems_of_canonical rest canonical.2]

theorem normalFields_of_canonical : (fields : List (String × Json)) →
    CanonicalFields fields → normalFields fields = fields
  | [], _ => rfl
  | (key, value) :: rest, canonical => by
      obtain ⟨above, own, later⟩ := canonical
      rw [normalFields, normal_of_canonical value own,
        normalFields_of_canonical rest later, set_of_above above]
end

end Json

namespace Json

theorem canonicalFields_of_ascending {fields : Fields}
    (ascending : (fields.map Prod.fst).Pairwise (· < ·))
    (values : ∀ field ∈ fields, Canonical field.2) :
    CanonicalFields fields := by
  induction fields with
  | nil => trivial
  | cons field rest ih =>
      obtain ⟨key, value⟩ := field
      rw [List.map_cons, List.pairwise_cons] at ascending
      refine ⟨fun other member => ?_, values _ (List.mem_cons_self ..), ?_⟩
      · exact ascending.1 other.1 (List.mem_map_of_mem member)
      · exact ih ascending.2 fun other member =>
          values other (List.mem_cons_of_mem _ member)

end Json

/-- A JSON object. -/
structure JsonObject where
  fields : Fields
  canonical : Json.CanonicalFields fields

namespace JsonObject

@[ext] theorem ext {first second : JsonObject}
    (same : first.fields = second.fields) : first = second := by
  cases first
  cases second
  cases same
  rfl

def value (object : JsonObject) : Json := .obj object.fields

def empty : JsonObject := ⟨[], trivial⟩

end JsonObject

/-- A JSON object with its members in an order of their own. -/
structure OrderedObject where
  fields : Fields
  distinct : Json.DistinctFields fields

namespace OrderedObject

/-- The object that it is as JSON. -/
def json (object : OrderedObject) : JsonObject :=
  ⟨Json.normalFields object.fields, Json.canonical_normalFields _⟩

end OrderedObject

end Foundation
