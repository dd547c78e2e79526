import AgentLedger.Foundation.JsonNormal
import AgentLedger.Rust.Value

namespace AgentLedger.Rust

open Foundation

/-! The JSON values that the values of the port stand for.  JSON has finite
numbers only. -/

def F64.json (number : F64) : Json :=
  if number.toRat.den = 1 then .int number.toRat.num else .float number.toRat

theorem F64.json_cases (number : F64) :
    (∃ value, number.json = .int value) ∨ ∃ value, number.json = .float value := by
  unfold F64.json
  split
  · exact .inl ⟨_, rfl⟩
  · exact .inr ⟨_, rfl⟩

mutual
def Value.json : Value → Json
  | .null => .null
  | .bool value => .bool value
  | .number value => value.json
  | .string value => .str value
  | .array values => .arr (jsonItems values)
  | .object entries => .obj (jsonEntries entries)

def jsonItems : List Value → List Json
  | [] => []
  | value :: rest => value.json :: jsonItems rest

def jsonEntries : List (String × Value) → Fields
  | [] => []
  | (key, value) :: rest => (key, value.json) :: jsonEntries rest
end

theorem mem_jsonEntries {entries : List (String × Value)}
    {field : String × Json} (member : field ∈ jsonEntries entries) :
    ∃ entry ∈ entries, field = (entry.1, entry.2.json) := by
  induction entries with
  | nil => cases member
  | cons entry rest ih =>
      obtain ⟨key, value⟩ := entry
      rcases List.mem_cons.mp member with rfl | later
      · exact ⟨(key, value), List.mem_cons_self, rfl⟩
      · obtain ⟨entry, listed, same⟩ := ih later
        exact ⟨entry, List.mem_cons_of_mem _ listed, same⟩

theorem get?_jsonEntries (entries : List (String × Value)) (key : String) :
    Fields.get? (jsonEntries entries) key =
      (Entries.get? key entries).map Value.json := by
  induction entries with
  | nil => rfl
  | cons entry rest ih =>
      obtain ⟨first, value⟩ := entry
      rw [jsonEntries, Fields.get?, Entries.get?, ih]
      split <;> rfl

theorem jsonEntries_insert (entries : List (String × Value)) (key : String)
    (value : Value) : jsonEntries (Entries.insert key value entries) =
      Fields.set (jsonEntries entries) key value.json := by
  induction entries with
  | nil => rfl
  | cons entry rest ih =>
      obtain ⟨first, held⟩ := entry
      simp only [Entries.insert, jsonEntries, Fields.set]
      split
      · rfl
      · split
        · rfl
        · rw [jsonEntries, ih]

theorem jsonEntries_erase (entries : List (String × Value)) (key : String) :
    jsonEntries (Entries.erase key entries) =
      Fields.erase (jsonEntries entries) key := by
  induction entries with
  | nil => rfl
  | cons entry rest ih =>
      obtain ⟨first, held⟩ := entry
      simp only [Entries.erase, Fields.erase, jsonEntries, List.filter_cons]
        at ih ⊢
      split
      · rw [jsonEntries, ih]
      · exact ih

mutual
theorem canonical_json : (value : Value) → value.Ordered →
    value.json.Canonical
  | .null, _ => trivial
  | .bool _, _ => trivial
  | .number value, _ => by
      rcases value.json_cases with ⟨_, same⟩ | ⟨_, same⟩ <;>
        (rw [Value.json, same]; trivial)
  | .string _, _ => trivial
  | .array values, ordered => canonical_jsonItems values ordered
  | .object entries, ordered =>
      canonical_jsonEntries entries ordered.1 ordered.2

theorem canonical_jsonItems : (values : List Value) →
    Value.OrderedItems values → Json.CanonicalItems (jsonItems values)
  | [], _ => trivial
  | value :: rest, ordered =>
      ⟨canonical_json value ordered.1, canonical_jsonItems rest ordered.2⟩

theorem canonical_jsonEntries : (entries : List (String × Value)) →
    Entries.Ordered entries → Value.OrderedEntries entries →
      Json.CanonicalFields (jsonEntries entries)
  | [], _, _ => trivial
  | (key, value) :: rest, keys, ordered => by
      obtain ⟨above, later⟩ := List.pairwise_cons.mp keys
      refine ⟨fun field member => ?_, canonical_json value ordered.1,
        canonical_jsonEntries rest later ordered.2⟩
      obtain ⟨entry, listed, rfl⟩ := mem_jsonEntries member
      exact above entry listed
end

def State.json (state : State) : JsonObject :=
  ⟨jsonEntries state.entries,
    canonical_jsonEntries state.entries state.ordered.1 state.ordered.2⟩

/-! ### The values that JSON values are -/

mutual
def Value.ofJson : Json → Value
  | .null => .null
  | .bool value => .bool value
  | .int value => .number (.ofRat value)
  | .float value => .number (.ofRat value)
  | .str value => .string value
  | .arr items => .array (valuesOf items)
  | .obj fields => .object (entriesOf fields)

def valuesOf : List Json → List Value
  | [] => []
  | item :: rest => Value.ofJson item :: valuesOf rest

def entriesOf : List (String × Json) → List (String × Value)
  | [] => []
  | (key, value) :: rest => (key, Value.ofJson value) :: entriesOf rest
end

theorem mem_entriesOf {fields : List (String × Json)} {entry : String × Value}
    (member : entry ∈ entriesOf fields) :
    ∃ field ∈ fields, entry = (field.1, .ofJson field.2) := by
  induction fields with
  | nil => cases member
  | cons field rest ih =>
      obtain ⟨key, value⟩ := field
      rcases List.mem_cons.mp member with rfl | later
      · exact ⟨(key, value), List.mem_cons_self, rfl⟩
      · obtain ⟨field, listed, same⟩ := ih later
        exact ⟨field, List.mem_cons_of_mem _ listed, same⟩

theorem get?_entriesOf (fields : List (String × Json)) (key : String) :
    Entries.get? key (entriesOf fields) =
      (Fields.get? fields key).map Value.ofJson := by
  induction fields with
  | nil => rfl
  | cons field rest ih =>
      obtain ⟨first, value⟩ := field
      rw [entriesOf, Fields.get?, Entries.get?, ih]
      split <;> rfl

mutual
theorem ordered_ofJson : (value : Json) → value.Canonical →
    (Value.ofJson value).Ordered
  | .null, _ => trivial
  | .bool _, _ => trivial
  | .int _, _ => trivial
  | .float _, _ => trivial
  | .str _, _ => trivial
  | .arr items, canonical => ordered_valuesOf items canonical
  | .obj fields, canonical => ordered_entriesOf fields canonical

theorem ordered_valuesOf : (items : List Json) → Json.CanonicalItems items →
    Value.OrderedItems (valuesOf items)
  | [], _ => trivial
  | item :: rest, canonical =>
      ⟨ordered_ofJson item canonical.1, ordered_valuesOf rest canonical.2⟩

theorem ordered_entriesOf : (fields : List (String × Json)) →
    Json.CanonicalFields fields → (Value.object (entriesOf fields)).Ordered
  | [], _ => ⟨List.Pairwise.nil, trivial⟩
  | (key, value) :: rest, canonical => by
      obtain ⟨keys, later⟩ := ordered_entriesOf rest canonical.2.2
      refine ⟨List.pairwise_cons.mpr ⟨fun entry member => ?_, keys⟩,
        ordered_ofJson value canonical.2.1, later⟩
      obtain ⟨field, listed, rfl⟩ := mem_entriesOf member
      exact canonical.1 field listed
end

def State.ofObject (object : JsonObject) : State :=
  ⟨entriesOf object.fields, ordered_entriesOf object.fields object.canonical⟩

end AgentLedger.Rust
