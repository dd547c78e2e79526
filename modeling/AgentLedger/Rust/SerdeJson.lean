import AgentLedger.Foundation.Decimal
import AgentLedger.Foundation.JsonText
import AgentLedger.Rust.Value

namespace AgentLedger.Rust

open Foundation

/-! Payloads as JSON text.  The crate `serde_json` is a parameter; a `Map` of
it is kept in key order. -/

structure SerdeJson where
  Number : Type
  fromF64 : F64 → Option Number
  asF64 : Number → Option F64
  toString : JsonTree Number → String
  fromStr : String → Except String (JsonTree Number)

/-- What the port relies on: numbers keep their value, text is read back as the
value it was printed from, and is refused when it is nested more than `limit`
deep. -/
structure SerdeJson.Lawful (serde : SerdeJson) (limit : Nat) : Prop where
  asF64_fromF64 : ∀ value number, serde.fromF64 value = some number →
    serde.asF64 number = some value
  toString_empty : serde.toString (.object []) = "\x7b\x7d"
  fromStr_toString : ∀ value : JsonTree serde.Number, value.Ordered →
    value.depth ≤ limit → serde.fromStr (serde.toString value) = .ok value
  fromStr_deep : ∀ value : JsonTree serde.Number, value.Ordered →
    limit < value.depth →
    ∃ error, serde.fromStr (serde.toString value) = .error error
  depth_fromStr : ∀ text value, serde.fromStr text = .ok value →
    value.depth ≤ limit

section Codec

variable (serde : SerdeJson)

mutual
def valueToJson : Value → Result (JsonTree serde.Number)
  | .null => .ok .null
  | .bool value => .ok (.bool value)
  | .number value =>
      match serde.fromF64 value with
      | some number => .ok (.number number)
      | none => .error ⟨"evidence payload number must be finite"⟩
  | .string value => .ok (.string value)
  | .array values => do return .array (← itemsToJson values)
  | .object entries => do return .object (← entriesToJson entries)

def itemsToJson : List Value → Result (List (JsonTree serde.Number))
  | [] => .ok []
  | value :: rest => do
      let first ← valueToJson value
      return first :: (← itemsToJson rest)

def entriesToJson : List (String × Value) →
    Result (List (String × JsonTree serde.Number))
  | [] => .ok []
  | (key, value) :: rest => do
      let first ← valueToJson value
      return (key, first) :: (← entriesToJson rest)
end

mutual
def jsonToValue : JsonTree serde.Number → Result Value
  | .null => .ok .null
  | .bool value => .ok (.bool value)
  | .number value =>
      match serde.asF64 value with
      | some number => .ok (.number number)
      | none => .error ⟨"invalid JSON number"⟩
  | .string value => .ok (.string value)
  | .array values => do return .array (← jsonToItems values)
  | .object entries => do
      return .object (Entries.collect (← jsonToEntries entries))

def jsonToItems : List (JsonTree serde.Number) → Result (List Value)
  | [] => .ok []
  | value :: rest => do
      let first ← jsonToValue value
      return first :: (← jsonToItems rest)

def jsonToEntries : List (String × JsonTree serde.Number) →
    Result (List (String × Value))
  | [] => .ok []
  | (key, value) :: rest => do
      let first ← jsonToValue value
      return (key, first) :: (← jsonToEntries rest)
end

mutual
theorem ordered_jsonToValue : ∀ (json : JsonTree serde.Number) {value : Value},
    jsonToValue serde json = .ok value → value.Ordered
  | .null, _, read => by
      cases read
      trivial
  | .bool _, _, read => by
      cases read
      trivial
  | .string _, _, read => by
      cases read
      trivial
  | .number number, value, read => by
      rw [jsonToValue] at read
      split at read
      · cases read
        trivial
      · cases read
  | .array values, value, read => by
      rw [jsonToValue] at read
      obtain ⟨items, inner, made⟩ := bind_eq_ok.mp read
      cases made
      exact ordered_jsonToItems values inner
  | .object entries, value, read => by
      rw [jsonToValue] at read
      obtain ⟨held, inner, made⟩ := bind_eq_ok.mp read
      cases made
      exact ⟨Entries.ordered_collect held,
        Value.OrderedEntries.collect (ordered_jsonToEntries entries inner)⟩

theorem ordered_jsonToItems : ∀ (json : List (JsonTree serde.Number))
    {values : List Value}, jsonToItems serde json = .ok values →
    Value.OrderedItems values
  | [], _, read => by
      cases read
      trivial
  | first :: rest, values, read => by
      rw [jsonToItems] at read
      obtain ⟨value, inner, read⟩ := bind_eq_ok.mp read
      obtain ⟨later, outer, made⟩ := bind_eq_ok.mp read
      cases made
      exact ⟨ordered_jsonToValue first inner, ordered_jsonToItems rest outer⟩

theorem ordered_jsonToEntries :
    ∀ (json : List (String × JsonTree serde.Number))
    {entries : List (String × Value)}, jsonToEntries serde json = .ok entries →
    Value.OrderedEntries entries
  | [], _, read => by
      cases read
      trivial
  | (key, first) :: rest, entries, read => by
      rw [jsonToEntries] at read
      obtain ⟨value, inner, read⟩ := bind_eq_ok.mp read
      obtain ⟨later, outer, made⟩ := bind_eq_ok.mp read
      cases made
      exact ⟨ordered_jsonToValue first inner, ordered_jsonToEntries rest outer⟩
end

def stateToJson (state : State) : Result String := do
  let value ← valueToJson serde state.toValue
  return serde.toString value

def jsonToState (encoded : String) : Result State :=
  match serde.fromStr encoded with
  | .error error => .error ⟨error⟩
  | .ok json =>
      match read : jsonToValue serde json with
      | .error error => .error error
      | .ok (.object entries) =>
          .ok ⟨entries, ordered_jsonToValue serde json read⟩
      | .ok _ => .error ⟨"evidence payload must be a JSON object"⟩

theorem jsonToState_eq_ok {encoded : String} {state : State} :
    jsonToState serde encoded = .ok state ↔
      ∃ json, serde.fromStr encoded = .ok json ∧
        jsonToValue serde json = .ok state.toValue := by
  unfold jsonToState
  split
  case h_1 error refused => simp [refused]
  case h_2 json parsed =>
      rw [parsed]
      split
      case h_1 error failed => simp [failed]
      case h_2 entries read =>
          have same : (⟨entries, ordered_jsonToValue serde json read⟩ : State) =
              state ↔ Value.object entries = state.toValue := by
            rw [State.ext_iff, State.toValue, Value.object.injEq]
          simp [read, same]
      case h_3 value other read =>
          refine ⟨fun same => (by cases same), ?_⟩
          rintro ⟨_, same, object⟩
          cases same
          rw [read] at object
          exact (other _ (Except.ok.inj object)).elim

end Codec

/-! ### What is written is read back -/

section Laws

variable {serde : SerdeJson} {limit : Nat}

private theorem keys_entriesToJson {entries : List (String × Value)}
    {json : List (String × JsonTree serde.Number)}
    (written : entriesToJson serde entries = .ok json) :
    json.map Prod.fst = entries.map Prod.fst := by
  induction entries generalizing json with
  | nil =>
      cases written
      rfl
  | cons entry rest ih =>
      obtain ⟨key, value⟩ := entry
      rw [entriesToJson] at written
      obtain ⟨first, _, written⟩ := bind_eq_ok.mp written
      obtain ⟨later, outer, made⟩ := bind_eq_ok.mp written
      cases made
      simp [ih outer]

private theorem ordered_of_keys {α β : Type} {first : List (String × α)}
    {second : List (String × β)}
    (keys : first.map Prod.fst = second.map Prod.fst)
    (ordered : Entries.Ordered second) : Entries.Ordered first := by
  rw [Entries.Ordered, ← List.pairwise_map] at ordered ⊢
  rw [keys]
  exact ordered

/-- The same value in the other form. -/
structure Mirrors (value : Value) (json : JsonTree serde.Number) : Prop where
  depth : json.depth = value.depth
  ordered : json.Ordered
  back : jsonToValue serde json = .ok value

mutual
theorem mirrors_valueToJson (lawful : serde.Lawful limit) :
    ∀ (value : Value) {json : JsonTree serde.Number},
      valueToJson serde value = .ok json → value.Ordered → Mirrors value json
  | .null, _, written, _ => by
      cases written
      exact ⟨rfl, trivial, rfl⟩
  | .bool _, _, written, _ => by
      cases written
      exact ⟨rfl, trivial, rfl⟩
  | .string _, _, written, _ => by
      cases written
      exact ⟨rfl, trivial, rfl⟩
  | .number value, json, written, _ => by
      rw [valueToJson] at written
      split at written
      case h_1 number made =>
          cases written
          refine ⟨rfl, trivial, ?_⟩
          rw [jsonToValue, lawful.asF64_fromF64 value number made]
      case h_2 => cases written
  | .array values, json, written, ordered => by
      rw [valueToJson] at written
      obtain ⟨items, inner, made⟩ := bind_eq_ok.mp written
      cases made
      obtain ⟨depth, itemsOrdered, back⟩ :=
        mirrors_itemsToJson lawful values inner ordered
      refine ⟨by rw [JsonTree.depth, Value.depth, depth], itemsOrdered, ?_⟩
      rw [jsonToValue, back]
      rfl
  | .object entries, json, written, ordered => by
      rw [valueToJson] at written
      obtain ⟨held, inner, made⟩ := bind_eq_ok.mp written
      cases made
      obtain ⟨depth, heldOrdered, back⟩ :=
        mirrors_entriesToJson lawful entries inner ordered.2
      refine ⟨by rw [JsonTree.depth, Value.depth, depth],
        ⟨ordered_of_keys (keys_entriesToJson inner) ordered.1, heldOrdered⟩, ?_⟩
      rw [jsonToValue, back]
      exact congrArg (fun entries => Except.ok (Value.object entries))
        (Entries.collect_of_ordered ordered.1)

theorem mirrors_itemsToJson (lawful : serde.Lawful limit) :
    ∀ (values : List Value) {json : List (JsonTree serde.Number)},
      itemsToJson serde values = .ok json → Value.OrderedItems values →
      JsonTree.depthItems json = Value.depthItems values ∧
        JsonTree.OrderedItems json ∧ jsonToItems serde json = .ok values
  | [], _, written, _ => by
      cases written
      exact ⟨rfl, trivial, rfl⟩
  | value :: rest, json, written, ordered => by
      rw [itemsToJson] at written
      obtain ⟨first, inner, written⟩ := bind_eq_ok.mp written
      obtain ⟨later, outer, made⟩ := bind_eq_ok.mp written
      cases made
      have own := mirrors_valueToJson lawful value inner ordered.1
      obtain ⟨depth, laterOrdered, back⟩ :=
        mirrors_itemsToJson lawful rest outer ordered.2
      refine ⟨by rw [JsonTree.depthItems, Value.depthItems, own.depth, depth],
        ⟨own.ordered, laterOrdered⟩, ?_⟩
      rw [jsonToItems, own.back, back]
      rfl

theorem mirrors_entriesToJson (lawful : serde.Lawful limit) :
    ∀ (entries : List (String × Value))
      {json : List (String × JsonTree serde.Number)},
      entriesToJson serde entries = .ok json → Value.OrderedEntries entries →
      JsonTree.depthEntries json = Value.depthEntries entries ∧
        JsonTree.OrderedEntries json ∧
        jsonToEntries serde json = .ok entries
  | [], _, written, _ => by
      cases written
      exact ⟨rfl, trivial, rfl⟩
  | (key, value) :: rest, json, written, ordered => by
      rw [entriesToJson] at written
      obtain ⟨first, inner, written⟩ := bind_eq_ok.mp written
      obtain ⟨later, outer, made⟩ := bind_eq_ok.mp written
      cases made
      have own := mirrors_valueToJson lawful value inner ordered.1
      obtain ⟨depth, laterOrdered, back⟩ :=
        mirrors_entriesToJson lawful rest outer ordered.2
      refine ⟨by rw [JsonTree.depthEntries, Value.depthEntries, own.depth,
        depth], ⟨own.ordered, laterOrdered⟩, ?_⟩
      rw [jsonToEntries, own.back, back]
      rfl
end

/-- Text that was written is read back, if it is not too deep, and is refused
otherwise. -/
theorem jsonToState_of_written (lawful : serde.Lawful limit) {state : State}
    {encoded : String} (written : stateToJson serde state = .ok encoded) :
    (state.depth ≤ limit → jsonToState serde encoded = .ok state) ∧
      (limit < state.depth →
        ∃ error, jsonToState serde encoded = .error error) := by
  obtain ⟨json, made, same⟩ := bind_eq_ok.mp written
  cases same
  have mirrors := mirrors_valueToJson lawful state.toValue made state.ordered
  constructor
  · intro shallow
    exact (jsonToState_eq_ok serde).mpr ⟨json,
      lawful.fromStr_toString json mirrors.ordered
        (mirrors.depth.trans_le shallow), mirrors.back⟩
  · intro deep
    obtain ⟨error, refused⟩ := lawful.fromStr_deep json mirrors.ordered
      (mirrors.depth.symm ▸ deep)
    exact ⟨⟨error⟩, by rw [jsonToState, refused]⟩

/-- A state is its text, as far as text is read at all. -/
theorem state_of_text (lawful : serde.Lawful limit) {first second : State}
    {encoded : String} (shallow : first.depth ≤ limit)
    (alike : second.depth ≤ limit)
    (writtenFirst : stateToJson serde first = .ok encoded)
    (writtenSecond : stateToJson serde second = .ok encoded) :
    first = second := by
  have backFirst := (jsonToState_of_written lawful writtenFirst).1 shallow
  have backSecond := (jsonToState_of_written lawful writtenSecond).1 alike
  rw [backFirst] at backSecond
  exact Except.ok.inj backSecond

mutual
/-- What is read is no deeper than the text. -/
theorem depth_jsonToValue : ∀ (json : JsonTree serde.Number) {value : Value},
    jsonToValue serde json = .ok value → value.depth ≤ json.depth
  | .null, _, read => by
      cases read
      exact Nat.le_refl _
  | .bool _, _, read => by
      cases read
      exact Nat.le_refl _
  | .string _, _, read => by
      cases read
      exact Nat.le_refl _
  | .number number, value, read => by
      rw [jsonToValue] at read
      split at read
      · cases read
        exact Nat.le_refl _
      · cases read
  | .array values, value, read => by
      rw [jsonToValue] at read
      obtain ⟨items, inner, made⟩ := bind_eq_ok.mp read
      cases made
      exact Nat.succ_le_succ (depth_jsonToItems values inner)
  | .object entries, value, read => by
      rw [jsonToValue] at read
      obtain ⟨held, inner, made⟩ := bind_eq_ok.mp read
      cases made
      exact Nat.succ_le_succ ((Value.depthEntries_collect held).trans
        (depth_jsonToEntries entries inner))

theorem depth_jsonToItems : ∀ (json : List (JsonTree serde.Number))
    {values : List Value}, jsonToItems serde json = .ok values →
    Value.depthItems values ≤ JsonTree.depthItems json
  | [], _, read => by
      cases read
      exact Nat.le_refl _
  | first :: rest, values, read => by
      rw [jsonToItems] at read
      obtain ⟨value, inner, read⟩ := bind_eq_ok.mp read
      obtain ⟨later, outer, made⟩ := bind_eq_ok.mp read
      cases made
      exact max_le_max (depth_jsonToValue first inner)
        (depth_jsonToItems rest outer)

theorem depth_jsonToEntries :
    ∀ (json : List (String × JsonTree serde.Number))
    {entries : List (String × Value)}, jsonToEntries serde json = .ok entries →
    Value.depthEntries entries ≤ JsonTree.depthEntries json
  | [], _, read => by
      cases read
      exact Nat.le_refl _
  | (key, first) :: rest, entries, read => by
      rw [jsonToEntries] at read
      obtain ⟨value, inner, read⟩ := bind_eq_ok.mp read
      obtain ⟨later, outer, made⟩ := bind_eq_ok.mp read
      cases made
      exact max_le_max (depth_jsonToValue first inner)
        (depth_jsonToEntries rest outer)
end

theorem depth_jsonToState (lawful : serde.Lawful limit) {encoded : String}
    {state : State} (read : jsonToState serde encoded = .ok state) :
    state.depth ≤ limit := by
  obtain ⟨json, parsed, made⟩ := (jsonToState_eq_ok serde).mp read
  exact (depth_jsonToValue json made).trans
    (lawful.depth_fromStr encoded json parsed)

theorem jsonToState_empty (lawful : serde.Lawful limit) (positive : 0 < limit) :
    jsonToState serde "\x7b\x7d" = .ok State.new := by
  rw [← lawful.toString_empty]
  exact (jsonToState_of_written lawful rfl).1 positive

end Laws

/-! ### A codec to compute with -/

/-- Numbers by their bits. -/
def bitNumerals : JsonText.Numerals { number : F64 // number.finite = true } where
  print number := number.val.bits.toNat.repr.toList
  parse text :=
    match Decimal.parseNat (String.ofList text) with
    | none => none
    | some bits =>
        let number : F64 := ⟨BitVec.ofNat 64 bits⟩
        if finite : number.finite = true then some ⟨number, finite⟩ else none
  nonempty number := by
    obtain ⟨first, rest, written, _⟩ :=
      Decimal.head_repr number.val.bits.toNat
    rw [written]
    exact List.cons_ne_nil _ _
  numeral number := by
    rw [List.all_eq_true]
    intro char member
    simp [JsonText.isNumeral, Decimal.isDigit_of_mem member]
  parse_print number := by
    have same : (⟨BitVec.ofNat 64 number.val.bits.toNat⟩ : F64) = number.val := by
      rw [BitVec.ofNat_toNat, BitVec.setWidth_eq]
    simp only [String.ofList_toList, Decimal.parseNat_repr, same,
      number.property, dite_true]

/-- It writes compact text, and reads `limit` levels of it. -/
def bitSerde (limit : Nat) : SerdeJson where
  Number := { number : F64 // number.finite = true }
  fromF64 value := if finite : value.finite = true then some ⟨value, finite⟩
    else none
  asF64 number := some number.val
  toString tree := String.ofList (JsonText.print bitNumerals .compact 0 tree)
  fromStr text :=
    (JsonText.parse bitNumerals limit text.toList).elim
      (.error "recursion limit exceeded") .ok

theorem bitSerde_lawful (limit : Nat) : (bitSerde limit).Lawful limit where
  asF64_fromF64 value number made := by
    simp only [bitSerde] at made
    split at made
    · cases made
      rfl
    · cases made
  toString_empty := rfl
  fromStr_toString value ordered shallow := by
    have back := @JsonText.parse_print _ bitNumerals .compact value ordered
      limit shallow
    simp only [bitSerde, String.toList_ofList]
    exact congrArg (Option.elim · _ _) back
  fromStr_deep value ordered deep := by
    have refused := @JsonText.parse_deep _ bitNumerals .compact value ordered
      limit deep
    refine ⟨"recursion limit exceeded", ?_⟩
    simp only [bitSerde, String.toList_ofList]
    exact congrArg (Option.elim · _ _) refused
  depth_fromStr text value read := by
    simp only [bitSerde] at read
    cases parsed : JsonText.parse bitNumerals limit text.toList with
    | none =>
        rw [parsed] at read
        cases read
    | some tree =>
        rw [parsed] at read
        cases read
        exact JsonText.depth_parse parsed

end AgentLedger.Rust
