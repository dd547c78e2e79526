import AgentLedger.Foundation.JsonNotation
import AgentLedger.Go.Store
import AgentLedger.Rust.Memory.Operations
import AgentLedger.Rust.Numbers

/-! The request hash of a tool call in the four languages. -/

namespace AgentLedger

open Foundation

/-- `canonical_json`: the keys of every object are sorted. -/
def canonicalJson (float : Rat → List Char) (value : Json) : String :=
  String.ofList ((Spelling.json JsonText.escape float).text value.normal)

namespace Go

/-- The strings of `json.Marshal`, which are fit for HTML. -/
def escape (char : Char) : List Char :=
  if char = '<' then ['\\', 'u', '0', '0', '3', 'c']
  else if char = '>' then ['\\', 'u', '0', '0', '3', 'e']
  else if char = '&' then ['\\', 'u', '0', '0', '2', '6']
  else if char = '\u2028' then ['\\', 'u', '2', '0', '2', '8']
  else if char = '\u2029' then ['\\', 'u', '2', '0', '2', '9']
  else JsonText.escape char

/-- `json.Marshal`, which sorts the keys of a map. -/
def marshal (float : Rat → List Char) (value : Json) : String :=
  String.ofList ((Spelling.json escape float).text value.normal)

def toolRequest (toolName : String) (args : JsonObject) : JsonObject :=
  object [("tool", text toolName), ("args", nested args)]

private theorem reads_unicode {first second third fourth char : Char}
    (hex : JsonText.hexNumber first second third fourth = some char.toNat)
    (low : char.toNat < 0xd800) (rest : List Char) :
    JsonText.stringBody (['\\', 'u', first, second, third, fourth] ++ rest) =
      (JsonText.stringBody rest).map (JsonText.pushChar char) := by
  simp only [List.cons_append, List.nil_append]
  rw [JsonText.stringBody, hex]
  dsimp only
  rw [if_neg (by omega), if_neg (by omega), Char.ofNat_toNat]

theorem reads_escape (char : Char) (rest : List Char) :
    JsonText.stringBody (escape char ++ rest) =
      (JsonText.stringBody rest).map (JsonText.pushChar char) := by
  unfold escape
  repeat' split
  · rename_i same
    exact reads_unicode (by rw [same]; decide) (by rw [same]; decide) rest
  · rename_i same
    exact reads_unicode (by rw [same]; decide) (by rw [same]; decide) rest
  · rename_i same
    exact reads_unicode (by rw [same]; decide) (by rw [same]; decide) rest
  · rename_i same
    exact reads_unicode (by rw [same]; decide) (by rw [same]; decide) rest
  · rename_i same
    exact reads_unicode (by rw [same]; decide) (by rw [same]; decide) rest
  · exact JsonText.stringBody_escape char rest

end Go

namespace TypeScript

/-- `JSON.stringify`, which keeps the order of the members. -/
def stringify (float : Rat → List Char) (value : Json) : String :=
  String.ofList ((Spelling.json JsonText.escape float).text value)

def toolRequest (toolName : String) (args : OrderedObject) : Json :=
  .obj [("tool", .str toolName), ("args", .obj args.fields)]

end TypeScript

namespace Rust

def toolRequest (toolName : String) (args : State) : State :=
  stateOf [("tool", .string toolName), ("args", .object args)]

/-- `format_value` on what JSON values are in the port. -/
def spelling (text : F64Text) : Spelling where
  int value := (text.print (.ofRat value)).toList
  float value := (text.print (.ofRat value)).toList
  string value := '"' :: (value.toList ++ ['"'])
  key value := value.toList ++ ['=']

/-- `Display` of an integer has its digits and nothing else. -/
def F64Text.Integers (text : F64Text) : Prop :=
  ∀ value : Int, |value| < 2 ^ 53 →
    text.print (.ofRat value) = toString value

variable {text : F64Text}

mutual
theorem toList_formatValue : (value : Json) →
    (formatValue text (.ofJson value)).toList = (spelling text).text value
  | .null => rfl
  | .bool _ => rfl
  | .int _ => rfl
  | .float _ => rfl
  | .str value => by
      rw [Value.ofJson, formatValue, String.toList_append,
        String.toList_append]
      rfl
  | .arr items => by
      rw [Value.ofJson, formatValue, String.toList_append,
        String.toList_append, String.toList_intercalate,
        toList_formatItems items]
      rfl
  | .obj fields => by
      rw [Value.ofJson, formatValue, String.toList_append,
        String.toList_append, String.toList_intercalate,
        toList_formatEntries fields]
      rfl

theorem toList_formatItems : (items : List Json) →
    (formatItems text (valuesOf items)).map String.toList =
      (spelling text).itemTexts items
  | [] => rfl
  | item :: rest => by
      rw [valuesOf, formatItems, List.map_cons, toList_formatValue item,
        toList_formatItems rest, Spelling.itemTexts]

theorem toList_formatEntries : (fields : List (String × Json)) →
    (formatEntries text (entriesOf fields)).map String.toList =
      (spelling text).fieldTexts fields
  | [] => rfl
  | (key, value) :: rest => by
      rw [entriesOf, formatEntries, List.map_cons, String.toList_append,
        String.toList_append, toList_formatValue value,
        toList_formatEntries rest, Spelling.fieldTexts]
      rfl
end

private theorem cut {separator : Char} {first second rest behind : List Char}
    (plain : separator ∉ first) (other : separator ∉ second)
    (same : first ++ separator :: rest = second ++ separator :: behind) :
    first = second ∧ rest = behind := by
  induction first generalizing second with
  | nil =>
      cases second with
      | nil => exact ⟨rfl, (List.cons.inj same).2⟩
      | cons char later =>
          have taken := (List.cons.inj same).1
          exact absurd (taken ▸ List.mem_cons_self) other
  | cons char later ih =>
      cases second with
      | nil =>
          have taken := (List.cons.inj same).1
          exact absurd (taken ▸ List.mem_cons_self) plain
      | cons held others =>
          obtain ⟨rfl, rest_same⟩ := List.cons.inj same
          obtain ⟨rfl, last⟩ := ih (fun listed => plain (.tail _ listed))
            (fun listed => other (.tail _ listed)) rest_same
          exact ⟨rfl, last⟩

/-- Nothing is escaped: a string is told apart if it has no quote, and a key if
it has no equals sign and does not begin as the end of an object. -/
def clear (integers : text.Integers) : (spelling text).Clear where
  int value := |value| < 2 ^ 53
  string value := '"' ∉ value.toList
  key value := '=' ∉ value.toList ∧ value.toList.head? ≠ some '\x7d'
  int_separated first second rest behind small other stops ends same := by
    simp only [spelling, integers _ small, integers _ other] at same
    exact integer_separated stops ends same
  string_separated first second rest behind plain other same := by
    simp only [spelling, List.cons_append, List.append_assoc,
      List.nil_append, List.cons.injEq, true_and] at same
    obtain ⟨texts, last⟩ := cut plain other same
    exact ⟨String.toList_injective texts, last⟩
  key_separated first second rest behind plain other same := by
    simp only [spelling, List.append_assoc, List.cons_append,
      List.nil_append] at same
    obtain ⟨texts, last⟩ := cut plain.1 other.1 same
    exact ⟨String.toList_injective texts, last⟩
  int_starts value small := by
    obtain ⟨first, later, written, numeral⟩ := integer_starts value
    exact ⟨first, later,
      (congrArg String.toList (integers value small)).trans written, numeral⟩
  string_starts _ := ⟨_, rfl⟩
  key_open value rest later plain same := by
    simp only [spelling, List.append_assoc, List.cons_append,
      List.nil_append] at same
    cases listed : value.toList with
    | nil =>
        rw [listed] at same
        exact absurd (List.cons.inj same).1 (by decide)
    | cons char others =>
        rw [listed] at same
        apply plain.2
        rw [listed, (List.cons.inj same).1]
        rfl

theorem formatState_toolRequest (toolName : String) (args : JsonObject) :
    formatState text (toolRequest toolName (.ofObject args)) =
      "args=" ++ (formatValue text (.ofJson args.value) ++
        (",tool=\"" ++ toolName ++ "\"")) := by
  have entries : (toolRequest toolName (.ofObject args)).entries =
      [("args", .ofJson args.value), ("tool", .string toolName)] := by
    simp only [toolRequest, stateOf, List.foldl_cons, List.foldl_nil,
      State.insert, State.new, Entries.insert]
    rw [if_pos (by decide)]
    rfl
  rw [formatState, entries]
  simp only [formatEntries, formatValue, String.intercalate_cons_cons,
    String.intercalate_singleton]
  apply String.toList_injective
  simp [String.toList_append]

end Rust

end AgentLedger

namespace AgentLedger.Ports

open Foundation

inductive Port
  | python
  | go
  | typeScript
  | rust
  deriving DecidableEq

/-- The arguments and the name of the tool, in the order in which they came. -/
def request (toolName : String) (args : OrderedObject) : Json :=
  .obj [("tool", .str toolName), ("args", .obj args.fields)]

/-- What a gateway hashes for a call. -/
def requestText (float : Rat → List Char) (number : Rust.F64Text)
    (toolName : String) (args : OrderedObject) : Port → String
  | .python => canonicalJson float (request toolName args)
  | .go => Go.marshal float (Go.toolRequest toolName args.json).value
  | .typeScript => TypeScript.stringify float
      (TypeScript.toolRequest toolName args)
  | .rust => Rust.formatState number
      (Rust.toolRequest toolName (.ofObject args.json))

/-- `sha256_json`, `sha256JSON` and `stable_hash` of it. -/
def requestHash (hash : Port → String → String) (float : Rat → List Char)
    (number : Rust.F64Text) (toolName : String) (args : OrderedObject)
    (port : Port) : String :=
  let digest := hash port (requestText float number toolName args port)
  match port with
  | .python => "sha256:" ++ digest
  | _ => digest

/-- All numbers are integers below 2^53. -/
def Integers (args : OrderedObject) : Prop :=
  Json.ComposedFields (fun value => |value| < 2 ^ 53) (fun _ => True)
    (fun _ => True) args.fields

/-- No string has a quote, no key an equals sign, and none begins as the end of
an object. -/
def Unquoted (args : OrderedObject) : Prop :=
  Json.ComposedFields (fun value => |value| < 2 ^ 53)
    (fun value => '"' ∉ value.toList)
    (fun key => '=' ∉ key.toList ∧ key.toList.head? ≠ some '\x7d')
    args.fields

section Texts

variable {float : Rat → List Char} {number : Rust.F64Text}
  {toolName : String} {first second : OrderedObject}

private theorem json_iff {first second : OrderedObject} :
    first.json = second.json ↔
      Json.normalFields first.fields = Json.normalFields second.fields :=
  ⟨congrArg JsonObject.fields, fun same => JsonObject.ext same⟩

private theorem normal_normal (value : Json) :
    value.normal.normal = value.normal :=
  Json.normal_of_canonical _ (Json.canonical_normal value)

/-- The requests are the same value exactly if the arguments are. -/
private theorem normal_request_iff :
    (request toolName first).normal = (request toolName second).normal ↔
      first.json = second.json := by
  constructor
  · intro same
    have members := congrArg (fun fields => Fields.get? fields "args")
      (Json.obj.inj same)
    simp only [Json.get?_normalFields] at members
    exact json_iff.mpr (Json.obj.inj (Option.some.inj members))
  · intro same
    have args : (Json.obj first.fields).normal =
        (Json.obj second.fields).normal :=
      congrArg Json.obj (json_iff.mp same)
    simp only [request, Json.normal, Json.normalFields] at args ⊢
    rw [args]

private theorem composed_request
    {int : Int → Prop} {string key : String → Prop}
    (args : Json.ComposedFields int string key first.fields)
    (name : string toolName) (keys : key "tool" ∧ key "args") :
    (request toolName first).Composed int string key :=
  ⟨keys.1, name, keys.2, args, trivial⟩

private theorem integers_request (integers : Integers first) :
    (request toolName first).Composed (fun _ => True) (fun _ => True)
      (fun _ => True) :=
  Json.Composed.mono (fun _ _ => trivial) (fun _ _ => trivial)
    (fun _ _ => trivial) _
    (composed_request integers trivial ⟨trivial, trivial⟩)

private theorem ofList_inj {first second : List Char} :
    String.ofList first = String.ofList second ↔ first = second :=
  ⟨fun same => String.ofList_injective same, congrArg String.ofList⟩

theorem python_text_iff (own : Integers first) (other : Integers second) :
    requestText float number toolName first .python =
        requestText float number toolName second .python ↔
      first.json = second.json := by
  rw [← @normal_request_iff toolName first second, requestText, requestText,
    canonicalJson, canonicalJson, ofList_inj]
  constructor
  · exact Spelling.text_injective
      (Spelling.jsonClear float JsonText.stringBody_escape)
      (Json.Composed.normal _ (integers_request own))
      (Json.Composed.normal _ (integers_request other))
  · exact congrArg _

private theorem value_goRequest (args : OrderedObject) :
    (Go.toolRequest toolName args.json).value =
      (request toolName ⟨args.json.fields,
        Json.CanonicalFields.distinct _ args.json.canonical⟩).normal := by
  have fields : (Go.toolRequest toolName args.json).fields =
      Json.normalFields [("tool", .str toolName),
        ("args", args.json.value)] := by
    simp [Go.toolRequest, Go.object, Go.text, Go.nested]
  rw [JsonObject.value, fields]
  rfl

theorem go_text_iff (own : Integers first) (other : Integers second) :
    requestText float number toolName first .go =
        requestText float number toolName second .go ↔
      first.json = second.json := by
  have again (args : OrderedObject) :
      OrderedObject.json ⟨args.json.fields,
        Json.CanonicalFields.distinct _ args.json.canonical⟩ = args.json :=
    JsonObject.ext (Json.normalFields_of_canonical _ args.json.canonical)
  have composed {args : OrderedObject} (integers : Integers args) :
      (Go.toolRequest toolName args.json).value.normal.Composed
        (fun _ => True) (fun _ => True) (fun _ => True) := by
    rw [value_goRequest]
    apply Json.Composed.normal
    apply Json.Composed.normal
    apply integers_request
    exact Json.ComposedFields.normal _ integers
  rw [requestText, requestText, Go.marshal, Go.marshal, ofList_inj]
  constructor
  · intro same
    have values := Spelling.text_injective
      (Spelling.jsonClear float Go.reads_escape) (composed own)
      (composed other) same
    rw [value_goRequest, value_goRequest, normal_normal, normal_normal,
      normal_request_iff, again, again] at values
    exact values
  · intro same
    rw [same]

theorem typeScript_text_iff (own : Integers first) (other : Integers second) :
    requestText float number toolName first .typeScript =
        requestText float number toolName second .typeScript ↔
      first.fields = second.fields := by
  rw [requestText, requestText, TypeScript.stringify, TypeScript.stringify,
    ofList_inj]
  constructor
  · intro same
    have values := Spelling.text_injective
      (Spelling.jsonClear float JsonText.stringBody_escape)
      (integers_request own) (integers_request other) same
    simp only [request, Json.obj.injEq, List.cons.injEq, Prod.mk.injEq,
      true_and, and_true] at values
    exact values
  · intro same
    rw [TypeScript.toolRequest, TypeScript.toolRequest, same]

theorem rust_text_iff : requestText float number toolName first .rust =
      requestText float number toolName second .rust ↔
    (Rust.spelling number).text first.json.value =
      (Rust.spelling number).text second.json.value := by
  rw [requestText, requestText, Rust.formatState_toolRequest,
    Rust.formatState_toolRequest, ← Rust.toList_formatValue,
    ← Rust.toList_formatValue]
  constructor
  · intro same
    have lists := congrArg String.toList same
    simp only [String.toList_append] at lists
    exact List.append_cancel_right (List.append_cancel_left lists)
  · intro same
    rw [String.toList_injective same]

theorem rust_text_iff_of_unquoted (integers : number.Integers)
    (own : Unquoted first) (other : Unquoted second) :
    requestText float number toolName first .rust =
        requestText float number toolName second .rust ↔
      first.json = second.json := by
  rw [rust_text_iff]
  constructor
  · intro same
    have holds {args : OrderedObject} (plain : Unquoted args) :
        (Rust.clear integers).Holds args.json.value :=
      Json.ComposedFields.normal _ plain
    have values := Spelling.text_injective (Rust.clear integers) (holds own)
      (holds other) same
    exact JsonObject.ext (Json.obj.inj values)
  · intro same
    rw [same]

/-! ### The hashes -/

/-- The port tells the requests apart as JSON does. -/
def Identifies (hash : Port → String → String) (float : Rat → List Char)
    (number : Rust.F64Text) (toolName : String) (first second : OrderedObject)
    (port : Port) : Prop :=
  requestHash hash float number toolName first port =
      requestHash hash float number toolName second port ↔
    first.json = second.json

theorem identifies_iff {hash : Port → String → String}
    (injective : ∀ port, Function.Injective (hash port)) (port : Port) :
    Identifies hash float number toolName first second port ↔
      (requestText float number toolName first port =
          requestText float number toolName second port ↔
        first.json = second.json) := by
  have digests : requestHash hash float number toolName first port =
        requestHash hash float number toolName second port ↔
      requestText float number toolName first port =
        requestText float number toolName second port := by
    have hashes := (injective port).eq_iff
      (a := requestText float number toolName first port)
      (b := requestText float number toolName second port)
    cases port with
    | python =>
        rw [← hashes, requestHash, requestHash]
        constructor
        · intro same
          have lists := congrArg String.toList same
          rw [String.toList_append, String.toList_append] at lists
          exact String.toList_injective (List.append_cancel_left lists)
        · exact congrArg _
    | go | typeScript | rust => exact hashes
  rw [Identifies, digests]

/-- The reference runtime and the Go port identify requests as JSON does; the
TypeScript port unless the same members come in another order; the Rust port
where nothing would have to be escaped. -/
theorem requests_identified (hash : Port → String → String)
    (injective : ∀ port, Function.Injective (hash port))
    (float : Rat → List Char) (number : Rust.F64Text)
    (integers : number.Integers) (toolName : String)
    (first second : OrderedObject) (own : Integers first)
    (other : Integers second) :
    (Identifies hash float number toolName first second .python ∧
        Identifies hash float number toolName first second .go) ∧
      (Identifies hash float number toolName first second .typeScript ↔
        (first.json = second.json → first.fields = second.fields)) ∧
      (first.json = second.json ∨ Unquoted first ∧ Unquoted second →
        Identifies hash float number toolName first second .rust) := by
  simp only [identifies_iff injective]
  refine ⟨⟨python_text_iff own other, go_text_iff own other⟩, ?_, ?_⟩
  · rw [typeScript_text_iff own other]
    constructor
    · exact fun same => same.mpr
    · exact fun ordered => ⟨fun same => json_iff.mpr (by rw [same]), ordered⟩
  · rintro (same | ⟨plain, unquoted⟩)
    · refine iff_of_true ?_ same
      rw [requestText, requestText, same]
    · exact rust_text_iff_of_unquoted integers plain unquoted

end Texts

/-- Integers as they are displayed, and no other numbers. -/
def integerText : Rust.F64Text where
  print number := toString number.toRat.num
  parse _ := .error "invalid float literal"

theorem integers_integerText : integerText.Integers := by
  intro value small
  have kept := (Rust.F64.ofRat_intCast small.le).2
  change toString (Rust.F64.ofRat value).toRat.num = toString value
  rw [kept, Rat.num_intCast]

/-- The amount before the currency, and behind it. -/
def charge : OrderedObject :=
  ⟨[("amount", .int 5), ("currency", .str "EUR")], by
    simp [Json.DistinctFields, Json.Distinct, Fields.keys]⟩

def chargeTurned : OrderedObject :=
  ⟨[("currency", .str "EUR"), ("amount", .int 5)], by
    simp [Json.DistinctFields, Json.Distinct, Fields.keys]⟩

theorem charge_identified :
    Identifies (fun _ => id) (fun _ => []) integerText "charge" charge
        chargeTurned .go ∧
      Identifies (fun _ => id) (fun _ => []) integerText "charge" charge
        chargeTurned .rust := by
  have same : charge.json = chargeTurned.json := by
    apply JsonObject.ext
    decide
  have identified := requests_identified (fun _ => id)
    (fun _ => Function.injective_id) (fun _ => []) integerText
    integers_integerText "charge" charge chargeTurned
    (by simp [Integers, charge, Json.ComposedFields, Json.Composed])
    (by simp [Integers, chargeTurned, Json.ComposedFields, Json.Composed])
  exact ⟨identified.1.2, identified.2.2 (.inl same)⟩

/-- A text that looks like the end of a member, and two members. -/
def note : OrderedObject :=
  ⟨[("body", .str "hi\",to=\"bob")], by
    simp [Json.DistinctFields, Json.Distinct, Fields.keys]⟩

def noteTo : OrderedObject :=
  ⟨[("body", .str "hi"), ("to", .str "bob")], by
    simp [Json.DistinctFields, Json.Distinct, Fields.keys]⟩

/-- The TypeScript port takes one request for two, and the Rust port two for
one. -/
theorem requests_confused :
    ¬Identifies (fun _ => id) (fun _ => []) integerText "charge" charge
        chargeTurned .typeScript ∧
      ¬Identifies (fun _ => id) (fun _ => []) integerText "send" note noteTo
        .rust := by
  constructor
  · intro identified
    have same : charge.json = chargeTurned.json := by
      apply JsonObject.ext
      decide
    have texts := (identifies_iff (fun _ => Function.injective_id) _).mp
      identified |>.mpr same
    rw [typeScript_text_iff
      (by simp [Integers, charge, Json.ComposedFields, Json.Composed])
      (by simp [Integers, chargeTurned, Json.ComposedFields, Json.Composed])]
      at texts
    have names := congrArg (List.map Prod.fst) texts
    revert names
    decide
  · intro identified
    have same := (identifies_iff (fun _ => Function.injective_id) _).mp
      identified |>.mp (rust_text_iff.mpr (by decide))
    have lengths := congrArg (fun object => object.fields.length) same
    revert lengths
    decide

end AgentLedger.Ports
