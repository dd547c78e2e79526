import AgentLedger.Foundation.JsonNotation
import AgentLedger.Rust.Numbers
import AgentLedger.Tools.Schema

/-! `validate_tool_schema` of the ports, on the schemas that all of them know. -/

namespace AgentLedger

open Foundation

namespace Ports

/-- An integer that every language holds. -/
abbrev Limit := { value : Int // |value| < 2 ^ 53 }

/-- The numbers of the value are such integers. -/
def Moderate : Json → Prop :=
  Json.Composed (fun value => |value| < 2 ^ 53) (fun _ => True) fun _ => True

/-- A JSON value that every language holds. -/
structure Document where
  json : Json
  distinct : json.Distinct
  moderate : Moderate json

/-- The keywords that hold no schema themselves.  A keyword that is missing is
`none`; `closed` is `additionalProperties: false`. -/
structure PlainKeywords where
  const : Option Document := none
  enum : Option (List Document) := none
  type : Option String := none
  required : Option (List String) := none
  closed : Bool := false
  minLength : Option Limit := none
  maxLength : Option Limit := none
  minimum : Option Limit := none
  maximum : Option Limit := none

inductive PlainSchema
  | bare (keywords : PlainKeywords)
  | object (keywords : PlainKeywords)
      (properties : List (String × PlainSchema))

/-! ### Go and TypeScript

The two functions differ in what they call equal, in how they count a string,
and in how they show a constant.  A number is the rational that its float64
stands for; the integers are those within the range of an `int`. -/

structure Dialect where
  same : Json → Json → Bool
  length : String → Nat
  display : Json → String

abbrev PortCheck := Json → String → Except String Unit

namespace Dialect

variable (dialect : Dialect)

def number? : Json → Option Rat
  | .int value => some value
  | .float value => some value
  | _ => none

def checkConst (const : Option Document) : PortCheck := fun value path =>
  match const with
  | none => .ok ()
  | some expected =>
      if dialect.same expected.json value then .ok ()
      else .error (path ++ " expected const " ++ dialect.display expected.json)

def checkEnum (enum : Option (List Document)) : PortCheck := fun value path =>
  match enum with
  | none => .ok ()
  | some items =>
      if items.any fun item => dialect.same item.json value then .ok ()
      else .error (path ++ " value not in enum")

def checkRequired (required : List String) (fields : Fields) (path : String) :
    Except String Unit :=
  required.forM fun key =>
    if key ∈ Fields.keys fields then .ok ()
    else .error (path ++ "." ++ key ++ " is required")

def checkProperties (properties : List (String × PortCheck)) (fields : Fields)
    (path : String) : Except String Unit :=
  properties.forM fun property =>
    match Fields.get? fields property.1 with
    | some child => property.2 child (path ++ "." ++ property.1)
    | none => .ok ()

def checkAdditional (closed : Bool) (names : List String) (fields : Fields)
    (path : String) : Except String Unit :=
  if closed then
    (Fields.keys fields).forM fun key =>
      if key ∈ names then .ok ()
      else .error (path ++ "." ++ key ++ " is not allowed")
  else .ok ()

def checkObject (keywords : PlainKeywords)
    (properties : List (String × PortCheck)) : PortCheck := fun value path =>
  match value with
  | .obj fields => do
      checkRequired (keywords.required.getD []) fields path
      checkProperties properties fields path
      checkAdditional keywords.closed (properties.map Prod.fst) fields path
  | _ => .error (path ++ " expected object")

/-- A check of one bound. -/
def checkLimit (limit : Option Limit) (fails : Int → Bool) (message : String) :
    Except String Unit :=
  match limit with
  | none => .ok ()
  | some limit => if fails limit.1 then .error message else .ok ()

def checkString (keywords : PlainKeywords) : PortCheck := fun value path =>
  match value with
  | .str text => do
      checkLimit keywords.minLength
        (fun limit => (dialect.length text : Int) < limit)
        (path ++ " shorter than minLength")
      checkLimit keywords.maxLength
        (fun limit => limit < (dialect.length text : Int))
        (path ++ " longer than maxLength")
  | _ => .error (path ++ " expected string")

def checkNumber (keywords : PlainKeywords) : PortCheck := fun value path =>
  match number? value with
  | some number => do
      if keywords.type = some "integer" ∧ number.den ≠ 1 then
        throw (path ++ " expected integer")
      checkLimit keywords.minimum (fun limit => number < limit)
        (path ++ " below minimum")
      checkLimit keywords.maximum (fun limit => limit < number)
        (path ++ " above maximum")
  | none => .error (path ++ " expected number")

def checkBoolean : PortCheck := fun value path =>
  match value with
  | .bool _ => .ok ()
  | _ => .error (path ++ " expected boolean")

/-- The keywords that a type brings into play. -/
def checkType (keywords : PlainKeywords)
    (properties : List (String × PortCheck)) : PortCheck := fun value path =>
  if keywords.type = some "object" then
    checkObject keywords properties value path
  else if keywords.type = some "string" then
    dialect.checkString keywords value path
  else if keywords.type = some "number" ∨ keywords.type = some "integer" then
    checkNumber keywords value path
  else if keywords.type = some "boolean" then checkBoolean value path
  else .ok ()

mutual
/-- An empty schema passes every check. -/
def validate : PlainSchema → PortCheck
  | .bare keywords => fun value path => do
      dialect.checkConst keywords.const value path
      dialect.checkEnum keywords.enum value path
      dialect.checkType keywords [] value path
  | .object keywords properties => fun value path => do
      dialect.checkConst keywords.const value path
      dialect.checkEnum keywords.enum value path
      dialect.checkType keywords (propertyChecks properties) value path

def propertyChecks : List (String × PlainSchema) → List (String × PortCheck)
  | [] => []
  | (key, schema) :: rest => (key, validate schema) :: propertyChecks rest
end

end Dialect

end Ports

namespace Go

open Ports

/-- `fmt.Sprintf("%#v", first) == fmt.Sprintf("%#v", second)`: the text has all
of a value, and maps in key order. -/
def sameSyntax (first second : Json) : Bool := first.normal = second.normal

/-- `len(text)` counts bytes; `display` is `fmt.Sprintf("%v", …)`. -/
def dialect (display : Json → String) : Dialect where
  same := sameSyntax
  length := String.utf8ByteSize
  display := display

def validateToolSchema (display : Json → String) (schema : PlainSchema) :
    PortCheck := fun value path =>
  (dialect display).validate schema value (if path = "" then "$" else path)

end Go

namespace TypeScript

open Ports

/-- `text.length` -/
def utf16Length (text : String) : Nat :=
  (text.toList.map fun char => if char.toNat < 0x10000 then 1 else 2).sum

/-- The number of a key that is an array index. -/
def arrayIndex? (key : String) : Option Nat :=
  key.toNat?.filter fun index => toString index = key && index < 2 ^ 32 - 1

/-- The members in the order in which an object has them: those that are array
indices come first, by their numbers. -/
def ownOrder (fields : Fields) : Fields :=
  (fields.filter fun field => (arrayIndex? field.1).isSome).insertionSort
      (fun first second => (arrayIndex? first.1).getD 0 ≤
        (arrayIndex? second.1).getD 0) ++
    fields.filter fun field => (arrayIndex? field.1).isNone

mutual
/-- The value as `JSON.parse` returns it. -/
def parsed : Json → Json
  | .arr items => .arr (parsedItems items)
  | .obj fields => .obj (ownOrder (parsedFields fields))
  | value => value

def parsedItems : List Json → List Json
  | [] => []
  | item :: rest => parsed item :: parsedItems rest

def parsedFields : List (String × Json) → Fields
  | [] => []
  | (key, value) :: rest => (key, parsed value) :: parsedFields rest
end

/-- `JSON.stringify(first) === JSON.stringify(second)`: the members come in
their order. -/
def sameText (first second : Json) : Bool := parsed first = parsed second

def dialect (display : Json → String) : Dialect where
  same := sameText
  length := utf16Length
  display := display

def validateToolSchema (display : Json → String) (schema : PlainSchema) :
    PortCheck :=
  (dialect display).validate schema

end TypeScript

namespace Rust

open Ports

mutual
/-- `==` on values: the maps have the same keys, with equal values. -/
def Value.eq : Value → Value → Bool
  | .null, .null => true
  | .bool first, .bool second => first == second
  | .number first, .number second => first.partialCmp second = some .eq
  | .string first, .string second => first == second
  | .array first, .array second => itemsEq first second
  | .object first, .object second => entriesEq first second
  | _, _ => false

def itemsEq : List Value → List Value → Bool
  | [], [] => true
  | first :: firsts, second :: seconds =>
      first.eq second && itemsEq firsts seconds
  | _, _ => false

def entriesEq : List (String × Value) → List (String × Value) → Bool
  | [], [] => true
  | (key, first) :: firsts, (other, second) :: seconds =>
      key == other && (first.eq second && entriesEq firsts seconds)
  | _, _ => false
end

abbrev ValueCheck := Value → String → Result Unit

def checkConst (const : Option Document) : ValueCheck := fun value path =>
  match const with
  | some expected =>
      if (Value.ofJson expected.json.normal).eq value then .ok ()
      else .error ⟨path ++ " expected const"⟩
  | none => .ok ()

def checkEnum (enum : Option (List Document)) : ValueCheck := fun value path =>
  match enum with
  | some items =>
      if items.any fun item => (Value.ofJson item.json.normal).eq value then .ok ()
      else .error ⟨path ++ " value not in enum"⟩
  | none => .ok ()

/-- Without `properties` the rest of the object is not looked at. -/
def checkObject (keywords : PlainKeywords)
    (properties : Option (List (String × ValueCheck))) : ValueCheck :=
  fun value path =>
    match value with
    | .object entries => do
        (keywords.required.getD []).forM fun key =>
          if (Entries.get? key entries).isSome then .ok ()
          else .error ⟨path ++ "." ++ key ++ " is required"⟩
        match properties with
        | none => return ()
        | some properties => do
            properties.forM fun property =>
              match Entries.get? property.1 entries with
              | some child => property.2 child (path ++ "." ++ property.1)
              | none => .ok ()
            if keywords.closed then
              (entries.map Prod.fst).forM fun key =>
                if key ∈ properties.map Prod.fst then .ok ()
                else .error ⟨path ++ "." ++ key ++ " is not allowed"⟩
    | _ => .error ⟨path ++ " expected object"⟩

def checkLimit (limit : Option Limit) (fails : F64 → Bool) (message : String) :
    Result Unit :=
  match limit with
  | some limit =>
      if fails (.ofRat limit.1) then .error ⟨message⟩ else .ok ()
  | none => .ok ()

/-- `text.len()` counts bytes. -/
def checkString (keywords : PlainKeywords) : ValueCheck := fun value path =>
  match value with
  | .string text => do
      checkLimit keywords.minLength
        (fun limit => (F64.ofNat text.utf8ByteSize).lt limit)
        (path ++ " shorter than minLength")
      checkLimit keywords.maxLength
        (fun limit => limit.lt (F64.ofNat text.utf8ByteSize))
        (path ++ " longer than maxLength")
  | _ => .error ⟨path ++ " expected string"⟩

/-- `number.fract() != 0.0` -/
def hasFraction (number : F64) : Bool :=
  !number.finite || decide (number.toRat.den ≠ 1)

def checkNumber (keywords : PlainKeywords) : ValueCheck := fun value path =>
  match value with
  | .number number => do
      if keywords.type = some "integer" ∧ hasFraction number then
        throw ⟨path ++ " expected integer"⟩
      checkLimit keywords.minimum (fun limit => number.lt limit)
        (path ++ " below minimum")
      checkLimit keywords.maximum (fun limit => limit.lt number)
        (path ++ " above maximum")
  | _ => .error ⟨path ++ " expected number"⟩

def checkBoolean : ValueCheck := fun value path =>
  match value with
  | .bool _ => .ok ()
  | _ => .error ⟨path ++ " expected boolean"⟩

def checkType (keywords : PlainKeywords)
    (properties : Option (List (String × ValueCheck))) : ValueCheck :=
  fun value path =>
    if keywords.type = some "object" then
      checkObject keywords properties value path
    else if keywords.type = some "string" then checkString keywords value path
    else if keywords.type = some "number" ∨ keywords.type = some "integer" then
      checkNumber keywords value path
    else if keywords.type = some "boolean" then checkBoolean value path
    else .ok ()

mutual
def validateToolSchema : PlainSchema → ValueCheck
  | .bare keywords => fun value path => do
      checkConst keywords.const value path
      checkEnum keywords.enum value path
      checkType keywords none value path
  | .object keywords properties => fun value path => do
      checkConst keywords.const value path
      checkEnum keywords.enum value path
      checkType keywords (some (propertyChecks properties)) value path

def propertyChecks : List (String × PlainSchema) → List (String × ValueCheck)
  | [] => []
  | (key, schema) :: rest => (key, validateToolSchema schema) ::
      propertyChecks rest
end

end Rust

namespace Ports

/-! ### The reference runtime -/

def jsonType? : String → Option JsonType
  | "object" => some .object
  | "array" => some .array
  | "string" => some .string
  | "integer" => some .integer
  | "number" => some .number
  | "boolean" => some .boolean
  | "null" => some .null
  | _ => none

/-- A type of another name passes every value, as if there were none. -/
def PlainKeywords.python (keywords : PlainKeywords) : AgentLedger.Keywords where
  const := keywords.const.map fun document => document.json.normal
  enum := keywords.enum.map fun items =>
    items.map fun document => document.json.normal
  type := (keywords.type.bind jsonType?).map .one
  required := keywords.required
  minLength := keywords.minLength.map fun limit => .int limit.1
  maxLength := keywords.maxLength.map fun limit => .int limit.1
  minimum := keywords.minimum.map fun limit => .int limit.1
  maximum := keywords.maximum.map fun limit => .int limit.1

mutual
/-- The schema as the reference runtime reads it. -/
def PlainSchema.python : PlainSchema → Schema
  | .bare keywords =>
      .mk keywords.python [] [] [] none [] (.allowed (!keywords.closed)) none
  | .object keywords properties =>
      .mk keywords.python [] [] [] none (pythonProperties properties)
        (.allowed (!keywords.closed)) none

def pythonProperties : List (String × PlainSchema) → List (String × Schema)
  | [] => []
  | (key, schema) :: rest => (key, schema.python) :: pythonProperties rest
end

end Ports

end AgentLedger
