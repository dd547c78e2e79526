import AgentLedger.Diff
import AgentLedger.Errors
import AgentLedger.Foundation.Binary64
import AgentLedger.Foundation.Json
import Mathlib.Data.List.Sort
import Mathlib.Data.Rat.Defs

namespace AgentLedger

open Foundation

/-! `validate_tool_schema`. -/

inductive JsonType
  | object
  | array
  | string
  | integer
  | number
  | boolean
  | null
  deriving DecidableEq, Repr

def JsonType.text : JsonType → String
  | .object => "object"
  | .array => "array"
  | .string => "string"
  | .integer => "integer"
  | .number => "number"
  | .boolean => "boolean"
  | .null => "null"

/-- The `type` keyword: a string or a list of strings. -/
inductive ExpectedType
  | one (expected : JsonType)
  | any (expected : List JsonType)

def ExpectedType.toJson : ExpectedType → Json
  | .one expected => .str expected.text
  | .any expected => .arr (expected.map fun each => .str each.text)

inductive Number
  | int (value : Int)
  | float (value : Rat)

namespace Number

def toRat : Number → Rat
  | .int value => value
  | .float value => value

def toJson : Number → Json
  | .int value => .int value
  | .float value => .float value

end Number

/-- The keywords of a schema that hold no schema themselves. -/
structure Keywords where
  const : Option Json := none
  enum : Option (List Json) := none
  type : Option ExpectedType := none
  required : Option (List String) := none
  minProperties : Option Number := none
  maxProperties : Option Number := none
  uniqueItems : Bool := false
  minItems : Option Number := none
  maxItems : Option Number := none
  minLength : Option Number := none
  maxLength : Option Number := none
  pattern : Option String := none
  minimum : Option Number := none
  maximum : Option Number := none
  exclusiveMinimum : Option Number := none
  exclusiveMaximum : Option Number := none
  multipleOf : Option Number := none

inductive Additional (Sub : Type)
  | allowed (allowed : Bool)
  | schema (sub : Sub)

/-- A keyword that is missing is an empty list, `none` or `allowed true`. -/
inductive Schema
  | mk (keywords : Keywords) (allOf anyOf oneOf : List Schema)
      (not : Option Schema) (properties : List (String × Schema))
      (additionalProperties : Additional Schema) (items : Option Schema)

/-- The validation of a value that stands at a path. -/
abbrev Check := Json → String → Except PyError Unit

/-- What the messages and `pattern` take from Python. -/
structure Host where
  repr : Json → String
  str : Json → String
  search : String → String → Bool

def toolValidationError (message : String) : PyError :=
  { cls := .toolValidationError
    typeName := "ToolValidationError"
    message := message }

def overflowError (message : String) : PyError :=
  { cls := .exception, typeName := "OverflowError", message := message }

def refuse (message : String) : Except PyError Unit :=
  .error (toolValidationError message)

/-- `_json_type_name`. -/
def jsonTypeName : Json → String
  | .null => "null"
  | .bool _ => "boolean"
  | .obj _ => "object"
  | .arr _ => "array"
  | .str _ => "string"
  | .int _ => "integer"
  | .float _ => "number"

/-- `_matches_json_type` for one type. -/
def matchesOne (value : Json) (expected : JsonType) : Bool :=
  match expected, value with
  | .object, .obj _ => true
  | .array, .arr _ => true
  | .string, .str _ => true
  | .integer, .int _ => true
  | .number, .int _ => true
  | .number, .float _ => true
  | .boolean, .bool _ => true
  | .null, .null => true
  | _, _ => false

def matchesJsonType (value : Json) : ExpectedType → Bool
  | .one expected => matchesOne value expected
  | .any expected => expected.any (matchesOne value)

/-- The comparisons of `_check_bound`. -/
inductive Comparison
  | atLeast
  | atMost
  | above
  | below

namespace Comparison

def text : Comparison → String
  | .atLeast => ">="
  | .atMost => "<="
  | .above => ">"
  | .below => "<"

def fails (value limit : Rat) : Comparison → Bool
  | .atLeast => decide (value < limit)
  | .atMost => decide (limit < value)
  | .above => decide (value ≤ limit)
  | .below => decide (limit ≤ value)

end Comparison

/-- An operand of a division that is no division of two integers. -/
def toFloat : Number → Except PyError Rat
  | .float value => .ok value
  | .int value =>
      match Binary64.nearest value with
      | some rounded => .ok rounded
      | none => .error (overflowError "int too large to convert to float")

/-- `value / multiple`, where an infinite quotient then fails in `round`. -/
def trueDivide (value multiple : Number) : Except PyError Rat :=
  match value, multiple with
  | .int value, .int multiple =>
      match Binary64.nearest (value / multiple) with
      | some quotient => .ok quotient
      | none =>
          .error (overflowError "integer division result too large for a float")
  | value, multiple => do
      let value ← toFloat value
      let multiple ← toFloat multiple
      match Binary64.nearest (value / multiple) with
      | some quotient => .ok quotient
      | none =>
          .error (overflowError "cannot convert float infinity to integer")

/-- The literal `1e-12`. -/
def tolerance : Rat :=
  4951760157141521 / 4951760157141521099596496896

/-- The difference is exact: it is a binary64 number. -/
def nearInteger (quotient : Rat) : Bool :=
  decide (|quotient - Binary64.roundEven quotient| ≤ tolerance)

def numberOf : Json → Option Number
  | .int value => some (.int value)
  | .float value => some (.float value)
  | _ => none

/-- `_schema_passes`. -/
def schemaPasses (outcome : Except PyError Unit) : Except PyError Bool :=
  match outcome with
  | .ok _ => .ok true
  | .error error =>
      if error.cls = .toolValidationError then .ok false else .error error

/-- `any` over the schemas, up to the first that passes. -/
def anyPasses (value : Json) (path : String) : List Check → Except PyError Bool
  | [] => .ok false
  | check :: rest => do
      if ← schemaPasses (check value path) then return true
      anyPasses value path rest

/-- How many of the schemas pass. -/
def countPasses (value : Json) (path : String) :
    List Check → Except PyError Nat
  | [] => .ok 0
  | check :: rest => do
      let passed ← schemaPasses (check value path)
      let others ← countPasses value path rest
      return (if passed then 1 else 0) + others

/-- The keys of a value that `properties` does not name. -/
def extraKeys (names : List String) (fields : Fields) : List String :=
  ((fields.map Prod.fst).filter fun key => key ∉ names).insertionSort (· ≤ ·)

/-- The check of one property, if the value has it. -/
def checkProperty (fields : Fields) (path key : String) (check : Check) :
    Except PyError Unit :=
  match Fields.get? fields key with
  | some held => check held (path ++ "." ++ key)
  | none => .ok ()

/-- The items from some index on. -/
def checkItemsFrom (check : Check) (path : String) :
    Nat → List Json → Except PyError Unit
  | _, [] => .ok ()
  | index, item :: rest => do
      check item (path ++ "[" ++ toString index ++ "]")
      checkItemsFrom check path (index + 1) rest

def checkItems (check : Option Check) (elements : List Json) (path : String) :
    Except PyError Unit :=
  match check with
  | some check => checkItemsFrom check path 0 elements
  | none => .ok ()

/-- Two items have the same fingerprint exactly when they are the same value,
as `json.dumps` sorts the keys and writes 1 and 1.0 differently. -/
def checkUnique (path : String) : List Json → List Json → Except PyError Unit
  | _, [] => .ok ()
  | seen, item :: rest =>
      if item ∈ seen then refuse (path ++ " must contain unique items")
      else checkUnique path (item :: seen) rest

def checkUniqueItems (keywords : Keywords) (elements : List Json)
    (path : String) : Except PyError Unit :=
  if keywords.uniqueItems then checkUnique path [] elements else .ok ()

def checkRequired (required : List String) (fields : Fields) (path : String) :
    Except PyError Unit :=
  required.forM fun key =>
    if key ∈ fields.map Prod.fst then .ok ()
    else refuse (path ++ "." ++ key ++ " is required")

namespace Host

variable (host : Host)

/-- `_check_bound`. -/
def checkBound (limit : Option Number) (value : Rat) (path : String)
    (comparison : Comparison) : Except PyError Unit :=
  match limit with
  | none => .ok ()
  | some limit =>
      if comparison.fails value limit.toRat then
        refuse (path ++ " must be " ++ comparison.text ++ " " ++
          host.str limit.toJson)
      else .ok ()

def checkAnyOf (checks : List Check) (value : Json) (path : String) :
    Except PyError Unit :=
  if checks.isEmpty then .ok ()
  else do
    if ← anyPasses value path checks then return ()
    refuse (path ++ " must match at least one anyOf schema")

def checkOneOf (checks : List Check) (value : Json) (path : String) :
    Except PyError Unit :=
  if checks.isEmpty then .ok ()
  else do
    let found ← countPasses value path checks
    if found ≠ 1 then
      refuse (path ++ " must match exactly one oneOf schema, matched " ++
        toString found)

def checkNot (check : Option Check) (value : Json) (path : String) :
    Except PyError Unit :=
  match check with
  | none => .ok ()
  | some check => do
      if ← schemaPasses (check value path) then
        refuse (path ++ " must not match forbidden schema")

def checkConst (const : Option Json) (value : Json) (path : String) :
    Except PyError Unit :=
  match const with
  | none => .ok ()
  | some const =>
      if pyEq value const then .ok ()
      else refuse (path ++ " must equal " ++ host.repr const)

def checkEnum (enum : Option (List Json)) (value : Json) (path : String) :
    Except PyError Unit :=
  match enum with
  | none => .ok ()
  | some enum =>
      if enum.any (pyEq value) then .ok ()
      else refuse (path ++ " must be one of " ++ host.repr (.arr enum))

def checkType (type : Option ExpectedType) (value : Json) (path : String) :
    Except PyError Unit :=
  match type with
  | none => .ok ()
  | some expected =>
      if matchesJsonType value expected then .ok ()
      else refuse (path ++ " expected type " ++ host.repr expected.toJson ++
        ", got " ++ host.repr (.str (jsonTypeName value)))

def checkAdditional (additional : Additional Check) (extra : List String)
    (fields : Fields) (path : String) : Except PyError Unit :=
  match additional with
  | .allowed allowed =>
      if allowed = false ∧ extra ≠ [] then
        refuse (path ++ " has unexpected properties " ++
          host.repr (.arr (extra.map Json.str)))
      else .ok ()
  | .schema check =>
      extra.forM fun key => checkProperty fields path key check

def checkObject (keywords : Keywords) (properties : List (String × Check))
    (additional : Additional Check) (value : Json) (path : String) :
    Except PyError Unit :=
  match value with
  | .obj fields => do
      checkRequired (keywords.required.getD []) fields path
      properties.forM fun property =>
        checkProperty fields path property.1 property.2
      host.checkAdditional additional
        (extraKeys (properties.map Prod.fst) fields) fields path
      host.checkBound keywords.minProperties fields.length path .atLeast
      host.checkBound keywords.maxProperties fields.length path .atMost
  | _ =>
      if keywords.required.isSome then
        refuse (path ++ " expected object for required properties")
      else .ok ()

def checkArray (keywords : Keywords) (items : Option Check) (value : Json)
    (path : String) : Except PyError Unit :=
  match value with
  | .arr elements => do
      checkItems items elements path
      checkUniqueItems keywords elements path
      host.checkBound keywords.minItems elements.length path .atLeast
      host.checkBound keywords.maxItems elements.length path .atMost
  | _ => .ok ()

def checkString (keywords : Keywords) (value : Json) (path : String) :
    Except PyError Unit :=
  match value with
  | .str text => do
      host.checkBound keywords.minLength text.length path .atLeast
      host.checkBound keywords.maxLength text.length path .atMost
      match keywords.pattern with
      | some pattern =>
          if host.search pattern text then .ok ()
          else refuse (path ++ " must match pattern " ++
            host.repr (.str pattern))
      | none => .ok ()
  | _ => .ok ()

def checkMultiple (multipleOf : Option Number) (value : Number)
    (path : String) : Except PyError Unit :=
  match multipleOf with
  | none => .ok ()
  | some multiple =>
      if multiple.toRat = 0 then .ok ()
      else do
        let quotient ← trueDivide value multiple
        if nearInteger quotient then return ()
        refuse (path ++ " must be a multiple of " ++ host.str multiple.toJson)

def checkNumber (keywords : Keywords) (value : Json) (path : String) :
    Except PyError Unit :=
  match numberOf value with
  | some value => do
      host.checkBound keywords.minimum value.toRat path .atLeast
      host.checkBound keywords.maximum value.toRat path .atMost
      host.checkBound keywords.exclusiveMinimum value.toRat path .above
      host.checkBound keywords.exclusiveMaximum value.toRat path .below
      host.checkMultiple keywords.multipleOf value path
  | none => .ok ()

mutual
/-- An empty schema passes every check, as `if not schema: return` does. -/
def validateToolSchema : Schema → Json → String → Except PyError Unit
  | .mk keywords allOf anyOf oneOf not properties additionalProperties items,
      value, path => do
      (checks allOf).forM fun check => check value path
      checkAnyOf (checks anyOf) value path
      checkOneOf (checks oneOf) value path
      checkNot (checkOf not) value path
      host.checkConst keywords.const value path
      host.checkEnum keywords.enum value path
      host.checkType keywords.type value path
      host.checkObject keywords (propertyChecks properties)
        (additionalCheck additionalProperties) value path
      host.checkArray keywords (checkOf items) value path
      host.checkString keywords value path
      host.checkNumber keywords value path

def checks : List Schema → List Check
  | [] => []
  | schema :: rest => validateToolSchema schema :: checks rest

def checkOf : Option Schema → Option Check
  | none => none
  | some schema => some (validateToolSchema schema)

def propertyChecks : List (String × Schema) → List (String × Check)
  | [] => []
  | (key, schema) :: rest =>
      (key, validateToolSchema schema) :: propertyChecks rest

def additionalCheck : Additional Schema → Additional Check
  | .allowed allowed => .allowed allowed
  | .schema schema => .schema (validateToolSchema schema)
end

end Host

end AgentLedger
