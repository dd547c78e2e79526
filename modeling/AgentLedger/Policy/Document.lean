import AgentLedger.Policy.Engine
import Mathlib.Data.List.DropRight

namespace AgentLedger

open Foundation

/-! `parse_policy_yaml` and `PolicyEngine.from_dict`. -/

/-- `str.isdigit` of one character, `int`, `repr` and `str`. -/
structure Builtins where
  isDigit : Char → Bool
  toInt : String → Except PyError Int
  repr : String → String
  str : Json → String

/-- `type(value).__name__`. -/
def pyTypeName : Json → String
  | .null => "NoneType"
  | .bool _ => "bool"
  | .int _ => "int"
  | .float _ => "float"
  | .str _ => "str"
  | .arr _ => "list"
  | .obj _ => "dict"

def noAttribute (value : Json) (name : String) : PyError :=
  { cls := .exception
    typeName := "AttributeError"
    message := "'" ++ pyTypeName value ++ "' object has no attribute '" ++
      name ++ "'" }

namespace PolicyText

/-- The characters at which `str.splitlines` ends a line. -/
def isBreak (letter : Char) : Bool :=
  [0x0A, 0x0B, 0x0C, 0x0D, 0x1C, 0x1D, 0x1E, 0x85, 0x2028, 0x2029].contains
    letter.toNat

/-- `str.splitlines`. -/
def splitLines : List Char → List (List Char)
  | [] => []
  | '\r' :: '\n' :: rest => [] :: splitLines rest
  | letter :: rest =>
      if isBreak letter then [] :: splitLines rest
      else
        match splitLines rest with
        | [] => [[letter]]
        | line :: more => (letter :: line) :: more

def rstrip (text : List Char) : List Char := text.rdropWhile isSpace

def strip (text : List Char) : List Char := rstrip (text.dropWhile isSpace)

def isQuote (letter : Char) : Bool := letter = '"' || letter = '\''

/-- `value.strip('"\'')`. -/
def stripQuotes (text : List Char) : List Char :=
  (text.dropWhile isQuote).rdropWhile isQuote

/-- `raw.split("#", 1)[0]`. -/
def uncommented (raw : List Char) : List Char := raw.takeWhile (· ≠ '#')

/-- `content.endswith(":")`. -/
def endsOpen (content : List Char) : Bool := content.getLast? = some ':'

structure ParserState where
  data : Fields := []
  current : Option String := none
  currentRole : Option String := none
  currentList : Option String := none

variable (builtins : Builtins)

/-- The value of a scalar, quotes stripped. -/
def scalarOf (value : List Char) : Except PyError Json :=
  if value = "true".toList then .ok (.bool true)
  else if value = "false".toList then .ok (.bool false)
  else if !value.isEmpty && value.all builtins.isDigit then do
    let number ← builtins.toInt (String.ofList value)
    return .int number
  else .ok (.str (String.ofList (stripQuotes value)))

/-- `_split_scalar`. -/
def splitScalar (content : List Char) : Except PyError (String × Json) :=
  if ':' ∈ content then do
    let value ← scalarOf builtins
      (strip ((content.dropWhile (· ≠ ':')).drop 1))
    return (String.ofList (strip (content.takeWhile (· ≠ ':'))), value)
  else .error (.valueError ("expected key: value, got " ++
    builtins.repr (String.ofList content)))

/-- `str(value)` of a scalar. -/
def textOf : Json → String
  | .str text => text
  | value => builtins.str value

/-- `value.setdefault(key, default)`. -/
def setDefault (value : Json) (key : String) (default : Json) :
    Except PyError Fields :=
  match value with
  | .obj fields =>
      .ok (match Fields.get? fields key with
        | some _ => fields
        | none => Fields.set fields key default)
  | value => .error (noAttribute value "setdefault")

/-- A change of `data["roles"][role]`. -/
def updateRole (role : String) (change : Json → Except PyError Json)
    (data : Fields) : Except PyError Fields :=
  match Fields.get? data "roles" with
  | some (.obj roles) =>
      match Fields.get? roles role with
      | some value => do
          let value ← change value
          return Fields.set data "roles" (.obj (Fields.set roles role value))
      | none => .error (.keyError role)
  | some value => .error (.typeError (pyTypeName value ++
      " indices must be integers"))
  | none => .error (.keyError "roles")

/-- `entries.setdefault(name, []).append(item)`. -/
def appendTo (name item : String) (value : Json) : Except PyError Json := do
  let entries ← setDefault value name (.arr [])
  match Fields.get? entries name with
  | some (.arr items) =>
      return .obj (Fields.set entries name (.arr (items ++ [.str item])))
  | other => .error (noAttribute (other.getD .null) "append")

/-- `entries[key] = value`. -/
def assign (key : String) (item value : Json) : Except PyError Json :=
  match value with
  | .obj entries => .ok (.obj (Fields.set entries key item))
  | value => .error (.typeError ("'" ++ pyTypeName value ++
      "' object does not support item assignment"))

/-- A line that is not indented. -/
def stepTop (content : List Char) (state : ParserState) :
    Except PyError ParserState :=
  if endsOpen content then do
    let name := String.ofList content.dropLast
    let data ← setDefault (.obj state.data) name (.obj [])
    return { data := data, current := some name }
  else do
    let (key, value) ← splitScalar builtins content
    return { data := Fields.set state.data key value }

def stepDefault (content : List Char) (state : ParserState) :
    Except PyError ParserState := do
  let (key, value) ← splitScalar builtins content
  let data ← setDefault (.obj state.data) "defaults" (.obj [])
  let defaults ← assign key (.str (textOf builtins value))
    (getOrNone data "defaults")
  return { state with data := Fields.set data "defaults" defaults }

/-- `content[:-1] if content.endswith(":") else content`. -/
def nameOf (content : List Char) : String :=
  String.ofList (if endsOpen content then content.dropLast else content)

def stepRole (content : List Char) (state : ParserState) :
    Except PyError ParserState := do
  let data ← setDefault (.obj state.data) "roles" (.obj [])
  let roles ← setDefault (getOrNone data "roles") (nameOf content) (.obj [])
  return {
    data := Fields.set data "roles" (.obj roles)
    current := state.current
    currentRole := some (nameOf content) }

def stepEntry (role : String) (content : List Char) (state : ParserState) :
    Except PyError ParserState :=
  if endsOpen content then do
    let name := String.ofList content.dropLast
    let data ← updateRole role
      (fun value => do return .obj (← setDefault value name (.arr [])))
      state.data
    return { state with data := data, currentList := some name }
  else do
    let (key, value) ← splitScalar builtins content
    let data ← updateRole role (assign key value) state.data
    return { state with data := data }

def stepItem (role name : String) (content : List Char)
    (state : ParserState) : Except PyError ParserState := do
  let item := String.ofList (strip (content.drop 1))
  let data ← updateRole role (appendTo name item) state.data
  return { state with data := data }

/-- The name that is set and not empty. -/
def truthyName (name : Option String) : Option String :=
  name.filter fun text => !text.isEmpty

/-- A line with its indentation and what it holds. -/
def dispatch (raw : List Char) (indent : Nat) (content : List Char)
    (state : ParserState) : Except PyError ParserState :=
  let unsupported : Except PyError ParserState := .error (.valueError
    ("unsupported policy YAML line: " ++ String.ofList raw))
  if indent = 0 then stepTop builtins content state
  else if state.current = some "defaults" ∧ indent = 2 then
    stepDefault builtins content state
  else if state.current = some "roles" then
    match indent, truthyName state.currentRole with
    | 2, _ => stepRole content state
    | 4, some role => stepEntry builtins role content state
    | 6, some role =>
        match truthyName state.currentList with
        | some name =>
            if content.head? = some '-' then stepItem role name content state
            else unsupported
        | none => unsupported
    | _, _ => unsupported
  else unsupported

/-- One line of the text. -/
def step (raw : List Char) (state : ParserState) :
    Except PyError ParserState :=
  let line := rstrip (uncommented raw)
  let content := strip line
  if content.isEmpty then .ok state
  else
    dispatch builtins raw (line.takeWhile (· = ' ')).length content state

/-- `parse_policy_yaml`. -/
def parse (source : String) : Except PyError Fields := do
  let state ← (splitLines source.toList).foldlM
    (fun state raw => step builtins raw state) {}
  return state.data

end PolicyText

namespace PolicyEngine

/-- `set(value or [])`, as far as it holds strings. -/
def setOf (value : Json) : Except PyError (List String) :=
  if truthy value then do
    let items ← iterate value
    items.foldlM (fun held item =>
      match item with
      | .arr _ => .error (.typeError "unhashable type: 'list'")
      | .obj _ => .error (.typeError "unhashable type: 'dict'")
      | item => .ok (held ++ (Json.str? item).toList)) []
  else .ok []

/-- `_optional_set`. -/
def optionalSet (value : Json) : Except PyError (Option (List String)) :=
  match value with
  | .null => .ok none
  | value => do return some (← setOf value)

/-- `value or {}`, of which the items or keys are read. -/
def mappingOf (value : Json) (method : String) : Except PyError Fields :=
  if truthy value then
    match value with
    | .obj fields => .ok fields
    | value => .error (noAttribute value method)
  else .ok []

/-- The policy of one role. -/
def roleFromDict (value : Json) : Except PyError RolePolicy := do
  let entries ← mappingOf value "get"
  let allowTools ← optionalSet (getOrNone entries "allow_tools")
  let denyTools ← setOf (getOrNone entries "deny_tools")
  let allowRisk ← optionalSet (getOrNone entries "allow_risk")
  let denyRisk ← setOf (getOrNone entries "deny_risk")
  return {
    allowTools := allowTools
    denyTools := denyTools
    allowRisk := allowRisk
    denyRisk := denyRisk }

/-- The policy that the items have under the role. -/
def policyOf (roles : List (String × RolePolicy)) (role : String) :
    Option RolePolicy :=
  (roles.find? fun entry => entry.1 = role).map Prod.snd

/-- `dict(defaults)` of the effects that are strings. -/
def defaultsOf (defaults : Fields) (risk : String) : Option String :=
  (Fields.get? defaults risk).bind Json.str?

/-- `dict(defaults)`; a list of pairs is left out. -/
def dictOf (value : Json) : Except PyError Fields :=
  if truthy value then
    match value with
    | .obj fields => .ok fields
    | .str _ => .error (.valueError
        "dictionary update sequence element #0 has length 1; 2 is required")
    | value => .error (.typeError ("'" ++ pyTypeName value ++
        "' object is not iterable"))
  else .ok []

/-- `from_dict`. -/
def fromDict (builtins : Builtins) (data : Fields) :
    Except PyError PolicyEngine := do
  let defaults ← dictOf (getOrNone data "defaults")
  let rolesData ← mappingOf (getOrNone data "roles") "items"
  let roles ← rolesData.mapM fun entry => do
    return (entry.1, ← roleFromDict entry.2)
  let version := getOrNone data "version"
  return {
    roles := policyOf roles
    defaultByRisk := defaultsOf defaults
    policyVersion :=
      if truthy version then PolicyText.textOf builtins version
      else "local-v1"
    str := builtins.str }

end PolicyEngine

/-- `PolicyEngine.from_dict(parse_policy_yaml(source))`. -/
def loadPolicy (builtins : Builtins) (source : String) :
    Except PyError PolicyEngine := do
  let data ← PolicyText.parse builtins source
  PolicyEngine.fromDict builtins data

end AgentLedger
