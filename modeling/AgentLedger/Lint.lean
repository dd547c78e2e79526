import AgentLedger.Errors
import Mathlib.Data.List.Basic
import Mathlib.Logic.Function.Basic

namespace AgentLedger.Lint

/-! `lint.py`: the calls of a Python module that go around the runtime.  Texts
are lists of characters. -/

abbrev Text := List Char

structure BoundaryLintRule where
  ruleId : String
  pattern : Text
  isPrefix : Bool := false

def BoundaryLintRule.matches_ (rule : BoundaryLintRule) (callee : Text) :
    Bool :=
  if rule.isPrefix then rule.pattern.isPrefixOf callee
  else decide (callee = rule.pattern)

/-- A Python identifier. -/
structure Identifier where
  text : Text
  present : text ≠ []
  plain : '.' ∉ text
  deriving DecidableEq

@[ext] theorem Identifier.ext {first second : Identifier}
    (text : first.text = second.text) : first = second := by
  cases first
  cases second
  cases text
  rfl

/-- Names joined by dots. -/
def dotted (names : List Identifier) : Text :=
  ['.'].intercalate (names.map Identifier.text)

/-- A dotted name: one identifier and those behind it. -/
structure Path where
  first : Identifier
  rest : List Identifier := []
  deriving DecidableEq

namespace Path

def names (path : Path) : List Identifier := path.first :: path.rest

def text (path : Path) : Text := dotted path.names

end Path

/-! ### The syntax that is visited -/

/-- `ast.alias` of an `import`. -/
structure ModuleAlias where
  name : Path
  asname : Option Identifier := none

/-- `ast.alias` of a `from ... import`. -/
structure MemberAlias where
  name : Identifier
  asname : Option Identifier := none

inductive Expr
  | name (id : Identifier)
  | attribute (value : Expr) (attr : Identifier)
  | other

/-- The literal arguments that `_scan_special_call` looks at. -/
structure Arguments where
  /-- The second argument of `open`, or `mode`. -/
  mode : Option Text := none
  sideEffect : Option String := none
  riskLevel : Option String := none
  idempotencyRequired : Option Bool := none
  idempotency : Option Bool := none
  approvalRequired : Option Bool := none
  sandboxRequired : Option Bool := none

structure CallNode where
  func : Expr
  args : Arguments := {}
  /-- `_is_ignored` of its line. -/
  ignored : Bool := false

/-- The statements of a module whose names are bound by imports alone. -/
inductive Statement
  | import_ (names : List ModuleAlias)
  | importFrom (module_ : Path) (names : List MemberAlias)
  | call (node : CallNode)

structure BoundaryLintFinding where
  ruleId : String
  callee : Text
  deriving DecidableEq

/-- `_BoundaryVisitor`; a dictionary is what it has under each key. -/
structure Visitor where
  rules : List BoundaryLintRule
  importAliases : Text → Option Text := fun _ => none
  objectAliases : Text → Option Text := fun _ => none
  findings : List BoundaryLintFinding := []

/-! ### Names -/

/-- `text.partition(".")`, without the separator. -/
def partitionDot (text : Text) : Text × Text :=
  (text.takeWhile fun letter => letter != '.',
    (text.dropWhile fun letter => letter != '.').tail)

/-- `text.split(".")[-1]`. -/
def lastPart (text : Text) : Text := (text.splitOn '.').getLastD []

/-- `f"{target}.{rest}" if rest else target`. -/
def qualify (target rest : Text) : Text :=
  if rest.isEmpty then target else target ++ '.' :: rest

def dottedName : Expr → Option Text
  | .name id => some id.text
  | .attribute value attr =>
      match dottedName value with
      | some base => some (base ++ '.' :: attr.text)
      | none => some attr.text
  | .other => none

namespace Visitor

def resolvedCallee (visitor : Visitor) (node : Expr) : Option Text :=
  match dottedName node with
  | none => none
  | some raw =>
      let (first, rest) := partitionDot raw
      match visitor.objectAliases first with
      | some target => some (qualify target rest)
      | none =>
          match visitor.importAliases first with
          | some target =>
              let rest :=
                if !rest.isEmpty && lastPart target == (partitionDot rest).1 then
                  (partitionDot rest).2
                else rest
              some (qualify target rest)
          | none => some raw

end Visitor

/-! ### The calls that have checks of their own -/

/-- `node.func.attr if isinstance(node.func, ast.Attribute) else ""`. -/
def attrOf : Expr → Text
  | .attribute _ attr => attr.text
  | _ => []

def openWrites (args : Arguments) : Bool :=
  args.mode.any fun mode =>
    ['w', 'a', 'x', '+'].any fun flag => mode.contains flag

/-- `_literal_string(...) or default`. -/
def stringOr (value : Option String) (default : String) : String :=
  (value.filter fun text => !text.isEmpty).getD default

def scanToolMetadata (args : Arguments) (callee : Text) :
    List BoundaryLintFinding :=
  let sideEffect := stringOr args.sideEffect "none"
  let riskLevel := stringOr args.riskLevel "low"
  let idempotencyRequired := args.idempotencyRequired.or args.idempotency
  let high := ["high", "critical"].contains riskLevel
  (if !(["", "none", "read", "read_only"].contains sideEffect) &&
      idempotencyRequired ≠ some true then
    [⟨"tool-side-effect-missing-idempotency", callee⟩] else []) ++
  (if high && args.approvalRequired ≠ some true then
    [⟨"tool-high-risk-missing-approval", callee⟩] else []) ++
  (if high && args.sandboxRequired ≠ some true &&
      ["shell", "code", "filesystem", "external_write"].contains sideEffect then
    [⟨"tool-high-risk-missing-sandbox", callee⟩] else [])

/-- `direct-file-` of the attributes that write files. -/
def fileAttributes : List (Text × String) :=
  [("write_text".toList, "direct-file-write-text"),
    ("write_bytes".toList, "direct-file-write-bytes"),
    ("unlink".toList, "direct-file-unlink")]

def scanSpecialCall (node : CallNode) (callee : Text) :
    List BoundaryLintFinding :=
  (if ["open".toList, "io.open".toList].contains callee &&
      openWrites node.args then
    [⟨"direct-file-write-open", callee⟩] else []) ++
  ((fileAttributes.filter fun entry => entry.1 = attrOf node.func).map
    fun entry => ⟨entry.2, callee⟩) ++
  (if "ToolSpec".toList.isSuffixOf callee || callee == "tool".toList ||
      ".tool".toList.isSuffixOf callee then
    scanToolMetadata node.args callee else [])

/-- What is found about a call with this name. -/
def findingsOf (rules : List BoundaryLintRule) (node : CallNode)
    (callee : Text) : List BoundaryLintFinding :=
  let special := scanSpecialCall node callee
  if special.isEmpty then
    ((rules.find? fun rule => rule.matches_ callee).map fun rule =>
      ⟨rule.ruleId, callee⟩).toList
  else special

namespace Visitor

/-- The name by which a call is looked up: of a call on no name, the attribute
alone. -/
def callee (visitor : Visitor) (node : CallNode) : Option Text :=
  match visitor.resolvedCallee node.func, node.func with
  | some name, _ => some name
  | none, .attribute _ attr => some attr.text
  | none, _ => none

def reported (visitor : Visitor) (node : CallNode) :
    List BoundaryLintFinding :=
  match visitor.callee node with
  | some name =>
      if name.isEmpty || node.ignored then []
      else findingsOf visitor.rules node name
  | none => []

def setAlias (visitor : Visitor) (name target : Text) : Visitor :=
  { visitor with
    importAliases := Function.update visitor.importAliases name (some target) }

/-- `alias.asname or alias.name.split(".", 1)[0]`. -/
def visitImport (visitor : Visitor) (imported : ModuleAlias) : Visitor :=
  visitor.setAlias
    (match imported.asname with
      | some asname => asname.text
      | none => (partitionDot imported.name.text).1)
    imported.name.text

/-- `alias.asname or alias.name`. -/
def visitImportFrom (module_ : Path) (visitor : Visitor)
    (imported : MemberAlias) : Visitor :=
  visitor.setAlias (imported.asname.getD imported.name).text
    (module_.text ++ '.' :: imported.name.text)

def visit (visitor : Visitor) : Statement → Visitor
  | .import_ names => names.foldl visitImport visitor
  | .importFrom module_ names => names.foldl (visitImportFrom module_) visitor
  | .call node =>
      { visitor with findings := visitor.findings ++ visitor.reported node }

end Visitor

end AgentLedger.Lint
