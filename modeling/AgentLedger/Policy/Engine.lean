import AgentLedger.Policy
import AgentLedger.Python
import Mathlib.Data.List.Sort
import Mathlib.Data.String.Basic

namespace AgentLedger

open Foundation

/-! `PolicyEngine`: the built-in evaluators, those registered, and how their
findings are composed to a decision. -/

/-- A set that may be missing is `none`. -/
structure RolePolicy where
  allowTools : Option (List String) := none
  denyTools : List String := []
  allowRisk : Option (List String) := none
  denyRisk : List String := []

structure PolicyEvaluator where
  appliesTo : PolicyRequest → Bool := fun _ => true
  evaluate : PolicyRequest → Except PyError (List PolicyFinding)

structure PolicyEngine where
  allowedTools : String → Option (List String) := fun _ => none
  roles : String → Option RolePolicy := fun _ => none
  defaultByRisk : String → Option String := fun _ => none
  policyVersion : String := "local-v1"
  evaluators : List PolicyEvaluator := []
  /-- Python's `str` of a value that is no string. -/
  str : Json → String

inductive ToolRule
  | roleDenyTool
  | roleAllowTool
  | roleDenyRisk
  | roleAllowRisk
  | roleAllowlistMiss
  | defaultAllowRisk
  | defaultDenyRisk
  | defaultDenyHighRisk
  | defaultAllowLowMedium
  deriving DecidableEq, Repr

def ToolRule.text : ToolRule → String
  | .roleDenyTool => "role_deny_tool"
  | .roleAllowTool => "role_allow_tool"
  | .roleDenyRisk => "role_deny_risk"
  | .roleAllowRisk => "role_allow_risk"
  | .roleAllowlistMiss => "role_allowlist_miss"
  | .defaultAllowRisk => "default_allow_risk"
  | .defaultDenyRisk => "default_deny_risk"
  | .defaultDenyHighRisk => "default_deny_high_risk"
  | .defaultAllowLowMedium => "default_allow_low_medium"

/-- What `_check_tool_policy` answers. -/
structure ToolPolicy where
  allowed : Bool
  reason : String
  rule : ToolRule

def highRiskLevels : List String :=
  ["high", "destructive", "sensitive", "financial_or_legal"]

def actionTiers : List String := ["L0", "L1", "L2", "L3", "L4", "L5"]

namespace PolicyEngine

variable (engine : PolicyEngine)

/-- `str(fields.get(key) or default)`. -/
def textOr (value : Option Json) (default : String) : String :=
  match value with
  | some (.str text) => text
  | some value => engine.str value
  | none => default

/-- The rules of a risk level that no role policy speaks of. -/
def checkDefault (riskLevel : String) : ToolPolicy :=
  if engine.defaultByRisk riskLevel = some "allow" then
    ⟨true, "risk level " ++ riskLevel ++ " allowed by default policy",
      .defaultAllowRisk⟩
  else if engine.defaultByRisk riskLevel = some "deny" then
    ⟨false, "risk level " ++ riskLevel ++ " denied by default policy",
      .defaultDenyRisk⟩
  else if riskLevel ∈ highRiskLevels then
    ⟨false, "high-risk tool denied by default", .defaultDenyHighRisk⟩
  else
    ⟨true, "default allow for low/medium risk in local runtime",
      .defaultAllowLowMedium⟩

/-- `self.roles.get(role)`, or what `allowed_tools` amounts to. -/
def rolePolicy (role : String) : Option RolePolicy :=
  (engine.roles role).orElse fun _ =>
    (engine.allowedTools role).map fun tools => { allowTools := some tools }

def checkToolPolicy (role toolName riskLevel : String) : ToolPolicy :=
  match engine.rolePolicy role with
  | none => engine.checkDefault riskLevel
  | some policy =>
      if toolName ∈ policy.denyTools then
        ⟨false, "tool " ++ toolName ++ " explicitly denied for role " ++ role,
          .roleDenyTool⟩
      else if toolName ∈ policy.allowTools.getD [] then
        ⟨true, "allowed by role policy", .roleAllowTool⟩
      else if riskLevel ∈ policy.denyRisk then
        ⟨false, "risk level " ++ riskLevel ++ " denied for role " ++ role,
          .roleDenyRisk⟩
      else if riskLevel ∈ policy.allowRisk.getD [] then
        ⟨true, "risk level " ++ riskLevel ++ " allowed for role " ++ role,
          .roleAllowRisk⟩
      else if policy.allowTools.isSome || policy.allowRisk.isSome then
        ⟨false, "tool " ++ toolName ++ " not allowed for role " ++ role,
          .roleAllowlistMiss⟩
      else engine.checkDefault riskLevel

/-! ### The built-in evaluators -/

def roleOf (request : PolicyRequest) : String :=
  engine.textOr ((given request.subject "role").orElse fun _ =>
    given request.subject "id") ""

def toolOf (request : PolicyRequest) : String :=
  engine.textOr (given request.action "name") ""

def riskOf (request : PolicyRequest) : String :=
  engine.textOr (given request.action "risk_level") "low"

def approvalRequired (request : PolicyRequest) : Bool :=
  (given request.action "approval_required").isSome ||
    (given request.signals "approval_required").isSome

def approvalStatus (request : PolicyRequest) : String :=
  upper (engine.textOr (given request.runtimeState "approval_status") "NONE")

def sandboxRequired (request : PolicyRequest) : Bool :=
  (given request.action "sandbox_required").isSome ||
    (given request.signals "sandbox_required").isSome

def strings (texts : List String) : Json := .arr (texts.map Json.str)

/-- `_RoleCapabilityEvaluator`. -/
def roleCapability (request : PolicyRequest) : PolicyFinding :=
  let role := engine.roleOf request
  let toolName := engine.toolOf request
  let riskLevel := engine.riskOf request
  let result := engine.checkToolPolicy role toolName riskLevel
  let finding (allowed : Bool) (effect severity reason : String)
      (controls : List String) : PolicyFinding :=
    { id := result.rule.text
      severity := severity
      source := "role_capability"
      message := reason
      evidence :=
        [("allowed", .bool allowed), ("controls", strings controls),
          ("decision_effect", .str effect),
          ("matched_rule", .str result.rule.text),
          ("risk_level", .str riskLevel), ("role", .str role),
          ("tool", .str toolName)] }
  if result.rule = .defaultDenyHighRisk ∧ approvalRequired request = true then
    if engine.approvalStatus request = "APPROVED" then
      finding true "allow" "info" "high-risk action approved by policy gate"
        ["audit"]
    else
      finding false "require_approval" "warning"
        "high-risk action requires approval by default" ["approval", "audit"]
  else if result.allowed then finding true "allow" "info" result.reason []
  else finding false "deny" "critical" result.reason ["deny", "audit"]

def inferActionTier (request : PolicyRequest) : String :=
  let explicit := (given request.action "action_tier").orElse fun _ =>
    given request.signals "action_tier"
  match explicit.bind Json.str? |>.filter fun tier => tier ∈ actionTiers with
  | some tier => tier
  | none =>
      let kind := lower (engine.textOr (given request.action "kind")
        request.stage)
      let sideEffect := lower (engine.textOr
        (given request.action "side_effect") "none")
      if sandboxRequired request then "L5"
      else if kind ∈ ["code", "browser", "shell"] then "L5"
      else if sideEffect ∈
          ["external_write", "external", "destructive", "financial_or_legal"]
        then "L4"
      else if sideEffect ∈ ["local_write", "artifact_write"] then "L3"
      else if kind ∈ ["rag", "retrieval"] then "L1"
      else if kind ∈ ["answer", "model", "model_call"] then "L0"
      else "L2"

/-- What `_ActionBoundaryEvaluator` finds about the approval. -/
def approvalFindings (request : PolicyRequest) : List PolicyFinding :=
  let status := engine.approvalStatus request
  if status = "DENIED" then
    [{ id := "approval_denied"
       severity := "critical"
       source := "action_boundary"
       message := "approval denied for action"
       evidence :=
         [("approval_status", .str status),
           ("controls", strings ["deny", "audit"]),
           ("decision_effect", .str "deny")] }]
  else if approvalRequired request = false then []
  else if status ≠ "APPROVED" then
    [{ id := "approval_required"
       severity := "warning"
       source := "action_boundary"
       message := "approval required before action execution"
       evidence :=
         [("approval_status", .str status),
           ("controls", strings ["approval", "audit"]),
           ("decision_effect", .str "require_approval"),
           ("risk_level", .str (engine.riskOf request))] }]
  else
    [{ id := "approval_satisfied"
       severity := "info"
       source := "action_boundary"
       message := "approval already satisfied"
       evidence :=
         [("approval_status", .str status),
           ("controls", strings ["audit"])] }]

/-- `_ActionBoundaryEvaluator`. -/
def actionBoundary (request : PolicyRequest) : List PolicyFinding :=
  let tier := engine.inferActionTier request
  [{ id := "action_tier_inferred"
     severity := "info"
     source := "action_boundary"
     message := "action tier inferred as " ++ tier
     evidence := [("action_tier", .str tier)] }] ++
    engine.approvalFindings request ++
    if sandboxRequired request then
      [{ id := "sandbox_required"
         severity := "info"
         source := "action_boundary"
         message := "sandbox boundary required for action"
         evidence := [("controls", strings ["sandbox", "audit"])] }]
    else []

/-- `dict.get` where the key may be missing. -/
def orNull (value : Option Json) : Json := value.getD .null

/-- `value in {"media_artifact", "stream_checkpoint"}`. -/
def isMediaKind (value : Option Json) : Except PyError Bool :=
  match value with
  | some (.arr _) => .error (.typeError "unhashable type: 'list'")
  | some (.obj _) => .error (.typeError "unhashable type: 'dict'")
  | some (.str text) =>
      .ok (text = "media_artifact" || text = "stream_checkpoint")
  | _ => .ok false

/-- `_RuntimeStateEvaluator`. -/
def runtimeState (request : PolicyRequest) :
    Except PyError (List PolicyFinding) := do
  let executionMode := lower (engine.textOr
    (given request.runtimeState "execution_mode") "")
  let sideEffect := engine.textOr (given request.action "side_effect") "none"
  let resourceKind := Fields.get? request.resource "kind"
  let shadow : List PolicyFinding :=
    if executionMode = "shadow" ∧ sideEffect ≠ "none" then
      [{ id := "shadow_side_effect_boundary"
         severity := "info"
         source := "runtime_state"
         message := "shadow mode requires side-effect replay or blocking"
         evidence :=
           [("controls", strings ["audit"]),
             ("execution_mode", .str executionMode),
             ("side_effect", .str sideEffect)] }]
    else []
  let delegation : List PolicyFinding :=
    if (given request.context "parent_run_id").isSome ∨
        Fields.get? request.subject "kind" = some (.str "sub_agent") then
      [{ id := "delegation_context_present"
         severity := "info"
         source := "runtime_state"
         message :=
           "delegated or child-agent context included in policy request"
         evidence :=
           [("delegated_by",
               orNull (Fields.get? request.context "delegated_by")),
             ("parent_run_id",
               orNull (Fields.get? request.context "parent_run_id")),
             ("parent_step_id",
               orNull (Fields.get? request.context "parent_step_id"))] }]
    else []
  let media : List PolicyFinding :=
    [{ id := "media_resource_boundary"
       severity := "info"
       source := "runtime_state"
       message := "media or stream resource is governed as a durable runtime " ++
         "reference"
       evidence :=
         [("controls", strings ["audit"]),
           ("resource_kind", orNull resourceKind)] }]
  let isMedia ← isMediaKind resourceKind
  return shadow ++ delegation ++ if isMedia then media else []

/-- `_default_evaluators`. -/
def defaultEvaluators : List PolicyEvaluator :=
  [{ evaluate := fun request => .ok [engine.roleCapability request] },
    { evaluate := fun request => .ok (engine.actionBoundary request) },
    { evaluate := engine.runtimeState }]

end PolicyEngine

/-! ### `DecisionComposer` -/

namespace PolicyFinding

variable (finding : PolicyFinding)

/-- The texts among what `evidence.get("controls") or []` iterates over. -/
def controlKinds : Except PyError (List String) :=
  match given finding.evidence "controls" with
  | none => .ok []
  | some controls => (iterate controls).map fun kinds =>
      kinds.filterMap Json.str?

def denies : Bool :=
  decide (Fields.get? finding.evidence "decision_effect" = some (.str "deny"))

def asks : Bool :=
  decide (Fields.get? finding.evidence "decision_effect" =
    some (.str "require_approval"))

end PolicyFinding

/-- `controls.setdefault(kind, PolicyControl(kind, reason))`. -/
def addControl (controls : List PolicyControl) (kind reason : String) :
    List PolicyControl :=
  if controls.any fun control => control.kind = kind then controls
  else controls ++ [{ kind := kind, reason := reason }]

def maxActionTier (left right : String) : String :=
  if left ∈ actionTiers ∧ right ∈ actionTiers then
    if actionTiers.idxOf right ≤ actionTiers.idxOf left then left else right
  else left

/-- The variables of the loop in `compose`. -/
structure Composition where
  effect : PolicyEffect
  controls : List PolicyControl
  reasons : List String
  actionTier : String

namespace Composition

/-- One round of the loop. -/
def consider (finding : PolicyFinding) (composition : Composition) :
    Except PyError Composition := do
  let kinds ← finding.controlKinds
  return {
    effect :=
      if finding.denies then .deny
      else if finding.asks ∧ composition.effect ≠ .deny then .requireApproval
      else composition.effect
    controls := kinds.foldl
      (fun controls kind => addControl controls kind finding.message)
      composition.controls
    reasons := composition.reasons ++ [finding.message]
    actionTier :=
      match Fields.get? finding.evidence "action_tier" with
      | some (.str suggested) => maxActionTier composition.actionTier suggested
      | _ => composition.actionTier }

def considerAll : List PolicyFinding → Composition → Except PyError Composition
  | [], composition => .ok composition
  | finding :: rest, composition => do
      let next ← composition.consider finding
      considerAll rest next

/-- The controls that the effect itself asks for. -/
def finalControls (composition : Composition) : List PolicyControl :=
  match composition.effect with
  | .deny => addControl composition.controls "deny"
      "policy decision denied the action"
  | .requireApproval => addControl composition.controls "approval"
      "policy decision requires approval"
  | .allow => composition.controls

end Composition

/-- `dedupe_preserve_order`. -/
def dedupe (texts : List String) : List String :=
  texts.foldl (fun kept text =>
    if text.isEmpty || kept.contains text then kept else kept ++ [text]) []

namespace PolicyEngine

variable (engine : PolicyEngine)

def begun (request : PolicyRequest) : Composition :=
  { effect := .allow
    controls := [{ kind := "audit", reason := "runtime decision must be recorded" }]
    reasons := []
    actionTier := engine.inferActionTier request }

def compose (request : PolicyRequest) (findings : List PolicyFinding)
    (policyVersion : String) : Except PyError PolicyDecision := do
  let composition ← (engine.begun request).considerAll findings
  let scope := engine.textOr ((given request.subject "role").orElse fun _ =>
    given request.subject "kind") ""
  return {
    effect := composition.effect
    actionTier := composition.actionTier
    riskLevel := engine.riskOf request
    controls := composition.finalControls.insertionSort fun left right =>
      left.kind ≤ right.kind
    reasons := dedupe composition.reasons
    findings := findings
    policyVersion := policyVersion
    subjectScope := if scope.isEmpty then none else some scope
    delegationAllowed :=
      match Fields.get? request.context "delegation_allowed" with
      | some (.bool allowed) => some allowed
      | _ => none }

/-- What the evaluators find, one after the other. -/
def findings (request : PolicyRequest) :
    List PolicyEvaluator → Except PyError (List PolicyFinding)
  | [] => .ok []
  | evaluator :: rest => do
      let own ← if evaluator.appliesTo request then evaluator.evaluate request
        else .ok []
      let others ← findings request rest
      return own ++ others

/-- `self.evaluators or self._default_evaluators()`. -/
def activeEvaluators : List PolicyEvaluator :=
  if engine.evaluators.isEmpty then engine.defaultEvaluators
  else engine.evaluators

def evaluate (request : PolicyRequest) : Except PyError PolicyDecision := do
  let found ← findings request engine.activeEvaluators
  let version := if request.policyVersion.isEmpty then engine.policyVersion
    else request.policyVersion
  engine.compose request found version

def registerEvaluator (evaluator : PolicyEvaluator) : PolicyEngine :=
  { engine with evaluators := engine.evaluators ++ [evaluator] }

end PolicyEngine

def PolicyDecision.requiresControl (decision : PolicyDecision)
    (kind : String) : Bool :=
  decision.controls.any fun control => control.kind = kind

end AgentLedger
