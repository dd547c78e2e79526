import AgentLedger.Foundation.Json

namespace AgentLedger

open Foundation

/-! `policy.py`: what the tool gateway asks the policy, and its answer. -/

inductive PolicyEffect
  | allow
  | deny
  | requireApproval
  deriving DecidableEq, Repr

def PolicyEffect.text : PolicyEffect → String
  | .allow => "allow"
  | .deny => "deny"
  | .requireApproval => "require_approval"

structure PolicyRequest where
  stage : String
  subject : Fields
  action : Fields
  resource : Fields
  context : Fields
  signals : Fields
  runtimeState : Fields
  policyVersion : String

structure PolicyControl where
  kind : String
  reason : String := ""
  metadata : Fields := []

structure PolicyFinding where
  id : String
  severity : String
  source : String
  message : String
  evidence : Fields := []

structure PolicyDecision where
  effect : PolicyEffect
  actionTier : String
  riskLevel : String
  controls : List PolicyControl := []
  reasons : List String := []
  findings : List PolicyFinding := []
  policyVersion : String := "local-v1"
  subjectScope : Option String := none
  delegationAllowed : Option Bool := none

def PolicyControl.toDict (control : PolicyControl) : Json :=
  .obj
    [("kind", .str control.kind), ("metadata", .obj control.metadata),
      ("reason", .str control.reason)]

def PolicyFinding.toDict (finding : PolicyFinding) : Json :=
  .obj
    [("evidence", .obj finding.evidence), ("id", .str finding.id),
      ("message", .str finding.message), ("severity", .str finding.severity),
      ("source", .str finding.source)]

namespace PolicyDecision

def allowed (decision : PolicyDecision) : Bool :=
  decision.effect = .allow

def primaryReason (decision : PolicyDecision) : String :=
  match decision.reasons with
  | reason :: _ => reason
  | [] =>
      match decision.effect with
      | .allow => "policy allowed"
      | .requireApproval => "approval required"
      | .deny => "policy denied"

def toDict (decision : PolicyDecision) : Json :=
  .obj (
    [("action_tier", .str decision.actionTier),
      ("allowed", .bool decision.allowed),
      ("controls", .arr (decision.controls.map PolicyControl.toDict))] ++
    (decision.delegationAllowed.toList.map fun allowed =>
      ("delegation_allowed", Json.bool allowed)) ++
    [("effect", .str decision.effect.text),
      ("findings", .arr (decision.findings.map PolicyFinding.toDict)),
      ("policy_version", .str decision.policyVersion),
      ("reasons", .arr (decision.reasons.map Json.str)),
      ("risk_level", .str decision.riskLevel)] ++
    (decision.subjectScope.toList.map fun scope =>
      ("subject_scope", Json.str scope)))

end PolicyDecision

end AgentLedger
