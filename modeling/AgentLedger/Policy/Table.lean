import AgentLedger.Policy.Decisions

namespace AgentLedger

open Foundation

/-! The decision table of an engine without registered evaluators, on the nine
role and risk rules. -/

namespace ToolRule

/-- The rules in the order in which they are asked. -/
def all : List ToolRule :=
  [.roleDenyTool, .roleAllowTool, .roleDenyRisk, .roleAllowRisk,
    .roleAllowlistMiss, .defaultAllowRisk, .defaultDenyRisk,
    .defaultDenyHighRisk, .defaultAllowLowMedium]

def place (rule : ToolRule) : Nat :=
  all.idxOf rule

def Allows (rule : ToolRule) : Prop :=
  rule ∈ [roleAllowTool, roleAllowRisk, defaultAllowRisk,
    defaultAllowLowMedium]

instance (rule : ToolRule) : Decidable rule.Allows :=
  inferInstanceAs (Decidable (_ ∈ _))

theorem place_injective {left right : ToolRule}
    (same : left.place = right.place) : left = right := by
  cases left <;> cases right <;> first | rfl | exact absurd same (by decide)

end ToolRule

namespace PolicyEngine

section Rules

variable (engine : PolicyEngine) (role toolName riskLevel : String)

/-- What a rule asks of the policy of the role, or of the risk level. -/
def RuleApplies : ToolRule → Prop
  | .roleDenyTool =>
      ∃ policy, engine.rolePolicy role = some policy ∧
        toolName ∈ policy.denyTools
  | .roleAllowTool =>
      ∃ policy tools, engine.rolePolicy role = some policy ∧
        policy.allowTools = some tools ∧ toolName ∈ tools
  | .roleDenyRisk =>
      ∃ policy, engine.rolePolicy role = some policy ∧
        riskLevel ∈ policy.denyRisk
  | .roleAllowRisk =>
      ∃ policy levels, engine.rolePolicy role = some policy ∧
        policy.allowRisk = some levels ∧ riskLevel ∈ levels
  | .roleAllowlistMiss =>
      ∃ policy, engine.rolePolicy role = some policy ∧
        (policy.allowTools ≠ none ∨ policy.allowRisk ≠ none)
  | .defaultAllowRisk => engine.defaultByRisk riskLevel = some "allow"
  | .defaultDenyRisk => engine.defaultByRisk riskLevel = some "deny"
  | .defaultDenyHighRisk => riskLevel ∈ highRiskLevels
  | .defaultAllowLowMedium => True

/-- The first rule that applies decides. -/
def Decides (rule : ToolRule) : Prop :=
  engine.RuleApplies role toolName riskLevel rule ∧
  ∀ earlier, earlier.place < rule.place →
    ¬engine.RuleApplies role toolName riskLevel earlier

end Rules

section Table

variable (engine : PolicyEngine) (request : PolicyRequest)

/-- The rule decides about the tool of the request. -/
def DecidesOn (rule : ToolRule) : Prop :=
  engine.Decides (engine.roleOf request) (engine.toolOf request)
    (engine.riskOf request) rule

def TableAllows : Prop :=
  engine.approvalStatus request ≠ "DENIED" ∧
  (approvalRequired request = true →
    engine.approvalStatus request = "APPROVED") ∧
  ((∃ rule, engine.DecidesOn request rule ∧ rule.Allows) ∨
    engine.DecidesOn request .defaultDenyHighRisk ∧
      approvalRequired request = true ∧
      engine.approvalStatus request = "APPROVED")

def TableDenies : Prop :=
  engine.approvalStatus request = "DENIED" ∨
  (∃ rule, engine.DecidesOn request rule ∧ ¬rule.Allows ∧
    rule ≠ .defaultDenyHighRisk) ∨
  engine.DecidesOn request .defaultDenyHighRisk ∧
    approvalRequired request = false

/-- The request is answered, and as the table has it: whatever was approved, a
tool that its role denies is denied. -/
def DecidedByTable : Prop :=
  ∃ decision, engine.evaluate request = .ok decision ∧
    (decision.effect = .allow ↔ engine.TableAllows request) ∧
    (decision.effect = .deny ↔ engine.TableDenies request) ∧
    (decision.effect = .requireApproval ↔
      ¬engine.TableAllows request ∧ ¬engine.TableDenies request) ∧
    (engine.RoleDenies request → decision.effect = .deny)

end Table

/-- A value that Python can look up in a set. -/
def Hashable : Option Json → Prop
  | some (.arr _) => False
  | some (.obj _) => False
  | _ => True

variable {engine : PolicyEngine} {request : PolicyRequest}

section Rules

variable {role toolName riskLevel : String} {rule other : ToolRule}

theorem decides_unique (first : engine.Decides role toolName riskLevel rule)
    (second : engine.Decides role toolName riskLevel other) : rule = other := by
  refine ToolRule.place_injective (Nat.le_antisymm ?_ ?_)
  · exact Nat.le_of_not_lt fun later => first.2 other later second.1
  · exact Nat.le_of_not_lt fun later => second.2 rule later first.1

/-- Where no rule of the role applies, the defaults of the risk level decide. -/
theorem decides_checkDefault
    (silent : ∀ earlier : ToolRule, earlier.place < 5 →
      ¬engine.RuleApplies role toolName riskLevel earlier) :
    engine.Decides role toolName riskLevel
      (engine.checkDefault riskLevel).rule := by
  have unruled : ∀ rule : ToolRule, rule.place < 5 ∨ rule = .defaultAllowRisk ∨
      rule = .defaultDenyRisk ∨ rule = .defaultDenyHighRisk ∨
      rule = .defaultAllowLowMedium := by
    intro rule
    cases rule <;> decide
  unfold checkDefault
  split_ifs with allowed denied high
  · exact ⟨allowed, fun earlier before => silent earlier before⟩
  · refine ⟨denied, fun earlier (before : earlier.place < 6) => ?_⟩
    rcases unruled earlier with ruled | rfl | rfl | rfl | rfl
    · exact silent earlier ruled
    · exact allowed
    all_goals exact absurd before (by decide)
  · refine ⟨high, fun earlier before => ?_⟩
    rcases unruled earlier with ruled | rfl | rfl | rfl | rfl
    · exact silent earlier ruled
    · exact allowed
    · exact denied
    all_goals exact absurd before (by decide)
  · refine ⟨trivial, fun earlier before => ?_⟩
    rcases unruled earlier with ruled | rfl | rfl | rfl | rfl
    · exact silent earlier ruled
    · exact allowed
    · exact denied
    · exact high
    · exact absurd before (lt_irrefl _)

private theorem mem_getD {texts : Option (List String)} {text : String} :
    text ∈ texts.getD [] ↔ ∃ listed, texts = some listed ∧ text ∈ listed := by
  cases texts <;> simp

theorem decides_checkToolPolicy :
    engine.Decides role toolName riskLevel
      (engine.checkToolPolicy role toolName riskLevel).rule := by
  unfold checkToolPolicy
  cases known : engine.rolePolicy role with
  | none =>
      refine decides_checkDefault fun earlier before applies => ?_
      cases earlier <;> simp_all [RuleApplies, ToolRule.place, ToolRule.all]
  | some policy =>
      simp only [mem_getD]
      split_ifs with deniedTool allowedTool deniedRisk allowedRisk listed
      · refine ⟨⟨policy, known, deniedTool⟩, fun earlier before => ?_⟩
        cases earlier <;> simp_all [ToolRule.place, ToolRule.all]
      · obtain ⟨tools, allowed⟩ := allowedTool
        refine ⟨⟨policy, tools, known, allowed⟩, fun earlier before => ?_⟩
        cases earlier <;> simp_all [RuleApplies, ToolRule.place, ToolRule.all]
      · refine ⟨⟨policy, known, deniedRisk⟩, fun earlier before => ?_⟩
        cases earlier <;> simp_all [RuleApplies, ToolRule.place, ToolRule.all]
      · obtain ⟨levels, allowed⟩ := allowedRisk
        refine ⟨⟨policy, levels, known, allowed⟩, fun earlier before => ?_⟩
        cases earlier <;> simp_all [RuleApplies, ToolRule.place, ToolRule.all]
      · refine ⟨⟨policy, known, ?_⟩, fun earlier before => ?_⟩
        · simpa [Option.isSome_iff_ne_none] using listed
        · cases earlier <;> simp_all [RuleApplies, ToolRule.place, ToolRule.all]
      · refine decides_checkDefault fun earlier before applies => ?_
        cases earlier <;> simp_all [RuleApplies, ToolRule.place, ToolRule.all]

/-- The code goes through the rules in their order. -/
theorem decides_iff :
    engine.Decides role toolName riskLevel rule ↔
      (engine.checkToolPolicy role toolName riskLevel).rule = rule := by
  constructor
  · exact fun decides => decides_unique decides_checkToolPolicy decides
  · rintro rfl
    exact decides_checkToolPolicy

theorem allowed_iff :
    (engine.checkToolPolicy role toolName riskLevel).allowed = true ↔
      (engine.checkToolPolicy role toolName riskLevel).rule.Allows := by
  unfold checkToolPolicy checkDefault
  cases engine.rolePolicy role <;> simp only <;> split_ifs <;>
    simp [ToolRule.Allows]

end Rules

theorem tableAllows_iff :
    engine.TableAllows request ↔ engine.Allows request := by
  simp only [TableAllows, Allows, DecidesOn, decides_iff, ruled, allowed_iff,
    exists_eq_left']

theorem tableDenies_iff :
    engine.TableDenies request ↔ engine.Denies request := by
  simp only [TableDenies, Denies, DecidesOn, decides_iff, ruled,
    exists_eq_left', ← Bool.not_eq_true, allowed_iff]

theorem evaluate_table (builtin : engine.evaluators = [])
    {decision : PolicyDecision}
    (evaluated : engine.evaluate request = .ok decision) :
    (decision.effect = .allow ↔ engine.Allows request) ∧
    (decision.effect = .deny ↔ engine.Denies request) ∧
    (decision.effect = .requireApproval ↔
      ¬engine.Allows request ∧ ¬engine.Denies request) := by
  obtain ⟨found, version, looked, composed⟩ := evaluate_ok evaluated
  rw [show engine.activeEvaluators = engine.defaultEvaluators by
    simp [activeEvaluators, builtin]] at looked
  have strict := (compose_ok composed).1
  have reach := reach_builtin looked
  have denied := strict .deny
  have asked := strict .requireApproval
  rw [PolicyEffect.deny_le, reach.1] at denied
  rw [PolicyEffect.requireApproval_le, reach.2] at asked
  cases effect : decision.effect <;> grind

theorem isMediaKind_ok_iff {value : Option Json} :
    (∃ isMedia, isMediaKind value = .ok isMedia) ↔ Hashable value := by
  unfold Hashable isMediaKind
  split <;> simp

/-- The evaluators answer exactly where the kind of the resource can be looked
up among the media kinds. -/
theorem evaluate_ok_iff (builtin : engine.evaluators = []) :
    (∃ decision, engine.evaluate request = .ok decision) ↔
      Hashable (Fields.get? request.resource "kind") := by
  have active : engine.activeEvaluators = engine.defaultEvaluators := by
    simp [activeEvaluators, builtin]
  rw [← isMediaKind_ok_iff, ← @runtimeState_ok_iff engine]
  constructor
  · rintro ⟨decision, evaluated⟩
    obtain ⟨found, version, looked, composed⟩ := evaluate_ok evaluated
    rw [active] at looked
    obtain ⟨own, state, -⟩ := findings_builtin looked
    exact ⟨own, state⟩
  · rintro ⟨own, state⟩
    obtain ⟨found, looked⟩ := findings_answered state
    obtain ⟨decision, composed⟩ := composed_builtin looked
      (if request.policyVersion.isEmpty then engine.policyVersion
        else request.policyVersion)
    refine ⟨decision, ?_⟩
    unfold evaluate
    rw [active, looked]
    exact composed

theorem decidedByTable_iff (builtin : engine.evaluators = []) :
    engine.DecidedByTable request ↔
      Hashable (Fields.get? request.resource "kind") := by
  rw [← evaluate_ok_iff builtin]
  constructor
  · rintro ⟨decision, evaluated, -⟩
    exact ⟨decision, evaluated⟩
  · rintro ⟨decision, evaluated⟩
    obtain ⟨allows, denies, asks⟩ := evaluate_table builtin evaluated
    refine ⟨decision, evaluated, ?_⟩
    rw [tableAllows_iff, tableDenies_iff]
    refine ⟨allows, denies, asks, fun denied => ?_⟩
    exact denies.2 (denies_of_roleDenies denied)

theorem refund_decidedByTable :
    deskEngine.evaluators = [] ∧
    Hashable (Fields.get? refundRequest.resource "kind") ∧
    deskEngine.RoleDenies refundRequest ∧
    deskEngine.DecidedByTable refundRequest ∧
    (deskEngine.evaluate refundRequest).map PolicyDecision.effect =
      .ok .deny := by
  have hashable : Hashable (Fields.get? refundRequest.resource "kind") := trivial
  have denied : deskEngine.RoleDenies refundRequest := ⟨_, rfl, by decide⟩
  have decided := (@decidedByTable_iff deskEngine refundRequest rfl).2 hashable
  refine ⟨rfl, hashable, denied, decided, ?_⟩
  obtain ⟨decision, evaluated, -, -, -, refused⟩ := decided
  rw [evaluated]
  exact congrArg Except.ok (refused denied)

/-- A lookup for which the caller gave a list as the kind of the resource. -/
def listedKind : PolicyRequest where
  stage := "tool"
  subject := [("kind", .str "agent"), ("role", .str "support")]
  action := [("kind", .str "tool"), ("name", .str "lookup")]
  resource := [("kind", .arr [])]
  context := []
  signals := []
  runtimeState := []
  policyVersion := "local-v1"

theorem listed_kind_undecided :
    deskEngine.evaluators = [] ∧ listedKind.stage = "tool" ∧
    deskEngine.TableAllows listedKind ∧
    deskEngine.evaluate listedKind =
      .error (.typeError "unhashable type: 'list'") ∧
    ¬deskEngine.DecidedByTable listedKind := by
  have raised : deskEngine.evaluate listedKind =
      .error (.typeError "unhashable type: 'list'") := by
    rfl
  refine ⟨rfl, rfl, ?_, raised, ?_⟩
  · rw [tableAllows_iff]
    refine ⟨by decide, by decide, Or.inl (by decide)⟩
  · rintro ⟨decision, evaluated, -⟩
    rw [raised] at evaluated
    cases evaluated

end PolicyEngine

end AgentLedger
