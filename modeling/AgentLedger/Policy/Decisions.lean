import AgentLedger.Policy.Engine
import Mathlib.Order.Lattice
import Mathlib.Order.Defs.LinearOrder

namespace AgentLedger

open Foundation

/-! What a `PolicyEngine` decides, from what its evaluators find. -/

def PolicyEffect.severity : PolicyEffect → Nat
  | .allow => 0
  | .requireApproval => 1
  | .deny => 2

/-- The stricter effect is the greater one. -/
instance : LinearOrder PolicyEffect :=
  LinearOrder.lift' PolicyEffect.severity fun left right same => by
    cases left <;> cases right <;> first | rfl | cases same

namespace PolicyEffect

variable {effect : PolicyEffect}

theorem le_iff {left right : PolicyEffect} :
    left ≤ right ↔ left.severity ≤ right.severity :=
  Iff.rfl

@[simp]
theorem deny_le : deny ≤ effect ↔ effect = deny := by
  cases effect <;> decide

theorem requireApproval_le : requireApproval ≤ effect ↔ effect ≠ allow := by
  cases effect <;> decide

end PolicyEffect

namespace PolicyFinding

variable (finding : PolicyFinding)

def effect : PolicyEffect :=
  if finding.denies then .deny
  else if finding.asks then .requireApproval
  else .allow

/-- One of the controls that the finding asks for. -/
def Names (kind : String) : Prop :=
  ∃ kinds, finding.controlKinds = .ok kinds ∧ kind ∈ kinds

end PolicyFinding

/-- The findings ask for an effect as strict as `level`. -/
def Reach (level : PolicyEffect) (findings : List PolicyFinding) : Prop :=
  ∃ finding ∈ findings, level ≤ finding.effect

def Name (kind : String) (findings : List PolicyFinding) : Prop :=
  ∃ finding ∈ findings, finding.Names kind

section Findings

variable {level : PolicyEffect} {kind : String} {finding : PolicyFinding}
  {findings others : List PolicyFinding}

@[simp]
theorem not_reach_nil : ¬Reach level [] := by
  simp [Reach]

@[simp]
theorem reach_cons :
    Reach level (finding :: findings) ↔
      level ≤ finding.effect ∨ Reach level findings := by
  simp [Reach]

@[simp]
theorem reach_append :
    Reach level (findings ++ others) ↔
      Reach level findings ∨ Reach level others := by
  simp [Reach, or_and_right, exists_or]

@[simp]
theorem not_name_nil : ¬Name kind [] := by
  simp [Name]

@[simp]
theorem name_cons :
    Name kind (finding :: findings) ↔
      finding.Names kind ∨ Name kind findings := by
  simp [Name]

@[simp]
theorem name_append :
    Name kind (findings ++ others) ↔
      Name kind findings ∨ Name kind others := by
  simp [Name, or_and_right, exists_or]

end Findings

def Controlled (controls : List PolicyControl) (kind : String) : Prop :=
  kind ∈ controls.map PolicyControl.kind

theorem controlled_addControl {controls : List PolicyControl}
    {kind added reason : String} :
    Controlled (addControl controls added reason) kind ↔
      Controlled controls kind ∨ kind = added := by
  unfold addControl Controlled
  split
  · rename_i present
    have known : added ∈ controls.map PolicyControl.kind := by
      simpa using present
    constructor
    · exact .inl
    · rintro (old | rfl)
      · exact old
      · exact known
  · simp

theorem controlled_addControls {kinds : List String} {reason kind : String}
    {controls : List PolicyControl} :
    Controlled (kinds.foldl (fun controls kind =>
        addControl controls kind reason) controls) kind ↔
      Controlled controls kind ∨ kind ∈ kinds := by
  induction kinds generalizing controls with
  | nil => simp
  | cons first rest rest_iff =>
      rw [List.foldl_cons, rest_iff, controlled_addControl, List.mem_cons,
        or_assoc]

namespace Composition

variable {findings : List PolicyFinding} {finding : PolicyFinding}
  {start next final : Composition} {level : PolicyEffect} {kind : String}

theorem consider_ok (considered : start.consider finding = .ok next) :
    (∀ level, level ≤ next.effect ↔
      level ≤ start.effect ∨ level ≤ finding.effect) ∧
    ∀ kind, Controlled next.controls kind ↔
      Controlled start.controls kind ∨ finding.Names kind := by
  unfold consider at considered
  cases named : finding.controlKinds with
  | error problem =>
      rw [named] at considered
      cases considered
  | ok kinds =>
      rw [named] at considered
      cases considered
      constructor
      · intro level
        simp only [PolicyFinding.effect]
        cases finding.denies <;> cases finding.asks <;>
          cases start.effect <;> cases level <;> decide
      · intro kind
        simp only [controlled_addControls, PolicyFinding.Names, named,
          Except.ok.injEq, exists_eq_left']

theorem considerAll_ok (considered : considerAll findings start = .ok final) :
    (∀ level, level ≤ final.effect ↔
      level ≤ start.effect ∨ Reach level findings) ∧
    ∀ kind, Controlled final.controls kind ↔
      Controlled start.controls kind ∨ Name kind findings := by
  induction findings generalizing start with
  | nil =>
      cases considered
      simp
  | cons finding rest rest_ok =>
      unfold considerAll at considered
      cases one : start.consider finding with
      | error problem =>
          rw [one] at considered
          cases considered
      | ok next =>
          rw [one] at considered
          have first := consider_ok one
          have others := rest_ok considered
          constructor
          · intro level
            rw [others.1, first.1, reach_cons, or_assoc]
          · intro kind
            rw [others.2, first.2, name_cons, or_assoc]

/-- Every finding's controls can be iterated over. -/
theorem considerAll_total
    (readable : ∀ finding ∈ findings, ∃ kinds, finding.controlKinds = .ok kinds) :
    ∃ final, considerAll findings start = .ok final := by
  induction findings generalizing start with
  | nil => exact ⟨start, rfl⟩
  | cons finding rest rest_total =>
      obtain ⟨kinds, named⟩ := readable finding (List.mem_cons_self ..)
      have others := fun each found =>
        readable each (List.mem_cons_of_mem _ found)
      unfold considerAll consider
      rw [named]
      exact rest_total others

theorem controlled_finalControls (composition : Composition) :
    Controlled composition.finalControls kind ↔
      Controlled composition.controls kind ∨
        kind = "deny" ∧ composition.effect = .deny ∨
        kind = "approval" ∧ composition.effect = .requireApproval := by
  unfold finalControls
  cases composition.effect <;> simp [controlled_addControl]

end Composition

theorem controlled_insertionSort {controls : List PolicyControl}
    {kind : String} {order : PolicyControl → PolicyControl → Prop}
    [DecidableRel order] :
    Controlled (controls.insertionSort order) kind ↔
      Controlled controls kind := by
  simp [Controlled]

theorem requiresControl_iff {decision : PolicyDecision} {kind : String} :
    decision.requiresControl kind = true ↔
      Controlled decision.controls kind := by
  simp [PolicyDecision.requiresControl, Controlled]

namespace PolicyEngine

variable {engine : PolicyEngine} {request : PolicyRequest}
  {found : List PolicyFinding} {decision : PolicyDecision} {version : String}

/-- A composed decision is as strict as the strictest finding, and requires
what any of them names. -/
theorem compose_ok (composed : engine.compose request found version =
      .ok decision) :
    (∀ level, level ≤ decision.effect ↔ level = .allow ∨ Reach level found) ∧
    ∀ kind, decision.requiresControl kind = true ↔
      kind = "audit" ∨ Name kind found ∨
        kind = "deny" ∧ decision.effect = .deny ∨
        kind = "approval" ∧ decision.effect = .requireApproval := by
  unfold compose at composed
  cases considered : (engine.begun request).considerAll found with
  | error problem =>
      rw [considered] at composed
      cases composed
  | ok final =>
      rw [considered] at composed
      cases composed
      have whole := Composition.considerAll_ok considered
      constructor
      · intro level
        rw [whole.1]
        cases level <;> simp [begun, PolicyEffect.le_iff, PolicyEffect.severity]
      · intro kind
        have named := whole.2 kind
        simp only [begun, Controlled, List.map_cons, List.map_nil,
          List.mem_singleton] at named
        rw [requiresControl_iff, controlled_insertionSort,
          Composition.controlled_finalControls, Controlled, named, or_assoc]

theorem evaluate_ok (evaluated : engine.evaluate request = .ok decision) :
    ∃ found version, findings request engine.activeEvaluators = .ok found ∧
      engine.compose request found version = .ok decision := by
  unfold evaluate at evaluated
  cases looked : findings request engine.activeEvaluators with
  | error problem =>
      rw [looked] at evaluated
      cases evaluated
  | ok found =>
      rw [looked] at evaluated
      exact ⟨found, _, rfl, evaluated⟩

/-! ### The decision table of the built-in evaluators -/

section Builtin

variable (engine) (request)

/-- What the role and risk rules say of the tool. -/
def ruled : ToolPolicy :=
  engine.checkToolPolicy (engine.roleOf request) (engine.toolOf request)
    (engine.riskOf request)

def Allows : Prop :=
  engine.approvalStatus request ≠ "DENIED" ∧
  (approvalRequired request = true →
    engine.approvalStatus request = "APPROVED") ∧
  ((engine.ruled request).allowed = true ∨
    (engine.ruled request).rule = .defaultDenyHighRisk ∧
      approvalRequired request = true ∧
      engine.approvalStatus request = "APPROVED")

def Denies : Prop :=
  engine.approvalStatus request = "DENIED" ∨
  (engine.ruled request).allowed = false ∧
    (engine.ruled request).rule ≠ .defaultDenyHighRisk ∨
  (engine.ruled request).rule = .defaultDenyHighRisk ∧
    approvalRequired request = false

/-- The role's policy lists the tool among those denied. -/
def RoleDenies : Prop :=
  ∃ policy, engine.rolePolicy (engine.roleOf request) = some policy ∧
    engine.toolOf request ∈ policy.denyTools

/-- One of the two evaluators that look at the approval asks for it. -/
def AsksApproval : Prop :=
  approvalRequired request = true ∧
  engine.approvalStatus request ≠ "APPROVED" ∧
  (engine.approvalStatus request ≠ "DENIED" ∨
    (engine.ruled request).rule = .defaultDenyHighRisk)

end Builtin

theorem highRisk_not_allowed
    (rule : (engine.ruled request).rule = .defaultDenyHighRisk) :
    (engine.ruled request).allowed = false := by
  revert rule
  unfold ruled checkToolPolicy checkDefault
  cases engine.rolePolicy (engine.roleOf request) <;> grind

theorem denies_of_roleDenies (denied : engine.RoleDenies request) :
    engine.Denies request := by
  obtain ⟨policy, known, listed⟩ := denied
  right
  left
  simp [ruled, checkToolPolicy, known, listed]

/-- The high-risk default, where an approval can lift it. -/
private theorem roleCapability_found :
    ((engine.roleCapability request).effect,
      (engine.roleCapability request).controlKinds) =
    if (engine.ruled request).rule = .defaultDenyHighRisk ∧
        approvalRequired request = true then
      if engine.approvalStatus request = "APPROVED" then (.allow, .ok ["audit"])
      else (.requireApproval, .ok ["approval", "audit"])
    else if (engine.ruled request).allowed = true then (.allow, .ok [])
    else (.deny, .ok ["deny", "audit"]) := by
  unfold roleCapability ruled
  extract_lets role toolName riskLevel result finding
  split_ifs <;> rfl

theorem reach_roleCapability :
    (.deny ≤ (engine.roleCapability request).effect ↔
      (engine.ruled request).allowed = false ∧
        ¬((engine.ruled request).rule = .defaultDenyHighRisk ∧
          approvalRequired request = true)) ∧
    (.requireApproval ≤ (engine.roleCapability request).effect ↔
      (engine.ruled request).allowed = false ∧
        ¬((engine.ruled request).rule = .defaultDenyHighRisk ∧
          approvalRequired request = true ∧
          engine.approvalStatus request = "APPROVED")) := by
  have lifted := @highRisk_not_allowed engine request
  have found := congrArg Prod.fst (@roleCapability_found engine request)
  simp only at found
  rw [found]
  split
  · rename_i high
    split <;> simp_all [PolicyEffect.requireApproval_le]
  · split <;> simp_all [PolicyEffect.requireApproval_le]

theorem name_roleCapability {kind : String} (other : kind ≠ "audit") :
    (engine.roleCapability request).Names kind ↔
      kind = "deny" ∧ (engine.ruled request).allowed = false ∧
        ¬((engine.ruled request).rule = .defaultDenyHighRisk ∧
          approvalRequired request = true) ∨
      kind = "approval" ∧
        (engine.ruled request).rule = .defaultDenyHighRisk ∧
        approvalRequired request = true ∧
        engine.approvalStatus request ≠ "APPROVED" := by
  have found := congrArg Prod.snd (@roleCapability_found engine request)
  simp only at found
  simp only [PolicyFinding.Names, found]
  split_ifs <;> simp_all

private theorem approvalFindings_found :
    (engine.approvalFindings request).map (fun finding =>
      (finding.effect, finding.controlKinds)) =
    if engine.approvalStatus request = "DENIED" then
      [(.deny, .ok ["deny", "audit"])]
    else if approvalRequired request = false then []
    else if engine.approvalStatus request ≠ "APPROVED" then
      [(.requireApproval, .ok ["approval", "audit"])]
    else [(.allow, .ok ["audit"])] := by
  unfold approvalFindings
  extract_lets status
  split_ifs <;> rfl

private theorem reach_iff {level : PolicyEffect} {findings : List PolicyFinding} :
    Reach level findings ↔
      ∃ pair ∈ findings.map (fun finding =>
        (finding.effect, finding.controlKinds)), level ≤ pair.1 := by
  simp [Reach]

private theorem name_iff {kind : String} {findings : List PolicyFinding} :
    Name kind findings ↔
      ∃ pair ∈ findings.map (fun finding =>
        (finding.effect, finding.controlKinds)),
        ∃ kinds, pair.2 = .ok kinds ∧ kind ∈ kinds := by
  simp [Name, PolicyFinding.Names]

theorem reach_actionBoundary :
    (Reach .deny (engine.actionBoundary request) ↔
      engine.approvalStatus request = "DENIED") ∧
    (Reach .requireApproval (engine.actionBoundary request) ↔
      engine.approvalStatus request = "DENIED" ∨
      approvalRequired request = true ∧
        engine.approvalStatus request ≠ "APPROVED") := by
  simp only [reach_iff, actionBoundary, List.map_append,
    approvalFindings_found]
  split_ifs <;> simp_all [PolicyFinding.effect, PolicyFinding.denies,
    PolicyFinding.asks, Fields.get?, PolicyEffect.requireApproval_le]

theorem name_actionBoundary {kind : String} (other : kind ≠ "audit") :
    Name kind (engine.actionBoundary request) ↔
      kind = "deny" ∧ engine.approvalStatus request = "DENIED" ∨
      kind = "approval" ∧ approvalRequired request = true ∧
        engine.approvalStatus request ≠ "APPROVED" ∧
        engine.approvalStatus request ≠ "DENIED" ∨
      kind = "sandbox" ∧ sandboxRequired request = true := by
  simp only [name_iff, actionBoundary, List.map_append,
    approvalFindings_found]
  have sandbox : PolicyFinding.controlKinds
      { id := "sandbox_required"
        severity := "info"
        source := "action_boundary"
        message := "sandbox boundary required for action"
        evidence := [("controls", strings ["sandbox", "audit"])] } =
      .ok ["sandbox", "audit"] := rfl
  split_ifs <;> simp_all [PolicyFinding.controlKinds, Fields.get?, given]

private def harmless : List (PolicyEffect × Except PyError (List String)) :=
  [(.allow, .ok ["audit"]), (.allow, .ok [])]

private theorem runtimeState_found {own : List PolicyFinding}
    (looked : engine.runtimeState request = .ok own) :
    ∀ pair ∈ own.map (fun finding => (finding.effect, finding.controlKinds)),
      pair ∈ harmless := by
  unfold runtimeState at looked
  extract_lets mode sideEffect kind shadow delegation media at looked
  have shadowed : ∀ pair ∈ shadow.map (fun finding =>
      (finding.effect, finding.controlKinds)), pair ∈ harmless := by
    intro pair listed
    simp only [shadow] at listed
    split at listed
    · rw [List.eq_of_mem_singleton listed]
      exact List.mem_cons_self ..
    · cases listed
  have delegated : ∀ pair ∈ delegation.map (fun finding =>
      (finding.effect, finding.controlKinds)), pair ∈ harmless := by
    intro pair listed
    simp only [delegation] at listed
    split at listed
    · rw [List.eq_of_mem_singleton listed]
      exact List.mem_cons_of_mem _ (List.mem_cons_self ..)
    · cases listed
  cases known : isMediaKind kind with
  | error problem =>
      rw [known] at looked
      cases looked
  | ok isMedia =>
      rw [known] at looked
      cases looked
      simp only [List.map_append, List.mem_append]
      rintro pair ((listed | listed) | listed)
      · exact shadowed pair listed
      · exact delegated pair listed
      · split at listed
        · rw [List.eq_of_mem_singleton listed]
          exact List.mem_cons_self ..
        · cases listed

theorem not_reach_runtimeState {own : List PolicyFinding}
    {level : PolicyEffect} (looked : engine.runtimeState request = .ok own)
    (strict : level ≠ .allow) : ¬Reach level own := by
  rw [reach_iff]
  rintro ⟨pair, listed, below⟩
  have known := runtimeState_found looked pair listed
  simp only [harmless, List.mem_cons, List.not_mem_nil, or_false] at known
  rcases known with rfl | rfl
  all_goals
    cases level
    · exact strict rfl
    · cases below
    · cases below

theorem not_name_runtimeState {own : List PolicyFinding} {kind : String}
    (looked : engine.runtimeState request = .ok own)
    (other : kind ≠ "audit") : ¬Name kind own := by
  rw [name_iff]
  rintro ⟨pair, listed, kinds, named, listing⟩
  have known := runtimeState_found looked pair listed
  simp only [harmless, List.mem_cons, List.not_mem_nil, or_false] at known
  rcases known with rfl | rfl
  · cases named
    exact other (List.eq_of_mem_singleton listing)
  · cases named
    cases listing

theorem findings_builtin {found : List PolicyFinding}
    (looked : findings request engine.defaultEvaluators = .ok found) :
    ∃ own, engine.runtimeState request = .ok own ∧
      found = engine.roleCapability request ::
        (engine.actionBoundary request ++ own) := by
  simp only [defaultEvaluators, findings] at looked
  cases state : engine.runtimeState request with
  | error problem =>
      rw [state] at looked
      cases looked
  | ok own =>
      rw [state] at looked
      cases looked
      exact ⟨own, rfl, by simp⟩

/-- What the built-in evaluators ask for, all together. -/
theorem reach_builtin {found : List PolicyFinding}
    (looked : findings request engine.defaultEvaluators = .ok found) :
    (Reach .deny found ↔ engine.Denies request) ∧
    (Reach .requireApproval found ↔ ¬engine.Allows request) := by
  obtain ⟨own, state, rfl⟩ := findings_builtin looked
  have high := @highRisk_not_allowed engine request
  have undenied : ¬Reach .deny own :=
    not_reach_runtimeState state (by decide)
  have unasked : ¬Reach .requireApproval own :=
    not_reach_runtimeState state (by decide)
  simp only [reach_cons, reach_append, reach_roleCapability,
    reach_actionBoundary, undenied, unasked, Denies, Allows]
  grind

theorem name_builtin {found : List PolicyFinding} {kind : String}
    (looked : findings request engine.defaultEvaluators = .ok found)
    (other : kind ≠ "audit") :
    Name kind found ↔
      kind = "deny" ∧ engine.Denies request ∨
      kind = "approval" ∧ engine.AsksApproval request ∨
      kind = "sandbox" ∧ sandboxRequired request = true := by
  obtain ⟨own, state, rfl⟩ := findings_builtin looked
  have high := @highRisk_not_allowed engine request
  simp only [name_cons, name_append, name_roleCapability other,
    name_actionBoundary other, not_name_runtimeState state other, Denies,
    AsksApproval]
  grind

private theorem readable_roleCapability :
    ∃ kinds, (engine.roleCapability request).controlKinds = .ok kinds := by
  have found := congrArg Prod.snd (@roleCapability_found engine request)
  simp only at found
  rw [found]
  split_ifs <;> exact ⟨_, rfl⟩

private theorem readable_approvalFindings :
    ∀ finding ∈ engine.approvalFindings request, ∃ kinds,
      finding.controlKinds = .ok kinds := by
  intro finding listed
  have paired : (finding.effect, finding.controlKinds) ∈
      (engine.approvalFindings request).map fun finding =>
        (finding.effect, finding.controlKinds) :=
    List.mem_map_of_mem listed
  rw [approvalFindings_found] at paired
  split_ifs at paired
  · exact ⟨_, congrArg Prod.snd (List.eq_of_mem_singleton paired)⟩
  · cases paired
  · exact ⟨_, congrArg Prod.snd (List.eq_of_mem_singleton paired)⟩
  · exact ⟨_, congrArg Prod.snd (List.eq_of_mem_singleton paired)⟩

private theorem readable_actionBoundary :
    ∀ finding ∈ engine.actionBoundary request, ∃ kinds,
      finding.controlKinds = .ok kinds := by
  intro finding listed
  simp only [actionBoundary, List.mem_append] at listed
  rcases listed with (listed | listed) | listed
  · rw [List.eq_of_mem_singleton listed]
    exact ⟨_, rfl⟩
  · exact readable_approvalFindings finding listed
  · split at listed
    · rw [List.eq_of_mem_singleton listed]
      exact ⟨_, rfl⟩
    · cases listed

private theorem readable_runtimeState {own : List PolicyFinding}
    (looked : engine.runtimeState request = .ok own) :
    ∀ finding ∈ own, ∃ kinds, finding.controlKinds = .ok kinds := by
  intro finding listed
  have known := runtimeState_found looked _ (List.mem_map_of_mem listed)
  simp only [harmless, List.mem_cons, List.not_mem_nil, or_false,
    Prod.mk.injEq] at known
  rcases known with ⟨_, named⟩ | ⟨_, named⟩
  · exact ⟨_, named⟩
  · exact ⟨_, named⟩

/-- The findings of the built-in evaluators can always be composed. -/
theorem composed_builtin {found : List PolicyFinding}
    (looked : findings request engine.defaultEvaluators = .ok found)
    (version : String) :
    ∃ decision, engine.compose request found version = .ok decision := by
  have readable : ∀ finding ∈ found, ∃ kinds,
      finding.controlKinds = .ok kinds := by
    obtain ⟨own, state, rfl⟩ := findings_builtin looked
    intro finding listed
    simp only [List.mem_cons, List.mem_append] at listed
    rcases listed with rfl | listed | listed
    · exact readable_roleCapability
    · exact readable_actionBoundary finding listed
    · exact readable_runtimeState state finding listed
  obtain ⟨final, considered⟩ :=
    @Composition.considerAll_total found (engine.begun request) readable
  unfold compose
  rw [considered]
  exact ⟨_, rfl⟩

/-- The third evaluator answers exactly where the kind of the resource can be
looked up among the media kinds. -/
theorem runtimeState_ok_iff :
    (∃ own, engine.runtimeState request = .ok own) ↔
      ∃ isMedia, isMediaKind (Fields.get? request.resource "kind") =
        .ok isMedia := by
  unfold runtimeState
  extract_lets mode sideEffect kind shadow delegation media
  change _ ↔ ∃ isMedia, isMediaKind kind = .ok isMedia
  cases isMediaKind kind with
  | error problem =>
      constructor
      · rintro ⟨own, looked⟩
        cases looked
      · rintro ⟨isMedia, looked⟩
        cases looked
  | ok isMedia => exact ⟨fun _ => ⟨isMedia, rfl⟩, fun _ => ⟨_, rfl⟩⟩

theorem findings_answered {own : List PolicyFinding}
    (looked : engine.runtimeState request = .ok own) :
    ∃ found, findings request engine.defaultEvaluators = .ok found := by
  simp only [defaultEvaluators, findings, looked]
  exact ⟨_, rfl⟩

/-- An engine whose policy denies the support role refunds. -/
def deskEngine : PolicyEngine where
  roles := fun role =>
    if role = "support" then
      some { allowTools := some ["lookup"], denyTools := ["refund"] }
    else none
  str := fun _ => ""

/-- A refund that a human has approved. -/
def refundRequest : PolicyRequest where
  stage := "tool"
  subject := [("kind", .str "agent"), ("role", .str "support")]
  action :=
    [("approval_required", .bool true), ("kind", .str "tool"),
      ("name", .str "refund"), ("risk_level", .str "high"),
      ("side_effect", .str "external_write")]
  resource := [("kind", .str "tool"), ("name", .str "refund")]
  context := []
  signals := []
  runtimeState := [("approval_status", .str "approved")]
  policyVersion := "local-v1"

end PolicyEngine

end AgentLedger
