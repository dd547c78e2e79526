import AgentLedger.Policy.Decisions

namespace AgentLedger

open Foundation

/-! What registering an evaluator does to the decisions of an engine. -/

/-- At least as strict, and every control still required. -/
def PolicyDecision.Keeps (before after : PolicyDecision) : Prop :=
  before.effect ≤ after.effect ∧
  ∀ kind, before.requiresControl kind = true →
    after.requiresControl kind = true

/-- What an evaluator finds where it answers. -/
def PolicyEvaluator.found (evaluator : PolicyEvaluator)
    (request : PolicyRequest) : List PolicyFinding :=
  if evaluator.appliesTo request then
    (evaluator.evaluate request).toOption.getD []
  else []

namespace PolicyEngine

variable (engine : PolicyEngine) (evaluator : PolicyEvaluator)
  (request : PolicyRequest)

/-- What the evaluators registered so far find. -/
def foundBefore : List PolicyFinding :=
  engine.evaluators.flatMap fun registered => registered.found request

/-- The evaluator makes by itself the demands of the built-in evaluators. -/
def StandsIn : Prop :=
  (engine.Denies request → Reach .deny (evaluator.found request)) ∧
  (¬engine.Allows request →
    Reach .requireApproval (evaluator.found request)) ∧
  (engine.AsksApproval request →
    Name "approval" (evaluator.found request) ∨
      ¬Reach .deny (evaluator.found request)) ∧
  (sandboxRequired request = true →
    Name "sandbox" (evaluator.found request))

/-- The evaluator denies an action for which the others ask for an approval
without naming it as a control. -/
def DropsApproval : Prop :=
  Reach .requireApproval (engine.foundBefore request) ∧
  ¬Reach .deny (engine.foundBefore request) ∧
  ¬Name "approval" (engine.foundBefore request) ∧
  Reach .deny (evaluator.found request) ∧
  ¬Name "approval" (evaluator.found request)

/-- The first evaluator replaces the built-in ones, any other is added. -/
def KeepsChecks : Prop :=
  if engine.evaluators.isEmpty then engine.StandsIn evaluator request
  else ¬engine.DropsApproval evaluator request

variable {engine evaluator request}
variable {found own : List PolicyFinding} {was now : PolicyDecision}
  {version later : String}

theorem found_of_findings {evaluators : List PolicyEvaluator}
    (looked : findings request evaluators = .ok found) :
    found = evaluators.flatMap fun each => each.found request := by
  induction evaluators generalizing found with
  | nil =>
      cases looked
      rfl
  | cons first rest rest_found =>
      unfold findings at looked
      rw [List.flatMap_cons, PolicyEvaluator.found]
      split at looked
      · rename_i applies
        rw [if_pos applies]
        cases answered : first.evaluate request with
        | error problem =>
            rw [answered] at looked
            cases looked
        | ok answer =>
            cases others : findings request rest with
            | error problem =>
                rw [answered, others] at looked
                cases looked
            | ok more =>
                rw [answered, others] at looked
                cases looked
                rw [← rest_found others]
                rfl
      · rename_i idle
        rw [if_neg idle]
        cases others : findings request rest with
        | error problem =>
            rw [others] at looked
            cases looked
        | ok more =>
            rw [others] at looked
            cases looked
            exact rest_found others

theorem activeEvaluators_register :
    (engine.registerEvaluator evaluator).activeEvaluators =
      engine.evaluators ++ [evaluator] := by
  simp [activeEvaluators, registerEvaluator]

/-- Composing depends on the engine through `str` and the version alone. -/
theorem compose_register :
    (engine.registerEvaluator evaluator).compose request found version =
      engine.compose request found version :=
  rfl

/-- A decision composed of the findings requires the control. -/
def Requires (findings : List PolicyFinding) (kind : String) : Prop :=
  Name kind findings ∨
    kind = "deny" ∧ Reach .deny findings ∨
    kind = "approval" ∧ Reach .requireApproval findings ∧
      ¬Reach .deny findings

theorem effect_of_composed
    (composed : engine.compose request found version = .ok was) :
    (was.effect = .deny ↔ Reach .deny found) ∧
    (was.effect ≠ .allow ↔ Reach .requireApproval found) := by
  have strict := (compose_ok composed).1
  have denied := strict .deny
  have asked := strict .requireApproval
  rw [PolicyEffect.deny_le] at denied
  rw [PolicyEffect.requireApproval_le] at asked
  constructor
  · simpa using denied
  · simpa using asked

theorem requires_of_composed
    (composed : engine.compose request found version = .ok was)
    (kind : String) :
    was.requiresControl kind = true ↔
      kind = "audit" ∨ Requires found kind := by
  have effect := effect_of_composed composed
  have asks : was.effect = .requireApproval ↔
      Reach .requireApproval found ∧ ¬Reach .deny found := by
    rw [← effect.1, ← effect.2]
    cases was.effect <;> decide
  rw [(compose_ok composed).2, effect.1, asks, Requires]

theorem keeps_iff_of_composed
    (before : engine.compose request found version = .ok was)
    (after : engine.compose request own later = .ok now) :
    was.Keeps now ↔
      (Reach .deny found → Reach .deny own) ∧
      (Reach .requireApproval found → Reach .requireApproval own) ∧
      ∀ kind, kind ≠ "audit" → Requires found kind → Requires own kind := by
  have effect : was.effect ≤ now.effect ↔
      (Reach .deny found → Reach .deny own) ∧
      (Reach .requireApproval found → Reach .requireApproval own) := by
    rw [← (effect_of_composed before).1, ← (effect_of_composed before).2,
      ← (effect_of_composed after).1, ← (effect_of_composed after).2]
    cases was.effect <;> cases now.effect <;> decide
  rw [PolicyDecision.Keeps, effect, and_assoc]
  refine and_congr Iff.rfl (and_congr Iff.rfl (forall_congr' fun kind => ?_))
  rw [requires_of_composed before, requires_of_composed after]
  constructor
  · intro kept other required
    exact (kept (.inr required)).resolve_left other
  · rintro kept (audit | required)
    · exact .inl audit
    · apply Classical.or_iff_not_imp_left.mpr
      intro other
      exact kept other required

theorem requires_builtin
    (looked : findings request engine.defaultEvaluators = .ok found)
    {kind : String} (other : kind ≠ "audit") :
    Requires found kind ↔
      kind = "deny" ∧ engine.Denies request ∨
      kind = "approval" ∧ engine.AsksApproval request ∨
      kind = "sandbox" ∧ sandboxRequired request = true := by
  have asked : ¬engine.Allows request → ¬engine.Denies request →
      engine.AsksApproval request := by
    have high := @highRisk_not_allowed engine request
    unfold Allows Denies AsksApproval
    grind
  rw [Requires, name_builtin looked other, (reach_builtin looked).1,
    (reach_builtin looked).2]
  grind

/-- The first evaluator has to make the demands of those it replaces. -/
theorem keeps_iff_standsIn
    (looked : findings request engine.defaultEvaluators = .ok found)
    (before : engine.compose request found version = .ok was)
    (after : engine.compose request (evaluator.found request) later =
      .ok now) :
    was.Keeps now ↔ engine.StandsIn evaluator request := by
  rw [keeps_iff_of_composed before after, (reach_builtin looked).1,
    (reach_builtin looked).2, StandsIn]
  have asks_not_allowed : engine.AsksApproval request →
      ¬engine.Allows request := by
    rintro ⟨required, unapproved, -⟩ ⟨-, approved, -⟩
    exact unapproved (approved required)
  constructor
  · rintro ⟨denied, asked, required⟩
    have approval := required "approval" (by decide)
    have sandbox := required "sandbox" (by decide)
    rw [requires_builtin looked (by decide), Requires] at approval sandbox
    refine ⟨denied, asked, ?_, ?_⟩
    · intro asks
      rcases approval (.inr (.inl ⟨rfl, asks⟩)) with named | rest
      · exact .inl named
      · rcases rest with ⟨wrong, -⟩ | ⟨-, -, undenied⟩
        · exact absurd wrong (by decide)
        · exact .inr undenied
    · intro sandboxed
      rcases sandbox (.inr (.inr ⟨rfl, sandboxed⟩)) with named | rest
      · exact named
      · rcases rest with ⟨wrong, -⟩ | ⟨wrong, -⟩
        · exact absurd wrong (by decide)
        · exact absurd wrong (by decide)
  · rintro ⟨denied, asked, approval, sandbox⟩
    refine ⟨denied, asked, ?_⟩
    intro kind other required
    rw [requires_builtin looked other] at required
    rcases required with ⟨rfl, denies⟩ | ⟨rfl, asks⟩ | ⟨rfl, sandboxed⟩
    · exact .inr (.inl ⟨rfl, denied denies⟩)
    · rcases approval asks with named | undenied
      · exact .inl named
      · exact .inr (.inr ⟨rfl, asked (asks_not_allowed asks), undenied⟩)
    · exact .inl (sandbox sandboxed)

/-- Findings are only added to those of the evaluators registered before. -/
theorem keeps_iff_not_drops
    (before : engine.compose request (engine.foundBefore request) version =
      .ok was)
    (after : engine.compose request
      (engine.foundBefore request ++ evaluator.found request) later = .ok now) :
    was.Keeps now ↔ ¬engine.DropsApproval evaluator request := by
  rw [keeps_iff_of_composed before after, reach_append, reach_append,
    DropsApproval]
  constructor
  · rintro ⟨-, -, required⟩ ⟨asked, undenied, unnamed, denied, silent⟩
    have approval := required "approval" (by decide)
      (.inr (.inr ⟨rfl, asked, undenied⟩))
    rcases approval with named | ⟨wrong, -⟩ | ⟨-, -, still⟩
    · rcases name_append.mp named with named | named
      · exact unnamed named
      · exact silent named
    · exact absurd wrong (by decide)
    · exact still (reach_append.mpr (.inr denied))
  · intro kept
    refine ⟨.inl, .inl, ?_⟩
    rintro kind - (named | ⟨rfl, denied⟩ | ⟨rfl, asked, undenied⟩)
    · exact .inl (name_append.mpr (.inl named))
    · exact .inr (.inl ⟨rfl, reach_append.mpr (.inl denied)⟩)
    · apply Classical.byContradiction
      intro dropped
      simp only [Requires, name_append, reach_append, not_or, true_and,
        not_and, not_not] at dropped
      apply kept
      exact ⟨asked, undenied, dropped.1.1,
        dropped.2.2 (.inl asked) undenied, dropped.1.2⟩

theorem keeps_iff
    (before : engine.evaluate request = .ok was)
    (after : (engine.registerEvaluator evaluator).evaluate request = .ok now) :
    was.Keeps now ↔ engine.KeepsChecks evaluator request := by
  obtain ⟨found, version, looked, composed⟩ := evaluate_ok before
  obtain ⟨all, later, again, recomposed⟩ := evaluate_ok after
  rw [compose_register] at recomposed
  rw [activeEvaluators_register] at again
  have whole := found_of_findings again
  unfold KeepsChecks
  split
  · rename_i none
    have active : engine.activeEvaluators = engine.defaultEvaluators := by
      rw [activeEvaluators, if_pos none]
    rw [active] at looked
    have alone : all = evaluator.found request := by
      rw [whole, List.isEmpty_iff.mp none]
      simp
    rw [alone] at recomposed
    exact keeps_iff_standsIn looked composed recomposed
  · rename_i some
    have active : engine.activeEvaluators = engine.evaluators := by
      rw [activeEvaluators, if_neg some]
    rw [active] at looked
    have first : found = engine.foundBefore request :=
      found_of_findings looked
    have both : all = engine.foundBefore request ++ evaluator.found request := by
      rw [whole, List.flatMap_append, foundBefore]
      simp
    rw [first] at composed
    rw [both] at recomposed
    exact keeps_iff_not_drops composed recomposed

/-- An evaluator that only remarks on what it sees. -/
def remarking : PolicyEvaluator where
  evaluate := fun _ => .ok
    [{ id := "seen"
       severity := "info"
       source := "remarking"
       message := "the action was seen" }]

theorem remark_keeps_nothing :
    (deskEngine.evaluate refundRequest).map PolicyDecision.effect =
      .ok .deny ∧
    ((deskEngine.registerEvaluator remarking).evaluate refundRequest).map
      PolicyDecision.effect = .ok .allow ∧
    ¬∀ (engine : PolicyEngine) (evaluator : PolicyEvaluator)
      (request : PolicyRequest) (was now : PolicyDecision),
      engine.evaluate request = .ok was →
      (engine.registerEvaluator evaluator).evaluate request = .ok now →
      was.Keeps now := by
  have before : (deskEngine.evaluate refundRequest).map
      PolicyDecision.effect = .ok .deny := by
    decide
  have after : ((deskEngine.registerEvaluator remarking).evaluate
      refundRequest).map PolicyDecision.effect = .ok .allow := by
    decide
  refine ⟨before, after, ?_⟩
  intro kept
  cases was : deskEngine.evaluate refundRequest with
  | error problem =>
      rw [was] at before
      cases before
  | ok denial =>
      cases now : (deskEngine.registerEvaluator remarking).evaluate
          refundRequest with
      | error problem =>
          rw [now] at after
          cases after
      | ok grant =>
          rw [was] at before
          rw [now] at after
          have stricter := (kept _ _ _ _ _ was now).1
          have denied : denial.effect = .deny := Except.ok.inj before
          have allowed : grant.effect = .allow := Except.ok.inj after
          rw [denied, allowed] at stricter
          exact absurd stricter (by decide)

/-- The same evaluator where the built-in ones have no demand. -/
def lookupRequest : PolicyRequest where
  stage := "tool"
  subject := [("kind", .str "agent"), ("role", .str "support")]
  action :=
    [("kind", .str "tool"), ("name", .str "lookup"), ("risk_level", .str "low")]
  resource := [("kind", .str "tool"), ("name", .str "lookup")]
  context := []
  signals := []
  runtimeState := []
  policyVersion := "local-v1"

theorem lookup_keeps_iff :
    ∃ was now, deskEngine.evaluate lookupRequest = .ok was ∧
      (deskEngine.registerEvaluator remarking).evaluate lookupRequest =
        .ok now ∧
      (was.Keeps now ↔ deskEngine.KeepsChecks remarking lookupRequest) := by
  refine ⟨_, _, rfl, rfl, ?_⟩
  exact keeps_iff rfl rfl

end PolicyEngine

end AgentLedger
