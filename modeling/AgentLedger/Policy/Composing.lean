import AgentLedger.Policy.Decisions
import Mathlib.Data.List.Perm.Subperm

namespace AgentLedger

open Foundation

/-! `DecisionComposer`: what a decision owes to the set of the findings alone,
and how it grows with them. -/

/-- The place of a tier among the tiers. -/
def tierRank (tier : String) : Nat := actionTiers.idxOf tier

/-- One of the findings suggests a tier of rank `rank` or above. -/
def Suggest (rank : Nat) (findings : List PolicyFinding) : Prop :=
  ∃ finding ∈ findings, ∃ tier ∈ actionTiers,
    Fields.get? finding.evidence "action_tier" = some (.str tier) ∧
      rank ≤ tierRank tier

/-- The controls that each finding lists can be iterated over. -/
def Iterable (findings : List PolicyFinding) : Prop :=
  ∀ finding ∈ findings, ∃ kinds, finding.controlKinds = .ok kinds

section Findings

variable {level : PolicyEffect} {kind : String} {rank : Nat}
  {finding : PolicyFinding} {findings others : List PolicyFinding}

@[simp]
theorem not_suggest_nil : ¬Suggest rank [] := by
  simp [Suggest]

@[simp]
theorem suggest_cons :
    Suggest rank (finding :: findings) ↔
      (∃ tier ∈ actionTiers,
        Fields.get? finding.evidence "action_tier" = some (.str tier) ∧
          rank ≤ tierRank tier) ∨ Suggest rank findings := by
  simp [Suggest]

theorem Reach.subset (included : findings ⊆ others)
    (reaches : Reach level findings) : Reach level others := by
  obtain ⟨finding, found, strict⟩ := reaches
  exact ⟨finding, included found, strict⟩

theorem Name.subset (included : findings ⊆ others)
    (names : Name kind findings) : Name kind others := by
  obtain ⟨finding, found, own⟩ := names
  exact ⟨finding, included found, own⟩

theorem Suggest.subset (included : findings ⊆ others)
    (suggests : Suggest rank findings) : Suggest rank others := by
  obtain ⟨finding, found, own⟩ := suggests
  exact ⟨finding, included found, own⟩

theorem Iterable.subset (included : findings ⊆ others)
    (iterable : Iterable others) : Iterable findings :=
  fun finding found => iterable finding (included found)

theorem reach_deny :
    Reach .deny findings ↔ ∃ finding ∈ findings, finding.denies = true := by
  unfold Reach
  apply exists_congr
  intro finding
  apply and_congr_right
  intro _
  simp only [PolicyEffect.deny_le, PolicyFinding.effect]
  cases finding.denies <;> cases finding.asks <;> decide

end Findings

/-! ### Tiers -/

/-- The greater of two tiers; what is no tier does not count. -/
theorem maxActionTier_spec {left right : String}
    (known : left ∈ actionTiers) :
    maxActionTier left right ∈ actionTiers ∧
      ∀ rank, rank ≤ tierRank (maxActionTier left right) ↔
        rank ≤ tierRank left ∨
          right ∈ actionTiers ∧ rank ≤ tierRank right := by
  unfold maxActionTier
  by_cases suggested : right ∈ actionTiers
  · rw [if_pos ⟨known, suggested⟩]
    split
    · rename_i above
      refine ⟨known, fun rank => ⟨.inl, ?_⟩⟩
      rintro (own | ⟨_, other⟩)
      · exact own
      · exact le_trans other above
    · rename_i below
      refine ⟨suggested, fun rank => ⟨fun other => .inr ⟨suggested, other⟩, ?_⟩⟩
      rintro (own | ⟨_, other⟩)
      · exact le_trans own (le_of_lt (not_le.mp below))
      · exact other
  · rw [if_neg fun both => suggested both.2]
    refine ⟨known, fun rank => ⟨.inl, ?_⟩⟩
    rintro (own | ⟨impossible, _⟩)
    · exact own
    · exact absurd impossible suggested

namespace Composition

variable {findings : List PolicyFinding} {finding : PolicyFinding}
  {start next final : Composition}

theorem consider_tier (known : start.actionTier ∈ actionTiers)
    (considered : start.consider finding = .ok next) :
    next.actionTier ∈ actionTiers ∧
      ∀ rank, rank ≤ tierRank next.actionTier ↔
        rank ≤ tierRank start.actionTier ∨ Suggest rank [finding] := by
  unfold consider at considered
  cases named : finding.controlKinds with
  | error problem =>
      rw [named] at considered
      cases considered
  | ok kinds =>
      rw [named] at considered
      cases considered
      simp only [suggest_cons, not_suggest_nil, or_false]
      split
      · rename_i suggested held
        have greater := @maxActionTier_spec _ suggested known
        refine ⟨greater.1, fun rank => ?_⟩
        rw [greater.2 rank, held]
        simp
      · rename_i other
        refine ⟨known, fun rank => ⟨.inl, ?_⟩⟩
        rintro (own | ⟨tier, _, held, _⟩)
        · exact own
        · exact absurd held (other tier)

theorem considerAll_tier (known : start.actionTier ∈ actionTiers)
    (considered : considerAll findings start = .ok final) :
    final.actionTier ∈ actionTiers ∧
      ∀ rank, rank ≤ tierRank final.actionTier ↔
        rank ≤ tierRank start.actionTier ∨ Suggest rank findings := by
  induction findings generalizing start with
  | nil =>
      cases considered
      exact ⟨known, by simp⟩
  | cons finding rest ih =>
      unfold considerAll at considered
      cases one : start.consider finding with
      | error problem =>
          rw [one] at considered
          cases considered
      | ok next =>
          rw [one] at considered
          obtain ⟨nextKnown, first⟩ := consider_tier known one
          obtain ⟨finalKnown, others⟩ := ih nextKnown considered
          refine ⟨finalKnown, fun rank => ?_⟩
          rw [others rank, first rank, suggest_cons, suggest_cons, or_assoc]
          simp

theorem considerAll_ok_iff :
    (∃ final, considerAll findings start = .ok final) ↔
      Iterable findings := by
  constructor
  · rintro ⟨final, considered⟩
    induction findings generalizing start with
    | nil => simp [Iterable]
    | cons finding rest ih =>
        unfold considerAll consider at considered
        cases named : finding.controlKinds with
        | error problem =>
            rw [named] at considered
            cases considered
        | ok kinds =>
            rw [named] at considered
            intro each found
            rcases List.mem_cons.mp found with rfl | later
            · exact ⟨kinds, named⟩
            · exact ih considered each later
  · exact considerAll_total

end Composition

namespace PolicyEngine

variable {engine : PolicyEngine} {request : PolicyRequest}
  {findings others : List PolicyFinding} {decision : PolicyDecision}
  {version kind : String}

theorem inferActionTier_known :
    engine.inferActionTier request ∈ actionTiers := by
  unfold inferActionTier
  extract_lets explicit
  split
  · rename_i tier chosen
    rw [Option.filter_eq_some_iff] at chosen
    exact of_decide_eq_true chosen.2
  · split_ifs <;> decide

theorem compose_ok_iff :
    (∃ decision, engine.compose request findings version = .ok decision) ↔
      Iterable findings := by
  rw [← Composition.considerAll_ok_iff]
  unfold compose
  cases considered : (engine.begun request).considerAll findings with
  | error problem =>
      constructor <;> rintro ⟨_, impossible⟩ <;> cases impossible
  | ok final => exact ⟨fun _ => ⟨final, rfl⟩, fun _ => ⟨_, rfl⟩⟩

theorem compose_tier (composed : engine.compose request findings version =
      .ok decision) :
    decision.actionTier ∈ actionTiers ∧
      ∀ rank, rank ≤ tierRank decision.actionTier ↔
        rank ≤ tierRank (engine.inferActionTier request) ∨
          Suggest rank findings := by
  unfold compose at composed
  cases considered : (engine.begun request).considerAll findings with
  | error problem =>
      rw [considered] at composed
      cases composed
  | ok final =>
      rw [considered] at composed
      cases composed
      exact Composition.considerAll_tier inferActionTier_known considered

/-- The findings as a set decide on the effect, the tier and the controls, and
more of them give no less, but for the control that an approval stands for. -/
theorem compose_grows {stricter : PolicyDecision} (included : findings ⊆ others)
    (composed : engine.compose request findings version = .ok decision)
    (composedOthers : engine.compose request others version = .ok stricter) :
    decision.effect ≤ stricter.effect ∧
      tierRank decision.actionTier ≤ tierRank stricter.actionTier ∧
      ∀ kind, decision.requiresControl kind = true →
        stricter.requiresControl kind = true ∨
          kind = "approval" ∧ decision.effect = .requireApproval ∧
            stricter.effect = .deny := by
  obtain ⟨reach, controls⟩ := compose_ok composed
  obtain ⟨reachOthers, controlsOthers⟩ := compose_ok composedOthers
  have tiers := (compose_tier composed).2 (tierRank decision.actionTier)
  have tiersOthers :=
    (compose_tier composedOthers).2 (tierRank decision.actionTier)
  have effects : decision.effect ≤ stricter.effect :=
    (reachOthers _).mpr (((reach _).mp (le_refl _)).imp_right
      (Reach.subset included))
  refine ⟨effects, ?_, fun kind required => ?_⟩
  · rw [tiersOthers]
    exact (tiers.mp (le_refl _)).imp_right (Suggest.subset included)
  · rw [controlsOthers]
    rcases (controls kind).mp required with
      audit | named | ⟨rfl, denied⟩ | ⟨rfl, asked⟩
    · exact .inl (.inl audit)
    · exact .inl (.inr (.inl (named.subset included)))
    · rw [denied, PolicyEffect.deny_le] at effects
      exact .inl (.inr (.inr (.inl ⟨rfl, effects⟩)))
    · cases reached : stricter.effect with
      | deny => exact .inr ⟨rfl, asked, rfl⟩
      | requireApproval => exact .inl (.inr (.inr (.inr ⟨rfl, rfl⟩)))
      | allow =>
          rw [asked, reached] at effects
          exact absurd effects (by decide)

end PolicyEngine

/-- The same effect, tier and kinds of control. -/
structure SameVerdict (left right : PolicyDecision) : Prop where
  effect : left.effect = right.effect
  actionTier : left.actionTier = right.actionTier
  controls : ∀ kind, left.requiresControl kind = right.requiresControl kind

/-- No lower effect or tier, and the same controls at least: only the approval
that the effect itself asked for gives way, where the action is denied. -/
structure NoLaxer (findings : List PolicyFinding)
    (left right : PolicyDecision) : Prop where
  effect : left.effect ≤ right.effect
  actionTier : tierRank left.actionTier ≤ tierRank right.actionTier
  controls : ∀ kind, left.requiresControl kind = true ∧
    right.requiresControl kind = false ↔
      kind = "approval" ∧ left.effect = .requireApproval ∧
        right.effect = .deny ∧ ¬Name "approval" findings

namespace PolicyEngine

variable {engine : PolicyEngine} {request : PolicyRequest}
  {findings others : List PolicyFinding} {decision : PolicyDecision}
  {version : String}

theorem sameVerdict {other : PolicyDecision} (included : findings ⊆ others)
    (including : others ⊆ findings)
    (composed : engine.compose request findings version = .ok decision)
    (composedOthers : engine.compose request others version = .ok other) :
    SameVerdict decision other := by
  have grows := compose_grows included composed composedOthers
  have shrinks := compose_grows including composedOthers composed
  have effects := le_antisymm grows.1 shrinks.1
  have ranks := le_antisymm grows.2.1 shrinks.2.1
  refine ⟨effects, ?_, fun kind => ?_⟩
  · exact (List.idxOf_inj (compose_tier composed).1).mp ranks
  · apply Bool.eq_iff_iff.mpr
    constructor
    · intro required
      rcases grows.2.2 kind required with kept | ⟨_, asked, denied⟩
      · exact kept
      · rw [asked, denied] at effects
        cases effects
    · intro required
      rcases shrinks.2.2 kind required with kept | ⟨_, asked, denied⟩
      · exact kept
      · rw [asked, denied] at effects
        cases effects

theorem noLaxer {stricter : PolicyDecision} (included : findings ⊆ others)
    (composed : engine.compose request findings version = .ok decision)
    (composedOthers : engine.compose request others version = .ok stricter) :
    NoLaxer others decision stricter := by
  obtain ⟨effects, tiers, controls⟩ :=
    compose_grows included composed composedOthers
  have kinds := (compose_ok composed).2
  have kindsOthers := (compose_ok composedOthers).2
  refine ⟨effects, tiers, fun kind => ⟨?_, ?_⟩⟩
  · rintro ⟨required, dropped⟩
    rcases controls kind required with kept | ⟨rfl, asked, denied⟩
    · rw [kept] at dropped
      cases dropped
    · refine ⟨rfl, asked, denied, fun named => ?_⟩
      rw [(kindsOthers "approval").mpr (.inr (.inl named))] at dropped
      cases dropped
  · rintro ⟨rfl, asked, denied, unnamed⟩
    refine ⟨(kinds _).mpr (.inr (.inr (.inr ⟨rfl, asked⟩))), ?_⟩
    rw [Bool.eq_false_iff, Ne, kindsOthers, denied]
    simp [unnamed]

end PolicyEngine

/-- The composer does not look at the order of the findings, gives no laxer a
decision for more of them, and denies exactly where one of them does. -/
theorem compose_orderless_monotone (engine : PolicyEngine)
    (request : PolicyRequest) (version : String)
    (findings others : List PolicyFinding) :
    (findings.Perm others → ∀ decision,
      engine.compose request findings version = .ok decision →
        ∃ other, engine.compose request others version = .ok other ∧
          SameVerdict decision other) ∧
    (findings.Subperm others → ∀ stricter,
      engine.compose request others version = .ok stricter →
        ∃ decision, engine.compose request findings version = .ok decision ∧
          NoLaxer others decision stricter) ∧
    (∀ decision, engine.compose request findings version = .ok decision →
      (decision.effect = .deny ↔ ∃ finding ∈ findings,
        Fields.get? finding.evidence "decision_effect" =
          some (.str "deny"))) := by
  refine ⟨fun permuted decision composed => ?_,
    fun included stricter composed => ?_, fun decision composed => ?_⟩
  · have iterable := PolicyEngine.compose_ok_iff.mp ⟨decision, composed⟩
    obtain ⟨other, composedOthers⟩ :=
      PolicyEngine.compose_ok_iff.mpr (iterable.subset permuted.symm.subset)
    exact ⟨other, composedOthers, PolicyEngine.sameVerdict permuted.subset
      permuted.symm.subset composed composedOthers⟩
  · have iterable := PolicyEngine.compose_ok_iff.mp ⟨stricter, composed⟩
    obtain ⟨decision, composedFewer⟩ :=
      PolicyEngine.compose_ok_iff.mpr (iterable.subset included.subset)
    exact ⟨decision, composedFewer,
      PolicyEngine.noLaxer included.subset composedFewer composed⟩
  · have reach := (PolicyEngine.compose_ok composed).1 .deny
    rw [PolicyEffect.deny_le, reach_deny] at reach
    simpa [PolicyFinding.denies] using reach

def askingFinding : PolicyFinding :=
  { id := "review"
    severity := "warning"
    source := "desk"
    message := "a person has to look at this"
    evidence := [("decision_effect", .str "require_approval")] }

def denyingFinding : PolicyFinding :=
  { id := "fraud"
    severity := "critical"
    source := "desk"
    message := "the account is closed"
    evidence := [("decision_effect", .str "deny")] }

/-- With the second finding the approval is no longer required. -/
theorem denial_drops_approval :
    ∃ decision stricter,
      PolicyEngine.deskEngine.compose PolicyEngine.refundRequest
          [askingFinding] "v1" = .ok decision ∧
        PolicyEngine.deskEngine.compose PolicyEngine.refundRequest
            [askingFinding, denyingFinding] "v1" = .ok stricter ∧
          decision.requiresControl "approval" = true ∧
            stricter.requiresControl "approval" = false :=
  ⟨_, _, rfl, rfl, by decide, by decide⟩

end AgentLedger
