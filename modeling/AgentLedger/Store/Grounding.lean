import AgentLedger.Store.Specs

namespace AgentLedger

open Foundation

/-! Runs stay, steps stay with their runs, and what a SELECT of the steps that
can be claimed says of them. -/

namespace Store

/-- Runs have names, and steps have runs. -/
structure Grounded (store : Store) : Prop where
  named : store.run? "" = none
  parents : ∀ stepId row, store.step? stepId = some row →
    store.run? row.runId ≠ none

variable {store : Store}

theorem grounded_empty : empty.Grounded :=
  ⟨rfl, fun stepId row found => by cases found⟩

theorem SameRows.run? {after : Store} (same : store.SameRows after) :
    after.run? = store.run? := by
  funext runId
  simp only [Store.run?, same.1]

theorem SameRows.step? {after : Store} (same : store.SameRows after) :
    after.step? = store.step? := by
  funext stepId
  simp only [Store.step?, same.2]

theorem runsWith_eq_none {runId other : String} {change : RunRow → RunRow} :
    store.runsWith runId change other = none ↔ store.run? other = none := by
  unfold runsWith
  split
  · exact Option.map_eq_none_iff
  · exact Iff.rfl

/-- No operation removes a run. -/
theorem run?_perform (call : Call) (moment : Moment) {runId : String}
    (present : store.run? runId ≠ none) :
    (call.perform moment store).2.run? runId ≠ none := by
  have effect := call.effect moment store
  generalize (call.perform moment store).2 = after at effect
  cases effect with
  | unchanged runs steps =>
      rw [runs]
      exact present
  | created run step freshRun freshStep own runStatus stepStatus unclaimed
      unleased runs steps =>
      rw [runs, Function.update_apply]
      split
      · exact Option.some_ne_none _
      · exact present
  | extended row holds runs steps =>
      rw [runs]
      exact present
  | recovered runs steps =>
      rw [runs]
      exact fun missing => present (Option.map_eq_none_iff.mp missing)
  | stepCreated run step policy found parses named freshStep own stepStatus
      unclaimed unleased runs steps =>
      rw [runs, ne_eq, runsWith_eq_none]
      exact present
  | claimed row found claimable runs steps =>
      rw [runs, ne_eq, runsWith_eq_none]
      exact present
  | cancelled run found live runs steps =>
      rw [runs, ne_eq, runsWith_eq_none]
      exact present
  | released row releases found runs steps =>
      rw [runs, ne_eq, runsWith_eq_none]
      exact present
  | committed row run accepts runs steps =>
      rw [runs, ne_eq, runsWith_eq_none]
      exact present
  | patched run found runs steps =>
      rw [runs, ne_eq, runsWith_eq_none]
      exact present

/-- A step is one there was, of the same run, or is of a run that is there. -/
theorem step?_perform (call : Call) (moment : Moment) {stepId : String}
    {row : StepRow}
    (found : (call.perform moment store).2.step? stepId = some row) :
    (∃ before, store.step? stepId = some before ∧
      before.runId = row.runId) ∨
    (call.perform moment store).2.run? row.runId ≠ none := by
  have effect := call.effect moment store
  generalize (call.perform moment store).2 = after at effect found
  have changed {named : String} {change : StepRow → StepRow}
      (steps : after.step? = store.stepsWith named change)
      (keeps : ∀ row, (change row).runId = row.runId) :
      ∃ before, store.step? stepId = some before ∧
        before.runId = row.runId := by
    rw [steps, stepsWith_eq_some] at found
    rcases found with ⟨_, before, earlier, rfl⟩ | ⟨_, earlier⟩
    · exact ⟨before, earlier, (keeps before).symm⟩
    · exact ⟨row, earlier, rfl⟩
  cases effect with
  | unchanged runs steps =>
      rw [steps] at found
      exact .inl ⟨row, found, rfl⟩
  | created run step freshRun freshStep own runStatus stepStatus unclaimed
      unleased runs steps =>
      rw [steps, Function.update_apply] at found
      split at found
      · cases found
        rw [runs, own, Function.update_self]
        exact .inr (Option.some_ne_none _)
      · exact .inl ⟨row, found, rfl⟩
  | stepCreated run step policy foundRun parses named freshStep own stepStatus
      unclaimed unleased runs steps =>
      rw [steps, Function.update_apply] at found
      split at found
      · cases found
        rw [runs, own, ne_eq, runsWith_eq_none, foundRun]
        exact .inr (Option.some_ne_none _)
      · exact .inl ⟨row, found, rfl⟩
  | claimed candidate foundStep claimable runs steps =>
      exact .inl (changed steps fun _ => rfl)
  | extended lease holds runs steps =>
      exact .inl (changed steps fun _ => rfl)
  | released released releases foundStep runs steps =>
      exact .inl (changed steps fun _ => rfl)
  | committed lease run accepts runs steps =>
      exact .inl (changed steps fun _ => rfl)
  | recovered runs steps =>
      rw [steps, Option.map_eq_some_iff] at found
      obtain ⟨before, earlier, rfl⟩ := found
      refine .inl ⟨before, earlier, ?_⟩
      split <;> rfl
  | cancelled run foundRun live runs steps =>
      rw [steps, Option.map_eq_some_iff] at found
      obtain ⟨before, earlier, rfl⟩ := found
      refine .inl ⟨before, earlier, ?_⟩
      split <;> rfl
  | patched run foundRun runs steps =>
      rw [steps] at found
      exact .inl ⟨row, found, rfl⟩

theorem Grounded.perform (grounded : store.Grounded) (call : Call)
    {moment : Moment} (named : moment.id "run" ≠ "") :
    (call.perform moment store).2.Grounded := by
  constructor
  · have effect := call.effect moment store
    generalize result : (call.perform moment store).2 = after at effect ⊢
    have kept {runId : String} {change : RunRow → RunRow}
        (runs : after.run? = store.runsWith runId change) :
        after.run? "" = none := by
      rw [runs, runsWith_eq_none]
      exact grounded.named
    cases effect with
    | unchanged runs steps =>
        rw [runs]
        exact grounded.named
    | created run step freshRun freshStep own runStatus stepStatus unclaimed
        unleased runs steps =>
        rename_i sessionId initialState retryPolicy
        rcases @performed_createRun store moment sessionId initialState
          retryPolicy with ⟨error, raised⟩ | ⟨policy, _, _, _, inserted, _⟩
        · rw [raised] at result
          rw [← result]
          exact grounded.named
        · rw [← result, inserted, Function.update_of_ne named.symm]
          exact grounded.named
    | extended row holds runs steps =>
        rw [runs]
        exact grounded.named
    | recovered runs steps =>
        rw [runs, grounded.named]
        rfl
    | stepCreated _ _ _ _ _ _ _ _ _ _ _ runs _ => exact kept runs
    | claimed _ _ _ runs _ => exact kept runs
    | cancelled _ _ _ runs _ => exact kept runs
    | released _ _ _ runs _ => exact kept runs
    | committed _ _ _ runs _ => exact kept runs
    | patched _ _ runs _ => exact kept runs
  · intro stepId row found
    rcases step?_perform call moment found with ⟨before, earlier, same⟩ |
      present
    · rw [← same]
      exact run?_perform call moment (grounded.parents stepId before earlier)
    · exact present

theorem Grounded.history (grounded : store.Grounded)
    {operations : List (Call × Moment)}
    (named : ∀ operation ∈ operations, operation.2.id "run" ≠ "") :
    (runFrom next store operations).Grounded := by
  induction operations generalizing store with
  | nil => exact grounded
  | cons operation rest ih =>
      apply ih
      · exact grounded.perform operation.1
          (named operation List.mem_cons_self)
      · intro other member
        exact named other (List.mem_cons_of_mem _ member)

/-! ### Rows that can be claimed -/

theorem claimable_eq_none {runId : String} {tie : Nat} :
    store.query (.claimable (some runId) tie) = none ↔
      ∀ stepId row, store.step? stepId = some row → row.runId = runId →
        row.status.claimable = false := by
  simp only [query, firstBy_eq_none, claimableSteps,
    List.filter_eq_nil_iff, Option.all_some, Bool.and_eq_true,
    decide_eq_true_eq, not_and]
  constructor
  · intro none_ stepId row found own
    cases claimable : row.status.claimable with
    | false => rfl
    | true => exact absurd own (none_ row (Table.get?_some found).1 claimable)
  · intro none_ row member claimable own
    have unclaimable := none_ row.stepId row
      (Table.get?_eq_some_iff.mpr ⟨member, rfl⟩) own
    rw [claimable] at unclaimable
    cases unclaimable

end Store

end AgentLedger
