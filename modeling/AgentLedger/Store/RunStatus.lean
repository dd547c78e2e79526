import AgentLedger.Store.Specs

namespace AgentLedger

open Foundation

/-! The status of a run against the statuses of its steps.  Each operation
writes the run's status from the one step it touches. -/

namespace Store

variable (store : Store)

def StepsTerminal (runId : String) : Prop :=
  ∀ stepId row, store.step? stepId = some row → row.runId = runId →
    row.status.terminal = true

def OthersTerminal (runId stepId : String) : Prop :=
  ∀ other row, other ≠ stepId → store.step? other = some row →
    row.runId = runId → row.status.terminal = true

/-- A completed run has only terminal steps, and `cancel_run` answers 0 for a
terminal run only if none of its steps is open. -/
def StatusAgrees : Prop :=
  (∀ runId run, store.run? runId = some run → run.status = .completed →
    store.StepsTerminal runId) ∧
  ∀ runId reason moment run, store.run? runId = some run →
    run.status.terminal = true →
    ((Call.cancelRun runId reason).perform moment store).1 = .ok 0 →
    store.StepsTerminal runId

/-- What stops a run finds its other steps ended, and what reopens a step of a
run it does not name finds that run live. -/
structure EndsTogether (stops : Status → Bool) (operation : Call × Moment) :
    Prop where
  commit : stops .completed = true → ∀ args row run,
    operation.1 = .commitStatePatch args →
    store.Accepts operation.2.now args row run →
    store.OthersTerminal args.runId args.stepId
  fail : ∀ runId stepId status error,
    Releases store operation.1 runId stepId status error →
    stops status = true → store.step? stepId ≠ none →
    store.run? runId ≠ none → store.OthersTerminal runId stepId
  reopen : ∀ runId stepId status error row run,
    Releases store operation.1 runId stepId status error →
    status.terminal = false → store.step? stepId = some row →
    row.runId ≠ runId → store.run? row.runId = some run →
    stops run.status = false

/-- A run whose status stops it has only terminal steps. -/
def Settled (stops : Status → Bool) : Prop :=
  ∀ runId run, store.run? runId = some run → stops run.status = true →
    store.StepsTerminal runId

variable {store}

theorem statusAgrees_iff : store.StatusAgrees ↔ store.Settled Status.terminal := by
  constructor
  · intro agrees runId run found ended
    have answered := @perform_cancelRun_terminal store ⟨0, fun _ => "", 0⟩ runId
      "" run found ended
    refine agrees.2 runId "" ⟨0, fun _ => "", 0⟩ run found ended ?_
    simp only [Call.perform, Call.body, answered]
  · intro settled
    refine ⟨fun runId run found completed => ?_, ?_⟩
    · apply settled runId run found
      rw [completed]
      rfl
    · intro runId reason moment run found ended _
      exact settled runId run found ended

theorem settled_empty (stops : Status → Bool) : empty.Settled stops := by
  intro runId run found
  cases found

/-- One operation keeps stopped runs settled if it stops or reopens no run
against its other steps. -/
theorem Settled.next {stops : Status → Bool}
    (ending : ∀ status, stops status = true → status.terminal = true)
    (settled : store.Settled stops) {operation : Call × Moment}
    (together : store.EndsTogether stops operation) :
    (store.next operation).Settled stops := by
  obtain ⟨call, moment⟩ := operation
  intro runId run found ended stepId row present own
  simp only [Store.next] at found present
  have effect := call.effect moment store
  generalize (call.perform moment store).2 = after at effect found present
  cases effect with
  | unchanged runs steps =>
      rw [runs] at found
      rw [steps] at present
      exact settled runId run found ended stepId row present own
  | created newRun newStep freshRun freshStep owned runStatus stepStatus
      unclaimed unleased runs steps =>
      rw [runs, Function.update_apply] at found
      rw [steps, Function.update_apply] at present
      split at found
      case isTrue =>
          cases found
          rw [runStatus] at ended
          cases ending _ ended
      case isFalse different =>
          split at present
          case isTrue =>
              cases present
              exact absurd (own.symm.trans owned) different
          case isFalse =>
              exact settled runId run found ended stepId row present own
  | stepCreated newRun newStep policy foundRun parses named freshStep owned
      stepStatus unclaimed unleased runs steps =>
      rw [runs, runsWith_eq_some] at found
      rw [steps, Function.update_apply] at present
      rcases found with ⟨_, before, _, rfl⟩ | ⟨different, found⟩
      · cases ending _ ended
      · split at present
        case isTrue =>
            cases present
            exact absurd (own.symm.trans owned) different
        case isFalse =>
            exact settled runId run found ended stepId row present own
  | claimed candidate foundStep claimable runs steps =>
      rw [runs, runsWith_eq_some] at found
      rw [steps, stepsWith_eq_some] at present
      rcases found with ⟨_, before, _, rfl⟩ | ⟨different, found⟩
      · cases ending _ ended
      · rcases present with ⟨rfl, before, same, rfl⟩ | ⟨_, present⟩
        · rw [foundStep] at same
          cases same
          exact absurd own.symm different
        · exact settled runId run found ended stepId row present own
  | extended lease holds runs steps =>
      rw [runs] at found
      rw [steps, stepsWith_eq_some] at present
      rcases present with ⟨rfl, before, same, rfl⟩ | ⟨_, present⟩
      · exact settled runId run found ended _ before same own
      · exact settled runId run found ended stepId row present own
  | recovered runs steps =>
      rw [runs, Option.map_eq_some_iff] at found
      rw [steps, Option.map_eq_some_iff] at present
      obtain ⟨earlierRun, foundEarlier, sameRun⟩ := found
      obtain ⟨earlier, foundStep, sameStep⟩ := present
      split at sameRun
      case isTrue =>
          subst sameRun
          cases ending _ ended
      case isFalse unaffected =>
          subst sameRun
          split at sameStep
          case isTrue expired =>
              subst sameStep
              have mine : earlier.runId = runId := own
              refine absurd (List.any_eq_true.mpr ⟨earlier, ?_, ?_⟩) unaffected
              · exact (Table.get?_some foundStep).1
              · simp [expired, mine]
          case isFalse =>
              subst sameStep
              exact settled runId earlierRun foundEarlier ended stepId earlier
                foundStep own
  | cancelled cancelledRun foundRun live runs steps =>
      rw [runs, runsWith_eq_some] at found
      rw [steps, Option.map_eq_some_iff] at present
      obtain ⟨earlier, foundStep, sameStep⟩ := present
      split at sameStep
      case isTrue =>
          subst sameStep
          rfl
      case isFalse kept =>
          subst sameStep
          rcases found with ⟨rfl, before, _, rfl⟩ | ⟨_, found⟩
          · simpa [own] using kept
          · exact settled runId run found ended stepId earlier foundStep own
  | released released releases foundStep runs steps =>
      rename_i named stepNamed status error
      rw [runs, runsWith_eq_some] at found
      rw [steps, stepsWith_eq_some] at present
      rcases present with ⟨rfl, before, same, rfl⟩ | ⟨different, present⟩
      · change status.terminal = true
        rw [foundStep] at same
        cases same
        rcases found with ⟨rfl, earlierRun, _, rfl⟩ | ⟨elsewhere, found⟩
        · exact ending _ ended
        · by_contra reopens
          have live := together.reopen named stepId status error released run
            releases (Bool.not_eq_true _ ▸ reopens) foundStep
            (fun same => elsewhere (own.symm.trans same)) (own ▸ found)
          rw [live] at ended
          cases ended
      · rcases found with ⟨rfl, earlierRun, foundRun, rfl⟩ | ⟨_, found⟩
        · exact together.fail runId stepNamed status error releases ended
            (by simp [foundStep]) (by simp [foundRun]) stepId row different
            present own
        · exact settled runId run found ended stepId row present own
  | committed lease committedRun accepts runs steps =>
      rw [runs, runsWith_eq_some] at found
      rw [steps, stepsWith_eq_some] at present
      rcases present with ⟨rfl, before, same, rfl⟩ | ⟨different, present⟩
      · rfl
      · rcases found with ⟨rfl, before, _, rfl⟩ | ⟨_, found⟩
        · exact together.commit ended _ lease committedRun rfl accepts stepId
            row different present own
        · exact settled runId run found ended stepId row present own
  | patched patchedRun foundRun runs steps =>
      rw [runs, runsWith_eq_some] at found
      rw [steps] at present
      rcases found with ⟨rfl, before, same, rfl⟩ | ⟨_, found⟩
      · rw [foundRun] at same
        cases same
        exact settled _ patchedRun foundRun ended stepId row present own
      · exact settled runId run found ended stepId row present own

/-- An operation that leaves stopped runs settled ended them together. -/
theorem Settled.together {stops : Status → Bool} {operation : Call × Moment}
    (settled : (store.next operation).Settled stops) :
    store.EndsTogether stops operation := by
  obtain ⟨call, moment⟩ := operation
  constructor
  · rintro stopped args row run rfl accepts other step different present own
    obtain ⟨runs, steps⟩ := performed_commitStatePatch accepts
    have completed := (congrFun runs args.runId).trans
      ((store.runsWith_eq_some).mpr (.inl ⟨rfl, run, accepts.found, rfl⟩))
    have kept := (congrFun steps other).trans
      ((store.stepsWith_eq_some).mpr (.inr ⟨different, present⟩))
    exact settled args.runId _ completed stopped other step kept own
  · intro runId stepId status error releases ended stepExists runExists other
      step different present own
    obtain ⟨released, foundStep⟩ := Option.ne_none_iff_exists'.mp stepExists
    obtain ⟨run, foundRun⟩ := Option.ne_none_iff_exists'.mp runExists
    obtain ⟨runs, steps⟩ := @performed_of_releases store moment _ _ _ _ _ _
      releases foundStep
    have endedRun := (congrFun runs runId).trans
      ((store.runsWith_eq_some).mpr (.inl ⟨rfl, run, foundRun, rfl⟩))
    have kept := (congrFun steps other).trans
      ((store.stepsWith_eq_some).mpr (.inr ⟨different, present⟩))
    exact settled runId _ endedRun ended other step kept own
  · intro runId stepId status error row run releases reopens foundStep
      elsewhere foundRun
    obtain ⟨runs, steps⟩ := @performed_of_releases store moment _ _ _ _ _ _
      releases foundStep
    have keptRun := (congrFun runs row.runId).trans
      ((store.runsWith_eq_some).mpr (.inr ⟨elsewhere, foundRun⟩))
    have reopened := (congrFun steps stepId).trans
      ((store.stepsWith_eq_some).mpr (.inl ⟨rfl, row, foundStep, rfl⟩))
    cases ended : stops run.status with
    | false => rfl
    | true =>
        have terminal := settled row.runId run keptRun ended stepId _ reopened
          rfl
        rw [← reopens]
        exact terminal.symm

end Store

/-- In a history of operations the runs agree with their steps throughout
exactly when whatever ends a run finds its other steps ended. -/
theorem statusAgrees_always_iff (operations : List (Call × Moment)) :
    Always Store.next Store.StatusAgrees Store.empty operations ↔
      Each Store.next (Store.EndsTogether · Status.terminal) Store.empty
        operations := by
  have agreed : Store.StatusAgrees = (Store.Settled · Status.terminal) := by
    funext store
    exact propext Store.statusAgrees_iff
  rw [agreed]
  refine always_iff_each (fun _ => True) (fun _ _ _ => trivial) ?_ trivial
    (Store.settled_empty _)
  intro store operation _ settled
  exact ⟨Store.Settled.together, settled.next fun _ ended => ended⟩

/-- A run with a second step, of which the first is claimed and committed. -/
def twoSteps : List (Call × Moment) :=
  [(.createRun none none none, ⟨0, fun kind => kind, 0⟩),
    (.createExternalStep "run" (some "step-2") none, ⟨1, fun kind => kind, 0⟩),
    (.claimStep "worker" none 60, ⟨2, fun kind => kind, 0⟩),
    (.commitStatePatch
      { runId := "run"
        stepId := "step"
        leaseToken := "lease"
        baseVersion := 0
        patch := [] }, ⟨3, fun kind => kind, 0⟩)]

theorem completed_over_pending_step :
    let store := runFrom Store.next Store.empty twoSteps
    (store.run? "run").map RunRow.status = some .completed ∧
      (store.step? "step-2").map StepRow.status = some .pending ∧
      ((Call.cancelRun "run" "stop").perform ⟨4, fun kind => kind, 0⟩ store).1 =
        .ok 0 ∧
      ¬ store.StatusAgrees := by
  have completed : (((runFrom Store.next Store.empty twoSteps).run?
      "run").map RunRow.status) = some .completed := by decide
  have pending : (((runFrom Store.next Store.empty twoSteps).step?
      "step-2").map fun row => (row.runId, row.status)) =
        some ("run", .pending) := by decide
  refine ⟨completed, ?_, by decide, fun agrees => ?_⟩
  · decide
  · obtain ⟨run, found, status⟩ := Option.map_eq_some_iff.mp completed
    obtain ⟨row, present, shape⟩ := Option.map_eq_some_iff.mp pending
    obtain ⟨own, live⟩ := Prod.mk.inj shape
    have ended := agrees.1 "run" run found status "step-2" row present own
    rw [live] at ended
    cases ended

end AgentLedger
