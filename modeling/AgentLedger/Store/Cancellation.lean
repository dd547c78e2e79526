import AgentLedger.Store.RunStatus

namespace AgentLedger

open Foundation

/-! Whether a cancelled run stays cancelled, under every later operation. -/

namespace Store

variable (store : Store)

def Cancelled (runId : String) : Prop :=
  ∃ run, store.run? runId = some run ∧ run.status = .cancelled

instance (runId : String) : Decidable (store.Cancelled runId) :=
  decidable_of_iff ((store.run? runId).map RunRow.status = some .cancelled)
    Option.map_eq_some_iff

/-- One operation leaves the cancellation of a run final. -/
structure LeavesCancelled (runId : String) (operation : Call × Moment) :
    Prop where
  status : (store.next operation).Cancelled runId
  unclaimed : ∀ workerId wanted leaseSeconds claim,
    operation.1 = .claimStep workerId wanted leaseSeconds →
    ((Call.claimStep workerId wanted leaseSeconds).perform operation.2
      store).1 = .ok (some claim) → claim.runId ≠ runId
  steps : ∀ stepId row, store.step? stepId = some row → row.runId = runId →
    row.status.terminal = true → ∃ later,
      (store.next operation).step? stepId = some later ∧
        later.status = row.status
  uncommitted : ∀ args version, operation.1 = .commitStatePatch args →
    args.runId = runId →
    ((Call.commitStatePatch args).perform operation.2 store).1 ≠ .ok version

def CancellationFinal (operation : Call × Moment) : Prop :=
  ∀ runId, store.Cancelled runId → store.LeavesCancelled runId operation

/-- The operations that write a status without reading the run's name no
cancelled run. -/
structure SparesCancelled (operation : Call × Moment) : Prop where
  release : ∀ runId stepId status error row,
    Releases store operation.1 runId stepId status error →
    store.step? stepId = some row →
    ¬ store.Cancelled runId ∧
      (store.Cancelled row.runId → row.status = status)
  add : ∀ runId stepId retryPolicy policy,
    operation.1 = .createExternalStep runId stepId retryPolicy →
    RetryPolicy.fromDict retryPolicy = .ok policy →
    store.step? (operation.2.given stepId "step") = none →
    ¬ store.Cancelled runId
  commit : ∀ args row run, operation.1 = .commitStatePatch args →
    store.Accepts operation.2.now args row run →
    ¬ store.Cancelled args.runId

def isCancelled (status : Status) : Bool := decide (status = .cancelled)

variable {store}

theorem Settled.ended (settled : store.Settled isCancelled) {runId : String}
    (cancelled : store.Cancelled runId) : store.StepsTerminal runId := by
  obtain ⟨run, found, status⟩ := cancelled
  exact settled runId run found (decide_eq_true status)

private theorem claimable_not_terminal {status : Status}
    (claimable : status.claimable = true) : status.terminal = false := by
  cases status <;> first | rfl | cases claimable

theorem releases_not_cancelled {call : Call} {runId stepId : String}
    {status : Status} {error : Option (String × String)}
    (releases : Releases store call runId stepId status error) :
    status ≠ .cancelled := by
  cases releases <;> decide

theorem stays_of_spares (settled : store.Settled isCancelled)
    {operation : Call × Moment} (spares : store.SparesCancelled operation)
    {runId : String} (cancelled : store.Cancelled runId) :
    (store.next operation).Cancelled runId := by
  obtain ⟨call, moment⟩ := operation
  have terminal := settled.ended cancelled
  obtain ⟨run, found, status⟩ := id cancelled
  simp only [Cancelled, Store.next]
  have effect := call.effect moment store
  generalize (call.perform moment store).2 = after at effect
  cases effect with
  | unchanged runs steps => exact ⟨run, by rw [runs, found], status⟩
  | created newRun newStep freshRun freshStep owned runStatus stepStatus
      unclaimed unleased runs steps =>
      refine ⟨run, ?_, status⟩
      rw [runs, Function.update_of_ne _ _ _, found]
      intro same
      rw [← same, found] at freshRun
      cases freshRun
  | stepCreated newRun newStep policy foundRun parses named freshStep owned
      stepStatus unclaimed unleased runs steps =>
      rename_i chosen stepId retryPolicy
      have spared := spares.add chosen stepId retryPolicy policy rfl parses
        (named ▸ freshStep)
      refine ⟨run, ?_, status⟩
      rw [runs, runsWith_eq_some]
      exact .inr ⟨fun same => spared (same ▸ cancelled), found⟩
  | claimed candidate foundStep claimable runs steps =>
      refine ⟨run, ?_, status⟩
      rw [runs, runsWith_eq_some]
      refine .inr ⟨fun same => ?_, found⟩
      have ended := terminal _ candidate foundStep same.symm
      rw [claimable_not_terminal claimable] at ended
      cases ended
  | extended lease holds runs steps => exact ⟨run, by rw [runs, found], status⟩
  | recovered runs steps =>
      refine ⟨run, ?_, status⟩
      rw [runs, found, Option.map_some, if_neg]
      intro expired
      obtain ⟨row, member, chosen⟩ := List.any_eq_true.mp expired
      simp only [Bool.and_eq_true, leaseExpired, decide_eq_true_eq] at chosen
      have ended := terminal row.stepId row
        (Table.get?_eq_some_iff.mpr ⟨member, rfl⟩) chosen.2
      rw [chosen.1.1] at ended
      cases ended
  | cancelled cancelledRun foundRun live runs steps =>
      refine ⟨run, ?_, status⟩
      rw [runs, runsWith_eq_some]
      refine .inr ⟨fun same => ?_, found⟩
      rw [← same, found] at foundRun
      cases foundRun
      rw [status] at live
      cases live
  | released row releases foundStep runs steps =>
      have spared := (spares.release _ _ _ _ row releases foundStep).1
      refine ⟨run, ?_, status⟩
      rw [runs, runsWith_eq_some]
      exact .inr ⟨fun same => spared (same ▸ cancelled), found⟩
  | committed row committedRun accepts runs steps =>
      have spared := spares.commit _ row committedRun rfl accepts
      refine ⟨run, ?_, status⟩
      rw [runs, runsWith_eq_some]
      exact .inr ⟨fun same => spared (same ▸ cancelled), found⟩
  | patched patchedRun foundRun runs steps =>
      rename_i chosen reason patch
      by_cases same : runId = chosen
      · subst same
        have changed := (congrFun runs runId).trans
          ((store.runsWith_eq_some).mpr (.inl ⟨rfl, run, found, rfl⟩))
        exact ⟨_, changed, status⟩
      · refine ⟨run, ?_, status⟩
        rw [runs, runsWith_eq_some]
        exact .inr ⟨same, found⟩

/-- A terminal step of a cancelled run keeps its status. -/
theorem steps_of_spares (settled : store.Settled isCancelled)
    {operation : Call × Moment} (spares : store.SparesCancelled operation)
    {runId stepId : String} (cancelled : store.Cancelled runId) {row : StepRow}
    (present : store.step? stepId = some row) (own : row.runId = runId) :
    ∃ later, (store.next operation).step? stepId = some later ∧
      later.status = row.status := by
  obtain ⟨call, moment⟩ := operation
  have terminal := settled.ended cancelled stepId row present own
  have idle {change : StepRow → StepRow} {other : String}
      (elsewhere : stepId ≠ other) :
      store.stepsWith other change stepId = some row :=
    (store.stepsWith_eq_some).mpr (.inr ⟨elsewhere, present⟩)
  simp only [Store.next]
  have effect := call.effect moment store
  generalize (call.perform moment store).2 = after at effect
  cases effect with
  | unchanged runs steps => exact ⟨row, by rw [steps, present], rfl⟩
  | created newRun newStep freshRun freshStep owned runStatus stepStatus
      unclaimed unleased runs steps =>
      refine ⟨row, ?_, rfl⟩
      rw [steps, Function.update_of_ne _ _ _, present]
      intro same
      rw [← same, present] at freshStep
      cases freshStep
  | stepCreated newRun newStep policy foundRun parses named freshStep owned
      stepStatus unclaimed unleased runs steps =>
      refine ⟨row, ?_, rfl⟩
      rw [steps, Function.update_of_ne _ _ _, present]
      intro same
      rw [← same, present] at freshStep
      cases freshStep
  | claimed candidate foundStep claimable runs steps =>
      refine ⟨row, ?_, rfl⟩
      rw [steps]
      refine idle fun same => ?_
      rw [← same, present] at foundStep
      cases foundStep
      rw [claimable_not_terminal claimable] at terminal
      cases terminal
  | extended lease holds runs steps =>
      refine ⟨row, ?_, rfl⟩
      rw [steps]
      refine idle fun same => ?_
      have running := holds.running
      have found := holds.found
      rw [← same, present] at found
      cases found
      rw [running] at terminal
      cases terminal
  | recovered runs steps =>
      refine ⟨row, ?_, rfl⟩
      rw [steps, present, Option.map_some, if_neg]
      intro expired
      simp only [Bool.and_eq_true, leaseExpired, decide_eq_true_eq] at expired
      rw [expired.1] at terminal
      cases terminal
  | cancelled cancelledRun foundRun live runs steps =>
      refine ⟨row, ?_, rfl⟩
      rw [steps, present, Option.map_some, if_neg]
      simp [terminal]
  | released other releases foundStep runs steps =>
      rename_i named chosen status error
      by_cases same : stepId = chosen
      · subst same
        have changed := (congrFun steps stepId).trans
          ((store.stepsWith_eq_some).mpr (.inl ⟨rfl, row, present, rfl⟩))
        have spared := (spares.release _ _ _ _ row releases present).2
        exact ⟨_, changed, (spared (own ▸ cancelled)).symm⟩
      · refine ⟨row, ?_, rfl⟩
        rw [steps]
        exact idle same
  | committed lease committedRun accepts runs steps =>
      refine ⟨row, ?_, rfl⟩
      rw [steps]
      refine idle fun same => ?_
      have running := accepts.holds.running
      have found := accepts.holds.found
      rw [← same, present] at found
      cases found
      rw [running] at terminal
      cases terminal
  | patched patchedRun foundRun runs steps =>
      exact ⟨row, by rw [steps, present], rfl⟩

theorem leavesCancelled_of_spares (settled : store.Settled isCancelled)
    {operation : Call × Moment} (spares : store.SparesCancelled operation) :
    store.CancellationFinal operation := by
  intro runId cancelled
  refine ⟨stays_of_spares settled spares cancelled, ?_, ?_, ?_⟩
  · intro workerId wanted leaseSeconds claim _ returned same
    obtain ⟨row, found, claimable, rfl, _⟩ := returned_claimStep returned
    have terminal := settled.ended cancelled row.stepId row found same
    rw [claimable_not_terminal claimable] at terminal
    cases terminal
  · intro stepId row present own _
    exact steps_of_spares settled spares cancelled present own
  · intro args version called same committed
    by_cases accepted : ∃ row run,
        store.Accepts operation.2.now args row run
    · obtain ⟨row, run, accepts⟩ := accepted
      exact spares.commit args row run called accepts (same ▸ cancelled)
    · simp only [not_exists] at accepted
      obtain ⟨error, _, raised⟩ := perform_commitStatePatch_refused accepted
      simp only [Call.perform, Call.body, raised] at committed
      cases committed

/-- An operation that leaves every cancellation final spares the cancelled
runs. -/
theorem spares_of_final (settled : store.Settled isCancelled)
    {operation : Call × Moment}
    (final : store.CancellationFinal operation) :
    store.SparesCancelled operation := by
  constructor
  · intro runId stepId status error row releases found
    obtain ⟨runs, steps⟩ := @performed_of_releases store operation.2 _ _ _ _ _
      _ releases found
    constructor
    · rintro ⟨run, foundRun, cancelled⟩
      obtain ⟨later, foundLater, stays⟩ :=
        (final runId ⟨run, foundRun, cancelled⟩).status
      have changed := (congrFun runs runId).trans
        ((store.runsWith_eq_some).mpr (.inl ⟨rfl, run, foundRun, rfl⟩))
      rw [Store.next, changed] at foundLater
      cases foundLater
      exact releases_not_cancelled releases stays
    · intro cancelled
      have terminal := settled.ended cancelled stepId row found rfl
      obtain ⟨later, foundLater, kept⟩ :=
        (final row.runId cancelled).steps stepId row found rfl terminal
      have changed := (congrFun steps stepId).trans
        ((store.stepsWith_eq_some).mpr (.inl ⟨rfl, row, found, rfl⟩))
      rw [Store.next, changed] at foundLater
      cases foundLater
      exact kept.symm
  · rintro runId stepId retryPolicy policy called parses fresh
      ⟨run, found, cancelled⟩
    obtain ⟨later, foundLater, stays⟩ :=
      (final runId ⟨run, found, cancelled⟩).status
    obtain ⟨runs, steps⟩ := performed_createExternalStep found parses fresh
    have changed := (congrFun runs runId).trans
      ((store.runsWith_eq_some).mpr (.inl ⟨rfl, run, found, rfl⟩))
    rw [Store.next, called, changed] at foundLater
    cases foundLater
    cases stays
  · intro args row run called accepts cancelled
    have returned := congrArg Prod.fst (perform_commitStatePatch accepts)
    exact (final args.runId cancelled).uncommitted args _ called rfl returned

/-- Sparing the cancelled runs, an operation leaves them settled. -/
theorem Settled.spared (settled : store.Settled isCancelled)
    {operation : Call × Moment} (spares : store.SparesCancelled operation) :
    (store.next operation).Settled isCancelled := by
  refine settled.next (fun status stopped => ?_) ⟨?_, ?_, ?_⟩
  · rw [of_decide_eq_true stopped]
    rfl
  · intro completed
    cases completed
  · intro runId stepId status error releases stopped
    exact absurd (of_decide_eq_true stopped) (releases_not_cancelled releases)
  · intro runId stepId status error row run releases reopens found elsewhere
      foundRun
    by_contra stopped
    have cancelled : store.Cancelled row.runId :=
      ⟨run, foundRun, of_decide_eq_true (Bool.not_eq_false _ ▸ stopped)⟩
    have same := (spares.release _ _ _ _ row releases found).2 cancelled
    have terminal := settled.ended cancelled stepId row found rfl
    rw [same, reopens] at terminal
    cases terminal

/-- From a cancelled state on, final steps make a final rest. -/
theorem final_rest {runId : String} {later : List (Call × Moment)}
    (cancelled : store.Cancelled runId)
    (final : Each Store.next CancellationFinal store later) :
    Always Store.next (Store.Cancelled · runId) store later ∧
      Each Store.next (Store.LeavesCancelled · runId) store later := by
  induction later generalizing store with
  | nil => exact ⟨cancelled, trivial⟩
  | cons operation rest ih =>
      have leaves := final.1 runId cancelled
      obtain ⟨always, each⟩ := ih leaves.status final.2
      exact ⟨⟨cancelled, always⟩, leaves, each⟩

end Store

/-- In a history of operations every cancellation is final, for the rest of
the history, exactly when each operation spares the runs cancelled by then. -/
theorem cancellation_final_iff (operations : List (Call × Moment)) :
    (∀ before later runId, operations = before ++ later →
      (runFrom Store.next Store.empty before).Cancelled runId →
      Always Store.next (Store.Cancelled · runId)
          (runFrom Store.next Store.empty before) later ∧
        Each Store.next (Store.LeavesCancelled · runId)
          (runFrom Store.next Store.empty before) later) ↔
      Each Store.next Store.SparesCancelled Store.empty operations := by
  have steps : Each Store.next Store.SparesCancelled Store.empty operations ↔
      Each Store.next Store.CancellationFinal Store.empty operations := by
    refine Each.congr (Store.Settled · Store.isCancelled)
      (fun store operation settled spares => ?_)
      (fun store operation settled => ⟨?_, ?_⟩)
      (Store.settled_empty Store.isCancelled)
    · exact settled.spared spares
    · exact Store.leavesCancelled_of_spares settled
    · exact Store.spares_of_final settled
  rw [steps]
  constructor
  · intro final
    rw [each_iff]
    intro before operation later split runId cancelled
    exact (final before (operation :: later) runId split cancelled).2.1
  · intro each before later runId split cancelled
    rw [split, Each.append] at each
    exact Store.final_rest cancelled each.2

/-- A run is cancelled while a worker is at its only step. -/
def cancelledAtWork : List (Call × Moment) :=
  [(.createRun none none none, ⟨0, fun kind => kind, 0⟩),
    (.claimStep "worker" none 60, ⟨1, fun kind => kind, 0⟩),
    (.cancelRun "run" "operator", ⟨2, fun kind => kind, 0⟩)]

def lateFailure : Call × Moment :=
  (.markRetry "run" "step" "invalid or stale lease token" "RuntimeError",
    ⟨3, fun kind => kind, 0⟩)

theorem revived_by_late_failure :
    let store := runFrom Store.next Store.empty cancelledAtWork
    store.Cancelled "run" ∧
      ¬ store.LeavesCancelled "run" lateFailure ∧
      ((store.next lateFailure).run? "run").map RunRow.status =
        some .retryScheduled ∧
      ((Call.claimStep "other" none 60).perform ⟨4, fun kind => kind, 0⟩
        (store.next lateFailure)).1.map (Option.map StepClaim.runId) =
          .ok (some "run") := by
  have revived : ¬ ((runFrom Store.next Store.empty cancelledAtWork).next
    lateFailure).Cancelled "run" := by decide
  exact ⟨by decide, fun leaves => revived leaves.status, by decide, by decide⟩

end AgentLedger
