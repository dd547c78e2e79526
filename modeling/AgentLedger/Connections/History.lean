import AgentLedger.Connections.Appending
import AgentLedger.Foundation.Evolution

namespace AgentLedger

open Foundation Connections

/-! What the database keeps of its past, however the operations of several
connections interleave. -/

/-- A version of a run names one state, and versions never go back. -/
structure RunRow.Succeeded (row later : RunRow) : Prop where
  session : later.sessionId = row.sessionId
  grows : row.stateVersion ≤ later.stateVersion
  names : later.stateVersion = row.stateVersion → later.state = row.state

/-- The step as it was created, without a claim and an outcome. -/
def StepRow.created (row : StepRow) : StepRow :=
  newStepRow row.stepId row.runId row.sessionId 0 row.retryPolicy row.createdAt

def StepRow.SameStep (row later : StepRow) : Prop :=
  later.created = row.created

/-- The row as it was reserved, without an outcome. -/
def LedgerRow.reservation (row : LedgerRow) : LedgerRow :=
  { row with
    status := .reserved
    externalId := none
    responseHash := none
    responseRef := none
    errorType := none }

def LedgerRow.SameReservation (row later : LedgerRow) : Prop :=
  later.reservation = row.reservation

/-- The row as it was requested, without a decision. -/
def ApprovalRow.request (row : ApprovalRow) : ApprovalRow :=
  { row with status := .pending, approvedBy := none, decisionReason := none }

def ApprovalRow.SameRequest (row later : ApprovalRow) : Prop :=
  later.request = row.request

/-- The version that a statement gives a run is above the one it asks for. -/
def Write.Advances : Write → Prop
  | .commitRun _ baseVersion _ newVersion => baseVersion < newVersion
  | .patchRun _ currentVersion _ newVersion => currentVersion < newVersion
  | _ => True

theorem RunRow.Succeeded.refl (row : RunRow) : row.Succeeded row :=
  ⟨rfl, le_refl _, fun _ => rfl⟩

theorem RunRow.Succeeded.trans {first second third : RunRow}
    (early : first.Succeeded second) (late : second.Succeeded third) :
    first.Succeeded third where
  session := late.session.trans early.session
  grows := le_trans early.grows late.grows
  names := by
    intro same
    have first_second := early.grows
    have second_third := late.grows
    have middle : second.stateVersion = first.stateVersion := by omega
    rw [late.names (by omega), early.names middle]

theorem StepRow.SameStep.refl (row : StepRow) : row.SameStep row := rfl

theorem LedgerRow.SameReservation.refl (row : LedgerRow) :
    row.SameReservation row := rfl

theorem ApprovalRow.SameRequest.refl (row : ApprovalRow) :
    row.SameRequest row := rfl

/-- The logs grow at their ends, and no row is lost or becomes another one. -/
structure Store.Persists (before after : Store) : Prop where
  runs : Table.Persists RunRow.Succeeded before.runs after.runs
  steps : Table.Persists StepRow.SameStep before.steps after.steps
  ledger : Table.Persists LedgerRow.SameReservation before.ledger after.ledger
  approvals : Table.Persists ApprovalRow.SameRequest
    before.approvals after.approvals
  events : before.events <+: after.events
  costs : before.costs <+: after.costs
  artifacts : before.artifacts <+: after.artifacts

namespace Store.Persists

theorem refl (store : Store) : store.Persists store where
  runs := Table.persists_refl RunRow.Succeeded.refl _
  steps := Table.persists_refl StepRow.SameStep.refl _
  ledger := Table.persists_refl LedgerRow.SameReservation.refl _
  approvals := Table.persists_refl ApprovalRow.SameRequest.refl _
  events := List.prefix_refl _
  costs := List.prefix_refl _
  artifacts := List.prefix_refl _

theorem trans {first second third : Store} (early : first.Persists second)
    (late : second.Persists third) : first.Persists third where
  runs := early.runs.trans RunRow.Succeeded.trans late.runs
  steps := early.steps.trans (fun one two => two.trans one) late.steps
  ledger := early.ledger.trans (fun one two => two.trans one) late.ledger
  approvals :=
    early.approvals.trans (fun one two => two.trans one) late.approvals
  events := early.events.trans late.events
  costs := early.costs.trans late.costs
  artifacts := early.artifacts.trans late.artifacts

end Store.Persists

/-! What a connection may rely on as long as nobody loses what is committed. -/

theorem persists_idle (_ : Tid) (world : Connections sqlite) :
    Store.Persists world.db world.db := .refl _

theorem persists_twice (thread : Tid)
    (first second third : Connections sqlite)
    (_ : Frame thread first second) (_ : Frame thread second third)
    (early : Store.Persists first.db second.db)
    (late : Store.Persists second.db third.db) :
    Store.Persists first.db third.db := early.trans late

theorem persists_of_db (thread : Tid) (before after : Connections sqlite)
    (_ : Frame thread before after) (same : after.db = before.db) :
    Store.Persists before.db after.db := by
  rw [same]
  exact .refl _

theorem Store.persists_updateSteps (store : Store) (selected : StepRow → Bool)
    (change : StepRow → StepRow)
    (keeps : ∀ row, (change row).stepId = row.stepId)
    (same : ∀ row : StepRow, row.SameStep (change row)) :
    store.Persists (store.updateSteps selected change keeps).2 :=
  { Persists.refl store with
    steps := Table.persists_updateWhere StepRow.SameStep.refl _ keeps
      fun row _ => same row }

theorem Store.persists_updateRuns (store : Store) (selected : RunRow → Bool)
    (change : RunRow → RunRow) (keeps : ∀ row, (change row).runId = row.runId)
    (succeeds : ∀ row, selected row = true → row.Succeeded (change row)) :
    store.Persists (store.updateRuns selected change keeps).2 :=
  { Persists.refl store with
    runs := Table.persists_updateWhere RunRow.Succeeded.refl _ keeps
      succeeds }

theorem RunRow.Succeeded.of_advances {row later : RunRow}
    (session : later.sessionId = row.sessionId)
    (above : row.stateVersion < later.stateVersion) : row.Succeeded later where
  session := session
  grows := le_of_lt above
  names := fun same => absurd same (ne_of_gt above)

/-- One statement, of those whose versions are above the ones they ask for. -/
theorem Store.persists_write (store : Store) {statement : Write}
    (advances : statement.Advances) :
    store.Persists (store.write statement).2 := by
  cases statement with
  | insertRun row =>
      simp only [Store.write]
      split
      case h_1 inserted =>
          exact { Persists.refl store with
            runs := Table.persists_insert RunRow.Succeeded.refl inserted }
      case h_2 => exact .refl store
  | insertStep row =>
      simp only [Store.write]
      split
      case isTrue =>
          split
          case h_1 inserted =>
              exact { Persists.refl store with
                steps :=
                  Table.persists_insert StepRow.SameStep.refl inserted }
          case h_2 => exact .refl store
      case isFalse => exact .refl store
  | insertEvent row =>
      simp only [Store.write]
      split
      case isTrue => exact .refl store
      case isFalse =>
          exact { Persists.refl store with
            events := List.prefix_append _ _ }
  | insertApproval row =>
      simp only [Store.write]
      split
      case isTrue => exact .refl store
      case isFalse =>
          split
          case h_1 inserted =>
              exact { Persists.refl store with
                approvals :=
                  Table.persists_insert ApprovalRow.SameRequest.refl inserted }
          case h_2 => exact .refl store
  | insertLedger row =>
      simp only [Store.write]
      split
      case h_1 inserted =>
          exact { Persists.refl store with
            ledger :=
              Table.persists_insert LedgerRow.SameReservation.refl inserted }
      case h_2 => exact .refl store
  | insertCost row =>
      exact { Persists.refl store with costs := List.prefix_append _ _ }
  | insertArtifact row =>
      exact { Persists.refl store with artifacts := List.prefix_append _ _ }
  | claimStep => exact store.persists_updateSteps _ _ _ fun _ => rfl
  | extendLease => exact store.persists_updateSteps _ _ _ fun _ => rfl
  | recoverStep => exact store.persists_updateSteps _ _ _ fun _ => rfl
  | releaseStep => exact store.persists_updateSteps _ _ _ fun _ => rfl
  | completeStep => exact store.persists_updateSteps _ _ _ fun _ => rfl
  | setRunStatus =>
      exact store.persists_updateRuns _ _ _ fun _ _ =>
        ⟨rfl, le_refl _, fun _ => rfl⟩
  | commitRun runId baseVersion state newVersion =>
      apply store.persists_updateRuns
      intro row chosen
      have current := of_decide_eq_true (Bool.and_eq_true_iff.mp chosen).2
      refine .of_advances rfl ?_
      rw [current]
      exact advances
  | patchRun runId currentVersion state newVersion =>
      apply store.persists_updateRuns
      intro row chosen
      have current := of_decide_eq_true (Bool.and_eq_true_iff.mp chosen).2
      refine .of_advances rfl ?_
      rw [current]
      exact advances
  | decideApproval =>
      refine { Persists.refl store with approvals := ?_ }
      apply Table.persists_updateWhere ApprovalRow.SameRequest.refl
      · exact fun _ => rfl
      · exact fun _ _ => rfl
  | updateLedger =>
      refine { Persists.refl store with ledger := ?_ }
      apply Table.persists_updateWhere LedgerRow.SameReservation.refl
      · exact fun _ => rfl
      · exact fun _ _ => rfl

theorem Call.advances_of_issues {call : Call} {statement : Write}
    (issues : call.Issues statement) : statement.Advances := by
  cases statement with
  | commitRun runId baseVersion state newVersion =>
      have next := issues.1
      exact next ▸ Int.lt_add_one_of_le (le_refl _)
  | patchRun runId currentVersion state newVersion =>
      have next := issues.1
      exact next ▸ Int.lt_add_one_of_le (le_refl _)
  | _ => trivial

@[reducible] def persisting : storeService.Evolution where
  issues := Call.Issues
  issued := Call.body_uses
  evolves := Store.Persists
  refl := Store.Persists.refl
  trans := fun _ _ _ early late => early.trans late
  written := fun _ _ store issues =>
    store.persists_write (Call.advances_of_issues issues)

/-- The committed state after so many steps of the connections. -/
def committed (store : Store) (clock : Int)
    (labels : List storeService.machine.Label) : Store :=
  (runFrom Machine.step (Machine.initial (@opened sqlite store clock))
    labels).world.db

/-- However the statements of several connections interleave, and whichever of
them die: a version of a run names one state for good, versions never go back,
and no run is lost. -/
theorem versions_name_states (store : Store) (clock : Int)
    (before later : List storeService.machine.Label) :
    Table.Persists RunRow.Succeeded (committed store clock before).runs
      (committed store clock (before ++ later)).runs :=
  (persisting.between store clock before later).runs

/-- The logs are only appended to, and what a step, a reservation and an
approval request were created with stays as it is. -/
theorem audit_trail_persists (store : Store) (clock : Int)
    (before later : List storeService.machine.Label) :
    let early := committed store clock before
    let late := committed store clock (before ++ later)
    early.events <+: late.events ∧ early.costs <+: late.costs ∧
      early.artifacts <+: late.artifacts ∧
      Table.Persists StepRow.SameStep early.steps late.steps ∧
      Table.Persists LedgerRow.SameReservation early.ledger late.ledger ∧
      Table.Persists ApprovalRow.SameRequest
        early.approvals late.approvals := by
  have persists := persisting.between store clock before later
  exact ⟨persists.events, persists.costs, persists.artifacts, persists.steps,
    persists.ledger, persists.approvals⟩

end AgentLedger
