import AgentLedger.Store.Issues

namespace AgentLedger

open Foundation

/-! What the operations make of the rows of the tool ledger. -/

namespace LedgerStatus

/-- `reserve_ledger`'s callers go on when they find such a row. -/
def vacant : LedgerStatus → Bool
  | .reserved | .failedNoEffect | .compensated => true
  | _ => false

end LedgerStatus

namespace Call

/-- The calls that write the ledger. -/
def entersLedger : Call → Bool
  | .reserveLedger _ | .updateLedger _ | .resolveLedger _ _ _ _ => true
  | _ => false

end Call

def LedgerUpdate.apply (update : LedgerUpdate) (row : LedgerRow) :
    LedgerRow :=
  { row with
    status := update.status
    externalId := update.externalId
    responseHash := update.responseHash
    responseRef := update.responseRef
    errorType := update.errorType }

def LedgerArgs.row (args : LedgerArgs) (moment : Moment) : LedgerRow :=
  { ledgerId := moment.id "ledger"
    runId := args.runId
    sessionId := args.sessionId
    stepId := args.stepId
    toolName := args.toolName
    toolVersion := args.toolVersion
    toolCallId := args.toolCallId
    idempotencyKey := args.idempotencyKey
    causalToken := args.causalToken
    requestHash := args.requestHash
    requestRef := args.requestRef
    status := .reserved
    createdAt := moment.now }

namespace Store

variable (store : Store)

/-- The row of the ledger that holds the key. -/
def ledgerRow? (key : String) : Option LedgerRow :=
  store.ledger.get? key

/-- `resolve_ledger` raises nothing. -/
def resolves (runId : String) (update : LedgerUpdate) : Bool :=
  (decide (update.status = .succeeded) && !missing update.responseRef ||
      decide (update.status = .failedNoEffect)) &&
    (store.ledgerRow? update.idempotencyKey).any fun row =>
      decide (row.runId = runId) && decide (row.status = .pendingVerification)

@[simp] theorem ledgerRow?_append (args : EventArgs) :
    (store.append args).ledgerRow? = store.ledgerRow? := rfl

@[simp] theorem ledgerRow?_updateLedger (update : LedgerUpdate) :
    (store.after update.statement).ledgerRow? =
      Function.update store.ledgerRow? update.idempotencyKey
        ((store.ledgerRow? update.idempotencyKey).map update.apply) := by
  funext key
  rw [Function.update_apply]
  simp only [ledgerRow?, after, write, LedgerUpdate.statement,
    Table.get?_updateWhere]
  cases found : store.ledger.get? key with
  | none =>
      by_cases same : key = update.idempotencyKey
      · simp [same ▸ found]
      · simp [same]
  | some row =>
      have holds := (Table.get?_some found).2
      by_cases same : key = update.idempotencyKey
      · subst same
        simp [found, holds, LedgerUpdate.apply]
      · simp [holds, same]

variable {store} {moment : Moment}

/-! ### Operation by operation -/

theorem perform_updateLedger (update : LedgerUpdate) :
    (Call.updateLedger update).perform moment store =
      (.ok (), store.after update.statement) :=
  rfl

theorem perform_reserveLedger_found {args : LedgerArgs} {row : LedgerRow}
    (found : store.ledgerRow? args.idempotencyKey = some row) :
    (Call.reserveLedger args).perform moment store =
      (.ok (some row), store) := by
  change store.ledger.get? args.idempotencyKey = some row at found
  simp [Call.perform, perform, Call.body, reserveLedger, select, Store.query,
    found]

theorem perform_reserveLedger_fresh {args : LedgerArgs}
    (fresh : store.ledgerRow? args.idempotencyKey = none) :
    ((Call.reserveLedger args).perform moment store).1 = .ok none ∧
      ((Call.reserveLedger args).perform moment store).2.ledgerRow? =
        Function.update store.ledgerRow? args.idempotencyKey
          (some (args.row moment)) := by
  change store.ledger.get? args.idempotencyKey = none at fresh
  cases inserted : store.ledger.insert? (args.row moment) with
  | none => exact absurd fresh (Table.insert?_eq_none_iff.mp inserted)
  | some ledger =>
      have accepted : store.write (.insertLedger (args.row moment)) =
          (true, { store with ledger := ledger }) := by
        simp only [write, inserted]
      have performed : (Call.reserveLedger args).perform moment store =
          (.ok none, { store with ledger := ledger }) := by
        simp only [LedgerArgs.row] at accepted
        simp [Call.perform, perform, Call.body, reserveLedger, select,
          Store.query, fresh, nowTs, newId, execute, Moment.tell, accepted,
          after, insertOrRaise]
      rw [performed]
      refine ⟨rfl, ?_⟩
      funext key
      rw [Function.update_apply]
      exact Table.get?_of_insert? inserted key

private theorem resolves_eq_true {runId : String} {update : LedgerUpdate}
    (resolves : store.resolves runId update = true) :
    (¬ (update.status ≠ .succeeded ∧ update.status ≠ .failedNoEffect) ∧
      ¬ (update.status = .succeeded ∧ missing update.responseRef)) ∧
      ∃ row, store.ledgerRow? update.idempotencyKey = some row ∧
        row.runId = runId ∧ row.status = .pendingVerification := by
  simp only [Store.resolves, Bool.and_eq_true, Option.any_eq_true,
    decide_eq_true_eq] at resolves
  refine ⟨?_, resolves.2⟩
  have named := resolves.1
  cases status : update.status
  all_goals simp_all

/-- A resolution that is accepted takes a row out of `PENDING_VERIFICATION`. -/
theorem perform_resolveLedger {runId resolvedBy reason : String}
    {update : LedgerUpdate}
    (resolves : store.resolves runId update = true) :
    ∃ row, store.ledgerRow? update.idempotencyKey = some row ∧
      row.status = .pendingVerification ∧
      ((Call.resolveLedger runId update resolvedBy reason).perform moment
        store).1 = .ok (update.apply row) ∧
      ((Call.resolveLedger runId update resolvedBy reason).perform moment
        store).2.ledgerRow? =
          Function.update store.ledgerRow? update.idempotencyKey
            (some (update.apply row)) := by
  obtain ⟨⟨named, given⟩, row, found, same, pending⟩ := resolves_eq_true resolves
  refine ⟨row, found, pending, ?_⟩
  have written := store.ledgerRow?_updateLedger update
  rw [found, Option.map_some] at written
  have present : (store.after update.statement).ledger.get?
      update.idempotencyKey = some (update.apply row) := by
    have here := congrFun written update.idempotencyKey
    rwa [Function.update_self] at here
  change store.ledger.get? update.idempotencyKey = some row at found
  simp [Call.perform, perform, Call.body, resolveLedger, named, given, nowTs,
    select, execute, Store.query, found, same, pending, present, written,
    Sql.exec_withConn_bind]

theorem perform_resolveLedger_refused {runId resolvedBy reason : String}
    {update : LedgerUpdate}
    (refused : store.resolves runId update = false) :
    ∃ error, (Call.resolveLedger runId update resolvedBy reason).perform moment
      store = (.error error, store) := by
  simp only [Call.perform, perform, Call.body, resolveLedger]
  split
  · exact ⟨_, rfl⟩
  · rename_i named
    split
    · exact ⟨_, rfl⟩
    · rename_i given
      simp only [nowTs, Program.bind_call, Program.bind_done, exec_nowTs]
      cases found : store.ledger.get? update.idempotencyKey with
      | none => exact ⟨_, by simp [select, Store.query, found]; rfl⟩
      | some row =>
          by_cases same : row.runId = runId
          · by_cases pending : row.status = .pendingVerification
            · exfalso
              cases status : update.status
              all_goals simp_all [Store.resolves, ledgerRow?]
            · exact ⟨_, by simp [select, Store.query, found, same, pending]; rfl⟩
          · exact ⟨_, by simp [select, Store.query, found, same]; rfl⟩

theorem ledgerRow?_of_other {call : Call} (other : call.entersLedger = false) :
    (call.perform moment store).2.ledgerRow? = store.ledgerRow? := by
  apply Call.perform_keeps fun later => later.ledgerRow? = store.ledgerRow?
  · intro statement state issued _ kept
    cases statement with
    | insertLedger row =>
        obtain ⟨_, args, same⟩ := issued
        rw [same] at other
        cases other
    | updateLedger key status externalId responseHash responseRef errorType =>
        have update : call.ledgerUpdate = some _ := issued
        cases call with
        | updateLedger => cases other
        | resolveLedger => cases other
        | _ => cases update
    | insertRun row =>
        simp only [after, write]
        split <;> exact kept
    | insertStep row =>
        simp only [after, write]
        split
        · split <;> exact kept
        · exact kept
    | insertEvent row =>
        simp only [after, write]
        split <;> exact kept
    | insertApproval row =>
        simp only [after, write]
        split
        · exact kept
        · split <;> exact kept
    | _ => exact kept
  · rfl

theorem perform_appendEvent (name : String) (args : EventArgs) :
    ∃ seq, ((Call.appendEvent name args).perform moment store).1 = .ok seq := by
  have written := store.write_event { args with type := .reported name }
  refine ⟨store.maxSeq args.runId + 1, ?_⟩
  simp [Call.perform, perform, Call.body, appendEvent, appendEventInTx, select,
    execute, Store.query, written, insertOrRaise]

theorem perform_recordCost (args : CostArgs) :
    ∃ costId, ((Call.recordCost args).perform moment store).1 = .ok costId := by
  refine ⟨moment.id "cost", ?_⟩
  simp [Call.perform, perform, Call.body, recordCost, newId, nowTs, execute,
    Moment.tell, Sql.exec_withConn_bind]

end Store

end AgentLedger
