import AgentLedger.Store.Calls
import Mathlib.Data.List.MinMax

namespace AgentLedger

open Foundation

/-! What the statements leave, table by table, and the rules by which the
programs of the operations are evaluated. -/

namespace Store

variable (store : Store)

/-- The store an UPDATE leaves. -/
def after (statement : Write) : Store := (store.write statement).2

/-- The store `_append_event_in_tx` leaves. -/
def append (args : EventArgs) : Store :=
  { store with
    events := store.events ++ [args.row (store.maxSeq args.runId + 1)] }

theorem seq_le_maxSeq {event : EventRow} (member : event ∈ store.events) :
    event.seq ≤ store.maxSeq event.runId := by
  have general (events : List EventRow) (present : event ∈ events) :
      event.seq ≤ ((events.filter fun other =>
        other.runId = event.runId).map EventRow.seq).foldr max 0 := by
    induction events with
    | nil => cases present
    | cons head rest ih =>
        rcases List.mem_cons.mp present with same | later
        · subst same
          simp
        · have below := ih later
          rw [List.filter_cons]
          split
          · rw [List.map_cons, List.foldr_cons]
            exact le_trans below (le_max_right _ _)
          · exact below
  exact general store.events member

/-- The next sequence number is free, so the unique index never refuses. -/
theorem write_event (args : EventArgs) :
    store.write (.insertEvent (args.row (store.maxSeq args.runId + 1))) =
      (true, store.append args) := by
  have free : (store.events.any fun event =>
      event.runId = (args.row (store.maxSeq args.runId + 1)).runId &&
        event.seq = (args.row (store.maxSeq args.runId + 1)).seq) = false := by
    rw [List.any_eq_false]
    intro event member
    have below := store.seq_le_maxSeq member
    simp only [EventArgs.row, Bool.and_eq_true, not_and]
    intro sameRun sameSeq
    rw [of_decide_eq_true sameRun] at below
    have next := of_decide_eq_true sameSeq
    omega
  simp [write, free, append]

/-! #### Tables after a statement -/

@[simp] theorem append_runs (args : EventArgs) :
    (store.append args).runs = store.runs := rfl

@[simp] theorem append_steps (args : EventArgs) :
    (store.append args).steps = store.steps := rfl

@[simp] theorem append_approvals (args : EventArgs) :
    (store.append args).approvals = store.approvals := rfl

@[simp] theorem append_ledger (args : EventArgs) :
    (store.append args).ledger = store.ledger := rfl

@[simp] theorem run?_append (args : EventArgs) (runId : String) :
    (store.append args).run? runId = store.run? runId := rfl

@[simp] theorem step?_append (args : EventArgs) (stepId : String) :
    (store.append args).step? stepId = store.step? stepId := rfl

private theorem get?_updateWhere_only {Row Key : Type} {key : Row → Key}
    [DecidableEq Key] (table : Table key) (wanted other : Key)
    (change : Row → Row) (keeps : ∀ row, key (change row) = key row) :
    (table.updateWhere (fun row => decide (key row = wanted)) change
        keeps).get? other =
      if other = wanted then (table.get? other).map change
      else table.get? other := by
  have selected : (fun row => decide (key row = wanted)) =
      fun row => decide (key row = wanted) && (fun _ => true) row := by
    funext row
    simp
  have updated := table.get?_updateWhere_key wanted other (fun _ => true)
    change keeps
  simpa [selected] using updated

@[simp] theorem step?_claimStep (stepId workerId leaseToken : String)
    (leaseUntil : Int) (attempt : Nat) (other : String) :
    (store.after (.claimStep stepId workerId leaseToken leaseUntil
        attempt)).step? other =
      if other = stepId then
        (store.step? other).map fun row =>
          if row.status.claimable then
            row.claim workerId leaseToken leaseUntil attempt
          else row
      else store.step? other :=
  store.steps.get?_updateWhere_key stepId other _
    (StepRow.claim workerId leaseToken leaseUntil attempt) fun _ => rfl

@[simp] theorem step?_extendLease (stepId leaseToken : String)
    (leaseUntil : Int) (other : String) :
    (store.after (.extendLease stepId leaseToken leaseUntil)).step? other =
      if other = stepId then
        (store.step? other).map fun row =>
          if row.leaseToken = some leaseToken ∧ row.status = .running then
            row.extend leaseUntil
          else row
      else store.step? other := by
  have updated := store.steps.get?_updateWhere_key stepId other
    (fun row => decide (row.leaseToken = some leaseToken) &&
      decide (row.status = .running)) (StepRow.extend leaseUntil)
    fun _ => rfl
  simp only [Bool.and_eq_true, decide_eq_true_eq] at updated
  exact updated

@[simp] theorem step?_recoverStep (stepId other : String) :
    (store.after (.recoverStep stepId)).step? other =
      if other = stepId then
        (store.step? other).map fun row =>
          if row.status = .running then row.release .retryScheduled none
          else row
      else store.step? other := by
  have updated := store.steps.get?_updateWhere_key stepId other
    (fun row => decide (row.status = .running))
    (StepRow.release .retryScheduled none) fun _ => rfl
  simp only [decide_eq_true_eq] at updated
  exact updated

@[simp] theorem step?_releaseStep (stepId : String) (status : Status)
    (error : Option (String × String)) (other : String) :
    (store.after (.releaseStep stepId status error)).step? other =
      if other = stepId then
        (store.step? other).map (StepRow.release status error)
      else store.step? other :=
  get?_updateWhere_only store.steps stepId other
    (StepRow.release status error) fun _ => rfl

@[simp] theorem step?_completeStep (stepId : String) (stateVersion : Int)
    (checkpointId : Option String) (other : String) :
    (store.after (.completeStep stepId stateVersion checkpointId)).step?
        other =
      if other = stepId then
        (store.step? other).map (StepRow.complete stateVersion checkpointId)
      else store.step? other :=
  get?_updateWhere_only store.steps stepId other
    (StepRow.complete stateVersion checkpointId) fun _ => rfl

@[simp] theorem run?_setRunStatus (runId : String) (status : Status)
    (other : String) :
    (store.after (.setRunStatus runId status)).run? other =
      if other = runId then (store.run? other).map (RunRow.setStatus status)
      else store.run? other :=
  get?_updateWhere_only store.runs runId other (RunRow.setStatus status)
    fun _ => rfl

@[simp] theorem run?_commitRun (runId : String) (baseVersion : Int)
    (state : Json) (newVersion : Int) (other : String) :
    (store.after (.commitRun runId baseVersion state newVersion)).run? other =
      if other = runId then
        (store.run? other).map fun row =>
          if row.stateVersion = baseVersion then row.commit state newVersion
          else row
      else store.run? other := by
  have updated := store.runs.get?_updateWhere_key runId other
    (fun row => decide (row.stateVersion = baseVersion))
    (RunRow.commit state newVersion) fun _ => rfl
  simp only [decide_eq_true_eq] at updated
  exact updated

@[simp] theorem run?_patchRun (runId : String) (currentVersion : Int)
    (state : Json) (newVersion : Int) (other : String) :
    (store.after (.patchRun runId currentVersion state newVersion)).run?
        other =
      if other = runId then
        (store.run? other).map fun row =>
          if row.stateVersion = currentVersion then row.patch state newVersion
          else row
      else store.run? other := by
  have updated := store.runs.get?_updateWhere_key runId other
    (fun row => decide (row.stateVersion = currentVersion))
    (RunRow.patch state newVersion) fun _ => rfl
  simp only [decide_eq_true_eq] at updated
  exact updated

@[simp] theorem run?_claimStep (stepId workerId leaseToken : String)
    (leaseUntil : Int) (attempt : Nat) (runId : String) :
    (store.after (.claimStep stepId workerId leaseToken leaseUntil
        attempt)).run? runId = store.run? runId := rfl

@[simp] theorem run?_extendLease (stepId leaseToken : String)
    (leaseUntil : Int) (runId : String) :
    (store.after (.extendLease stepId leaseToken leaseUntil)).run? runId =
      store.run? runId := rfl

@[simp] theorem run?_recoverStep (stepId runId : String) :
    (store.after (.recoverStep stepId)).run? runId = store.run? runId := rfl

@[simp] theorem run?_releaseStep (stepId : String) (status : Status)
    (error : Option (String × String)) (runId : String) :
    (store.after (.releaseStep stepId status error)).run? runId =
      store.run? runId := rfl

@[simp] theorem run?_completeStep (stepId : String) (stateVersion : Int)
    (checkpointId : Option String) (runId : String) :
    (store.after (.completeStep stepId stateVersion checkpointId)).run?
        runId = store.run? runId := rfl

@[simp] theorem step?_setRunStatus (runId : String) (status : Status)
    (stepId : String) :
    (store.after (.setRunStatus runId status)).step? stepId =
      store.step? stepId := rfl

@[simp] theorem step?_commitRun (runId : String) (baseVersion : Int)
    (state : Json) (newVersion : Int) (stepId : String) :
    (store.after (.commitRun runId baseVersion state newVersion)).step?
        stepId = store.step? stepId := rfl

@[simp] theorem step?_patchRun (runId : String) (currentVersion : Int)
    (state : Json) (newVersion : Int) (stepId : String) :
    (store.after (.patchRun runId currentVersion state newVersion)).step?
        stepId = store.step? stepId := rfl

@[simp] theorem run?_decideApproval (approvalId : String)
    (status : ApprovalStatus) (approver reason runId : String) :
    (store.after (.decideApproval approvalId status approver reason)).run?
        runId = store.run? runId := rfl

@[simp] theorem step?_decideApproval (approvalId : String)
    (status : ApprovalStatus) (approver reason stepId : String) :
    (store.after (.decideApproval approvalId status approver reason)).step?
        stepId = store.step? stepId := rfl

@[simp] theorem approvals_releaseStep (stepId : String) (status : Status)
    (error : Option (String × String)) :
    (store.after (.releaseStep stepId status error)).approvals =
      store.approvals := rfl

@[simp] theorem approvals_setRunStatus (runId : String) (status : Status) :
    (store.after (.setRunStatus runId status)).approvals =
      store.approvals := rfl

/-! #### INSERTs -/

theorem insertRun_of_fresh {row : RunRow}
    (fresh : store.run? row.runId = none) :
    (store.write (.insertRun row)).1 = true ∧
      (store.after (.insertRun row)).step? = store.step? ∧
      (store.after (.insertRun row)).run? =
        Function.update store.run? row.runId (some row) := by
  simp only [after, write]
  cases inserted : store.runs.insert? row with
  | none => exact absurd fresh (Table.insert?_eq_none_iff.mp inserted)
  | some runs =>
      refine ⟨rfl, rfl, ?_⟩
      funext other
      rw [Function.update_apply]
      exact Table.get?_of_insert? inserted other

theorem insertRun_of_taken {row : RunRow}
    (taken : store.run? row.runId ≠ none) :
    (store.write (.insertRun row)).1 = false := by
  simp only [write, Table.insert?_eq_none_iff.mpr taken]

theorem insertStep_of_fresh {row : StepRow}
    (parent : store.run? row.runId ≠ none)
    (fresh : store.step? row.stepId = none) :
    (store.write (.insertStep row)).1 = true ∧
      (store.after (.insertStep row)).run? = store.run? ∧
      (store.after (.insertStep row)).step? =
        Function.update store.step? row.stepId (some row) := by
  simp only [after, write, if_pos (Option.isSome_iff_ne_none.mpr parent)]
  cases inserted : store.steps.insert? row with
  | none => exact absurd fresh (Table.insert?_eq_none_iff.mp inserted)
  | some steps =>
      refine ⟨rfl, rfl, ?_⟩
      funext other
      rw [Function.update_apply]
      exact Table.get?_of_insert? inserted other

theorem insertStep_of_taken {row : StepRow}
    (taken : store.step? row.stepId ≠ none) :
    (store.write (.insertStep row)).1 = false := by
  simp only [write, Table.insert?_eq_none_iff.mpr taken, ite_self]

/-! #### Row counts -/

theorem count_claimStep (stepId workerId leaseToken : String)
    (leaseUntil : Int) (attempt : Nat) :
    (store.write (.claimStep stepId workerId leaseToken leaseUntil
        attempt)).1 =
      if (store.step? stepId).any fun row => row.status.claimable then 1
      else 0 :=
  store.steps.countWhere_key stepId fun row => row.status.claimable

theorem count_recoverStep (stepId : String) :
    (store.write (.recoverStep stepId)).1 =
      if (store.step? stepId).any fun row => decide (row.status = .running)
      then 1 else 0 :=
  store.steps.countWhere_key stepId fun row => decide (row.status = .running)

end Store

/-! ### Rows a SELECT returns -/

section Foremost

variable {Row : Type} {key : Row → Int} {rows : List Row} {row : Row}
  {tie : Nat}

theorem mem_foremost : row ∈ foremost key rows ↔
    row ∈ rows ∧ ∀ other ∈ rows, key row ≤ key other := by
  rw [foremost, List.mem_filter, List.all_eq_true]
  simp only [decide_eq_true_eq]

theorem foremost_eq_nil : foremost key rows = [] ↔ rows = [] := by
  constructor
  · intro none_
    by_contra some_
    obtain ⟨least, found⟩ := Option.ne_none_iff_exists'.mp
      (mt List.argmin_eq_none.mp some_ : rows.argmin key ≠ none)
    have first : least ∈ foremost key rows :=
      mem_foremost.mpr ⟨List.argmin_mem found, fun other member =>
        List.le_of_mem_argmin member found⟩
    rw [none_] at first
    cases first
  · rintro rfl
    rfl

theorem firstBy_foremost (found : firstBy tie key rows = some row) :
    row ∈ foremost key rows :=
  List.mem_of_getElem? found

theorem firstBy_mem (found : firstBy tie key rows = some row) : row ∈ rows :=
  (mem_foremost.mp (firstBy_foremost found)).1

theorem firstBy_eq_none : firstBy tie key rows = none ↔ rows = [] := by
  rw [firstBy, List.getElem?_eq_none_iff, ← @foremost_eq_nil Row key rows]
  constructor
  · intro beyond
    by_contra some_
    have positive := List.length_pos_iff.mpr some_
    exact absurd (Nat.mod_lt tie positive) (Nat.not_lt.mpr beyond)
  · intro none_
    rw [none_]
    exact Nat.zero_le _

/-- Every one of the first rows may be taken. -/
theorem exists_firstBy (first : row ∈ foremost key rows) :
    ∃ tie, firstBy tie key rows = some row := by
  obtain ⟨tie, inside, same⟩ := List.mem_iff_getElem.mp first
  refine ⟨tie, ?_⟩
  rw [firstBy, Nat.mod_eq_of_lt inside, List.getElem?_eq_getElem inside, same]

end Foremost

theorem Store.claimable_found {store : Store} {runId : Option String}
    {tie : Nat} {row : StepRow}
    (found : store.query (.claimable runId tie) = some row) :
    store.step? row.stepId = some row ∧ row.status.claimable = true ∧
      ∀ wanted, runId = some wanted → row.runId = wanted := by
  have chosen := List.mem_filter.mp (firstBy_mem found)
  simp only [Bool.and_eq_true] at chosen
  refine ⟨Table.get?_eq_some_iff.mpr ⟨chosen.1, rfl⟩, chosen.2.1, ?_⟩
  intro wanted same
  subst same
  simpa using chosen.2.2

/-! ### Evaluation -/

section Evaluation

variable {α β : Type} (tell : (about : Ask) → about.Told) (store : Store)
  (work : Option Store)

@[simp] theorem exec_select (request : Query)
    (next : request.Answer → StoreM α) :
    Sql.exec tell (.call (.query request) next) store work =
      Sql.exec tell (next ((work.getD store).query request)) store work := rfl

@[simp] theorem exec_execute (statement : Write)
    (next : statement.Count → StoreM α) :
    Sql.exec tell (.call (.write statement) next) store work =
      Sql.exec tell (next ((work.getD store).write statement).1) store
        (some ((work.getD store).after statement)) := rfl

@[simp] theorem exec_nowTs (next : Int → StoreM α) :
    Sql.exec tell (Program.call (.ask Ask.now) next) store work =
      Sql.exec tell (next (tell .now)) store work := rfl

@[simp] theorem exec_newId (kind : String) (next : String → StoreM α) :
    Sql.exec tell (Program.call (.ask (Ask.newId kind)) next) store work =
      Sql.exec tell (next (tell (.newId kind))) store work := rfl

@[simp] theorem exec_anyTie (next : Nat → StoreM α) :
    Sql.exec tell (Program.call (.ask Ask.tie) next) store work =
      Sql.exec tell (next (tell .tie)) store work := rfl

@[simp] theorem exec_append (args : EventArgs) (next : Nat → StoreM α) :
    Sql.exec tell (Sql.withConn (appendEventInTx args >>= next)) store work =
      Sql.exec tell
        (Sql.withConn (next ((work.getD store).maxSeq args.runId + 1))) store
        (some ((work.getD store).append args)) := by
  have written := (work.getD store).write_event args
  simp [appendEventInTx, select, execute, Store.query, Store.after, written,
    insertOrRaise]

end Evaluation

end AgentLedger
