import AgentLedger.Store.Specs

namespace AgentLedger

open Foundation

/-! Whether the decision of an approval request stands. -/

namespace Store

variable (store : Store)

def approval? (approvalId : String) : Option ApprovalRow :=
  store.approvals.get? approvalId

/-- The request has been decided, and how. -/
def Decided (decision : String × ApprovalStatus) (store : Store) : Prop :=
  decision.2 ≠ .pending ∧
    (store.approval? decision.1).map ApprovalRow.status = some decision.2

/-- Who decides a request finds it open, or decides as was decided. -/
def DecidesOpen (operation : Call × Moment) : Prop :=
  ∀ approvalId status row, operation.1.decision = some (approvalId, status) →
    store.approval? approvalId = some row →
    row.status = .pending ∨ row.status = status

/-- What the statements of a call leave of the requests that were there. -/
def KeepsApprovals (call : Call) (before after : Store) : Prop :=
  ∀ approvalId row, before.approval? approvalId = some row →
    ∃ later, after.approval? approvalId = some later ∧
      (later.status = row.status ∨
        call.decision = some (approvalId, later.status))

variable {store} {moment : Moment}

theorem keepsApprovals_of_issues {call : Call} {statement : Write}
    {state : Store} (issued : call.Issues statement)
    (kept : store.KeepsApprovals call state) :
    store.KeepsApprovals call (state.after statement) := by
  intro approvalId row found
  obtain ⟨later, present, status⟩ := kept approvalId row found
  cases statement with
  | insertApproval added =>
      refine ⟨later, ?_, status⟩
      simp only [approval?, after, write]
      split
      · exact present
      · split
        · rename_i approvals inserted
          rw [Table.get?_of_insert? inserted, if_neg]
          · exact present
          · rintro rfl
            have fresh := (Table.insert?_eq_some_iff.mp inserted).1
            rw [approval?, fresh] at present
            cases present
        · exact present
  | decideApproval decided decision approver reason =>
      have chosen : call.decision = some (decided, decision) := issued
      simp only [approval?] at present
      simp only [approval?, after, write, Table.get?_updateWhere, present,
        Option.map_some]
      refine ⟨_, rfl, ?_⟩
      split
      · rename_i same
        have named : decided = approvalId :=
          (of_decide_eq_true same).symm.trans (Table.get?_some present).2
        exact .inr (named ▸ chosen)
      · exact status
  | insertRun added =>
      refine ⟨later, ?_, status⟩
      simp only [approval?, after, write]
      split <;> exact present
  | insertStep added =>
      refine ⟨later, ?_, status⟩
      simp only [approval?, after, write]
      split
      · split <;> exact present
      · exact present
  | insertEvent added =>
      refine ⟨later, ?_, status⟩
      simp only [approval?, after, write]
      split <;> exact present
  | insertLedger added =>
      refine ⟨later, ?_, status⟩
      simp only [approval?, after, write]
      split <;> exact present
  | _ => exact ⟨later, present, status⟩

theorem keepsApprovals (call : Call) :
    store.KeepsApprovals call (call.perform moment store).2 :=
  Call.perform_keeps (store.KeepsApprovals call)
    (fun _ _ issued _ kept => keepsApprovals_of_issues issued kept)
    fun _ row found => ⟨row, found, .inl rfl⟩

private theorem status_decided {approvalId approver reason : String}
    {status : ApprovalStatus} {row : ApprovalRow}
    (found : store.approvals.get? approvalId = some row) :
    ((store.after (.decideApproval approvalId status approver
      reason)).approvals.get? approvalId).map ApprovalRow.status =
        some status := by
  have named := (Table.get?_some found).2
  simp [after, write, found, named]

theorem performed_decideApproval {approvalId approver reason : String}
    {status : ApprovalStatus} {row : ApprovalRow}
    (found : store.approval? approvalId = some row) :
    ((perform (decideApproval approvalId status approver reason) moment
      store).2.approval? approvalId).map ApprovalRow.status = some status := by
  simp only [approval?] at found
  have decided := @status_decided store approvalId approver reason status row
    found
  simp only [perform, decideApproval, nowTs, Program.bind_call,
    Program.bind_done, exec_nowTs]
  rw [Sql.exec_withConn_bind_reads _ fun _ => reads_decidedApproval approvalId]
  cases known : store.step? row.stepId with
  | none =>
      simpa [select, execute, Store.query, found, known, approval?]
        using decided
  | some step =>
      by_cases waits : step.status = .waitingHuman
      · cases status
        all_goals
          simpa [select, execute, Store.query, found, known, approval?,
            decideStep, waits] using decided
      · simpa [select, execute, Store.query, found, known, approval?,
          decideStep, waits] using decided

/-- A decision is written over whatever was decided. -/
theorem performed_decision {call : Call} {approvalId : String}
    {status : ApprovalStatus} {row : ApprovalRow}
    (decides : call.decision = some (approvalId, status))
    (found : store.approval? approvalId = some row) :
    ((call.perform moment store).2.approval? approvalId).map
      ApprovalRow.status = some status := by
  cases call with
  | approveRequest named approver reason =>
      cases decides
      exact performed_decideApproval found
  | denyRequest named approver reason =>
      cases decides
      exact performed_decideApproval found
  | _ => cases decides

theorem stands_iff_decidesOpen (operation : Call × Moment) :
    (∀ decision, Decided decision store →
      Decided decision (store.next operation)) ↔
      store.DecidesOpen operation := by
  constructor
  · intro stands approvalId status row decides found
    by_contra changed
    rw [not_or] at changed
    have after := (stands (approvalId, row.status)
      ⟨changed.1, by rw [found]; rfl⟩).2
    have written := @performed_decision store operation.2 _ _ _ _ decides found
    exact changed.2 (Option.some.inj (after.symm.trans written))
  · rintro open_ ⟨approvalId, decided⟩ ⟨closed, status⟩
    obtain ⟨row, found, rfl⟩ := Option.map_eq_some_iff.mp status
    obtain ⟨later, present, kept⟩ :=
      @keepsApprovals store operation.2 operation.1 approvalId row found
    refine ⟨closed, ?_⟩
    have same : later.status = row.status := by
      rcases kept with same | decides
      · exact same
      · rcases open_ _ _ _ decides found with pending | same
        · exact absurd pending closed
        · exact same.symm
    exact Option.map_eq_some_iff.mpr ⟨later, present, same⟩

end Store

/-- In a history of operations every decision stands for the rest of the
history exactly when each decision finds its request open, or repeats what was
decided. -/
theorem decisions_stand_iff (operations : List (Call × Moment)) :
    (∀ before later decision, operations = before ++ later →
      Store.Decided decision (runFrom Store.next Store.empty before) →
      Always Store.next (Store.Decided decision)
        (runFrom Store.next Store.empty before) later) ↔
      Each Store.next Store.DecidesOpen Store.empty operations := by
  refine stays_iff_each.trans ?_
  apply Each.congr fun _ => True
  · exact fun _ _ _ _ => trivial
  · exact fun store operation _ => Store.stands_iff_decidesOpen operation
  · trivial

/-- A step waits for an approval that the operator denies. -/
def deniedRequest : List (Call × Moment) :=
  [(.createRun none none none, ⟨0, id, 0⟩),
    (.claimStep "worker" none 60, ⟨1, id, 0⟩),
    (.requestApproval
      { approvalKey := "run:step:charge:sha256:00"
        runId := "run"
        stepId := "step"
        toolName := "charge"
        riskLevel := "high"
        requestHash := "sha256:00"
        requestRef := "blob://sha256/00.json" }, ⟨2, id, 0⟩),
    (.markWaitingHuman "run" "step" "approval required for tool charge"
      (some "approval"), ⟨3, id, 0⟩),
    (.denyRequest "approval" "operator" "no", ⟨4, id, 0⟩)]

def laterApproval : Call × Moment :=
  (.approveRequest "approval" "other" "yes", ⟨5, id, 0⟩)

theorem denial_overwritten :
    let store := runFrom Store.next Store.empty deniedRequest
    (store.approval? "approval").map ApprovalRow.status = some .denied ∧
      (store.step? "step").map StepRow.status = some .failed ∧
      ((store.next laterApproval).approval? "approval").map
        ApprovalRow.status = some .approved := by
  decide

end AgentLedger
