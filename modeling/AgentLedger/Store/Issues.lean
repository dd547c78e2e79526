import AgentLedger.Store.Effects

namespace AgentLedger

open Foundation

/-! Which statements each operation may issue, whatever it is answered. -/

namespace Call

/-- The calls that write neither the runs nor the steps. -/
def spares : Call → Bool
  | .validateLease _ _ => true
  | .requestApproval _ => true
  | .approvalForKey _ => true
  | .appendEvent _ _ => true
  | .run _ => true
  | .loadState _ => true
  | .reserveLedger _ => true
  | .updateLedger _ => true
  | .resolveLedger _ _ _ _ => true
  | .recordCost _ => true
  | .costSummary _ => true
  | .createArtifact _ => true
  | .findSucceededLedgerResponse _ _ _ _ => true
  | _ => false

/-- The calls behind the events that are read back from the log. -/
def Reports (call : Call) : EventType → Prop
  | .stepClaimed => ∃ workerId runId leaseSeconds,
      call = .claimStep workerId runId leaseSeconds
  | .runCreated => ∃ sessionId initialState retryPolicy,
      call = .createRun sessionId initialState retryPolicy
  | .stateCommitted => ∃ args, call = .commitStatePatch args
  | .systemStatePatchApplied => ∃ runId patch reason,
      call = .applySystemStatePatch runId patch reason
  | _ => True

/-- The approval that a call decides, and how. -/
def decision : Call → Option (String × ApprovalStatus)
  | .approveRequest approvalId _ _ => some (approvalId, .approved)
  | .denyRequest approvalId _ _ => some (approvalId, .denied)
  | _ => none

/-- What a call makes of a row of the ledger, if it comes to that. -/
def ledgerUpdate : Call → Option LedgerUpdate
  | .updateLedger update => some update
  | .resolveLedger _ update _ _ => some update
  | _ => none

def Issues (call : Call) : Write → Prop
  | .insertRun row => row.stateVersion = 0 ∧
      ∃ sessionId initialState retryPolicy,
        call = .createRun sessionId initialState retryPolicy
  | .insertStep row => row.attempt = 0 ∧ row.leaseToken = none ∧
      call.spares = false
  | .insertEvent row => call.Reports row.type
  | .claimStep _ _ _ _ _ => ∃ workerId runId leaseSeconds,
      call = .claimStep workerId runId leaseSeconds
  | .extendLease _ _ _ => ∃ stepId leaseToken leaseSeconds,
      call = .heartbeat stepId leaseToken leaseSeconds
  | .recoverStep _ => call = .recoverExpiredLeases
  | .releaseStep _ _ _ => call.spares = false
  | .completeStep _ _ _ => ∃ args, call = .commitStatePatch args
  | .setRunStatus _ _ => call.spares = false
  | .commitRun _ baseVersion _ newVersion => newVersion = baseVersion + 1 ∧
      ∃ args, call = .commitStatePatch args
  | .patchRun _ currentVersion _ newVersion =>
      newVersion = currentVersion + 1 ∧ ∃ runId patch reason,
        call = .applySystemStatePatch runId patch reason
  | .insertApproval row => row.status = .pending ∧
      ∃ args, call = .requestApproval args
  | .decideApproval approvalId status _ _ =>
      call.decision = some (approvalId, status)
  | .insertLedger row => row.status = .reserved ∧
      ∃ args, call = .reserveLedger args
  | .updateLedger idempotencyKey status externalId responseHash responseRef
      errorType => call.ledgerUpdate = some
        ⟨idempotencyKey, status, externalId, responseHash, responseRef,
          errorType⟩
  | .insertCost _ => ∃ args, call = .recordCost args
  | .insertArtifact _ => True

end Call

/-- An event is appended under the number read for it just before. -/
def mayIssue (allowed : Write → Prop) (read : Option (String × Nat)) :
    sqlite.Command → Prop
  | .write (.insertEvent row) =>
      allowed (.insertEvent row) ∧ read = some (row.runId, row.seq)
  | .write statement => allowed statement
  | _ => True

/-- The number the command reads for the next event of a run. -/
def numberRead : (cmd : sqlite.Command) → cmd.Reply → Option (String × Nat)
  | .query (.nextSeq runId), seq => some (runId, seq)
  | _, _ => none

/-- Whatever the program is answered, it issues allowed statements only, and
numbers its events as it has read. -/
def IssuingFrom {α : Type} (allowed : Write → Prop) :
    Option (String × Nat) → StoreM α → Prop
  | _, .done _ => True
  | _, .raise _ => True
  | read, .call cmd next => mayIssue allowed read cmd ∧
      ∀ reply, IssuingFrom allowed (numberRead cmd reply) (next reply)

abbrev Issuing {α : Type} (allowed : Write → Prop) (program : StoreM α) :
    Prop :=
  IssuingFrom allowed none program

def Write.isEvent : Write → Bool
  | .insertEvent _ => true
  | _ => false

section Rules

variable {α β : Type} {allowed : Write → Prop} {read : Option (String × Nat)}

theorem mayIssue_execute {statement : Write}
    (other : statement.isEvent = false) :
    mayIssue allowed read (.write statement) ↔ allowed statement := by
  cases statement with
  | insertEvent row => cases other
  | _ => exact Iff.rfl

theorem Issuing.weaken {program : StoreM α}
    (issuing : Issuing allowed program) :
    IssuingFrom allowed read program := by
  cases program with
  | done value => trivial
  | raise error => trivial
  | call cmd next =>
      refine ⟨?_, issuing.2⟩
      have may := issuing.1
      cases cmd with
      | write statement =>
          cases statement with
          | insertEvent row => cases may.2
          | _ => exact may
      | _ => trivial

theorem IssuingFrom.bind {first : StoreM α} {next : α → StoreM β}
    (issuing : IssuingFrom allowed read first)
    (rest : ∀ value, Issuing allowed (next value)) :
    IssuingFrom allowed read (first >>= next) := by
  induction first generalizing read with
  | done value => exact (rest value).weaken
  | raise error => trivial
  | call cmd continuation ih =>
      exact ⟨issuing.1, fun reply => ih reply (issuing.2 reply)⟩

theorem IssuingFrom.withConn {program : StoreM α}
    (issuing : IssuingFrom allowed read program) :
    IssuingFrom allowed read (Sql.withConn program) := by
  induction program generalizing read with
  | done value => exact ⟨trivial, fun _ => trivial⟩
  | raise error => exact ⟨trivial, fun _ => trivial⟩
  | call cmd rest ih =>
      exact ⟨issuing.1, fun reply => ih reply (issuing.2 reply)⟩

theorem IssuingFrom.tryCatch {program : StoreM α}
    {handler : PyError → StoreM α}
    (issuing : IssuingFrom allowed read program)
    (handled : ∀ error, Issuing allowed (handler error)) :
    IssuingFrom allowed read (program.tryCatch handler) := by
  induction program generalizing read with
  | done value => trivial
  | raise error => exact (handled error).weaken
  | call cmd rest ih =>
      exact ⟨issuing.1, fun reply => ih reply (issuing.2 reply)⟩

theorem IssuingFrom.uses {program : StoreM α}
    (issuing : IssuingFrom allowed read program) :
    program.Uses (Sql.Writes allowed) := by
  induction program generalizing read with
  | done value => trivial
  | raise error => trivial
  | call cmd rest ih =>
      refine ⟨?_, fun reply => ih reply (issuing.2 reply)⟩
      have may := issuing.1
      cases cmd with
      | write statement =>
          cases statement with
          | insertEvent row => exact may.1
          | _ => exact may
      | _ => trivial

theorem issuing_select (request : Query) :
    Issuing allowed (select request) :=
  ⟨trivial, fun _ => trivial⟩

theorem issuing_execute {statement : Write} (may : allowed statement)
    (other : statement.isEvent = false) :
    Issuing allowed (execute statement) :=
  ⟨(mayIssue_execute other).mpr may, fun _ => trivial⟩

theorem issuing_nowTs : Issuing allowed nowTs :=
  ⟨trivial, fun _ => trivial⟩

theorem issuing_newId (kind : String) :
    Issuing allowed (newId kind) :=
  ⟨trivial, fun _ => trivial⟩

theorem issuing_anyTie : Issuing allowed anyTie :=
  ⟨trivial, fun _ => trivial⟩

theorem issuing_insertOrRaise (accepted : Bool) :
    Issuing allowed (insertOrRaise accepted) := by
  unfold insertOrRaise
  split <;> trivial

theorem issuing_appendEventInTx {args : EventArgs}
    (may : ∀ seq, allowed (.insertEvent (args.row seq))) :
    Issuing allowed (appendEventInTx args) := by
  refine ⟨trivial, fun seq => ⟨⟨may seq, rfl⟩, fun accepted => ?_⟩⟩
  exact (issuing_insertOrRaise accepted).bind fun _ => trivial

theorem issuing_givenOrNewId (given : Option String) (kind : String) :
    Issuing allowed (givenOrNewId given kind) := by
  unfold givenOrNewId
  split
  · split
    · exact issuing_newId kind
    · trivial
  · exact issuing_newId kind

theorem issuing_parsed (result : Except PyError RetryPolicy) :
    Issuing allowed (parsed result) := by
  cases result <;> trivial

theorem issuing_run (runId : String) :
    Issuing allowed (run runId) := by
  refine (issuing_select _).bind fun found => ?_
  cases found <;> trivial

theorem issuing_validateLease (stepId leaseToken : String) :
    Issuing allowed (validateLease stepId leaseToken) := by
  refine (issuing_select _).bind fun found => ?_
  split
  · trivial
  · split
    · trivial
    · split
      · trivial
      · refine issuing_nowTs.bind fun now => ?_
        split <;> trivial

end Rules

/-! ### Call by call -/

private theorem issuing_createRun (sessionId : Option String)
    (initialState retryPolicy : Option Fields) :
    Issuing (Call.createRun sessionId initialState retryPolicy).Issues
      (createRun sessionId initialState retryPolicy) := by
  refine (issuing_newId _).bind fun runId =>
    (issuing_givenOrNewId _ _).bind fun sessionId =>
    (issuing_newId _).bind fun stepId => issuing_nowTs.bind fun ts =>
    (issuing_parsed _).bind fun policy => ?_
  refine (IssuingFrom.withConn ?_).bind fun _ => trivial
  refine (issuing_execute ⟨rfl, _, _, _, rfl⟩ rfl).bind fun accepted =>
    (issuing_insertOrRaise accepted).bind fun _ =>
    (issuing_execute ⟨rfl, rfl, rfl⟩ rfl).bind fun accepted =>
    (issuing_insertOrRaise accepted).bind fun _ => ?_
  exact (issuing_appendEventInTx fun _ => ⟨_, _, _, rfl⟩).bind fun _ =>
    (issuing_appendEventInTx fun _ => trivial).bind fun _ => trivial

private theorem issuing_createExternalStep (runId : String)
    (stepId : Option String) (retryPolicy : Option Fields) :
    Issuing (Call.createExternalStep runId stepId retryPolicy).Issues
      (createExternalStep runId stepId retryPolicy) := by
  refine (issuing_run runId).bind fun row =>
    (issuing_givenOrNewId _ _).bind fun stepId => issuing_nowTs.bind fun ts =>
    (issuing_parsed _).bind fun policy => ?_
  refine (IssuingFrom.withConn ?_).bind fun _ => trivial
  exact (issuing_execute ⟨rfl, rfl, rfl⟩ rfl).bind fun accepted =>
    (issuing_insertOrRaise accepted).bind fun _ =>
    (issuing_execute (by rfl) rfl).bind fun _ =>
    (issuing_appendEventInTx fun _ => trivial).bind fun _ => trivial

theorem issuing_claimLoop (workerId : String) (runId : Option String)
    (leaseSeconds : Int) {allowed : Write → Prop}
    (claims : ∀ stepId workerId leaseToken leaseUntil attempt,
      allowed (.claimStep stepId workerId leaseToken leaseUntil attempt))
    (sets : ∀ runId, allowed (.setRunStatus runId .running))
    (reports : ∀ row, row.type = .stepClaimed → allowed (.insertEvent row))
    (tries : Nat) :
    Issuing allowed (claimLoop workerId runId leaseSeconds tries) := by
  induction tries with
  | zero => trivial
  | succ tries ih =>
      refine issuing_nowTs.bind fun now => issuing_anyTie.bind fun tie =>
        (issuing_select _).bind fun chosen => ?_
      cases chosen with
      | none => trivial
      | some row =>
          refine (issuing_newId _).bind fun leaseToken => ?_
          have transaction : Issuing allowed (claimRow workerId leaseToken
              (now + leaseSeconds) row) := by
            refine IssuingFrom.withConn ?_
            refine (issuing_execute (claims _ _ _ _ _) rfl).bind
              fun updated => ?_
            split
            · trivial
            · exact (issuing_execute (sets _) rfl).bind fun _ =>
                (issuing_appendEventInTx fun _ => reports _ rfl).bind fun _ =>
                trivial
          refine transaction.bind fun claimed => ?_
          split
          · trivial
          · exact ih

private theorem issuing_heartbeat (stepId leaseToken : String)
    (leaseSeconds : Int) :
    Issuing (Call.heartbeat stepId leaseToken leaseSeconds).Issues
      (heartbeat stepId leaseToken leaseSeconds) := by
  refine (issuing_validateLease _ _).bind fun row =>
    issuing_nowTs.bind fun now => ?_
  refine (IssuingFrom.withConn ?_).bind fun _ => trivial
  exact (issuing_execute ⟨_, _, _, rfl⟩ rfl).bind fun _ =>
    (issuing_appendEventInTx fun _ => trivial).bind fun _ => trivial

private theorem issuing_recoverRows (rows : List StepRow) (recovered : Nat) :
    Issuing Call.recoverExpiredLeases.Issues (recoverRows rows recovered) := by
  induction rows generalizing recovered with
  | nil => trivial
  | cons row rest ih =>
      refine (issuing_execute (by rfl) rfl).bind fun updated => ?_
      split
      · exact ih recovered
      · exact (issuing_execute (by rfl) rfl).bind fun _ =>
          (issuing_appendEventInTx fun _ => trivial).bind fun _ =>
          (issuing_appendEventInTx fun _ => trivial).bind fun _ =>
          ih (recovered + 1)

private theorem issuing_cancelRows (runId reason : String)
    (rows : List StepRow) :
    Issuing (Call.cancelRun runId reason).Issues
      (cancelRows runId reason rows) := by
  induction rows with
  | nil => trivial
  | cons row rest ih =>
      exact (issuing_execute (by rfl) rfl).bind fun _ =>
        (issuing_appendEventInTx fun _ => trivial).bind fun _ => ih

private theorem issuing_cancelRun (runId reason : String) :
    Issuing (Call.cancelRun runId reason).Issues (cancelRun runId reason) := by
  refine issuing_nowTs.bind fun _ => (issuing_select _).bind fun rows =>
    (issuing_run runId).bind fun row => ?_
  split
  · trivial
  · refine (IssuingFrom.withConn ?_).bind fun _ => trivial
    exact (issuing_appendEventInTx fun _ => trivial).bind fun _ =>
      (issuing_cancelRows runId reason rows).bind fun _ =>
      (issuing_execute (by rfl) rfl).bind fun _ =>
      (issuing_appendEventInTx fun _ => trivial).bind fun _ => trivial

private theorem issuing_markWaitingHuman (runId stepId reason : String)
    (approvalId : Option String) :
    Issuing (Call.markWaitingHuman runId stepId reason approvalId).Issues
      (markWaitingHuman runId stepId reason approvalId) := by
  refine issuing_nowTs.bind fun _ => IssuingFrom.withConn ?_
  refine (issuing_select _).bind fun found => ?_
  cases found with
  | none => trivial
  | some row =>
      exact (issuing_execute (by rfl) rfl).bind fun _ =>
        (issuing_execute (by rfl) rfl).bind fun _ =>
        (issuing_appendEventInTx fun _ => trivial).bind fun _ => trivial

private theorem issuing_markRetry (runId stepId error errorType : String) :
    Issuing (Call.markRetry runId stepId error errorType).Issues
      (markRetry runId stepId error errorType) := by
  refine issuing_nowTs.bind fun _ => IssuingFrom.withConn ?_
  refine (issuing_select _).bind fun found => ?_
  cases found with
  | none => trivial
  | some row =>
      refine (issuing_appendEventInTx fun _ => trivial).bind fun _ => ?_
      split
      all_goals
        exact (issuing_execute (by rfl) rfl).bind fun _ =>
          (issuing_execute (by rfl) rfl).bind fun _ =>
          (issuing_appendEventInTx fun _ => trivial).bind fun _ =>
          (issuing_appendEventInTx fun _ => trivial).bind fun _ => trivial

private theorem issuing_markFailed (runId stepId error errorType : String) :
    Issuing (Call.markFailed runId stepId error errorType).Issues
      (markFailed runId stepId error errorType) := by
  refine issuing_nowTs.bind fun _ => IssuingFrom.withConn ?_
  refine (issuing_select _).bind fun found => ?_
  cases found with
  | none => trivial
  | some row =>
      exact (issuing_execute (by rfl) rfl).bind fun _ =>
        (issuing_execute (by rfl) rfl).bind fun _ =>
        (issuing_appendEventInTx fun _ => trivial).bind fun _ =>
        (issuing_appendEventInTx fun _ => trivial).bind fun _ =>
        (issuing_appendEventInTx fun _ => trivial).bind fun _ => trivial

private theorem issuing_decideApproval (approvalId : String)
    (status : ApprovalStatus) (approver reason : String)
    {allowed : Write → Prop}
    (decides : allowed (.decideApproval approvalId status approver reason))
    (releases : ∀ stepId status error,
      allowed (.releaseStep stepId status error))
    (sets : ∀ runId status, allowed (.setRunStatus runId status))
    (reports : ∀ row, row.type = .toolApprovalDecided ∨
      row.type = .stepRetryScheduled ∨ row.type = .stepFailed →
      allowed (.insertEvent row)) :
    Issuing allowed (decideApproval approvalId status approver reason) := by
  refine issuing_nowTs.bind fun _ => ?_
  have readsBack : Issuing allowed (decidedApproval approvalId) := by
    refine (issuing_select _).bind fun found => ?_
    cases found <;> trivial
  refine (IssuingFrom.withConn ?_).bind fun _ => readsBack
  refine (issuing_select _).bind fun found => ?_
  cases found with
  | none => trivial
  | some row =>
      refine (issuing_execute decides rfl).bind fun _ =>
        (issuing_appendEventInTx fun _ => reports _ (.inl rfl)).bind fun _ =>
        (issuing_select _).bind fun step => ?_
      cases step with
      | none => trivial
      | some step =>
          simp only [decideStep]
          split
          · cases status with
            | pending => trivial
            | approved =>
                exact (issuing_execute (releases _ _ _) rfl).bind fun _ =>
                  (issuing_execute (sets _ _) rfl).bind fun _ =>
                  (issuing_appendEventInTx fun _ =>
                    reports _ (.inr (.inl rfl))).bind fun _ => trivial
            | denied =>
                exact (issuing_execute (releases _ _ _) rfl).bind fun _ =>
                  (issuing_execute (sets _ _) rfl).bind fun _ =>
                  (issuing_appendEventInTx fun _ =>
                    reports _ (.inr (.inr rfl))).bind fun _ => trivial
          · trivial

private theorem reports_decision {call : Call} {row : EventRow}
    (type : row.type = .toolApprovalDecided ∨
      row.type = .stepRetryScheduled ∨ row.type = .stepFailed) :
    call.Reports row.type := by
  rcases type with type | type | type
  all_goals
    rw [type]
    trivial

private theorem issuing_requestApproval (args : ApprovalArgs) :
    Issuing (Call.requestApproval args).Issues (requestApproval args) := by
  refine (issuing_select _).bind fun existing => ?_
  cases existing with
  | some row => trivial
  | none =>
      refine issuing_nowTs.bind fun _ =>
        (issuing_newId _).bind fun approvalId => ?_
      refine IssuingFrom.bind (IssuingFrom.tryCatch
        (IssuingFrom.withConn ((issuing_execute ⟨rfl, args, rfl⟩ rfl).bind
          fun accepted => issuing_insertOrRaise accepted)) fun error => ?_)
        fun _ => (issuing_select _).bind fun created => ?_
      · unfold onIntegrityError
        split <;> trivial
      · cases created <;> trivial

private theorem issuing_commitStatePatch (args : CommitArgs) :
    Issuing (Call.commitStatePatch args).Issues (commitStatePatch args) := by
  refine issuing_nowTs.bind fun _ => IssuingFrom.withConn ?_
  refine (issuing_validateLease _ _).bind fun step =>
    (issuing_run _).bind fun row => ?_
  dsimp only
  split
  case isTrue => trivial
  case isFalse same =>
      have version := not_not.mp same
      exact (issuing_execute ⟨by rw [version], args, rfl⟩ rfl).bind fun _ =>
        (issuing_execute ⟨args, rfl⟩ rfl).bind fun _ =>
        (issuing_appendEventInTx fun _ => ⟨args, rfl⟩).bind fun _ =>
        (issuing_appendEventInTx fun _ => trivial).bind fun _ => trivial

private theorem issuing_applySystemStatePatch (runId : String) (patch : Fields)
    (reason : String) :
    Issuing (Call.applySystemStatePatch runId patch reason).Issues
      (applySystemStatePatch runId patch reason) := by
  refine issuing_nowTs.bind fun _ => IssuingFrom.withConn ?_
  exact (issuing_run runId).bind fun row =>
    (issuing_execute ⟨rfl, _, _, _, rfl⟩ rfl).bind fun _ =>
    (issuing_appendEventInTx fun _ => ⟨_, _, _, rfl⟩).bind fun _ => trivial

private theorem issuing_reserveLedger (args : LedgerArgs) :
    Issuing (Call.reserveLedger args).Issues (reserveLedger args) := by
  refine (issuing_select _).bind fun existing => ?_
  cases existing with
  | some row => trivial
  | none =>
      refine issuing_nowTs.bind fun ts =>
        (issuing_newId _).bind fun ledgerId => ?_
      refine IssuingFrom.tryCatch
        (IssuingFrom.withConn ((issuing_execute ⟨rfl, args, rfl⟩ rfl).bind
          fun accepted => (issuing_insertOrRaise accepted).bind fun _ =>
            trivial)) fun error => ?_
      unfold onIntegrityError
      split
      · exact issuing_select _
      · trivial

private theorem issuing_resolveLedger (runId : String) (update : LedgerUpdate)
    (resolvedBy reason : String) :
    Issuing (Call.resolveLedger runId update resolvedBy reason).Issues
      (resolveLedger runId update resolvedBy reason) := by
  unfold resolveLedger
  split
  · trivial
  · split
    · trivial
    · refine issuing_nowTs.bind fun _ => (IssuingFrom.withConn ?_).bind fun _ =>
        (issuing_select _).bind fun resolved => ?_
      · refine (issuing_select _).bind fun found => ?_
        cases found with
        | none => trivial
        | some row =>
            dsimp only
            split
            · trivial
            · split
              · trivial
              · exact (issuing_execute (by rfl) rfl).bind fun _ =>
                  (issuing_appendEventInTx fun _ => trivial).bind fun _ =>
                    trivial
      · cases resolved <;> trivial

private theorem issuing_recordCost (args : CostArgs) :
    Issuing (Call.recordCost args).Issues (recordCost args) := by
  refine (issuing_newId _).bind fun costId => issuing_nowTs.bind fun _ => ?_
  refine (IssuingFrom.withConn ?_).bind fun _ => trivial
  exact (issuing_execute ⟨_, rfl⟩ rfl).bind fun _ =>
    (issuing_appendEventInTx fun _ => trivial).bind fun _ => trivial

private theorem issuing_findSucceededLedgerResponse (runId toolName : String)
    (logicalOperation : Option String) (requestHash : String)
    {allowed : Write → Prop} :
    Issuing allowed (findSucceededLedgerResponse runId toolName logicalOperation
      requestHash) := by
  refine issuing_anyTie.bind fun tie => ?_
  split
  · exact issuing_select _
  · refine (issuing_select _).bind fun found => ?_
    cases found with
    | error error => trivial
    | ok found =>
        cases found with
        | none => exact issuing_select _
        | some row => trivial

/-- Whatever a call is answered, it issues only its own statements. -/
theorem Call.body_issuing (call : Call) :
    Issuing call.Issues call.body := by
  cases call with
  | createRun sessionId initialState retryPolicy =>
      exact issuing_createRun sessionId initialState retryPolicy
  | createExternalStep runId stepId retryPolicy =>
      exact issuing_createExternalStep runId stepId retryPolicy
  | claimStep workerId runId leaseSeconds =>
      refine issuing_claimLoop workerId _ leaseSeconds ?_ (fun _ => rfl) ?_ 64
      · exact fun _ _ _ _ _ => ⟨workerId, runId, leaseSeconds, rfl⟩
      · intro row claimed
        change Call.Reports _ row.type
        rw [claimed]
        exact ⟨workerId, runId, leaseSeconds, rfl⟩
  | validateLease stepId leaseToken => exact issuing_validateLease _ _
  | heartbeat stepId leaseToken leaseSeconds =>
      exact issuing_heartbeat stepId leaseToken leaseSeconds
  | recoverExpiredLeases =>
      exact issuing_nowTs.bind fun now => (issuing_select _).bind fun rows =>
        IssuingFrom.withConn (issuing_recoverRows rows 0)
  | cancelRun runId reason => exact issuing_cancelRun runId reason
  | markWaitingHuman runId stepId reason approvalId =>
      exact issuing_markWaitingHuman runId stepId reason approvalId
  | requestApproval args => exact issuing_requestApproval args
  | approvalForKey approvalKey => exact issuing_select _
  | approveRequest approvalId approver reason =>
      exact issuing_decideApproval _ _ _ _ rfl
        (fun _ _ _ => rfl) (fun _ _ => rfl) fun _ => reports_decision
  | denyRequest approvalId approver reason =>
      exact issuing_decideApproval _ _ _ _ rfl
        (fun _ _ _ => rfl) (fun _ _ => rfl) fun _ => reports_decision
  | appendEvent name args =>
      exact IssuingFrom.withConn (issuing_appendEventInTx fun _ => trivial)
  | run runId => exact issuing_run runId
  | loadState runId => exact (issuing_run runId).bind fun _ => trivial
  | commitStatePatch args => exact issuing_commitStatePatch args
  | applySystemStatePatch runId patch reason =>
      exact issuing_applySystemStatePatch runId patch reason
  | markRetry runId stepId error errorType =>
      exact issuing_markRetry runId stepId error errorType
  | markFailed runId stepId error errorType =>
      exact issuing_markFailed runId stepId error errorType
  | reserveLedger args => exact issuing_reserveLedger args
  | updateLedger update =>
      exact IssuingFrom.withConn ((issuing_execute (by rfl) rfl).bind fun _ =>
        trivial)
  | resolveLedger runId update resolvedBy reason =>
      exact issuing_resolveLedger runId update resolvedBy reason
  | recordCost args => exact issuing_recordCost args
  | costSummary runId => exact (issuing_select _).bind fun _ => trivial
  | createArtifact args =>
      refine (issuing_newId _).bind fun _ => ?_
      refine (IssuingFrom.withConn ?_).bind fun _ => trivial
      exact (issuing_execute (by trivial) rfl).bind fun _ => trivial
  | findSucceededLedgerResponse runId toolName logicalOperation requestHash =>
      exact issuing_findSucceededLedgerResponse _ _ _ _

theorem Call.body_uses (call : Call) :
    call.body.Uses (Sql.Writes call.Issues) :=
  call.body_issuing.uses

/-! ### What follows for an operation by itself -/

/-- An event comes last in its run. -/
def Write.Follows (store : Store) : Write → Prop
  | .insertEvent row => row.seq = store.maxSeq row.runId + 1
  | _ => True

theorem exec_of_issuing {α : Type} (kept : Store → Prop)
    {allowed : Write → Prop} {tell : (about : Ask) → about.Told}
    (written : ∀ statement state, allowed statement →
      statement.Follows state → kept state → kept (state.after statement))
    {program : StoreM α} {read : Option (String × Nat)} {store : Store}
    {work : Option Store} (issuing : IssuingFrom allowed read program)
    (holds : kept store) (current : kept (work.getD store))
    (next : ∀ runId seq, read = some (runId, seq) →
      seq = (work.getD store).maxSeq runId + 1) :
    kept (Sql.exec tell program store work).2 := by
  induction program generalizing read store work with
  | done value => exact holds
  | raise error => exact holds
  | call cmd rest ih =>
      cases cmd with
      | query request =>
          refine ih _ (issuing.2 _) holds current ?_
          intro runId seq same
          cases request with
          | nextSeq asked =>
              cases same
              rfl
          | _ => cases same
      | write statement =>
          have arrived : kept ((work.getD store).after statement) := by
            cases statement with
            | insertEvent row =>
                obtain ⟨may, fresh⟩ := issuing.1
                exact written _ _ may (next _ _ fresh) current
            | _ => exact written _ _ issuing.1 trivial current
          exact ih _ (issuing.2 _) holds arrived fun _ _ same => by cases same
      | ask about =>
          exact ih _ (issuing.2 _) holds current fun _ _ same => by cases same
      | commit =>
          exact ih _ (issuing.2 _) current current fun _ _ same => by
            cases same
      | rollback =>
          exact ih _ (issuing.2 _) holds holds fun _ _ same => by cases same

/-- What every statement a call may issue keeps, the call keeps. -/
theorem Call.perform_keeps (kept : Store → Prop) {call : Call}
    {moment : Moment} {store : Store}
    (written : ∀ statement state, call.Issues statement →
      statement.Follows state → kept state → kept (state.after statement))
    (holds : kept store) : kept (call.perform moment store).2 :=
  exec_of_issuing kept written call.body_issuing holds holds
    fun _ _ same => by cases same

end AgentLedger
