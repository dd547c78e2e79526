import AgentLedger.Store.Issues

namespace AgentLedger

open Foundation

/-! What each operation can do to the runs and to the steps when it runs by
itself.  Invariants of histories are proved from `Effect`, never from the
programs. -/

/-- `value or new_id(kind)` at the moment. -/
def Moment.given (moment : Moment) (given : Option String) (kind : String) :
    String :=
  match given with
  | some value => if value.isEmpty then moment.id kind else value
  | none => moment.id kind

namespace Store

variable (store : Store)

/-- The runs after an UPDATE of the one named. -/
def runsWith (runId : String) (change : RunRow → RunRow) :
    String → Option RunRow := fun other =>
  if other = runId then (store.run? other).map change else store.run? other

/-- The steps after an UPDATE of the one named. -/
def stepsWith (stepId : String) (change : StepRow → StepRow) :
    String → Option StepRow := fun other =>
  if other = stepId then (store.step? other).map change else store.step? other

theorem runsWith_eq_some {runId other : String} {change : RunRow → RunRow}
    {run : RunRow} :
    store.runsWith runId change other = some run ↔
      (other = runId ∧ ∃ before, store.run? other = some before ∧
        change before = run) ∨
      (other ≠ runId ∧ store.run? other = some run) := by
  unfold runsWith
  split
  case isTrue same => simp [same]
  case isFalse different => simp [different]

theorem stepsWith_eq_some {stepId other : String}
    {change : StepRow → StepRow} {row : StepRow} :
    store.stepsWith stepId change other = some row ↔
      (other = stepId ∧ ∃ before, store.step? other = some before ∧
        change before = row) ∨
      (other ≠ stepId ∧ store.step? other = some row) := by
  unfold stepsWith
  split
  case isTrue same => simp [same]
  case isFalse different => simp [different]

/-- `validate_lease` accepts the token. -/
structure HoldsLease (now : Int) (stepId leaseToken : String)
    (row : StepRow) : Prop where
  found : store.step? stepId = some row
  token : row.leaseToken = some leaseToken
  running : row.status = .running
  unexpired : ∀ leaseUntil, row.leaseUntil = some leaseUntil →
    ¬ leaseUntil < now

/-- A commit by the holder of the lease, on the version it read. -/
structure Accepts (now : Int) (args : CommitArgs) (row : StepRow)
    (run : RunRow) : Prop where
  holds : store.HoldsLease now args.stepId args.leaseToken row
  found : store.run? args.runId = some run
  version : run.stateVersion = args.baseVersion

/-- Whether a commit would be accepted. -/
def accepts (now : Int) (args : CommitArgs) : Bool :=
  ((store.step? args.stepId).any fun row =>
    decide (row.leaseToken = some args.leaseToken) &&
      (decide (row.status = .running) &&
        row.leaseUntil.all fun leaseUntil => !decide (leaseUntil < now))) &&
  ((store.run? args.runId).any fun run =>
    decide (run.stateVersion = args.baseVersion))

theorem accepts_iff {now : Int} {args : CommitArgs} :
    store.accepts now args = true ↔ ∃ row run, store.Accepts now args row run := by
  simp only [accepts, Bool.and_eq_true, Option.any_eq_true,
    decide_eq_true_eq, Option.all_eq_true, Bool.not_eq_true',
    decide_eq_false_iff_not]
  constructor
  · rintro ⟨⟨row, found, token, running, live⟩, run, present, version⟩
    exact ⟨row, run, ⟨found, token, running, live⟩, present, version⟩
  · rintro ⟨row, run, ⟨found, token, running, live⟩, present, version⟩
    exact ⟨⟨row, found, token, running, live⟩, run, present, version⟩

end Store

/-- The calls that take a step's lease away without looking at it: the run and
the step they name, and what becomes of the step. -/
inductive Releases (store : Store) : Call → String → String → Status →
    Option (String × String) → Prop
  | waiting (runId stepId reason : String) (approvalId : Option String) :
      Releases store (.markWaitingHuman runId stepId reason approvalId) runId
        stepId .waitingHuman (some ("ApprovalRequired", reason))
  | retry (runId stepId error errorType : String) (row : StepRow)
      (found : store.step? stepId = some row)
      (allowed : row.retryPolicy.allowsRetryAfterAttempt row.attempt = true) :
      Releases store (.markRetry runId stepId error errorType) runId stepId
        .retryScheduled (some (errorType, error))
  | exhausted (runId stepId error errorType : String) (row : StepRow)
      (found : store.step? stepId = some row)
      (denied : row.retryPolicy.allowsRetryAfterAttempt row.attempt = false) :
      Releases store (.markRetry runId stepId error errorType) runId stepId
        .failed (some (errorType, error))
  | failed (runId stepId error errorType : String) :
      Releases store (.markFailed runId stepId error errorType) runId stepId
        .failed (some (errorType, error))
  | approved (approvalId approver reason : String) (row : ApprovalRow)
      (step : StepRow) (asked : store.approvals.get? approvalId = some row)
      (found : store.step? row.stepId = some step)
      (waits : step.status = .waitingHuman) :
      Releases store (.approveRequest approvalId approver reason) row.runId
        row.stepId .pending none
  | denied (approvalId approver reason : String) (row : ApprovalRow)
      (step : StepRow) (asked : store.approvals.get? approvalId = some row)
      (found : store.step? row.stepId = some step)
      (waits : step.status = .waitingHuman) :
      Releases store (.denyRequest approvalId approver reason) row.runId
        row.stepId .failed (some ("ApprovalDenied", reason))

/-- The run and the steps of `after`, from those of `store`, by call. -/
inductive Effect (store : Store) (moment : Moment) : Call → Store → Prop
  | unchanged {call : Call} {after : Store} (runs : after.run? = store.run?)
      (steps : after.step? = store.step?) : Effect store moment call after
  | created {sessionId : Option String}
      {initialState retryPolicy : Option Fields} {after : Store}
      (run : RunRow) (step : StepRow)
      (freshRun : store.run? run.runId = none)
      (freshStep : store.step? step.stepId = none)
      (own : step.runId = run.runId) (runStatus : run.status = .pending)
      (stepStatus : step.status = .pending) (unclaimed : step.attempt = 0)
      (unleased : step.leaseToken = none)
      (runs : after.run? = Function.update store.run? run.runId (some run))
      (steps : after.step? =
        Function.update store.step? step.stepId (some step)) :
      Effect store moment (.createRun sessionId initialState retryPolicy) after
  | stepCreated {runId : String} {stepId : Option String}
      {retryPolicy : Option Fields} {after : Store} (run : RunRow)
      (step : StepRow) (policy : RetryPolicy)
      (found : store.run? runId = some run)
      (parses : RetryPolicy.fromDict retryPolicy = .ok policy)
      (named : step.stepId = moment.given stepId "step")
      (freshStep : store.step? step.stepId = none)
      (own : step.runId = runId) (stepStatus : step.status = .pending)
      (unclaimed : step.attempt = 0) (unleased : step.leaseToken = none)
      (runs : after.run? = store.runsWith runId (RunRow.setStatus .pending))
      (steps : after.step? =
        Function.update store.step? step.stepId (some step)) :
      Effect store moment (.createExternalStep runId stepId retryPolicy) after
  | claimed {workerId : String} {runId : Option String} {leaseSeconds : Int}
      {after : Store} (row : StepRow)
      (found : store.step? row.stepId = some row)
      (claimable : row.status.claimable = true)
      (runs : after.run? =
        store.runsWith row.runId (RunRow.setStatus .running))
      (steps : after.step? = store.stepsWith row.stepId
        (StepRow.claim workerId (moment.id "lease")
          (moment.now + leaseSeconds) (row.attempt + 1))) :
      Effect store moment (.claimStep workerId runId leaseSeconds) after
  | extended {stepId leaseToken : String} {leaseSeconds : Int}
      {after : Store} (row : StepRow)
      (holds : store.HoldsLease moment.now stepId leaseToken row)
      (runs : after.run? = store.run?)
      (steps : after.step? =
        store.stepsWith stepId (StepRow.extend (moment.now + leaseSeconds))) :
      Effect store moment (.heartbeat stepId leaseToken leaseSeconds) after
  | recovered {after : Store}
      (runs : ∀ runId, after.run? runId = (store.run? runId).map fun run =>
        if store.steps.rows.any fun row =>
            Store.leaseExpired moment.now row && row.runId = runId
        then run.setStatus .retryScheduled else run)
      (steps : ∀ stepId, after.step? stepId =
        (store.step? stepId).map fun row =>
          if Store.leaseExpired moment.now row
          then row.release .retryScheduled none else row) :
      Effect store moment .recoverExpiredLeases after
  | cancelled {runId reason : String} {after : Store} (run : RunRow)
      (found : store.run? runId = some run)
      (live : run.status.terminal = false)
      (runs : after.run? = store.runsWith runId (RunRow.setStatus .cancelled))
      (steps : ∀ stepId, after.step? stepId =
        (store.step? stepId).map fun row =>
          if row.runId = runId && !row.status.terminal
          then row.release .cancelled none else row) :
      Effect store moment (.cancelRun runId reason) after
  | released {call : Call} {runId stepId : String} {status : Status}
      {error : Option (String × String)} {after : Store} (row : StepRow)
      (releases : Releases store call runId stepId status error)
      (found : store.step? stepId = some row)
      (runs : after.run? = store.runsWith runId (RunRow.setStatus status))
      (steps : after.step? =
        store.stepsWith stepId (StepRow.release status error)) :
      Effect store moment call after
  | committed {args : CommitArgs} {after : Store} (row : StepRow)
      (run : RunRow) (accepts : store.Accepts moment.now args row run)
      (runs : after.run? = store.runsWith args.runId
        (RunRow.commit (mergePatch run.state (.obj args.patch))
          (args.baseVersion + 1)))
      (steps : after.step? = store.stepsWith args.stepId
        (StepRow.complete (args.baseVersion + 1) args.checkpointId)) :
      Effect store moment (.commitStatePatch args) after
  | patched {runId reason : String} {patch : Fields} {after : Store}
      (run : RunRow) (found : store.run? runId = some run)
      (runs : after.run? = store.runsWith runId
        (RunRow.patch (mergePatch run.state (.obj patch))
          (run.stateVersion + 1)))
      (steps : after.step? = store.step?) :
      Effect store moment (.applySystemStatePatch runId patch reason) after

/-! ### The effect of each call -/

variable {store : Store} {moment : Moment}

private theorem released_rows {runId stepId : String} {status : Status}
    {error : Option (String × String)} {after : Store}
    (runs : after.run? = ((store.after (.releaseStep stepId status error)).after
      (.setRunStatus runId status)).run?)
    (steps : after.step? =
      ((store.after (.releaseStep stepId status error)).after
        (.setRunStatus runId status)).step?) :
    after.run? = store.runsWith runId (RunRow.setStatus status) ∧
      after.step? =
        store.stepsWith stepId (StepRow.release status error) := by
  constructor
  · rw [runs]
    funext other
    simp [Store.runsWith]
  · rw [steps]
    funext other
    simp [Store.stepsWith]

theorem reads_decidedApproval (approvalId : String) :
    Sql.Reads (decidedApproval approvalId) := by
  simp only [Sql.Reads, decidedApproval, select, Program.bind_call,
    Program.bind_done, Program.uses_call, true_and]
  intro found
  cases found <;> trivial

private theorem decided_rows {approvalId approver reason : String}
    {status : ApprovalStatus} {stepStatus : Status}
    {error : Option (String × String)} {row : ApprovalRow} {step : StepRow}
    (asked : store.approvals.get? approvalId = some row)
    (found : store.step? row.stepId = some step)
    (decides : ∀ work : Store, ∃ args,
      Sql.exec moment.tell
          (Sql.withConn (decideStep row status reason step)) store
          (some work : Option Store) =
        (.ok (), ((work.after (.releaseStep row.stepId stepStatus
          error)).after (.setRunStatus row.runId stepStatus)).append args)) :
    let after := (perform (decideApproval approvalId status approver reason)
      moment store).2
    after.run? = store.runsWith row.runId (RunRow.setStatus stepStatus) ∧
      after.step? = store.stepsWith row.stepId
        (StepRow.release stepStatus error) := by
  simp only [perform, decideApproval, nowTs, Program.bind_call,
    Program.bind_done, exec_nowTs]
  rw [Sql.exec_withConn_bind_reads _ fun _ =>
    reads_decidedApproval approvalId]
  simp only [select, execute, Store.query, asked, found, Program.bind_call,
    Program.bind_done, Sql.withConn_call, exec_select, exec_execute,
    exec_append, Option.getD_none, Option.getD_some, Store.step?_append,
    Store.step?_decideApproval]
  obtain ⟨args, decided⟩ := decides _
  rw [decided]
  constructor
  · funext other
    simp [Store.runsWith]
  · funext other
    simp [Store.stepsWith]

/-- The calls that release a step do so, and set the run they name. -/
theorem performed_of_releases {call : Call} {runId stepId : String}
    {status : Status} {error : Option (String × String)} {row : StepRow}
    (releases : Releases store call runId stepId status error)
    (found : store.step? stepId = some row) :
    (call.perform moment store).2.run? =
        store.runsWith runId (RunRow.setStatus status) ∧
      (call.perform moment store).2.step? =
        store.stepsWith stepId (StepRow.release status error) := by
  simp only [Call.perform]
  cases releases with
  | waiting _ _ reason approvalId =>
      apply released_rows
      all_goals
        funext other
        simp [Call.body, perform, markWaitingHuman, nowTs, select, execute,
          Store.query, found]
  | retry _ _ message errorType step present allowed =>
      rw [found] at present
      cases present
      apply released_rows
      all_goals
        funext other
        simp [Call.body, perform, markRetry, nowTs, select, execute,
          Store.query, found, allowed]
  | exhausted _ _ message errorType step present denied =>
      rw [found] at present
      cases present
      apply released_rows
      all_goals
        funext other
        simp [Call.body, perform, markRetry, nowTs, select, execute,
          Store.query, found, denied]
  | failed _ _ message errorType =>
      apply released_rows
      all_goals
        funext other
        simp [Call.body, perform, markFailed, nowTs, select, execute,
          Store.query, found]
  | approved approvalId approver reason asking step asked present waits =>
      refine decided_rows asked present fun work => ?_
      simp only [decideStep, waits, if_true, execute, Program.bind_call,
        Program.bind_done, Program.pure_eq, Sql.withConn_call,
        Sql.withConn_done, exec_execute, exec_append, Option.getD_some,
        Sql.exec_commit, Sql.exec_done]
      exact ⟨_, rfl⟩
  | denied approvalId approver reason asking step asked present waits =>
      refine decided_rows asked present fun work => ?_
      simp only [decideStep, waits, if_true, execute, Program.bind_call,
        Program.bind_done, Program.pure_eq, Sql.withConn_call,
        Sql.withConn_done, exec_execute, exec_append, Option.getD_some,
        Sql.exec_commit, Sql.exec_done]
      exact ⟨_, rfl⟩

private theorem effect_released {call : Call} {runId stepId : String}
    {status : Status} {error : Option (String × String)} {row : StepRow}
    (releases : Releases store call runId stepId status error)
    (found : store.step? stepId = some row) :
    Effect store moment call (call.perform moment store).2 := by
  obtain ⟨runs, steps⟩ := @performed_of_releases store moment call runId
    stepId status error row releases found
  exact .released row releases found runs steps

theorem effect_markWaitingHuman (runId stepId reason : String)
    (approvalId : Option String) :
    Effect store moment (.markWaitingHuman runId stepId reason approvalId)
      ((Call.markWaitingHuman runId stepId reason approvalId).perform moment
        store).2 := by
  cases found : store.step? stepId with
  | none =>
      simp only [Call.perform, Call.body, perform, markWaitingHuman]
      refine .unchanged ?_ ?_
      all_goals simp [nowTs, select, Store.query, found]
  | some row =>
      exact effect_released (.waiting runId stepId reason approvalId) found

theorem effect_markFailed (runId stepId error errorType : String) :
    Effect store moment (.markFailed runId stepId error errorType)
      ((Call.markFailed runId stepId error errorType).perform moment
        store).2 := by
  cases found : store.step? stepId with
  | none =>
      simp only [Call.perform, Call.body, perform, markFailed]
      refine .unchanged ?_ ?_
      all_goals simp [nowTs, select, Store.query, found]
  | some row =>
      exact effect_released (.failed runId stepId error errorType) found

theorem effect_markRetry (runId stepId error errorType : String) :
    Effect store moment (.markRetry runId stepId error errorType)
      ((Call.markRetry runId stepId error errorType).perform moment
        store).2 := by
  cases found : store.step? stepId with
  | none =>
      simp only [Call.perform, Call.body, perform, markRetry]
      refine .unchanged ?_ ?_
      all_goals simp [nowTs, select, Store.query, found]
  | some row =>
      cases allowed : row.retryPolicy.allowsRetryAfterAttempt row.attempt with
      | true =>
          exact effect_released
            (.retry runId stepId error errorType row found allowed) found
      | false =>
          exact effect_released
            (.exhausted runId stepId error errorType row found allowed) found

/-- A decision touches the step only while it waits for one. -/
private theorem effect_decideApproval {call : Call}
    {approvalId approver reason : String} {status : ApprovalStatus}
    {stepStatus : Status} {error : Option (String × String)}
    (body : (call.perform moment store).2 =
      (perform (decideApproval approvalId status approver reason) moment
        store).2)
    (releases : ∀ row step, store.approvals.get? approvalId = some row →
      store.step? row.stepId = some step → step.status = .waitingHuman →
      Releases store call row.runId row.stepId stepStatus error) :
    Effect store moment call (call.perform moment store).2 := by
  cases asked : store.approvals.get? approvalId with
  | none =>
      rw [body]
      simp only [perform, decideApproval]
      refine .unchanged ?_ ?_
      all_goals simp [nowTs, select, Store.query, asked]
  | some row =>
      cases found : store.step? row.stepId with
      | none =>
          rw [body]
          simp only [perform, decideApproval, nowTs, Program.bind_call,
            Program.bind_done, exec_nowTs]
          rw [Sql.exec_withConn_bind_reads _ fun _ =>
            reads_decidedApproval approvalId]
          refine .unchanged ?_ ?_
          all_goals
            funext other
            simp [select, execute, Store.query, asked, found]
      | some step =>
          by_cases waits : step.status = .waitingHuman
          · exact effect_released (releases row step asked found waits) found
          · have settled : decideStep row status reason step = .done () := by
              simp [decideStep, waits]
            rw [body]
            simp only [perform, decideApproval, nowTs, Program.bind_call,
              Program.bind_done, exec_nowTs]
            rw [Sql.exec_withConn_bind_reads _ fun _ =>
              reads_decidedApproval approvalId]
            refine .unchanged ?_ ?_
            all_goals
              funext other
              simp [select, execute, Store.query, asked, found, settled]

theorem effect_approveRequest (approvalId approver reason : String) :
    Effect store moment (.approveRequest approvalId approver reason)
      ((Call.approveRequest approvalId approver reason).perform moment
        store).2 :=
  effect_decideApproval rfl fun row step asked found waits =>
    .approved approvalId approver reason row step asked found waits

theorem effect_denyRequest (approvalId approver reason : String) :
    Effect store moment (.denyRequest approvalId approver reason)
      ((Call.denyRequest approvalId approver reason).perform moment
        store).2 :=
  effect_decideApproval rfl fun row step asked found waits =>
    .denied approvalId approver reason row step asked found waits

/-! #### Leases -/

theorem reads_validateLease (stepId leaseToken : String) :
    Sql.Reads (validateLease stepId leaseToken) := by
  simp only [Sql.Reads, validateLease, select, nowTs, Program.bind_call,
    Program.bind_done, Program.uses_call, true_and]
  intro found
  cases found with
  | none => trivial
  | some row =>
      simp only
      split
      · trivial
      · split
        · trivial
        · refine ⟨trivial, fun now => ?_⟩
          beta_reduce
          split <;> trivial

theorem perform_validateLease {stepId leaseToken : String} {row : StepRow}
    (holds : store.HoldsLease moment.now stepId leaseToken row) :
    perform (validateLease stepId leaseToken) moment store =
      (.ok row, store) := by
  have live := holds.unexpired
  cases until_ : row.leaseUntil with
  | none =>
      simp [perform, validateLease, select, Store.query, holds.found,
        holds.token, holds.running, until_]
  | some leaseUntil =>
      rw [until_] at live
      simp [perform, validateLease, select, nowTs, Store.query, holds.found,
        holds.token, holds.running, until_, Moment.tell, live leaseUntil rfl]

/-- Without the lease `validate_lease` raises. -/
theorem perform_validateLease_refused {stepId leaseToken : String}
    (refused : ∀ row, ¬ store.HoldsLease moment.now stepId leaseToken row) :
    ∃ error, error.refuses = true ∧
      perform (validateLease stepId leaseToken) moment store =
        (.error error, store) := by
  cases found : store.step? stepId with
  | none =>
      simp [perform, validateLease, select, Store.query, found,
        PyError.refuses, PyError.keyError]
  | some row =>
      by_cases stale : row.leaseToken ≠ some leaseToken ∨ row.status ≠ .running
      · simp [perform, validateLease, select, Store.query, found, stale,
          PyError.refuses, PyError.runtimeError]
      · obtain ⟨token, running⟩ := not_or.mp stale
        have token := not_not.mp token
        have running := not_not.mp running
        cases until_ : row.leaseUntil with
        | none =>
            exact absurd ⟨found, token, running, by simp [until_]⟩
              (refused row)
        | some leaseUntil =>
            by_cases expired : leaseUntil < moment.now
            · simp [perform, validateLease, select, nowTs, Store.query, found,
                token, running, until_, Moment.tell, expired, PyError.refuses,
                PyError.runtimeError]
            · exact absurd ⟨found, token, running, by simpa [until_] using expired⟩
                (refused row)

theorem effect_heartbeat (stepId leaseToken : String) (leaseSeconds : Int) :
    Effect store moment (.heartbeat stepId leaseToken leaseSeconds)
      ((Call.heartbeat stepId leaseToken leaseSeconds).perform moment
        store).2 := by
  simp only [Call.perform, Call.body, perform, heartbeat]
  rw [Sql.exec_reads_bind (reads_validateLease stepId leaseToken)]
  by_cases held : ∃ row, store.HoldsLease moment.now stepId leaseToken row
  · obtain ⟨row, holds⟩ := held
    have validated := perform_validateLease holds
    simp only [perform] at validated
    rw [validated]
    refine .extended row holds ?_ ?_
    · funext other
      simp [nowTs, execute, Sql.exec_withConn_bind]
    · funext other
      simp only [nowTs, execute, Program.bind_call, Program.bind_done,
        exec_nowTs, Sql.exec_withConn_bind, Sql.withConn_call, exec_execute,
        exec_append, Option.getD_none, Option.getD_some, Program.pure_eq,
        Sql.withConn_done, Sql.exec_commit, Sql.exec_done, Store.step?_append,
        Store.step?_extendLease, Store.stepsWith]
      split
      case isTrue same =>
          subst same
          simp [holds.found, holds.token, holds.running, Moment.tell]
      case isFalse => rfl
  · obtain ⟨error, refuses, raised⟩ := perform_validateLease_refused
      (not_exists.mp held)
    simp only [perform] at raised
    rw [raised]
    exact .unchanged rfl rfl

theorem perform_commitStatePatch {args : CommitArgs} {row : StepRow}
    {run : RunRow} (accepts : store.Accepts moment.now args row run) :
    perform (commitStatePatch args) moment store =
      (.ok (args.baseVersion + 1),
        (((store.after (.commitRun args.runId args.baseVersion
          (mergePatch run.state (.obj args.patch))
            (args.baseVersion + 1))).after
          (.completeStep args.stepId (args.baseVersion + 1)
            args.checkpointId)).append
          (stateCommitted args row (args.baseVersion + 1))).append
          (stepCompleted args row (args.baseVersion + 1))) := by
  have validated := perform_validateLease accepts.holds
  simp only [perform] at validated
  simp only [perform, commitStatePatch, nowTs, Program.bind_call,
    Program.bind_done, exec_nowTs]
  rw [Sql.exec_withConn_reads_bind
    (reads_validateLease args.stepId args.leaseToken), validated]
  simp [AgentLedger.run, select, execute, Store.query, accepts.found,
    accepts.version]

theorem perform_commitStatePatch_refused {args : CommitArgs}
    (refused : ∀ row run, ¬ store.Accepts moment.now args row run) :
    ∃ error, error.refuses = true ∧
      perform (commitStatePatch args) moment store = (.error error, store) := by
  simp only [perform, commitStatePatch, nowTs, Program.bind_call,
    Program.bind_done, exec_nowTs]
  rw [Sql.exec_withConn_reads_bind
    (reads_validateLease args.stepId args.leaseToken)]
  by_cases held : ∃ row,
      store.HoldsLease moment.now args.stepId args.leaseToken row
  · obtain ⟨row, holds⟩ := held
    have validated := perform_validateLease holds
    simp only [perform] at validated
    rw [validated]
    cases found : store.run? args.runId with
    | none =>
        simp [AgentLedger.run, select, Store.query, found, PyError.refuses,
          PyError.keyError]
    | some run =>
        have version : run.stateVersion ≠ args.baseVersion := fun same =>
          refused row run ⟨holds, found, same⟩
        simp [AgentLedger.run, select, Store.query, found, version,
          PyError.refuses, versionConflict, PyError.runtimeError]
  · obtain ⟨error, refuses, raised⟩ := perform_validateLease_refused
      (not_exists.mp held)
    simp only [perform] at raised
    rw [raised]
    exact ⟨error, refuses, rfl⟩

theorem performed_commitStatePatch {args : CommitArgs} {row : StepRow}
    {run : RunRow} (accepts : store.Accepts moment.now args row run) :
    let after := ((Call.commitStatePatch args).perform moment store).2
    after.run? = store.runsWith args.runId
        (RunRow.commit (mergePatch run.state (.obj args.patch))
          (args.baseVersion + 1)) ∧
      after.step? = store.stepsWith args.stepId
        (StepRow.complete (args.baseVersion + 1) args.checkpointId) := by
  simp only [Call.perform, Call.body, perform_commitStatePatch accepts]
  constructor
  · funext other
    simp only [Store.run?_append, Store.run?_completeStep,
      Store.run?_commitRun, Store.runsWith]
    split
    case isTrue same =>
        subst same
        simp [accepts.found, accepts.version]
    case isFalse => rfl
  · funext other
    simp [Store.stepsWith]

theorem effect_commitStatePatch (args : CommitArgs) :
    Effect store moment (.commitStatePatch args)
      ((Call.commitStatePatch args).perform moment store).2 := by
  by_cases accepted : ∃ row run, store.Accepts moment.now args row run
  · obtain ⟨row, run, accepts⟩ := accepted
    obtain ⟨runs, steps⟩ := performed_commitStatePatch accepts
    exact .committed row run accepts runs steps
  · simp only [not_exists] at accepted
    obtain ⟨error, _, raised⟩ := perform_commitStatePatch_refused accepted
    simp only [Call.perform, Call.body, raised]
    exact .unchanged rfl rfl

/-- The answer of `load_state`, which changes nothing. -/
theorem performed_loadState {runId : String} :
    (Call.loadState runId).perform moment store =
      (match store.run? runId with
        | some run => .ok (run.state, run.stateVersion, run.sessionId)
        | none => .error (.keyError ("run not found: " ++ runId)), store) := by
  simp only [Call.perform, Call.body, perform, loadState, AgentLedger.run,
    select, Program.bind_call, Program.bind_done, exec_select,
    Option.getD_none, Store.query]
  cases store.run? runId with
  | none => rfl
  | some run => rfl

theorem perform_loadState {runId : String}
    {loaded : Json × Int × String} :
    ((Call.loadState runId).perform moment store).1 = .ok loaded ↔
      ∃ run, store.run? runId = some run ∧
        (run.state, run.stateVersion, run.sessionId) = loaded := by
  rw [performed_loadState]
  cases store.run? runId with
  | none => simp
  | some run => simp

/-! ### The lookup of an archived response -/

section Lookup

variable {runId toolName requestHash : String} {row : LedgerRow}

/-- What the lookup returns is one of the newest rows that the pattern matches,
or one of the newest for the same request. -/
theorem returned_findSucceeded {logicalOperation : Option String}
    (answer : ((Call.findSucceededLedgerResponse runId toolName
      logicalOperation requestHash).perform moment store).1 =
        .ok (some row)) :
    (∃ operation, logicalOperation.filter (fun text => !text.isEmpty) =
        some operation ∧
      ("%" ++ (":" ++ toolName ++ ":" ++ operation)).utf8ByteSize ≤
        likeLimit ∧
      row ∈ foremost LedgerRow.age (store.likeRows runId toolName
        ("%" ++ (":" ++ toolName ++ ":" ++ operation)))) ∨
    row ∈ foremost LedgerRow.age
      (store.hashRows runId toolName requestHash) := by
  simp only [Call.perform, perform, Call.body, findSucceededLedgerResponse,
    anyTie, Program.bind_call, Program.bind_done, exec_anyTie] at answer
  cases given : logicalOperation.filter fun text => !text.isEmpty with
  | none =>
      rw [given] at answer
      exact .inr (firstBy_foremost (Except.ok.inj answer))
  | some operation =>
      rw [given] at answer
      simp only [select, Program.bind_call, Program.bind_done, exec_select,
        Option.getD_none, Moment.tell] at answer
      cases named : store.query (.succeededLike runId toolName
          ("%" ++ (":" ++ toolName ++ ":" ++ operation)) moment.tie) with
      | error error =>
          rw [named] at answer
          cases answer
      | ok found =>
          rw [named] at answer
          cases found with
          | none => exact .inr (firstBy_foremost (Except.ok.inj answer))
          | some other =>
              cases answer
              simp only [Store.query] at named
              split at named
              · cases named
              · rename_i allowed
                have first := firstBy_foremost (Except.ok.inj named)
                have present : row ∈ store.succeededRows runId toolName :=
                  (List.mem_filter.mp (mem_foremost.mp first).1).1
                refine .inl ⟨operation, rfl, Nat.not_lt.mp fun long => ?_,
                  first⟩
                exact allowed ⟨long, List.ne_nil_of_mem present⟩

/-- Every one of the newest rows that the pattern matches may be returned. -/
theorem perform_findSucceeded_newest {logicalOperation : Option String}
    {operation : String}
    (given : logicalOperation.filter (fun text => !text.isEmpty) =
      some operation)
    (short : ("%" ++ (":" ++ toolName ++ ":" ++ operation)).utf8ByteSize ≤
      likeLimit)
    (newest : row ∈ foremost LedgerRow.age (store.likeRows runId toolName
      ("%" ++ (":" ++ toolName ++ ":" ++ operation)))) :
    ∃ moment, ((Call.findSucceededLedgerResponse runId toolName
      logicalOperation requestHash).perform moment store).1 =
        .ok (some row) := by
  obtain ⟨tie, first⟩ := exists_firstBy newest
  refine ⟨⟨0, id, tie⟩, ?_⟩
  have named : store.query (.succeededLike runId toolName
      ("%" ++ (":" ++ toolName ++ ":" ++ operation)) tie) =
        .ok (some row) := by
    simp only [Store.query]
    rw [if_neg fun long => absurd long.1 (Nat.not_lt.mpr short), first]
  simp only [Call.perform, perform, Call.body, findSucceededLedgerResponse,
    anyTie, Program.bind_call, Program.bind_done, exec_anyTie, given, select,
    exec_select, Option.getD_none, Moment.tell, named]
  rfl

end Lookup

theorem perform_applySystemStatePatch {runId : String} {run : RunRow}
    (found : store.run? runId = some run) (patch : Fields) (reason : String) :
    perform (applySystemStatePatch runId patch reason) moment store =
      (.ok (run.stateVersion + 1),
        (store.after (.patchRun runId run.stateVersion
          (mergePatch run.state (.obj patch)) (run.stateVersion + 1))).append
            (systemStatePatchApplied runId run patch reason
              (run.stateVersion + 1))) := by
  simp [perform, applySystemStatePatch, nowTs, AgentLedger.run, select,
    execute, Store.query, found]

theorem perform_applySystemStatePatch_missing {runId : String}
    (missing : store.run? runId = none) (patch : Fields) (reason : String) :
    ∃ error, perform (applySystemStatePatch runId patch reason) moment store =
      (.error error, store) := by
  simp [perform, applySystemStatePatch, nowTs, AgentLedger.run, select,
    Store.query, missing]

theorem performed_applySystemStatePatch {runId : String} {run : RunRow}
    (found : store.run? runId = some run) (patch : Fields) (reason : String) :
    ((Call.applySystemStatePatch runId patch reason).perform moment store).1 =
        .ok (run.stateVersion + 1) ∧
    ((Call.applySystemStatePatch runId patch reason).perform moment
      store).2.run? = store.runsWith runId (RunRow.patch
        (mergePatch run.state (.obj patch)) (run.stateVersion + 1)) ∧
    ((Call.applySystemStatePatch runId patch reason).perform moment
      store).2.step? = store.step? := by
  simp only [Call.perform, Call.body]
  rw [perform_applySystemStatePatch found]
  refine ⟨rfl, ?_, ?_⟩
  · funext other
    simp only [Store.run?_append, Store.run?_patchRun, Store.runsWith]
    split
    case isTrue same =>
        subst same
        simp [found]
    case isFalse => rfl
  · funext other
    simp

theorem effect_applySystemStatePatch (runId : String) (patch : Fields)
    (reason : String) :
    Effect store moment (.applySystemStatePatch runId patch reason)
      ((Call.applySystemStatePatch runId patch reason).perform moment
        store).2 := by
  cases found : store.run? runId with
  | none =>
      obtain ⟨error, raised⟩ := @perform_applySystemStatePatch_missing store
        moment runId found patch reason
      simp only [Call.perform, Call.body, raised]
      exact .unchanged rfl rfl
  | some row =>
      obtain ⟨_, runs, steps⟩ := @performed_applySystemStatePatch store moment
        runId row found patch reason
      exact .patched row found runs steps

/-- The claim of the candidate its SELECT returned. -/
def StepRow.claimBy (row : StepRow) (moment : Moment) (leaseSeconds : Int) :
    StepClaim :=
  { runId := row.runId
    sessionId := row.sessionId
    stepId := row.stepId
    attempt := row.attempt + 1
    leaseToken := moment.id "lease"
    stateVersion := row.stateVersion
    leaseUntil := moment.now + leaseSeconds }

private theorem perform_claimLoop_none {workerId : String}
    {runId : Option String} {leaseSeconds : Int}
    (chosen : store.query (.claimable runId moment.tie) = none)
    (tries : Nat) :
    perform (claimLoop workerId runId leaseSeconds (tries + 1)) moment store =
      (.ok none, store) := by
  simp [perform, claimLoop, nowTs, anyTie, select, Moment.tell, chosen]

/-- Nobody else runs, so the guarded UPDATE finds the candidate as read. -/
theorem perform_claimLoop_some {workerId : String}
    {runId : Option String} {leaseSeconds : Int} {row : StepRow}
    (chosen : store.query (.claimable runId moment.tie) = some row)
    (tries : Nat) :
    perform (claimLoop workerId runId leaseSeconds (tries + 1)) moment store =
      (.ok (some (row.claimBy moment leaseSeconds)),
        ((store.after (.claimStep row.stepId workerId (moment.id "lease")
          (moment.now + leaseSeconds) (row.attempt + 1))).after
            (.setRunStatus row.runId .running)).append
          { runId := row.runId
            sessionId := some row.sessionId
            stepId := some row.stepId
            type := .stepClaimed
            payload := .obj
              [("attempt", .int (row.attempt + 1)),
                ("lease_token", .str (moment.id "lease")),
                ("lease_until", .int (moment.now + leaseSeconds)),
                ("worker_id", .str workerId)] }) := by
  obtain ⟨found, claimable, _⟩ := Store.claimable_found chosen
  have counted := store.count_claimStep row.stepId workerId
    (moment.id "lease") (moment.now + leaseSeconds) (row.attempt + 1)
  simp only [found, Option.any_some, claimable, if_true] at counted
  simp [perform, claimLoop, nowTs, anyTie, newId, select, execute, chosen,
    claimRow, Moment.tell, Sql.exec_withConn_bind, counted, StepRow.claimBy]

theorem performed_claimStep_none {workerId : String} {runId : Option String}
    {leaseSeconds : Int}
    (chosen : store.query
      (.claimable (runId.filter fun text => !text.isEmpty) moment.tie) =
        none) :
    (Call.claimStep workerId runId leaseSeconds).perform moment store =
      (.ok none, store) :=
  perform_claimLoop_none chosen 63

theorem performed_claimStep_some {workerId : String} {runId : Option String}
    {leaseSeconds : Int} {row : StepRow}
    (chosen : store.query
      (.claimable (runId.filter fun text => !text.isEmpty) moment.tie) =
        some row) :
    let outcome := (Call.claimStep workerId runId leaseSeconds).perform moment
      store
    outcome.1 = .ok (some (row.claimBy moment leaseSeconds)) ∧
      outcome.2.run? =
        store.runsWith row.runId (RunRow.setStatus .running) ∧
      outcome.2.step? = store.stepsWith row.stepId
        (StepRow.claim workerId (moment.id "lease")
          (moment.now + leaseSeconds) (row.attempt + 1)) := by
  obtain ⟨found, claimable, _⟩ := Store.claimable_found chosen
  simp only [Call.perform, Call.body, claimStep]
  rw [perform_claimLoop_some chosen]
  refine ⟨rfl, ?_, ?_⟩
  · funext other
    simp [Store.runsWith]
  · funext other
    simp only [Store.step?_append, Store.step?_setRunStatus,
      Store.step?_claimStep, Store.stepsWith]
    split
    case isTrue same =>
        subst same
        simp [found, claimable]
    case isFalse => rfl

/-- By itself `claim_step` finds nothing, or takes its first candidate. -/
theorem performed_claimStep (workerId : String) (runId : Option String)
    (leaseSeconds : Int) :
    let outcome := (Call.claimStep workerId runId leaseSeconds).perform moment
      store
    outcome = (.ok none, store) ∨
      ∃ row, store.step? row.stepId = some row ∧
        row.status.claimable = true ∧
        outcome.1 = .ok (some (row.claimBy moment leaseSeconds)) ∧
        outcome.2.run? =
          store.runsWith row.runId (RunRow.setStatus .running) ∧
        outcome.2.step? = store.stepsWith row.stepId
          (StepRow.claim workerId (moment.id "lease")
            (moment.now + leaseSeconds) (row.attempt + 1)) := by
  cases chosen : store.query
      (.claimable (runId.filter fun text => !text.isEmpty) moment.tie) with
  | none => exact .inl (performed_claimStep_none chosen)
  | some row =>
      obtain ⟨found, claimable, _⟩ := Store.claimable_found chosen
      exact .inr ⟨row, found, claimable, performed_claimStep_some chosen⟩

theorem effect_claimStep (workerId : String) (runId : Option String)
    (leaseSeconds : Int) :
    Effect store moment (.claimStep workerId runId leaseSeconds)
      ((Call.claimStep workerId runId leaseSeconds).perform moment
        store).2 := by
  rcases @performed_claimStep store moment workerId runId leaseSeconds with
    idle | ⟨row, found, claimable, _, runs, steps⟩
  · rw [idle]
    exact .unchanged rfl rfl
  · exact .claimed row found claimable runs steps

theorem returned_claimStep {workerId : String} {runId : Option String}
    {leaseSeconds : Int} {claim : StepClaim}
    (returned : ((Call.claimStep workerId runId leaseSeconds).perform moment
      store).1 = .ok (some claim)) :
    ∃ row, store.step? row.stepId = some row ∧ row.status.claimable = true ∧
      claim = row.claimBy moment leaseSeconds ∧
      ((Call.claimStep workerId runId leaseSeconds).perform moment
        store).2.step? = store.stepsWith row.stepId
          (StepRow.claim workerId (moment.id "lease")
            (moment.now + leaseSeconds) (row.attempt + 1)) := by
  rcases @performed_claimStep store moment workerId runId leaseSeconds with
    idle | ⟨row, found, claimable, answered, _, steps⟩
  · rw [idle] at returned
    cases returned
  · rw [answered] at returned
    cases returned
    exact ⟨row, found, claimable, rfl, steps⟩

/-! #### The loops -/

/-- What the body of `recover_expired_leases` does to one running step. -/
def Store.recoverOne (store : Store) (row : StepRow) : Store :=
  (((store.after (.recoverStep row.stepId)).after
    (.setRunStatus row.runId .retryScheduled)).append
      { runId := row.runId
        sessionId := some row.sessionId
        stepId := some row.stepId
        type := .leaseExpired
        payload := .obj
          [("attempt", .int row.attempt),
            ("previous_owner", Json.optional row.owner)] }).append
      { runId := row.runId
        sessionId := some row.sessionId
        stepId := some row.stepId
        type := .stepRetryScheduled
        payload := .obj
          [("reason", .str "lease_expired"), ("step_id", .str row.stepId)] }

/-- The rows of one SELECT have different keys, so no turn of the loop stops
the step of another from being found running. -/
private theorem exec_recoverRows {rows : List StepRow}
    (distinct : (rows.map StepRow.stepId).Nodup) {work : Option Store}
    (running : ∀ row ∈ rows, ∃ current,
      (work.getD store).step? row.stepId = some current ∧
        current.status = .running)
    (recovered : Nat) :
    Sql.exec moment.tell (Sql.withConn (recoverRows rows recovered)) store
        work =
      (.ok (recovered + rows.length),
        rows.foldl Store.recoverOne (work.getD store)) := by
  induction rows generalizing work recovered with
  | nil => simp [recoverRows]
  | cons row rest ih =>
      rw [List.map_cons, List.nodup_cons] at distinct
      obtain ⟨current, found, status⟩ := running row List.mem_cons_self
      have counted :
          ((work.getD store).write (.recoverStep row.stepId)).1 = 1 := by
        rw [Store.count_recoverStep, found]
        simp [status]
      have others : ∀ other ∈ rest, ∃ current,
          ((work.getD store).recoverOne row).step? other.stepId =
            some current ∧ current.status = .running := by
        intro other member
        obtain ⟨later, laterFound, laterStatus⟩ :=
          running other (List.mem_cons_of_mem _ member)
        have different : other.stepId ≠ row.stepId := fun same =>
          distinct.1 (List.mem_map.mpr ⟨other, member, same⟩)
        refine ⟨later, ?_, laterStatus⟩
        simp [Store.recoverOne, different, laterFound]
      have continued := @ih distinct.2
        (some ((work.getD store).recoverOne row)) others (recovered + 1)
      simp only [recoverRows, execute, Program.bind_call, Program.bind_done,
        Sql.withConn_call, exec_execute, Option.getD_some, counted, ne_eq,
        not_true, if_false, exec_append]
      rw [List.foldl_cons, List.length_cons, Nat.add_comm rest.length,
        ← Nat.add_assoc]
      exact continued

private theorem step?_recoverOne (row : StepRow) (stepId : String) :
    (store.recoverOne row).step? stepId =
      if stepId = row.stepId then
        (store.step? stepId).map fun current =>
          if current.status = .running then
            current.release .retryScheduled none
          else current
      else store.step? stepId := by
  simp [Store.recoverOne]

private theorem step?_recoverAll (rows : List StepRow) (stepId : String) :
    (rows.foldl Store.recoverOne store).step? stepId =
      if stepId ∈ rows.map StepRow.stepId then
        (store.step? stepId).map fun current =>
          if current.status = .running then
            current.release .retryScheduled none
          else current
      else store.step? stepId := by
  induction rows generalizing store with
  | nil => simp
  | cons row rest ih =>
      rw [List.foldl_cons, ih, step?_recoverOne]
      by_cases here : stepId = row.stepId
      · by_cases later : stepId ∈ rest.map StepRow.stepId
        · rw [if_pos later, if_pos here, if_pos (by simp [here]),
            Option.map_map]
          congr 1
          funext current
          by_cases status : current.status = .running
          · simp [status, StepRow.release]
          · simp [status]
        · rw [if_neg later, if_pos here, if_pos (by simp [here])]
      · rw [if_neg here]
        by_cases later : stepId ∈ rest.map StepRow.stepId
        · rw [if_pos later, if_pos (by simpa [here] using later)]
        · rw [if_neg later, if_neg (by simpa [here] using later)]

private theorem run?_recoverAll (rows : List StepRow) (runId : String) :
    (rows.foldl Store.recoverOne store).run? runId =
      (store.run? runId).map fun run =>
        if rows.any fun row => row.runId = runId then
          run.setStatus .retryScheduled
        else run := by
  induction rows generalizing store with
  | nil => simp
  | cons row rest ih =>
      rw [List.foldl_cons, ih]
      cases found : store.run? runId with
      | none => simp [Store.recoverOne, found]
      | some run =>
          by_cases here : runId = row.runId
          · subst here
            simp [Store.recoverOne, found, RunRow.setStatus]
          · have different : row.runId ≠ runId := fun same => here same.symm
            simp [Store.recoverOne, found, here, different]

/-- By itself the recovery finds every row of its SELECT still running. -/
theorem perform_recoverExpiredLeases :
    perform recoverExpiredLeases moment store =
      (.ok (store.steps.rows.filter
          (Store.leaseExpired moment.now)).length,
        (store.steps.rows.filter (Store.leaseExpired moment.now)).foldl
          Store.recoverOne store) := by
  have distinct : ((store.steps.rows.filter
      (Store.leaseExpired moment.now)).map StepRow.stepId).Nodup :=
    store.steps.distinct.sublist (List.filter_sublist.map _)
  have running : ∀ row ∈ store.steps.rows.filter
      (Store.leaseExpired moment.now), ∃ current,
        store.step? row.stepId = some current ∧ current.status = .running := by
    intro row member
    obtain ⟨present, expired⟩ := List.mem_filter.mp member
    simp only [Store.leaseExpired, Bool.and_eq_true, decide_eq_true_eq]
      at expired
    exact ⟨row, Table.get?_eq_some_iff.mpr ⟨present, rfl⟩, expired.1⟩
  have looped := @exec_recoverRows store moment _ distinct none running 0
  rw [Nat.zero_add] at looped
  exact looped

theorem performed_recoverExpiredLeases :
    let after := (Call.recoverExpiredLeases.perform moment store).2
    (∀ runId, after.run? runId = (store.run? runId).map fun run =>
      if store.steps.rows.any fun row =>
          Store.leaseExpired moment.now row && row.runId = runId
      then run.setStatus .retryScheduled else run) ∧
    ∀ stepId, after.step? stepId = (store.step? stepId).map fun row =>
      if Store.leaseExpired moment.now row
      then row.release .retryScheduled none else row := by
  simp only [Call.perform, Call.body, perform_recoverExpiredLeases]
  constructor
  · intro runId
    rw [run?_recoverAll, List.any_filter]
  · intro stepId
    rw [step?_recoverAll]
    cases found : store.step? stepId with
    | none => simp
    | some row =>
        have selected : stepId ∈ (store.steps.rows.filter
            (Store.leaseExpired moment.now)).map StepRow.stepId ↔
              Store.leaseExpired moment.now row = true := by
          rw [Table.mem_filter_key]
          simp only [Store.step?] at found
          simp [found]
        simp only [selected, Option.map_some]
        by_cases expired : Store.leaseExpired moment.now row = true
        · have running := expired
          simp only [Store.leaseExpired, Bool.and_eq_true,
            decide_eq_true_eq] at running
          simp [expired, running.1]
        · simp [expired]

theorem effect_recoverExpiredLeases :
    Effect store moment .recoverExpiredLeases
      (Call.recoverExpiredLeases.perform moment store).2 := by
  obtain ⟨runs, steps⟩ := @performed_recoverExpiredLeases store moment
  exact .recovered runs steps

/-! #### Cancellation -/

private def Store.cancelOne (runId reason : String) (store : Store)
    (row : StepRow) : Store :=
  (store.after (.releaseStep row.stepId .cancelled none)).append
    { runId := runId
      sessionId := some row.sessionId
      stepId := some row.stepId
      type := .stepCancelled
      payload := .obj [("reason", .str reason)] }

private theorem exec_cancelRows {α : Type} (runId reason : String)
    (rows : List StepRow) (next : Unit → StoreM α) (work : Store) :
    Sql.exec moment.tell
        (Sql.withConn (cancelRows runId reason rows >>= next)) store
        (some work : Option Store) =
      Sql.exec moment.tell (Sql.withConn (next ())) store
        (some (rows.foldl (Store.cancelOne runId reason) work) :
          Option Store) := by
  induction rows generalizing work with
  | nil => simp [cancelRows]
  | cons row rest ih =>
      simp only [cancelRows, execute, Program.bind_call, Program.bind_done,
        Program.bind_assoc, Sql.withConn_call, exec_execute, exec_append,
        Option.getD_some, List.foldl_cons]
      exact ih _

private theorem run?_cancelAll (runId reason : String) (rows : List StepRow) :
    (rows.foldl (Store.cancelOne runId reason) store).run? = store.run? := by
  induction rows generalizing store with
  | nil => rfl
  | cons row rest ih =>
      rw [List.foldl_cons, ih]
      funext other
      simp [Store.cancelOne]

private theorem step?_cancelAll (runId reason : String) (rows : List StepRow)
    (stepId : String) :
    (rows.foldl (Store.cancelOne runId reason) store).step? stepId =
      if stepId ∈ rows.map StepRow.stepId then
        (store.step? stepId).map (StepRow.release .cancelled none)
      else store.step? stepId := by
  induction rows generalizing store with
  | nil => simp
  | cons row rest ih =>
      rw [List.foldl_cons, ih]
      simp only [Store.cancelOne, Store.step?_append, Store.step?_releaseStep]
      by_cases here : stepId = row.stepId
      · by_cases later : stepId ∈ rest.map StepRow.stepId
        · rw [if_pos later, if_pos here, if_pos (by simp [here]),
            Option.map_map]
          rfl
        · rw [if_neg later, if_pos here, if_pos (by simp [here])]
      · rw [if_neg here]
        by_cases later : stepId ∈ rest.map StepRow.stepId
        · rw [if_pos later, if_pos (by simpa [here] using later)]
        · rw [if_neg later, if_neg (by simpa [here] using later)]

/-- A run that is no more live is left alone, and the answer is 0. -/
theorem perform_cancelRun_terminal {runId reason : String} {run : RunRow}
    (found : store.run? runId = some run)
    (ended : run.status.terminal = true) :
    perform (cancelRun runId reason) moment store = (.ok 0, store) := by
  simp [perform, cancelRun, AgentLedger.run, nowTs, select, Store.query, found,
    ended]

theorem effect_cancelRun (runId reason : String) :
    Effect store moment (.cancelRun runId reason)
      ((Call.cancelRun runId reason).perform moment store).2 := by
  simp only [Call.perform, Call.body]
  cases found : store.run? runId with
  | none =>
      refine .unchanged ?_ ?_
      all_goals
        simp [perform, cancelRun, AgentLedger.run, nowTs, select, Store.query,
          found]
  | some run =>
      cases ended : run.status.terminal with
      | true =>
          rw [perform_cancelRun_terminal found ended]
          exact .unchanged rfl rfl
      | false =>
          refine .cancelled run found ended ?_ ?_
          · funext other
            simp [perform, cancelRun, AgentLedger.run, nowTs, select, execute,
              Store.query, found, ended, Sql.exec_withConn_bind,
              exec_cancelRows, run?_cancelAll, Store.runsWith]
          · intro stepId
            have selected : stepId ∈ (store.steps.rows.filter fun row =>
                decide (row.runId = runId) && !row.status.terminal).map
                  StepRow.stepId ↔
                ∃ row, store.step? stepId = some row ∧
                  (decide (row.runId = runId) && !row.status.terminal) =
                    true := Table.mem_filter_key
            simp only [perform, cancelRun, AgentLedger.run, nowTs, select,
              execute, Store.query, found, ended, Sql.exec_withConn_bind,
              exec_cancelRows, step?_cancelAll, Program.bind_call,
              Program.bind_done, exec_nowTs, exec_select,
              exec_execute, exec_append, Option.getD_none, Option.getD_some,
              Bool.false_eq_true, if_false, Program.pure_eq,
              Sql.withConn_call, Sql.withConn_done, Sql.exec_commit,
              Sql.exec_done, Store.step?_append, Store.step?_setRunStatus,
              selected]
            cases here : store.step? stepId with
            | none => simp
            | some row =>
                by_cases open_ : (decide (row.runId = runId) &&
                    !row.status.terminal) = true
                · simp only [Option.some.injEq, exists_eq_left', open_, if_true,
                    Option.map_some]
                · simp only [Option.some.injEq, exists_eq_left', open_,
                    Bool.false_eq_true, if_false, Option.map_some]

/-! #### New runs and steps -/

@[simp] theorem exec_givenOrNewId {α : Type} (given : Option String)
    (kind : String) (next : String → StoreM α) (work : Option Store) :
    Sql.exec moment.tell (givenOrNewId given kind >>= next) store work =
      Sql.exec moment.tell (next (moment.given given kind)) store work := by
  cases given with
  | none => rfl
  | some value =>
      simp only [givenOrNewId, Moment.given]
      split <;> rfl

/-- The rows `create_run` inserts. -/
def createdRun (moment : Moment) (sessionId : Option String)
    (initialState : Option Fields) : RunRow :=
  newRunRow (moment.id "run") (moment.given sessionId "sess")
    (.obj (initialState.getD []))

def createdStep (moment : Moment) (sessionId : Option String)
    (policy : RetryPolicy) : StepRow :=
  newStepRow (moment.id "step") (moment.id "run")
    (moment.given sessionId "sess") 0 policy moment.now

theorem inserted_created {sessionId : Option String}
    {initialState : Option Fields} (policy : RetryPolicy)
    (freshRun : store.run? (moment.id "run") = none)
    (freshStep : store.step? (moment.id "step") = none) :
    (store.write (.insertRun
        (createdRun moment sessionId initialState))).1 = true ∧
      ((store.after (.insertRun
        (createdRun moment sessionId initialState))).write
          (.insertStep (createdStep moment sessionId policy))).1 = true ∧
      ((store.after (.insertRun
        (createdRun moment sessionId initialState))).after
          (.insertStep (createdStep moment sessionId policy))).run? =
        Function.update store.run? (moment.id "run")
          (some (createdRun moment sessionId initialState)) ∧
      ((store.after (.insertRun
        (createdRun moment sessionId initialState))).after
          (.insertStep (createdStep moment sessionId policy))).step? =
        Function.update store.step? (moment.id "step")
          (some (createdStep moment sessionId policy)) := by
  obtain ⟨runAccepted, stepsKept, runsAfter⟩ := store.insertRun_of_fresh
    (show store.run? (createdRun moment sessionId initialState).runId = none
      from freshRun)
  have parent : (store.after (.insertRun (createdRun moment sessionId
      initialState))).run? (createdStep moment sessionId policy).runId ≠
        none := by
    rw [runsAfter]
    simp [createdRun, createdStep, newRunRow, newStepRow]
  have fresh : (store.after (.insertRun (createdRun moment sessionId
      initialState))).step? (createdStep moment sessionId policy).stepId =
        none := by
    rw [stepsKept]
    exact freshStep
  obtain ⟨stepAccepted, runsKept, stepsAfter⟩ :=
    Store.insertStep_of_fresh _ parent fresh
  exact ⟨runAccepted, stepAccepted, runsKept.trans runsAfter,
    stepsAfter.trans (by rw [stepsKept]; rfl)⟩

theorem perform_createRun {sessionId : Option String}
    {initialState retryPolicy : Option Fields} {policy : RetryPolicy}
    (parses : RetryPolicy.fromDict retryPolicy = .ok policy)
    (freshRun : store.run? (moment.id "run") = none)
    (freshStep : store.step? (moment.id "step") = none) :
    perform (createRun sessionId initialState retryPolicy) moment store =
      (.ok (moment.id "run", moment.id "step"),
        (((store.after (.insertRun
          (createdRun moment sessionId initialState))).after
            (.insertStep (createdStep moment sessionId policy))).append
          (runCreated (moment.id "run") (moment.given sessionId "sess")
            (.obj (initialState.getD [])) policy)).append
          (stepCreated (moment.id "run") (moment.given sessionId "sess")
            (moment.id "step") policy)) := by
  obtain ⟨run, step, _⟩ :=
    @inserted_created store moment sessionId initialState policy freshRun
      freshStep
  simp only [createdRun, createdStep] at run step ⊢
  simp [perform, createRun, nowTs, newId, parses, parsed, execute,
    insertOrRaise, Moment.tell, Sql.exec_withConn_bind, run, step]

theorem perform_createRun_refused {sessionId : Option String}
    {initialState retryPolicy : Option Fields}
    (refused : (∀ policy, RetryPolicy.fromDict retryPolicy ≠ .ok policy) ∨
      store.run? (moment.id "run") ≠ none ∨
      store.step? (moment.id "step") ≠ none) :
    ∃ error, perform (createRun sessionId initialState retryPolicy) moment
      store = (.error error, store) := by
  cases parses : RetryPolicy.fromDict retryPolicy with
  | error error =>
      simp [perform, createRun, nowTs, newId, parses, parsed]
  | ok policy =>
      by_cases takenRun : store.run? (moment.id "run") ≠ none
      · have run := store.insertRun_of_taken
          (show store.run? (createdRun moment sessionId initialState).runId ≠
            none from takenRun)
        simp only [createdRun] at run
        simp [perform, createRun, nowTs, newId, parses, parsed, execute,
          insertOrRaise, Moment.tell, run]
      · have takenStep : store.step? (moment.id "step") ≠ none := by
          rcases refused with unparsed | taken | taken
          · exact absurd parses (unparsed policy)
          · exact absurd taken takenRun
          · exact taken
        obtain ⟨run, stepsKept, _⟩ := store.insertRun_of_fresh
          (show store.run? (createdRun moment sessionId initialState).runId =
            none from not_not.mp takenRun)
        have step : ((store.after (.insertRun (createdRun moment sessionId
            initialState))).write
              (.insertStep (createdStep moment sessionId policy))).1 =
                false := by
          apply Store.insertStep_of_taken
          rw [stepsKept]
          exact takenStep
        simp only [createdRun, createdStep] at run step
        simp [perform, createRun, nowTs, newId, parses, parsed, execute,
          insertOrRaise, Moment.tell, run, step]

/-- By itself `create_run` inserts its rows, or raises and changes nothing. -/
theorem performed_createRun (sessionId : Option String)
    (initialState retryPolicy : Option Fields) :
    let outcome := (Call.createRun sessionId initialState retryPolicy).perform
      moment store
    (∃ error, outcome = (.error error, store)) ∨
      ∃ policy, store.run? (moment.id "run") = none ∧
        store.step? (moment.id "step") = none ∧
        outcome.1 = .ok (moment.id "run", moment.id "step") ∧
        outcome.2.run? = Function.update store.run? (moment.id "run")
          (some (createdRun moment sessionId initialState)) ∧
        outcome.2.step? = Function.update store.step? (moment.id "step")
          (some (createdStep moment sessionId policy)) := by
  simp only [Call.perform, Call.body]
  by_cases created : (∃ policy, RetryPolicy.fromDict retryPolicy =
      .ok policy) ∧ store.run? (moment.id "run") = none ∧
        store.step? (moment.id "step") = none
  · obtain ⟨⟨policy, parses⟩, freshRun, freshStep⟩ := created
    obtain ⟨_, _, runs, steps⟩ :=
      @inserted_created store moment sessionId initialState policy freshRun
        freshStep
    rw [perform_createRun parses freshRun freshStep]
    exact .inr ⟨policy, freshRun, freshStep, rfl, runs, steps⟩
  · obtain ⟨error, raised⟩ := @perform_createRun_refused store moment
      sessionId initialState retryPolicy (by
        by_contra fresh
        simp only [not_or, not_forall, not_not] at fresh
        exact created fresh)
    exact .inl ⟨error, raised⟩

theorem effect_createRun (sessionId : Option String)
    (initialState retryPolicy : Option Fields) :
    Effect store moment (.createRun sessionId initialState retryPolicy)
      ((Call.createRun sessionId initialState retryPolicy).perform moment
        store).2 := by
  rcases @performed_createRun store moment sessionId initialState
    retryPolicy with ⟨error, raised⟩ | ⟨policy, freshRun, freshStep, _, runs,
      steps⟩
  · rw [raised]
    exact .unchanged rfl rfl
  · exact .created (createdRun moment sessionId initialState)
      (createdStep moment sessionId policy) freshRun freshStep rfl rfl rfl rfl
      rfl runs steps

/-- The row `create_external_step` inserts. -/
def externalStep (moment : Moment) (run : RunRow) (runId : String)
    (stepId : Option String) (policy : RetryPolicy) : StepRow :=
  newStepRow (moment.given stepId "step") runId run.sessionId run.stateVersion
    policy moment.now

theorem performed_createExternalStep {runId : String} {stepId : Option String}
    {retryPolicy : Option Fields} {run : RunRow} {policy : RetryPolicy}
    (found : store.run? runId = some run)
    (parses : RetryPolicy.fromDict retryPolicy = .ok policy)
    (fresh : store.step? (moment.given stepId "step") = none) :
    let after :=
      ((Call.createExternalStep runId stepId retryPolicy).perform moment
        store).2
    after.run? = store.runsWith runId (RunRow.setStatus .pending) ∧
      after.step? = Function.update store.step? (moment.given stepId "step")
        (some (externalStep moment run runId stepId policy)) := by
  have parent : store.run? runId ≠ none := by simp [found]
  obtain ⟨accepted, runsKept, stepsAfter⟩ :=
    @Store.insertStep_of_fresh store
      (externalStep moment run runId stepId policy) parent fresh
  simp only [externalStep] at accepted runsKept stepsAfter
  simp only [Call.perform, Call.body, perform, createExternalStep, nowTs,
    AgentLedger.run, select, Program.bind_call, Program.bind_done,
    exec_select, Option.getD_none, Store.query, found, parses]
  constructor
  · funext other
    simp [parsed, execute, insertOrRaise, Moment.tell, accepted,
      Sql.exec_withConn_bind, runsKept, Store.runsWith]
  · funext other
    simp only [Program.pure_eq, Program.bind_done, exec_givenOrNewId,
      exec_nowTs, parsed, execute, insertOrRaise, Moment.tell,
      Sql.exec_withConn_bind, Program.bind_call, Sql.withConn_call,
      exec_execute, Option.getD_none, Option.getD_some, accepted, if_true,
      exec_append, Sql.withConn_done, Sql.exec_commit, Sql.exec_done,
      Store.step?_append, Store.step?_setRunStatus, stepsAfter]
    rfl

/-- By itself `create_external_step` inserts its row, or raises and changes
nothing. -/
theorem createExternalStep_cases (runId : String) (stepId : Option String)
    (retryPolicy : Option Fields) :
    (∃ error, (Call.createExternalStep runId stepId retryPolicy).perform
      moment store = (.error error, store)) ∨
    ∃ run policy, store.run? runId = some run ∧
      RetryPolicy.fromDict retryPolicy = .ok policy ∧
      store.step? (moment.given stepId "step") = none := by
  cases found : store.run? runId with
  | none =>
      refine .inl ⟨.keyError ("run not found: " ++ runId), ?_⟩
      simp only [Call.perform, Call.body, perform, createExternalStep,
        AgentLedger.run, select, Program.bind_call, Program.bind_done,
        exec_select, Option.getD_none, Store.query, found]
      rfl
  | some run =>
      cases parses : RetryPolicy.fromDict retryPolicy with
      | error error =>
          refine .inl ⟨error, ?_⟩
          simp only [Call.perform, Call.body, perform, createExternalStep,
            nowTs, AgentLedger.run, select, Program.bind_call,
            Program.bind_done, exec_select, Option.getD_none, Store.query,
            found, parses, Program.pure_eq, exec_givenOrNewId, exec_nowTs,
            parsed, Program.bind_raise, Sql.exec_raise]
      | ok policy =>
          by_cases fresh : store.step? (moment.given stepId "step") = none
          · exact .inr ⟨run, policy, rfl, rfl, fresh⟩
          · have refused := @Store.insertStep_of_taken store
              (newStepRow (moment.given stepId "step") runId run.sessionId
                run.stateVersion policy moment.now) fresh
            refine .inl ⟨.integrityError, ?_⟩
            simp only [Call.perform, Call.body, perform, createExternalStep,
              nowTs, AgentLedger.run, select, Program.bind_call,
              Program.bind_done, exec_select, Option.getD_none, Store.query,
              found, parses]
            simp [parsed, execute, insertOrRaise, Moment.tell, refused]

theorem effect_createExternalStep (runId : String) (stepId : Option String)
    (retryPolicy : Option Fields) :
    Effect store moment (.createExternalStep runId stepId retryPolicy)
      ((Call.createExternalStep runId stepId retryPolicy).perform moment
        store).2 := by
  rcases @createExternalStep_cases store moment runId stepId retryPolicy with
    ⟨error, raised⟩ | ⟨run, policy, found, parses, fresh⟩
  · rw [raised]
    exact .unchanged rfl rfl
  · obtain ⟨runs, steps⟩ := performed_createExternalStep found parses fresh
    exact .stepCreated run (externalStep moment run runId stepId policy) policy
      found parses rfl fresh rfl rfl rfl rfl runs steps

/-! #### Calls that leave runs and steps alone -/

/-- The statement writes neither the runs nor the steps. -/
def Write.SparesRows : Write → Prop
  | .insertEvent _ => True
  | .insertApproval _ => True
  | .insertLedger _ => True
  | .insertCost _ => True
  | .insertArtifact _ => True
  | .decideApproval _ _ _ _ => True
  | .updateLedger _ _ _ _ _ _ => True
  | _ => False

theorem Store.after_of_sparesRows {statement : Write}
    (spares : statement.SparesRows) (store : Store) :
    (store.after statement).runs = store.runs ∧
      (store.after statement).steps = store.steps := by
  cases statement with
  | insertEvent row =>
      simp only [Store.after, Store.write]
      split <;> exact ⟨rfl, rfl⟩
  | insertApproval row =>
      simp only [Store.after, Store.write]
      split
      · exact ⟨rfl, rfl⟩
      · split <;> exact ⟨rfl, rfl⟩
  | insertLedger row =>
      simp only [Store.after, Store.write]
      split <;> exact ⟨rfl, rfl⟩
  | insertCost row => exact ⟨rfl, rfl⟩
  | insertArtifact row => exact ⟨rfl, rfl⟩
  | decideApproval approvalId status approver reason => exact ⟨rfl, rfl⟩
  | updateLedger idempotencyKey status externalId responseHash responseRef
      errorType => exact ⟨rfl, rfl⟩
  | _ => exact spares.elim

def Store.SameRows (before after : Store) : Prop :=
  after.runs = before.runs ∧ after.steps = before.steps

theorem sameRows_of_spares {call : Call} (spares : call.spares = true) :
    store.SameRows (call.perform moment store).2 := by
  refine Call.perform_keeps store.SameRows
    (fun statement state issued _ kept => ?_) ⟨rfl, rfl⟩
  have sparing : statement.SparesRows := by
    cases statement with
    | insertRun row =>
        obtain ⟨_, _, _, _, rfl⟩ := issued
        cases spares
    | insertStep row =>
        rw [issued.2.2] at spares
        cases spares
    | claimStep _ _ _ _ _ =>
        obtain ⟨_, _, _, rfl⟩ := issued
        cases spares
    | extendLease _ _ _ =>
        obtain ⟨_, _, _, rfl⟩ := issued
        cases spares
    | recoverStep _ =>
        cases issued
        cases spares
    | releaseStep _ _ _ =>
        rw [show call.spares = false from issued] at spares
        cases spares
    | completeStep _ _ _ =>
        obtain ⟨_, rfl⟩ := issued
        cases spares
    | setRunStatus _ _ =>
        rw [show call.spares = false from issued] at spares
        cases spares
    | commitRun _ _ _ _ =>
        obtain ⟨_, _, rfl⟩ := issued
        cases spares
    | patchRun _ _ _ _ =>
        obtain ⟨_, _, _, _, rfl⟩ := issued
        cases spares
    | _ => trivial
  obtain ⟨runs, steps⟩ := state.after_of_sparesRows sparing
  exact ⟨runs.trans kept.1, steps.trans kept.2⟩

theorem effect_of_spares {call : Call} (spares : call.spares = true) :
    Effect store moment call (call.perform moment store).2 := by
  obtain ⟨runs, steps⟩ := @sameRows_of_spares store moment call spares
  refine .unchanged ?_ ?_
  · funext runId
    simp only [Store.run?, runs]
  · funext stepId
    simp only [Store.step?, steps]

/-- Every call has one of the effects listed. -/
theorem Call.effect (call : Call) (moment : Moment) (store : Store) :
    Effect store moment call (call.perform moment store).2 := by
  cases call with
  | createRun sessionId initialState retryPolicy =>
      exact effect_createRun sessionId initialState retryPolicy
  | createExternalStep runId stepId retryPolicy =>
      exact effect_createExternalStep runId stepId retryPolicy
  | claimStep workerId runId leaseSeconds =>
      exact effect_claimStep workerId runId leaseSeconds
  | heartbeat stepId leaseToken leaseSeconds =>
      exact effect_heartbeat stepId leaseToken leaseSeconds
  | recoverExpiredLeases => exact effect_recoverExpiredLeases
  | cancelRun runId reason => exact effect_cancelRun runId reason
  | markWaitingHuman runId stepId reason approvalId =>
      exact effect_markWaitingHuman runId stepId reason approvalId
  | approveRequest approvalId approver reason =>
      exact effect_approveRequest approvalId approver reason
  | denyRequest approvalId approver reason =>
      exact effect_denyRequest approvalId approver reason
  | commitStatePatch args => exact effect_commitStatePatch args
  | applySystemStatePatch runId patch reason =>
      exact effect_applySystemStatePatch runId patch reason
  | markRetry runId stepId error errorType =>
      exact effect_markRetry runId stepId error errorType
  | markFailed runId stepId error errorType =>
      exact effect_markFailed runId stepId error errorType
  | _ => exact effect_of_spares rfl

end AgentLedger
