import AgentLedger.Foundation.TransactionContract
import AgentLedger.JsonUtil
import AgentLedger.Store.Statements

namespace AgentLedger

open Foundation

/-! The operations of `SQLiteStore`, as the statements they issue. -/

inductive Ask
  | now
  | newId (kind : String)
  /-- Which of the rows that come first together is taken. -/
  | tie
  deriving DecidableEq

@[reducible] def Ask.Told : Ask → Type
  | .now => Int
  | .newId _ => String
  | .tie => Nat

/-- A clock reading, an identifier and a choice, for whichever is asked. -/
structure Input where
  now : Int
  id : String
  tie : Nat

/-- The clock is shared by all connections and never goes back. -/
def tell : (about : Ask) → Input → Int → Option (about.Told × Int)
  | .now, input, clock =>
      if clock ≤ input.now then some (input.now, input.now) else none
  | .newId _, input, clock => some (input.id, clock)
  | .tie, input, clock => some (input.tie, clock)

@[reducible] def sqlite : Engine where
  State := Store
  Query := Query
  Answer := Query.Answer
  query := Store.query
  Write := Write
  Count := Write.Count
  write := Store.write
  Ask := Ask
  Told := Ask.Told
  Env := Int
  Input := Input
  order := Int.instLinearOrder.toPartialOrder.toPreorder
  tell := tell
  tell_le := by
    intro about input clock told later answered
    cases about with
    | now =>
        simp only [tell] at answered
        split at answered
        · cases answered
          assumption
        · cases answered
    | newId kind =>
        cases answered
        exact le_refl _
    | tie =>
        cases answered
        exact le_refl _

abbrev StoreM (α : Type) := Sql sqlite PyError α

def select (request : Query) : StoreM request.Answer :=
  .call (.query request) .done

def execute (statement : Write) : StoreM statement.Count :=
  .call (.write statement) .done

def nowTs : StoreM Int := .call (.ask .now) .done

def newId (kind : String) : StoreM String := .call (.ask (.newId kind)) .done

def anyTie : StoreM Nat := .call (.ask .tie) .done

/-- `value or new_id(kind)`. -/
def givenOrNewId (given : Option String) (kind : String) : StoreM String :=
  match given with
  | some value => if value.isEmpty then newId kind else .done value
  | none => newId kind

/-- An INSERT that violates a key raises `IntegrityError`. -/
def insertOrRaise (accepted : Bool) : StoreM Unit :=
  if accepted then .done () else .raise .integrityError

def parsed (result : Except PyError RetryPolicy) : StoreM RetryPolicy :=
  match result with
  | .ok policy => .done policy
  | .error error => .raise error

def Json.optional (value : Option String) : Json :=
  match value with
  | some text => .str text
  | none => .null

structure EventArgs where
  runId : String
  type : EventType
  payload : Json
  sessionId : Option String := none
  stepId : Option String := none
  agentRole : Option String := none
  stateVersion : Option Int := none
  causalToken : Option Json := none
  payloadHash : Option String := none
  payloadRef : Option String := none

def EventArgs.row (args : EventArgs) (seq : Nat) : EventRow :=
  { runId := args.runId
    sessionId := args.sessionId
    stepId := args.stepId
    seq := seq
    type := args.type
    agentRole := args.agentRole
    stateVersion := args.stateVersion
    causalToken := args.causalToken
    payloadHash := args.payloadHash
    payloadRef := match args.payloadRef with
      | none => .inline args.payload
      | some ref => .blob ref }

def appendEventInTx (args : EventArgs) : StoreM Nat := do
  let seq ← select (.nextSeq args.runId)
  let accepted ← execute (.insertEvent (args.row seq))
  insertOrRaise accepted
  return seq

def appendEvent (args : EventArgs) : StoreM Nat :=
  Sql.withConn (appendEventInTx args)

/-- `run`: the row, or `KeyError`. -/
def run (runId : String) : StoreM RunRow := do
  match ← select (.run runId) with
  | none => .raise (.keyError ("run not found: " ++ runId))
  | some row => return row

def newRunRow (runId sessionId : String) (state : Json) : RunRow :=
  { runId := runId
    sessionId := sessionId
    status := .pending
    state := state
    stateVersion := 0 }

def newStepRow (stepId runId sessionId : String) (stateVersion : Int)
    (policy : RetryPolicy) (createdAt : Int) : StepRow :=
  { stepId := stepId
    runId := runId
    sessionId := sessionId
    status := .pending
    attempt := 0
    stateVersion := stateVersion
    retryPolicy := policy
    createdAt := createdAt }

def runCreated (runId sessionId : String) (state : Json)
    (policy : RetryPolicy) : EventArgs :=
  { runId := runId
    sessionId := some sessionId
    type := .runCreated
    payload := .obj
      [("initial_state", state), ("retry_policy", policy.toDict)] }

def stepCreated (runId sessionId stepId : String) (policy : RetryPolicy) :
    EventArgs :=
  { runId := runId
    sessionId := some sessionId
    stepId := some stepId
    type := .stepCreated
    payload := .obj
      [("retry_policy", policy.toDict), ("step_id", .str stepId)] }

def createRun (sessionId : Option String) (initialState : Option Fields)
    (retryPolicy : Option Fields) : StoreM (String × String) := do
  let runId ← newId "run"
  let sessionId ← givenOrNewId sessionId "sess"
  let stepId ← newId "step"
  let ts ← nowTs
  let state := Json.obj (initialState.getD [])
  let policy ← parsed (RetryPolicy.fromDict retryPolicy)
  Sql.withConn do
    let accepted ← execute (.insertRun (newRunRow runId sessionId state))
    insertOrRaise accepted
    let accepted ← execute
      (.insertStep (newStepRow stepId runId sessionId 0 policy ts))
    insertOrRaise accepted
    let _ ← appendEventInTx (runCreated runId sessionId state policy)
    let _ ← appendEventInTx (stepCreated runId sessionId stepId policy)
  return (runId, stepId)

def externalStepCreated (runId : String) (row : RunRow) (stepId : String)
    (policy : RetryPolicy) : EventArgs :=
  { runId := runId
    sessionId := some row.sessionId
    stepId := some stepId
    type := .stepCreated
    payload := .obj
      [("external", .bool true), ("retry_policy", policy.toDict),
        ("step_id", .str stepId)]
    stateVersion := some row.stateVersion }

def createExternalStep (runId : String) (stepId : Option String)
    (retryPolicy : Option Fields) : StoreM String := do
  let row ← run runId
  let stepId ← givenOrNewId stepId "step"
  let ts ← nowTs
  let policy ← parsed (RetryPolicy.fromDict retryPolicy)
  Sql.withConn do
    let accepted ← execute (.insertStep
      (newStepRow stepId runId row.sessionId row.stateVersion policy ts))
    insertOrRaise accepted
    let _ ← execute (.setRunStatus runId .pending)
    let _ ← appendEventInTx (externalStepCreated runId row stepId policy)
  return stepId

structure StepClaim where
  runId : String
  sessionId : String
  stepId : String
  attempt : Nat
  leaseToken : String
  stateVersion : Int
  leaseUntil : Int
  deriving DecidableEq

/-- The transaction of `claim_step` on the candidate its SELECT returned;
`false` when the guarded UPDATE found the step taken. -/
def claimRow (workerId leaseToken : String) (leaseUntil : Int)
    (row : StepRow) : StoreM Bool :=
  Sql.withConn do
    let updated ← execute (.claimStep row.stepId workerId leaseToken leaseUntil
      (row.attempt + 1))
    if updated ≠ 1 then
      return false
    else
      let _ ← execute (.setRunStatus row.runId .running)
      let _ ← appendEventInTx
        { runId := row.runId
          sessionId := some row.sessionId
          stepId := some row.stepId
          type := .stepClaimed
          payload := .obj
            [("attempt", .int (row.attempt + 1)),
              ("lease_token", .str leaseToken),
              ("lease_until", .int leaseUntil),
              ("worker_id", .str workerId)] }
      return true

/-- `for _ in range(tries)` of `claim_step`. -/
def claimLoop (workerId : String) (runId : Option String)
    (leaseSeconds : Int) : Nat → StoreM (Option StepClaim)
  | 0 => return none
  | tries + 1 => do
      let now ← nowTs
      let tie ← anyTie
      match ← select (.claimable runId tie) with
      | none => return none
      | some row =>
          let leaseToken ← newId "lease"
          let claimed ← claimRow workerId leaseToken (now + leaseSeconds) row
          if claimed then
            return some
              { runId := row.runId
                sessionId := row.sessionId
                stepId := row.stepId
                attempt := row.attempt + 1
                leaseToken := leaseToken
                stateVersion := row.stateVersion
                leaseUntil := now + leaseSeconds }
          else claimLoop workerId runId leaseSeconds tries

def claimStep (workerId : String) (runId : Option String)
    (leaseSeconds : Int) : StoreM (Option StepClaim) :=
  claimLoop workerId (runId.filter fun text => !text.isEmpty) leaseSeconds 64

def validateLease (stepId leaseToken : String) : StoreM StepRow := do
  match ← select (.step stepId) with
  | none => .raise (.keyError ("step not found: " ++ stepId))
  | some row =>
      if row.leaseToken ≠ some leaseToken ∨ row.status ≠ .running then
        .raise (.runtimeError "invalid or stale lease token")
      else
        match row.leaseUntil with
        | none => return row
        | some leaseUntil =>
            let now ← nowTs
            if leaseUntil < now then .raise (.runtimeError "lease expired")
            else return row

def heartbeat (stepId leaseToken : String) (leaseSeconds : Int) :
    StoreM Int := do
  let row ← validateLease stepId leaseToken
  let now ← nowTs
  let leaseUntil := now + leaseSeconds
  Sql.withConn do
    let _ ← execute (.extendLease stepId leaseToken leaseUntil)
    let _ ← appendEventInTx
      { runId := row.runId
        sessionId := some row.sessionId
        stepId := some stepId
        type := .workerHeartbeat
        payload := .obj
          [("lease_token", .str leaseToken),
            ("lease_until", .int leaseUntil)] }
  return leaseUntil

/-- The loop over the rows the SELECT of `recover_expired_leases` returned. -/
def recoverRows : List StepRow → Nat → StoreM Nat
  | [], recovered => return recovered
  | row :: rest, recovered => do
      let updated ← execute (.recoverStep row.stepId)
      if updated ≠ 1 then
        recoverRows rest recovered
      else
        let _ ← execute (.setRunStatus row.runId .retryScheduled)
        let _ ← appendEventInTx
          { runId := row.runId
            sessionId := some row.sessionId
            stepId := some row.stepId
            type := .leaseExpired
            payload := .obj
              [("attempt", .int row.attempt),
                ("previous_owner", Json.optional row.owner)] }
        let _ ← appendEventInTx
          { runId := row.runId
            sessionId := some row.sessionId
            stepId := some row.stepId
            type := .stepRetryScheduled
            payload := .obj
              [("reason", .str "lease_expired"),
                ("step_id", .str row.stepId)] }
        recoverRows rest (recovered + 1)

def recoverExpiredLeases : StoreM Nat := do
  let now ← nowTs
  let rows ← select (.expired now)
  Sql.withConn (recoverRows rows 0)

/-- The loop of `cancel_run` over the open steps. -/
def cancelRows (runId reason : String) : List StepRow → StoreM Unit
  | [] => return ()
  | row :: rest => do
      let _ ← execute (.releaseStep row.stepId .cancelled none)
      let _ ← appendEventInTx
        { runId := runId
          sessionId := some row.sessionId
          stepId := some row.stepId
          type := .stepCancelled
          payload := .obj [("reason", .str reason)] }
      cancelRows runId reason rest

def cancelRun (runId reason : String) : StoreM Nat := do
  let _ ← nowTs
  let rows ← select (.openSteps runId)
  let row ← run runId
  if row.status.terminal then
    return 0
  else
    Sql.withConn do
      let _ ← appendEventInTx
        { runId := runId
          sessionId := some row.sessionId
          type := .runCancelRequested
          payload := .obj [("reason", .str reason)] }
      cancelRows runId reason rows
      let _ ← execute (.setRunStatus runId .cancelled)
      let _ ← appendEventInTx
        { runId := runId
          sessionId := some row.sessionId
          type := .runCancelled
          payload := .obj
            [("cancelled_steps", .int rows.length),
              ("reason", .str reason)] }
    return rows.length

def markWaitingHuman (runId stepId reason : String)
    (approvalId : Option String) : StoreM Unit := do
  let _ ← nowTs
  Sql.withConn do
    match ← select (.step stepId) with
    | none => .raise (.keyError stepId)
    | some row =>
        let _ ← execute (.releaseStep stepId .waitingHuman
          (some ("ApprovalRequired", reason)))
        let _ ← execute (.setRunStatus runId .waitingHuman)
        let _ ← appendEventInTx
          { runId := runId
            sessionId := some row.sessionId
            stepId := some stepId
            type := .stepWaitingHuman
            payload := .obj
              [("approval_id", Json.optional approvalId),
                ("reason", .str reason)] }
        return ()

structure ApprovalArgs where
  approvalKey : String
  runId : String
  sessionId : Option String := none
  stepId : String
  toolName : String
  riskLevel : String
  reason : Option String := none
  requestHash : String
  requestRef : String
  requestedBy : Option String := none

/-- `except sqlite3.IntegrityError`. -/
def onIntegrityError {α : Type} (handler : StoreM α) (error : PyError) :
    StoreM α :=
  if error.cls = .integrityError then handler else .raise error

def requestApproval (args : ApprovalArgs) : StoreM ApprovalRow := do
  match ← select (.approvalByKey args.approvalKey) with
  | some existing => return existing
  | none =>
      let _ ← nowTs
      let approvalId ← newId "approval"
      let insert : StoreM Unit := Sql.withConn do
        let accepted ← execute (.insertApproval
          { approvalId := approvalId
            approvalKey := args.approvalKey
            runId := args.runId
            sessionId := args.sessionId
            stepId := args.stepId
            toolName := args.toolName
            riskLevel := args.riskLevel
            status := .pending
            reason := args.reason
            requestHash := args.requestHash
            requestRef := args.requestRef
            requestedBy := args.requestedBy })
        insertOrRaise accepted
      insert.tryCatch (onIntegrityError (.done ()))
      match ← select (.approvalByKey args.approvalKey) with
      | none => .raise (.runtimeError "approval request was not created")
      | some row => return row

def approvalForKey (approvalKey : String) : StoreM (Option ApprovalRow) :=
  select (.approvalByKey approvalKey)

/-- The text the decision's status column and event carry. -/
def ApprovalStatus.text : ApprovalStatus → String
  | .pending => "PENDING"
  | .approved => "APPROVED"
  | .denied => "DENIED"

/-- The end of `_decide_approval`'s transaction: what the decision does to a
step that waits for it. -/
def decideStep (row : ApprovalRow) (status : ApprovalStatus)
    (reason : String) (step : StepRow) : StoreM Unit :=
  if step.status = .waitingHuman then
    match status with
    | .approved => do
        let _ ← execute (.releaseStep row.stepId .pending none)
        let _ ← execute (.setRunStatus row.runId .pending)
        let _ ← appendEventInTx
          { runId := row.runId
            sessionId := row.sessionId
            stepId := some row.stepId
            type := .stepRetryScheduled
            payload := .obj
              [("reason", .str "approval_granted"),
                ("step_id", .str row.stepId)] }
        return ()
    | .denied => do
        let _ ← execute (.releaseStep row.stepId .failed
          (some ("ApprovalDenied", reason)))
        let _ ← execute (.setRunStatus row.runId .failed)
        let _ ← appendEventInTx
          { runId := row.runId
            sessionId := row.sessionId
            stepId := some row.stepId
            type := .stepFailed
            payload := .obj
              [("error_type", .str "ApprovalDenied"),
                ("step_id", .str row.stepId)] }
        return ()
    | .pending => return ()
  else return ()

/-- The row as it is read back after the transaction. -/
def decidedApproval (approvalId : String) : StoreM ApprovalRow := do
  match ← select (.approval approvalId) with
  | none => .raise (.keyError ("approval not found: " ++ approvalId))
  | some decided => return decided

/-- `_decide_approval`; `approve_request` and `deny_request` pass the status. -/
def decideApproval (approvalId : String) (status : ApprovalStatus)
    (approver reason : String) : StoreM ApprovalRow := do
  let _ ← nowTs
  Sql.withConn do
    match ← select (.approval approvalId) with
    | none => .raise (.keyError ("approval not found: " ++ approvalId))
    | some row =>
        let _ ← execute (.decideApproval approvalId status approver reason)
        let _ ← appendEventInTx
          { runId := row.runId
            sessionId := row.sessionId
            stepId := some row.stepId
            type := .toolApprovalDecided
            payload := .obj
              [("approval_id", .str approvalId), ("approver", .str approver),
                ("reason", .str reason), ("status", .str status.text),
                ("tool", .str row.toolName)] }
        match ← select (.step row.stepId) with
        | none => return ()
        | some step => decideStep row status reason step
  decidedApproval approvalId

def approveRequest (approvalId approver reason : String) :
    StoreM ApprovalRow :=
  decideApproval approvalId .approved approver reason

def denyRequest (approvalId approver reason : String) : StoreM ApprovalRow :=
  decideApproval approvalId .denied approver reason

def loadState (runId : String) : StoreM (Json × Int × String) := do
  let row ← run runId
  return (row.state, row.stateVersion, row.sessionId)

structure CommitArgs where
  runId : String
  stepId : String
  leaseToken : String
  baseVersion : Int
  patch : Fields
  checkpointId : Option String := none
  deriving DecidableEq

def versionConflict (expected got : Int) : PyError :=
  .runtimeError ("state version conflict: expected " ++ toString expected ++
    ", got " ++ toString got)

def stateCommitted (args : CommitArgs) (step : StepRow) (newVersion : Int) :
    EventArgs :=
  { runId := args.runId
    sessionId := some step.sessionId
    stepId := some args.stepId
    type := .stateCommitted
    payload := .obj
      [("patch", .obj args.patch), ("state_version", .int newVersion)]
    stateVersion := some newVersion }

def stepCompleted (args : CommitArgs) (step : StepRow) (newVersion : Int) :
    EventArgs :=
  { runId := args.runId
    sessionId := some step.sessionId
    stepId := some args.stepId
    type := .stepCompleted
    payload := .obj [("step_id", .str args.stepId)]
    stateVersion := some newVersion }

def commitStatePatch (args : CommitArgs) : StoreM Int := do
  let _ ← nowTs
  Sql.withConn do
    let step ← validateLease args.stepId args.leaseToken
    let row ← run args.runId
    let currentVersion := row.stateVersion
    if currentVersion ≠ args.baseVersion then
      .raise (versionConflict args.baseVersion currentVersion)
    else
      let newState := mergePatch row.state (.obj args.patch)
      let newVersion := currentVersion + 1
      let _ ← execute
        (.commitRun args.runId args.baseVersion newState newVersion)
      let _ ← execute
        (.completeStep args.stepId newVersion args.checkpointId)
      let _ ← appendEventInTx (stateCommitted args step newVersion)
      let _ ← appendEventInTx (stepCompleted args step newVersion)
      return newVersion

def systemStatePatchApplied (runId : String) (row : RunRow) (patch : Fields)
    (reason : String) (newVersion : Int) : EventArgs :=
  { runId := runId
    sessionId := some row.sessionId
    type := .systemStatePatchApplied
    payload := .obj
      [("patch", .obj patch), ("reason", .str reason),
        ("state_version", .int newVersion)]
    stateVersion := some newVersion }

def applySystemStatePatch (runId : String) (patch : Fields)
    (reason : String) : StoreM Int := do
  let _ ← nowTs
  Sql.withConn do
    let row ← run runId
    let currentVersion := row.stateVersion
    let newState := mergePatch row.state (.obj patch)
    let newVersion := currentVersion + 1
    let _ ← execute (.patchRun runId currentVersion newState newVersion)
    let _ ← appendEventInTx
      (systemStatePatchApplied runId row patch reason newVersion)
    return newVersion

def errorRaised (runId stepId error errorType : String) (row : StepRow) :
    EventArgs :=
  { runId := runId
    sessionId := some row.sessionId
    stepId := some stepId
    type := .errorRaised
    payload := .obj [("error", .str error), ("error_type", .str errorType)] }

def markRetry (runId stepId error errorType : String) : StoreM Bool := do
  let _ ← nowTs
  Sql.withConn do
    match ← select (.step stepId) with
    | none => .raise (.keyError stepId)
    | some row =>
        let retryable := row.retryPolicy.allowsRetryAfterAttempt row.attempt
        let _ ← appendEventInTx
          { runId := runId
            sessionId := some row.sessionId
            stepId := some stepId
            type := .failureClassified
            payload := .obj
              [("attempt", .int row.attempt), ("error", .str error),
                ("error_type", .str errorType),
                ("max_attempts", .int row.retryPolicy.maxAttempts),
                ("retryable", .bool retryable)] }
        if !retryable then
          let _ ← execute
            (.releaseStep stepId .failed (some (errorType, error)))
          let _ ← execute (.setRunStatus runId .failed)
          let _ ← appendEventInTx
            (errorRaised runId stepId error errorType row)
          let _ ← appendEventInTx
            { runId := runId
              sessionId := some row.sessionId
              stepId := some stepId
              type := .stepFailed
              payload := .obj
                [("error_type", .str errorType),
                  ("reason", .str "retry_exhausted"),
                  ("step_id", .str stepId)] }
          return false
        else
          let _ ← execute
            (.releaseStep stepId .retryScheduled (some (errorType, error)))
          let _ ← execute (.setRunStatus runId .retryScheduled)
          let _ ← appendEventInTx
            (errorRaised runId stepId error errorType row)
          let _ ← appendEventInTx
            { runId := runId
              sessionId := some row.sessionId
              stepId := some stepId
              type := .stepRetryScheduled
              payload := .obj
                [("attempt", .int row.attempt),
                  ("max_attempts", .int row.retryPolicy.maxAttempts),
                  ("step_id", .str stepId)] }
          return true

def markFailed (runId stepId error errorType : String) : StoreM Unit := do
  let _ ← nowTs
  Sql.withConn do
    match ← select (.step stepId) with
    | none => .raise (.keyError stepId)
    | some row =>
        let _ ← execute (.releaseStep stepId .failed (some (errorType, error)))
        let _ ← execute (.setRunStatus runId .failed)
        let _ ← appendEventInTx
          { runId := runId
            sessionId := some row.sessionId
            stepId := some stepId
            type := .failureClassified
            payload := .obj
              [("error", .str error), ("error_type", .str errorType),
                ("retryable", .bool false)] }
        let _ ← appendEventInTx (errorRaised runId stepId error errorType row)
        let _ ← appendEventInTx
          { runId := runId
            sessionId := some row.sessionId
            stepId := some stepId
            type := .stepFailed
            payload := .obj
              [("error_type", .str errorType), ("step_id", .str stepId)] }
        return ()

structure LedgerArgs where
  runId : String
  sessionId : Option String := none
  stepId : String
  toolName : String
  toolVersion : String
  toolCallId : String
  idempotencyKey : String
  causalToken : Json
  requestHash : String
  requestRef : String

/-- `None` when the row was inserted, the row that holds the key otherwise. -/
def reserveLedger (args : LedgerArgs) : StoreM (Option LedgerRow) := do
  match ← select (.ledger args.idempotencyKey) with
  | some existing => return some existing
  | none =>
      let ts ← nowTs
      let ledgerId ← newId "ledger"
      let insert : StoreM (Option LedgerRow) := Sql.withConn do
        let accepted ← execute (.insertLedger
          { ledgerId := ledgerId
            runId := args.runId
            sessionId := args.sessionId
            stepId := args.stepId
            toolName := args.toolName
            toolVersion := args.toolVersion
            toolCallId := args.toolCallId
            idempotencyKey := args.idempotencyKey
            causalToken := args.causalToken
            requestHash := args.requestHash
            requestRef := args.requestRef
            status := .reserved
            createdAt := ts })
        insertOrRaise accepted
        return none
      insert.tryCatch
        (onIntegrityError (select (.ledger args.idempotencyKey)))

structure LedgerUpdate where
  idempotencyKey : String
  status : LedgerStatus
  externalId : Option String := none
  responseHash : Option String := none
  responseRef : Option String := none
  errorType : Option String := none

def LedgerUpdate.statement (update : LedgerUpdate) : Write :=
  .updateLedger update.idempotencyKey update.status update.externalId
    update.responseHash update.responseRef update.errorType

def updateLedger (update : LedgerUpdate) : StoreM Unit :=
  Sql.withConn do
    let _ ← execute update.statement
    return ()

def LedgerStatus.text : LedgerStatus → String
  | .reserved => "RESERVED"
  | .running => "RUNNING"
  | .succeeded => "SUCCEEDED"
  | .failedNoEffect => "FAILED_NO_EFFECT"
  | .pendingVerification => "PENDING_VERIFICATION"
  | .compensated => "COMPENSATED"

/-- `not response_ref`. -/
def missing (ref : Option String) : Bool := ref.all String.isEmpty

/-- `resolve_ledger` of the row `update` names, with the operator's note. -/
def resolveLedger (runId : String) (update : LedgerUpdate)
    (resolvedBy reason : String) : StoreM LedgerRow :=
  if update.status ≠ .succeeded ∧ update.status ≠ .failedNoEffect then
    .raise (.valueError ("unsupported ledger resolution status: " ++
      update.status.text))
  else if update.status = .succeeded ∧ missing update.responseRef then
    .raise (.valueError "SUCCEEDED ledger resolution requires response_ref")
  else do
    let _ ← nowTs
    Sql.withConn do
      match ← select (.ledger update.idempotencyKey) with
      | none =>
          .raise (.keyError ("ledger row not found: " ++
            update.idempotencyKey))
      | some row =>
          if row.runId ≠ runId then
            .raise (.valueError "ledger row belongs to a different run")
          else if row.status ≠ .pendingVerification then
            .raise (.valueError ("ledger row is not pending verification: " ++
              row.status.text))
          else
            let _ ← execute update.statement
            let _ ← appendEventInTx
              { runId := row.runId
                sessionId := row.sessionId
                stepId := some row.stepId
                type := .toolLedgerResolved
                payload := .obj
                  [("error_type", Json.optional update.errorType),
                    ("external_id", Json.optional update.externalId),
                    ("idempotency_key", .str update.idempotencyKey),
                    ("ledger_id", .str row.ledgerId),
                    ("previous_status", .str row.status.text),
                    ("reason", .str reason),
                    ("resolved_by", .str resolvedBy),
                    ("response_ref", Json.optional update.responseRef),
                    ("status", .str update.status.text),
                    ("tool", .str row.toolName)] }
            return ()
    match ← select (.ledger update.idempotencyKey) with
    | none =>
        .raise (.keyError ("ledger row not found: " ++ update.idempotencyKey))
    | some resolved => return resolved

structure CostArgs where
  runId : String
  sessionId : Option String
  stepId : Option String
  category : String
  name : String
  amount : Rat
  unit : String
  metadata : Fields := []

def recordCost (args : CostArgs) : StoreM String := do
  let costId ← newId "cost"
  let _ ← nowTs
  Sql.withConn do
    let _ ← execute (.insertCost
      { costId := costId
        runId := args.runId
        sessionId := args.sessionId
        stepId := args.stepId
        category := args.category
        name := args.name
        amount := args.amount
        unit := args.unit
        metadata := .obj args.metadata })
    let _ ← appendEventInTx
      { runId := args.runId
        sessionId := args.sessionId
        stepId := args.stepId
        type := .costRecorded
        payload := .obj
          [("amount", .float args.amount), ("category", .str args.category),
            ("cost_id", .str costId), ("metadata", .obj args.metadata),
            ("name", .str args.name), ("unit", .str args.unit)] }
  return costId

structure CostSummary where
  toolCalls : Rat
  modelTokens : Rat
  totalUsd : Rat
  byCategory : List (String × Rat)

def sumAmounts (rows : List CostRow) : Rat :=
  rows.foldl (fun total row => total + row.amount) 0

/-- `by_category[key] = by_category.get(key, 0.0) + amount`. -/
def addToCategory (totals : List (String × Rat)) (key : String)
    (amount : Rat) : List (String × Rat) :=
  match totals with
  | [] => [(key, amount)]
  | (other, total) :: rest =>
      if other = key then (other, total + amount) :: rest
      else (other, total) :: addToCategory rest key amount

def costSummary (runId : String) : StoreM CostSummary := do
  let records ← select (.costRecords runId)
  return {
    toolCalls := sumAmounts (records.filter fun row =>
      (row.category == "tool" || row.category == "tool_shadow") &&
        row.unit == "call")
    modelTokens := sumAmounts (records.filter fun row =>
      row.category == "model" && row.unit == "token")
    totalUsd := sumAmounts (records.filter fun row => row.unit == "usd")
    byCategory := records.foldl (fun totals row =>
      addToCategory totals (row.category ++ ":" ++ row.unit) row.amount) [] }

structure ArtifactArgs where
  runId : String
  stepId : Option String
  name : String
  blobHash : String
  blobRef : String
  metadata : Fields := []

def createArtifact (args : ArtifactArgs) : StoreM String := do
  let artifactId ← newId "art"
  Sql.withConn do
    let _ ← execute (.insertArtifact
      { artifactId := artifactId
        runId := args.runId
        stepId := args.stepId
        name := args.name
        blobHash := args.blobHash
        blobRef := args.blobRef
        metadata := .obj args.metadata })
    return ()
  return artifactId

def findSucceededLedgerResponse (runId toolName : String)
    (logicalOperation : Option String) (requestHash : String) :
    StoreM (Option LedgerRow) := do
  let tie ← anyTie
  match logicalOperation.filter fun text => !text.isEmpty with
  | none => select (.succeededByHash runId toolName requestHash tie)
  | some logical => do
      let suffix := ":" ++ toolName ++ ":" ++ logical
      match ← select (.succeededLike runId toolName ("%" ++ suffix) tie) with
      | .error error => .raise error
      | .ok (some row) => return some row
      | .ok none => select (.succeededByHash runId toolName requestHash tie)

end AgentLedger
