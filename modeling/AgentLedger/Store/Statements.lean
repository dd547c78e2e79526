import AgentLedger.Foundation.Wildcard
import AgentLedger.Store.Schema

namespace AgentLedger

open Foundation

/-! The SQL statements of `store.py`, one constructor for each text. -/

/-- What `LIKE` reads of a text: nothing from the first NUL on, and U+FFFE and
U+FFFF as the replacement character. -/
def likeText (text : String) : List Char :=
  (text.toList.takeWhile fun letter => letter != '\x00').map fun letter =>
    if letter == '\uFFFE' || letter == '\uFFFF' then '\uFFFD' else letter

def likePattern (pattern : String) : List (Wildcard Char) :=
  (likeText pattern).map fun letter =>
    if letter == '%' then .many
    else if letter == '_' then .one
    else .letter letter

/-- ASCII letters match in either case. -/
def likeLetter (wanted letter : Char) : Bool :=
  wanted.toLower == letter.toLower

def like (pattern text : String) : Bool :=
  Wildcard.fits likeLetter (likePattern pattern) (likeText text)

/-- `SQLITE_MAX_LIKE_PATTERN_LENGTH`, in bytes. -/
def likeLimit : Nat := 50000

/-- The rows with the least key. -/
def foremost {Row : Type} (key : Row → Int) (rows : List Row) : List Row :=
  rows.filter fun row => rows.all fun other => key row ≤ key other

/-- `ORDER BY ... LIMIT 1`: one of the rows with the least key.  Which of them
SQLite takes is not said. -/
def firstBy {Row : Type} (tie : Nat) (key : Row → Int) (rows : List Row) :
    Option Row :=
  (foremost key rows)[tie % (foremost key rows).length]?

inductive Query
  | run (runId : String)
  | step (stepId : String)
  /-- `status IN ('pending','retry_scheduled') [AND run_id = ?]
  ORDER BY created_at LIMIT 1`. -/
  | claimable (runId : Option String) (tie : Nat)
  /-- `status='running' AND lease_until IS NOT NULL AND lease_until < ?`. -/
  | expired (now : Int)
  /-- `run_id=? AND status NOT IN ('completed','failed','cancelled')`. -/
  | openSteps (runId : String)
  /-- `COALESCE(MAX(seq), 0) + 1`. -/
  | nextSeq (runId : String)
  | approvalByKey (approvalKey : String)
  | approval (approvalId : String)
  | ledger (idempotencyKey : String)
  | costRecords (runId : String)
  | succeededLike (runId toolName pattern : String) (tie : Nat)
  | succeededByHash (runId toolName requestHash : String) (tie : Nat)
  deriving DecidableEq

@[reducible] def Query.Answer : Query → Type
  | .run _ => Option RunRow
  | .step _ => Option StepRow
  | .claimable _ _ => Option StepRow
  | .expired _ => List StepRow
  | .openSteps _ => List StepRow
  | .nextSeq _ => Nat
  | .approvalByKey _ => Option ApprovalRow
  | .approval _ => Option ApprovalRow
  | .ledger _ => Option LedgerRow
  | .costRecords _ => List CostRow
  | .succeededLike _ _ _ _ => Except PyError (Option LedgerRow)
  | .succeededByHash _ _ _ _ => Option LedgerRow

/-- `created_at DESC`. -/
def LedgerRow.age (row : LedgerRow) : Int := -row.createdAt

namespace Store

def run? (store : Store) (runId : String) : Option RunRow :=
  store.runs.get? runId

def step? (store : Store) (stepId : String) : Option StepRow :=
  store.steps.get? stepId

def claimableSteps (store : Store) (runId : Option String) : List StepRow :=
  store.steps.rows.filter fun row =>
    row.status.claimable && runId.all fun wanted => row.runId = wanted

/-- `status='running'` with a lease that ended before `now`. -/
def leaseExpired (now : Int) (row : StepRow) : Bool :=
  decide (row.status = .running) && row.leaseUntil.any fun until_ => until_ < now

/-- `run_id=? AND tool_name=? AND status='SUCCEEDED'`. -/
def succeededRows (store : Store) (runId toolName : String) :
    List LedgerRow :=
  store.ledger.rows.filter fun row =>
    decide (row.runId = runId) && decide (row.toolName = toolName) &&
      decide (row.status = .succeeded)

/-- `AND idempotency_key LIKE ?`. -/
def likeRows (store : Store) (runId toolName pattern : String) :
    List LedgerRow :=
  (store.succeededRows runId toolName).filter fun row =>
    like pattern row.idempotencyKey

/-- `AND request_hash=?`. -/
def hashRows (store : Store) (runId toolName requestHash : String) :
    List LedgerRow :=
  (store.succeededRows runId toolName).filter fun row =>
    row.requestHash = requestHash

def maxSeq (store : Store) (runId : String) : Nat :=
  ((store.events.filter fun event => event.runId = runId).map
    EventRow.seq).foldr max 0

def query : (request : Query) → Store → request.Answer
  | .run runId, store => store.run? runId
  | .step stepId, store => store.step? stepId
  | .claimable runId tie, store =>
      firstBy tie StepRow.createdAt (store.claimableSteps runId)
  | .expired now, store => store.steps.rows.filter (leaseExpired now)
  | .openSteps runId, store =>
      store.steps.rows.filter fun row =>
        decide (row.runId = runId) && !row.status.terminal
  | .nextSeq runId, store => store.maxSeq runId + 1
  | .approvalByKey approvalKey, store =>
      store.approvals.rows.find? fun row => row.approvalKey = approvalKey
  | .approval approvalId, store => store.approvals.get? approvalId
  | .ledger idempotencyKey, store => store.ledger.get? idempotencyKey
  | .costRecords runId, store =>
      store.costs.filter fun row => row.runId = runId
  | .succeededLike runId toolName pattern tie, store =>
      -- the pattern is looked at where the other conditions are met
      if likeLimit < pattern.utf8ByteSize ∧
          store.succeededRows runId toolName ≠ [] then
        .error (.operationalError "LIKE or GLOB pattern too complex")
      else
        .ok (firstBy tie LedgerRow.age (store.likeRows runId toolName pattern))
  | .succeededByHash runId toolName requestHash tie, store =>
      firstBy tie LedgerRow.age (store.hashRows runId toolName requestHash)

end Store

inductive Write
  | insertRun (row : RunRow)
  | insertStep (row : StepRow)
  | insertEvent (row : EventRow)
  | insertApproval (row : ApprovalRow)
  | insertLedger (row : LedgerRow)
  | insertCost (row : CostRow)
  | insertArtifact (row : ArtifactRow)
  /-- `claim_step`: `WHERE step_id=? AND status IN
  ('pending','retry_scheduled')`. -/
  | claimStep (stepId workerId leaseToken : String) (leaseUntil : Int)
      (attempt : Nat)
  /-- `heartbeat`: `WHERE step_id=? AND lease_token=? AND
  status='running'`. -/
  | extendLease (stepId leaseToken : String) (leaseUntil : Int)
  /-- `recover_expired_leases`: `WHERE step_id=? AND status='running'`. -/
  | recoverStep (stepId : String)
  /-- `SET status=?, owner=NULL, lease_token=NULL, lease_until=NULL
  [, last_error_type=?, last_error=?] WHERE step_id=?`. -/
  | releaseStep (stepId : String) (status : Status)
      (error : Option (String × String))
  /-- `commit_state_patch`: `SET status='completed', state_version=?,
  checkpoint_id=? WHERE step_id=?`. -/
  | completeStep (stepId : String) (stateVersion : Int)
      (checkpointId : Option String)
  | setRunStatus (runId : String) (status : Status)
  /-- `commit_state_patch`: `SET state_json=?, state_version=?,
  status='completed' WHERE run_id=? AND state_version=?`. -/
  | commitRun (runId : String) (baseVersion : Int) (state : Json)
      (newVersion : Int)
  /-- `apply_system_state_patch`: the same without the status. -/
  | patchRun (runId : String) (currentVersion : Int) (state : Json)
      (newVersion : Int)
  | decideApproval (approvalId : String) (status : ApprovalStatus)
      (approvedBy decisionReason : String)
  | updateLedger (idempotencyKey : String) (status : LedgerStatus)
      (externalId responseHash responseRef errorType : Option String)
  deriving DecidableEq

/-- An INSERT reports whether it was accepted, an UPDATE its row count. -/
@[reducible] def Write.Count : Write → Type
  | .insertRun _ => Bool
  | .insertStep _ => Bool
  | .insertEvent _ => Bool
  | .insertApproval _ => Bool
  | .insertLedger _ => Bool
  | .insertCost _ => Bool
  | .insertArtifact _ => Bool
  | .claimStep _ _ _ _ _ => Nat
  | .extendLease _ _ _ => Nat
  | .recoverStep _ => Nat
  | .releaseStep _ _ _ => Nat
  | .completeStep _ _ _ => Nat
  | .setRunStatus _ _ => Nat
  | .commitRun _ _ _ _ => Nat
  | .patchRun _ _ _ _ => Nat
  | .decideApproval _ _ _ _ => Nat
  | .updateLedger _ _ _ _ _ _ => Nat

/-! What the SET clauses of the UPDATEs make of a row. -/

def StepRow.claim (workerId leaseToken : String) (leaseUntil : Int)
    (attempt : Nat) (row : StepRow) : StepRow :=
  { row with
    status := .running
    owner := some workerId
    leaseToken := some leaseToken
    leaseUntil := some leaseUntil
    attempt := attempt }

def StepRow.extend (leaseUntil : Int) (row : StepRow) : StepRow :=
  { row with leaseUntil := some leaseUntil }

def StepRow.release (status : Status) (error : Option (String × String))
    (row : StepRow) : StepRow :=
  { row with
    status := status
    owner := none
    leaseToken := none
    leaseUntil := none
    lastErrorType := (error.map Prod.fst).orElse fun _ => row.lastErrorType
    lastError := (error.map Prod.snd).orElse fun _ => row.lastError }

def StepRow.complete (stateVersion : Int) (checkpointId : Option String)
    (row : StepRow) : StepRow :=
  { row with
    status := .completed
    stateVersion := stateVersion
    checkpointId := checkpointId }

def RunRow.setStatus (status : Status) (row : RunRow) : RunRow :=
  { row with status := status }

def RunRow.commit (state : Json) (version : Int) (row : RunRow) : RunRow :=
  { row with state := state, stateVersion := version, status := .completed }

def RunRow.patch (state : Json) (version : Int) (row : RunRow) : RunRow :=
  { row with state := state, stateVersion := version }

namespace Store

def updateSteps (store : Store) (selected : StepRow → Bool)
    (change : StepRow → StepRow)
    (keeps : ∀ row, (change row).stepId = row.stepId) : Nat × Store :=
  (store.steps.countWhere selected,
    { store with steps := store.steps.updateWhere selected change keeps })

def updateRuns (store : Store) (selected : RunRow → Bool)
    (change : RunRow → RunRow)
    (keeps : ∀ row, (change row).runId = row.runId) : Nat × Store :=
  (store.runs.countWhere selected,
    { store with runs := store.runs.updateWhere selected change keeps })

def write : (statement : Write) → Store → statement.Count × Store
  | .insertRun row, store =>
      match store.runs.insert? row with
      | some runs => (true, { store with runs := runs })
      | none => (false, store)
  | .insertStep row, store =>
      -- steps.run_id REFERENCES runs(run_id), and foreign keys are enforced
      if (store.run? row.runId).isSome then
        match store.steps.insert? row with
        | some steps => (true, { store with steps := steps })
        | none => (false, store)
      else (false, store)
  | .insertEvent row, store =>
      -- the unique index on (run_id, seq)
      if store.events.any fun event =>
          event.runId = row.runId && event.seq = row.seq then (false, store)
      else (true, { store with events := store.events ++ [row] })
  | .insertApproval row, store =>
      -- approval_key is UNIQUE
      if store.approvals.rows.any fun other =>
          other.approvalKey = row.approvalKey then (false, store)
      else
        match store.approvals.insert? row with
        | some approvals => (true, { store with approvals := approvals })
        | none => (false, store)
  | .insertLedger row, store =>
      match store.ledger.insert? row with
      | some ledger => (true, { store with ledger := ledger })
      | none => (false, store)
  | .insertCost row, store =>
      (true, { store with costs := store.costs ++ [row] })
  | .insertArtifact row, store =>
      (true, { store with artifacts := store.artifacts ++ [row] })
  | .claimStep stepId workerId leaseToken leaseUntil attempt, store =>
      store.updateSteps
        (fun row => decide (row.stepId = stepId) && row.status.claimable)
        (StepRow.claim workerId leaseToken leaseUntil attempt) fun _ => rfl
  | .extendLease stepId leaseToken leaseUntil, store =>
      store.updateSteps
        (fun row => decide (row.stepId = stepId) &&
          (decide (row.leaseToken = some leaseToken) &&
            decide (row.status = .running)))
        (StepRow.extend leaseUntil) fun _ => rfl
  | .recoverStep stepId, store =>
      store.updateSteps
        (fun row => decide (row.stepId = stepId) &&
          decide (row.status = .running))
        (StepRow.release .retryScheduled none) fun _ => rfl
  | .releaseStep stepId status error, store =>
      store.updateSteps (fun row => decide (row.stepId = stepId))
        (StepRow.release status error) fun _ => rfl
  | .completeStep stepId stateVersion checkpointId, store =>
      store.updateSteps (fun row => decide (row.stepId = stepId))
        (StepRow.complete stateVersion checkpointId) fun _ => rfl
  | .setRunStatus runId status, store =>
      store.updateRuns (fun row => decide (row.runId = runId))
        (RunRow.setStatus status) fun _ => rfl
  | .commitRun runId baseVersion state newVersion, store =>
      store.updateRuns
        (fun row => decide (row.runId = runId) &&
          decide (row.stateVersion = baseVersion))
        (RunRow.commit state newVersion) fun _ => rfl
  | .patchRun runId currentVersion state newVersion, store =>
      store.updateRuns
        (fun row => decide (row.runId = runId) &&
          decide (row.stateVersion = currentVersion))
        (RunRow.patch state newVersion) fun _ => rfl
  | .decideApproval approvalId status approvedBy decisionReason, store =>
      (store.approvals.countWhere fun row => row.approvalId = approvalId,
        { store with
          approvals := store.approvals.updateWhere
            (fun row => row.approvalId = approvalId)
            (fun row => { row with
              status := status
              approvedBy := some approvedBy
              decisionReason := some decisionReason })
            fun _ => rfl })
  | .updateLedger idempotencyKey status externalId responseHash responseRef
      errorType, store =>
      (store.ledger.countWhere fun row => row.idempotencyKey = idempotencyKey,
        { store with
          ledger := store.ledger.updateWhere
            (fun row => row.idempotencyKey = idempotencyKey)
            (fun row => { row with
              status := status
              externalId := externalId
              responseHash := responseHash
              responseRef := responseRef
              errorType := errorType })
            fun _ => rfl })

end Store

end AgentLedger
