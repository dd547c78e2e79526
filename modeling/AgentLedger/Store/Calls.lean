import AgentLedger.Store.Operations

namespace AgentLedger

open Foundation

/-! The operations of `SQLiteStore` with their arguments, and a store on which
they run one after the other. -/

inductive Call
  | createRun (sessionId : Option String)
      (initialState retryPolicy : Option Fields)
  | createExternalStep (runId : String) (stepId : Option String)
      (retryPolicy : Option Fields)
  | claimStep (workerId : String) (runId : Option String) (leaseSeconds : Int)
  | validateLease (stepId leaseToken : String)
  | heartbeat (stepId leaseToken : String) (leaseSeconds : Int)
  | recoverExpiredLeases
  | cancelRun (runId reason : String)
  | markWaitingHuman (runId stepId reason : String)
      (approvalId : Option String)
  | requestApproval (args : ApprovalArgs)
  | approvalForKey (approvalKey : String)
  | approveRequest (approvalId approver reason : String)
  | denyRequest (approvalId approver reason : String)
  /-- The runtime reports under names that are not the store's own. -/
  | appendEvent (name : String) (args : EventArgs)
  | run (runId : String)
  | loadState (runId : String)
  | commitStatePatch (args : CommitArgs)
  | applySystemStatePatch (runId : String) (patch : Fields) (reason : String)
  | markRetry (runId stepId error errorType : String)
  | markFailed (runId stepId error errorType : String)
  | reserveLedger (args : LedgerArgs)
  | updateLedger (update : LedgerUpdate)
  | resolveLedger (runId : String) (update : LedgerUpdate)
      (resolvedBy reason : String)
  | recordCost (args : CostArgs)
  | costSummary (runId : String)
  | createArtifact (args : ArtifactArgs)
  | findSucceededLedgerResponse (runId toolName : String)
      (logicalOperation : Option String) (requestHash : String)

namespace Call

@[reducible] def Result : Call → Type
  | .createRun _ _ _ => String × String
  | .createExternalStep _ _ _ => String
  | .claimStep _ _ _ => Option StepClaim
  | .validateLease _ _ => StepRow
  | .heartbeat _ _ _ => Int
  | .recoverExpiredLeases => Nat
  | .cancelRun _ _ => Nat
  | .markWaitingHuman _ _ _ _ => Unit
  | .requestApproval _ => ApprovalRow
  | .approvalForKey _ => Option ApprovalRow
  | .approveRequest _ _ _ => ApprovalRow
  | .denyRequest _ _ _ => ApprovalRow
  | .appendEvent _ _ => Nat
  | .run _ => RunRow
  | .loadState _ => Json × Int × String
  | .commitStatePatch _ => Int
  | .applySystemStatePatch _ _ _ => Int
  | .markRetry _ _ _ _ => Bool
  | .markFailed _ _ _ _ => Unit
  | .reserveLedger _ => Option LedgerRow
  | .updateLedger _ => Unit
  | .resolveLedger _ _ _ _ => LedgerRow
  | .recordCost _ => String
  | .costSummary _ => CostSummary
  | .createArtifact _ => String
  | .findSucceededLedgerResponse _ _ _ _ => Option LedgerRow

def body : (call : Call) → StoreM call.Result
  | .createRun sessionId initialState retryPolicy =>
      AgentLedger.createRun sessionId initialState retryPolicy
  | .createExternalStep runId stepId retryPolicy =>
      AgentLedger.createExternalStep runId stepId retryPolicy
  | .claimStep workerId runId leaseSeconds =>
      AgentLedger.claimStep workerId runId leaseSeconds
  | .validateLease stepId leaseToken =>
      AgentLedger.validateLease stepId leaseToken
  | .heartbeat stepId leaseToken leaseSeconds =>
      AgentLedger.heartbeat stepId leaseToken leaseSeconds
  | .recoverExpiredLeases => AgentLedger.recoverExpiredLeases
  | .cancelRun runId reason => AgentLedger.cancelRun runId reason
  | .markWaitingHuman runId stepId reason approvalId =>
      AgentLedger.markWaitingHuman runId stepId reason approvalId
  | .requestApproval args => AgentLedger.requestApproval args
  | .approvalForKey approvalKey => AgentLedger.approvalForKey approvalKey
  | .approveRequest approvalId approver reason =>
      AgentLedger.approveRequest approvalId approver reason
  | .denyRequest approvalId approver reason =>
      AgentLedger.denyRequest approvalId approver reason
  | .appendEvent name args =>
      AgentLedger.appendEvent { args with type := .reported name }
  | .run runId => AgentLedger.run runId
  | .loadState runId => AgentLedger.loadState runId
  | .commitStatePatch args => AgentLedger.commitStatePatch args
  | .applySystemStatePatch runId patch reason =>
      AgentLedger.applySystemStatePatch runId patch reason
  | .markRetry runId stepId error errorType =>
      AgentLedger.markRetry runId stepId error errorType
  | .markFailed runId stepId error errorType =>
      AgentLedger.markFailed runId stepId error errorType
  | .reserveLedger args => AgentLedger.reserveLedger args
  | .updateLedger update => AgentLedger.updateLedger update
  | .resolveLedger runId update resolvedBy reason =>
      AgentLedger.resolveLedger runId update resolvedBy reason
  | .recordCost args => AgentLedger.recordCost args
  | .costSummary runId => AgentLedger.costSummary runId
  | .createArtifact args => AgentLedger.createArtifact args
  | .findSucceededLedgerResponse runId toolName logicalOperation
      requestHash =>
      AgentLedger.findSucceededLedgerResponse runId toolName logicalOperation
        requestHash

end Call

/-- The store as a service of its connections. -/
@[reducible] def storeService : Service sqlite where
  Call := Call
  Result := Call.Result
  Error := PyError
  body := Call.body

/-! ### One operation after the other -/

/-- What the clock and `new_id` answer during one operation, and which of the
rows that come first together it takes. -/
structure Moment where
  now : Int
  id : String → String
  tie : Nat

def Moment.tell (moment : Moment) : (about : Ask) → about.Told
  | .now => moment.now
  | .newId kind => moment.id kind
  | .tie => moment.tie

/-- The program alone on the store: its result and the store it leaves. -/
def perform {α : Type} (program : StoreM α) (moment : Moment)
    (store : Store) : Except PyError α × Store :=
  Sql.exec moment.tell program store none

def Call.perform (call : Call) (moment : Moment) (store : Store) :
    Except PyError call.Result × Store :=
  AgentLedger.perform call.body moment store

/-- One step of a history of operations. -/
def Store.next (operation : Call × Moment) (store : Store) : Store :=
  (operation.1.perform operation.2 store).2

end AgentLedger
