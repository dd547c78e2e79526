import AgentLedger.Rust.Json
import AgentLedger.TypeScript.Values

namespace AgentLedger.TypeScript

open Foundation

/-! The rows of a `JSONStore`.  A member that is `undefined`, or was deleted, or
is `null` is `none`; the members that every object inherits are left out. -/

abbrev Number := Rust.F64

structure Run where
  runId : String
  sessionId : String
  status : String
  state : OrderedObject
  stateVersion : Int
  createdAt : Number
  updatedAt : Number

structure Step where
  stepId : String
  runId : String
  sessionId : String
  status : String
  owner : Option String := none
  leaseToken : Option String := none
  leaseUntil : Option Number := none
  attempt : Int
  stateVersion : Int
  checkpointId : Option String := none
  lastErrorType : Option String := none
  lastError : Option String := none
  cancelledAt : Option Number := none
  createdAt : Number
  updatedAt : Number

structure Event where
  eventId : String
  runId : String
  sessionId : Option String
  stepId : Option String
  seq : Nat
  type : String
  timestamp : Number
  agentRole : Option String
  stateVersion : Option Int
  causalToken : Option String
  payloadHash : String
  payloadRef : String
  payload : OrderedObject

structure ToolLedgerEntry where
  ledgerId : String
  runId : String
  sessionId : String
  stepId : String
  toolName : String
  toolVersion : String
  toolCallId : String
  idempotencyKey : String
  causalToken : String
  requestHash : String
  requestRef : String
  status : String
  externalId : Json := .null
  responseHash : Option String := none
  responseRef : Option String := none
  errorType : Option String := none
  response : Json := .null
  createdAt : Number
  updatedAt : Number

structure ApprovalRequest where
  approvalId : String
  approvalKey : String
  runId : String
  sessionId : String
  stepId : String
  toolName : String
  riskLevel : String
  status : String
  reason : String
  requestHash : String
  requestRef : String
  requestedBy : String
  approvedBy : Option String := none
  decisionReason : Option String := none
  createdAt : Number
  updatedAt : Number

structure CostRecord where
  costId : String
  runId : String
  sessionId : Option String
  stepId : Option String
  category : String
  name : String
  amount : Number
  unit : String
  metadata : OrderedObject
  createdAt : Number

/-- An object by its own members, in the order in which they were added. -/
structure Members (Key Value : Type) where
  entries : List (Key × Value)
  nodup : (entries.map Prod.fst).Nodup

def Members.empty {Key Value : Type} : Members Key Value :=
  ⟨[], List.nodup_nil⟩

structure StoreData where
  runs : Members String Run
  steps : Members String Step
  events : Members String (List Event)
  toolLedger : Members String ToolLedgerEntry
  approvalRequests : Members String ApprovalRequest
  costRecords : Members String (List CostRecord)

/-- `emptyData` -/
def StoreData.empty : StoreData :=
  ⟨.empty, .empty, .empty, .empty, .empty, .empty⟩

end AgentLedger.TypeScript
