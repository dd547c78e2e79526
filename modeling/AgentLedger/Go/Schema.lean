import AgentLedger.Foundation.Entries
import AgentLedger.Foundation.Writes
import AgentLedger.Go.Values
import AgentLedger.Rust.Json

namespace AgentLedger.Go

open Foundation

/-! `types.go` and the process that a `JSONStore` lives in.  A `map` is the list
of its entries in key order: what the store does depends on no other order. -/

abbrev Float64 := Rust.F64

namespace Float64

def lt (first second : Float64) : Bool :=
  first.partialCmp second = some .lt

def eq (first second : Float64) : Bool :=
  first.partialCmp second = some .eq

def zero : Float64 := Rust.F64.ofNat 0

/-- `json.Marshal` refuses the others. -/
def marshal (number : Float64) : Option Json :=
  if number.finite then some number.json else none

end Float64

structure Run where
  runId : String
  sessionId : String
  status : String
  state : JsonObject
  stateVersion : Int
  createdAt : Float64
  updatedAt : Float64

structure Step where
  stepId : String
  runId : String
  sessionId : String
  status : String
  owner : String
  leaseToken : String
  leaseUntil : Float64
  attempt : Int
  stateVersion : Int
  checkpointId : String
  lastErrorType : String
  lastError : String
  cancelledAt : Float64
  createdAt : Float64
  updatedAt : Float64

structure StepClaim where
  runId : String
  sessionId : String
  stepId : String
  attempt : Int
  leaseToken : String
  stateVersion : Int
  leaseUntil : Float64

structure Event where
  eventId : String
  runId : String
  sessionId : String
  stepId : String
  seq : Nat
  type : String
  timestamp : Float64
  agentRole : String
  stateVersion : Int
  causalToken : String
  payloadHash : String
  payloadRef : String
  payload : JsonObject

structure ToolLedgerEntry where
  ledgerId : String
  runId : String
  sessionId : String
  stepId : String
  toolName : String
  toolVersion : String
  toolCallId : String
  idempotencyKey : String
  causalToken : String
  requestHash : String
  requestRef : String
  status : String
  externalId : String
  responseHash : String
  responseRef : String
  errorType : String
  response : Json
  createdAt : Float64
  updatedAt : Float64

structure ApprovalRequest where
  approvalId : String
  approvalKey : String
  runId : String
  sessionId : String
  stepId : String
  toolName : String
  riskLevel : String
  status : String
  reason : String
  requestHash : String
  requestRef : String
  requestedBy : String
  approvedBy : String
  decisionReason : String
  createdAt : Float64
  updatedAt : Float64

structure CostRecord where
  costId : String
  runId : String
  sessionId : String
  stepId : String
  category : String
  name : String
  amount : Float64
  unit : String
  metadata : JsonObject
  createdAt : Float64

structure Artifact where
  artifactId : String
  runId : String
  stepId : String
  name : String
  blobHash : String
  blobRef : String
  metadata : JsonObject
  createdAt : Float64

/-- What a map shows where it has no run. -/
def Run.zero : Run :=
  { runId := ""
    sessionId := ""
    status := ""
    state := .empty
    stateVersion := 0
    createdAt := .zero
    updatedAt := .zero }

structure StoreData where
  runs : Dictionary String Run
  steps : Dictionary String Step
  events : Dictionary String (List Event)
  toolLedger : Dictionary String ToolLedgerEntry
  approvalRequests : Dictionary String ApprovalRequest
  costRecords : Dictionary String (List CostRecord)
  artifacts : Dictionary String (List Artifact)

/-- `emptyStoreData` -/
def StoreData.empty : StoreData :=
  ⟨.empty, .empty, .empty, .empty, .empty, .empty, .empty⟩

/-- The numbers of all rows. -/
def StoreData.numbers (data : StoreData) : List Float64 :=
  data.runs.values.flatMap (fun run => [run.createdAt, run.updatedAt]) ++
  data.steps.values.flatMap (fun step =>
    [step.leaseUntil, step.cancelledAt, step.createdAt, step.updatedAt]) ++
  data.events.values.flatten.map Event.timestamp ++
  data.toolLedger.values.flatMap (fun entry =>
    [entry.createdAt, entry.updatedAt]) ++
  data.approvalRequests.values.flatMap (fun approval =>
    [approval.createdAt, approval.updatedAt]) ++
  data.costRecords.values.flatten.flatMap (fun cost =>
    [cost.amount, cost.createdAt]) ++
  data.artifacts.values.flatten.map Artifact.createdAt

/-! ### Errors -/

inductive GoError
  | noRunnableStep
  | retryable
  | permissionDenied (reason : String)
  | approvalRequired (approvalId reason : String)
  | budgetExceeded (reason : String)
  | sandboxUnavailable (reason : String)
  | other (message : String)
  deriving DecidableEq

def GoError.message : GoError → String
  | .noRunnableStep => "agentledger: no runnable step"
  | .retryable => "agentledger: retryable agent error"
  | .permissionDenied reason => reason
  | .approvalRequired _ reason => reason
  | .budgetExceeded reason => reason
  | .sandboxUnavailable reason => reason
  | .other message => message

/-! ### The process -/

structure AppendEventInput where
  runId : String
  sessionId : String := ""
  stepId : String := ""
  type : String
  payload : JsonObject
  agentRole : String := ""
  stateVersion : Int := 0
  causalToken : String := ""
  payloadHash : String := ""
  payloadRef : String := ""

/-- What a method writes under `s.mu`. -/
inductive Write
  | run (key : String) (row : Run)
  | step (key : String) (row : Step)
  | event (input : AppendEventInput)
  | ledger (key : String) (row : ToolLedgerEntry)
  | approval (key : String) (row : ApprovalRequest)
  | cost (row : CostRecord)
  | artifact (row : Artifact)

/-- `json.Marshal` of values that it takes, and `sha256.Sum256` in hexadecimal. -/
structure Encoding where
  marshal : Json → String
  sha256 : String → String

/-- The random texts of `newID`, of which none comes twice. -/
structure Randomness where
  text : Nat → String
  injective : Function.Injective text

/-- A store, the content of its file, how many ids were drawn, what the clock
will show, and what will go wrong when the file is written. -/
structure Process where
  path : String
  data : StoreData
  file : Option StoreData
  drawn : Nat
  clock : Nat → Float64
  disk : Nat → Option String

section

variable (random : Randomness) (encoding : Encoding)

/-- `newID`, drawn as the number says. -/
def newId (prefix_ : String) (number : Nat) : String :=
  prefix_ ++ "_" ++ random.text number

/-- The event of `appendEventLocked`.  The payload was cloned, so it can be
encoded. -/
def Process.newEvent (process : Process) (input : AppendEventInput) : Event :=
  let payloadRef := encoding.marshal input.payload.value
  { eventId := newId random "evt" process.drawn
    runId := input.runId
    sessionId := input.sessionId
    stepId := input.stepId
    seq := ((process.data.events.get? input.runId).getD []).length + 1
    type := input.type
    timestamp := process.clock 0
    agentRole := input.agentRole
    stateVersion := input.stateVersion
    causalToken := input.causalToken
    payloadHash :=
      if input.payloadHash = "" then encoding.sha256 payloadRef
      else input.payloadHash
    payloadRef :=
      if input.payloadRef = "" then payloadRef else input.payloadRef
    payload := input.payload }

/-- `appendEventLocked` -/
def Process.appendEvent (process : Process) (input : AppendEventInput) :
    Process :=
  { process with
    data := { process.data with
      events := process.data.events.push input.runId
        (process.newEvent random encoding input) }
    drawn := process.drawn + 1
    clock := fun later => process.clock (later + 1) }

def Process.apply (write : Write) (process : Process) : Process :=
  let data := process.data
  match write with
  | .run key row => { process with
      data := { data with runs := data.runs.insert key row } }
  | .step key row => { process with
      data := { data with steps := data.steps.insert key row } }
  | .event input => process.appendEvent random encoding input
  | .ledger key row => { process with
      data := { data with toolLedger := data.toolLedger.insert key row } }
  | .approval key row => { process with
      data := { data with
        approvalRequests := data.approvalRequests.insert key row } }
  | .cost row => { process with
      data := { data with
        costRecords := data.costRecords.push row.runId row } }
  | .artifact row => { process with
      data := { data with artifacts := data.artifacts.push row.runId row } }

end

/-- `flushLocked`: the new content takes the place of the file at once. -/
def Process.flush (process : Process) : Option GoError × Process :=
  if process.path = "" then (none, process)
  else if process.data.numbers.all Rust.F64.finite then
    let after := { process with
      disk := fun later => process.disk (later + 1) }
    match process.disk 0 with
    | some problem => (some (.other problem), after)
    | none => (none, { after with file := some process.data })
  else (some (.other "json: unsupported value"), process)

end AgentLedger.Go
