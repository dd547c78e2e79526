import AgentLedger.Rust.Value

namespace AgentLedger.Rust

open Foundation

/-! `MemoryStore` and the process that it lives in. -/

/-- A value whose objects are maps. -/
structure MapValue where
  value : Value
  ordered : value.Ordered

namespace MapValue

@[ext] theorem ext {first second : MapValue}
    (same : first.value = second.value) : first = second := by
  cases first
  cases second
  cases same
  rfl

def bool (value : Bool) : MapValue := ⟨.bool value, trivial⟩

def number (value : F64) : MapValue := ⟨.number value, trivial⟩

def string (value : String) : MapValue := ⟨.string value, trivial⟩

def object (state : State) : MapValue := ⟨state.toValue, state.ordered⟩

end MapValue

/-- A new map with these entries. -/
def stateOf (entries : List (String × MapValue)) : State :=
  entries.foldl (fun state entry =>
    state.insert entry.1 entry.2.value entry.2.ordered) State.new

structure Run where
  runId : String
  sessionId : String
  status : String
  state : State
  stateVersion : UInt64
  createdAt : F64
  updatedAt : F64

structure Step where
  stepId : String
  runId : String
  sessionId : String
  status : String
  owner : Option String
  leaseToken : Option String
  leaseUntil : Option F64
  attempt : UInt64
  stateVersion : UInt64
  checkpointId : Option String
  lastErrorType : Option String
  lastError : Option String
  cancelledAt : Option F64
  createdAt : F64
  updatedAt : F64

structure StepClaim where
  runId : String
  sessionId : String
  stepId : String
  attempt : UInt64
  leaseToken : String
  stateVersion : UInt64
  leaseUntil : F64

structure Event where
  eventId : String
  runId : String
  sessionId : Option String
  stepId : Option String
  seq : UInt64
  eventType : String
  timestamp : F64
  agentRole : Option String
  stateVersion : Option UInt64
  causalToken : Option String
  payloadHash : String
  payloadRef : String
  payload : State

structure ToolLedgerEntry where
  ledgerId : String
  runId : String
  sessionId : String
  stepId : String
  toolName : String
  toolVersion : String
  toolCallId : String
  idempotencyKey : String
  causalToken : String
  requestHash : String
  requestRef : String
  status : String
  externalId : Option String
  responseHash : Option String
  responseRef : Option String
  errorType : Option String
  response : Option MapValue
  createdAt : F64
  updatedAt : F64

structure ApprovalRequest where
  approvalId : String
  approvalKey : String
  runId : String
  sessionId : String
  stepId : String
  toolName : String
  riskLevel : String
  status : String
  reason : String
  requestHash : String
  requestRef : String
  requestedBy : String
  approvedBy : Option String
  decisionReason : Option String
  createdAt : F64
  updatedAt : F64

structure CostRecord where
  costId : String
  runId : String
  sessionId : String
  stepId : String
  category : String
  name : String
  amount : F64
  unit : String
  metadata : State
  createdAt : F64

structure Artifact where
  artifactId : String
  runId : String
  stepId : Option String
  name : String
  blobHash : String
  blobRef : String
  metadata : State
  createdAt : F64

structure MemoryStore where
  runs : Dictionary String Run
  steps : Dictionary String Step
  events : Dictionary String (List Event)
  toolLedger : Dictionary String ToolLedgerEntry
  approvalRequests : Dictionary String ApprovalRequest
  costRecords : Dictionary String (List CostRecord)
  artifacts : Dictionary String (List Artifact)

def MemoryStore.new : MemoryStore :=
  ⟨.empty, .empty, .empty, .empty, .empty, .empty, .empty⟩

/-- How an `f64` is written and read. -/
structure F64Text where
  print : F64 → String
  parse : String → Except String F64

/-- Finite numbers are read back.  A number is written in digits, letters, signs
and points, and never as a sign alone. -/
structure F64Text.Lawful (text : F64Text) : Prop where
  parse_print : ∀ number, number.finite = true →
    text.parse (text.print number) = .ok number
  solid : ∀ number, ∀ char ∈ (text.print number).toList,
    char ≠ '\t' ∧ char ≠ '\n' ∧ char ≠ '\r'
  print_ne_dash : ∀ number, text.print number ≠ "-"

/-! ### The process -/

/-- What `new_id` is asked for. -/
inductive IdKind
  | run
  | session
  | step
  | lease
  | event
  | ledger
  | toolCall
  | approval
  | cost
  | artifact
  deriving DecidableEq, Repr

def IdKind.text : IdKind → String
  | run => "run"
  | session => "sess"
  | step => "step"
  | lease => "lease"
  | event => "evt"
  | ledger => "ledger"
  | toolCall => "toolcall"
  | approval => "approval"
  | cost => "cost"
  | artifact => "art"

/-- The number in sixteen hexadecimal digits. -/
def hex16 (number : UInt64) : String :=
  let digits := Nat.toDigits 16 number.toNat
  String.ofList (List.replicate (16 - digits.length) '0' ++ digits)

def idText (kind : IdKind) (number : UInt64) : String :=
  kind.text ++ "_" ++ hex16 number

/-- The ids of the rows of a store. -/
def MemoryStore.ids (store : MemoryStore) : IdKind → List String
  | .run => store.runs.values.map Run.runId
  | .session => store.runs.values.map Run.sessionId
  | .step => store.steps.values.map Step.stepId
  | .lease => store.steps.values.filterMap Step.leaseToken
  | .event => store.events.values.flatten.map Event.eventId
  | .ledger => store.toolLedger.values.map ToolLedgerEntry.ledgerId
  | .toolCall => []
  | .approval => store.approvalRequests.values.map ApprovalRequest.approvalId
  | .cost => store.costRecords.values.flatten.map CostRecord.costId
  | .artifact => store.artifacts.values.flatten.map Artifact.artifactId

/-- An id that was given out, and whether a row had it already. -/
structure Issued where
  kind : IdKind
  number : UInt64
  present : Bool
  deriving DecidableEq, Repr

def Issued.text (issued : Issued) : String := idText issued.kind issued.number

inductive Halt
  | error (error : RuntimeError)
  | panic

/-- A store in memory, the counter of the process, of which an atomic holds the
last 64 bits, and what the clock will say.  `issued` only records. -/
structure Process where
  store : MemoryStore
  idCounter : Nat
  clock : Nat → F64
  issued : List Issued

/-- A function on the store.  What it changed before it fails stays changed. -/
abbrev Op (α : Type) := ExceptT Halt (StateM Process) α

def fail {α : Type} (message : String) : Op α :=
  throw (.error ⟨message⟩)

def panicked {α : Type} : Op α := throw .panic

/-- `Option::unwrap` -/
def unwrap {α : Type} : Option α → Op α
  | some value => pure value
  | none => panicked

def orFail {α : Type} (message : String) : Option α → Op α
  | some value => pure value
  | none => fail message

def newId (kind : IdKind) : Op String := do
  let process ← get
  let number := UInt64.ofNat process.idCounter
  let id := idText kind number
  let issued : Issued := ⟨kind, number, decide (id ∈ process.store.ids kind)⟩
  set { process with
    idCounter := process.idCounter + 1
    issued := process.issued ++ [issued] }
  return id

def nowSeconds : Op F64 := do
  let process ← get
  set { process with clock := fun later => process.clock (later + 1) }
  return process.clock 0

def changeStore (change : MemoryStore → MemoryStore) : Op Unit :=
  modify fun process => { process with store := change process.store }

end AgentLedger.Rust
