import AgentLedger.Rust.Evidence.Schema
import AgentLedger.Rust.Memory.ValueCodec
import Mathlib.Data.List.Sort

namespace AgentLedger.Rust

open Foundation

/-! The snapshot: a line for every row, and in it the fields of the row. -/

section

variable (text : F64Text)

/-! ### Fields -/

def joinFields (fields : List String) : String := "\t".intercalate fields

def encodeOptionString (value : Option String) : String :=
  (value.map hexEncode).getD "-"

def decodeOptionString (value : String) : Result (Option String) :=
  if value = "-" then .ok none else (hexDecode value).map some

def encodeOptionF64 (value : Option F64) : String :=
  (value.map text.print).getD "-"

def decodeOptionF64 (value : String) : Result (Option F64) :=
  if value = "-" then .ok none else (parseF64 text value).map some

def encodeOptionU64 (value : Option UInt64) : String :=
  (value.map toString).getD "-"

def decodeOptionU64 (value : String) : Result (Option UInt64) :=
  if value = "-" then .ok none else (parseU64 value).map some

def encodeOptionValue (value : Option MapValue) : String :=
  (value.map fun item => String.ofList (encodeValue text item.value)).getD "-"

def decodeOptionValue (value : String) : Result (Option MapValue) :=
  if value = "-" then .ok none else (decodeValue text value).map some

/-! ### Rows -/

def Run.fields (run : Run) : List String :=
  ["R", hexEncode run.runId, hexEncode run.sessionId, hexEncode run.status,
    toString run.stateVersion, text.print run.createdAt,
    text.print run.updatedAt, encodeState text run.state]

def Step.fields (step : Step) : List String :=
  ["S", hexEncode step.stepId, hexEncode step.runId, hexEncode step.sessionId,
    hexEncode step.status, encodeOptionString step.owner,
    encodeOptionString step.leaseToken, encodeOptionF64 text step.leaseUntil,
    toString step.attempt, toString step.stateVersion,
    encodeOptionString step.checkpointId,
    encodeOptionString step.lastErrorType, encodeOptionString step.lastError,
    encodeOptionF64 text step.cancelledAt, text.print step.createdAt,
    text.print step.updatedAt]

def Event.fields (event : Event) : List String :=
  ["E", hexEncode event.eventId, hexEncode event.runId,
    encodeOptionString event.sessionId, encodeOptionString event.stepId,
    toString event.seq, hexEncode event.eventType, text.print event.timestamp,
    encodeOptionString event.agentRole, encodeOptionU64 event.stateVersion,
    encodeOptionString event.causalToken, hexEncode event.payloadHash,
    hexEncode event.payloadRef, encodeState text event.payload]

def ToolLedgerEntry.fields (entry : ToolLedgerEntry) : List String :=
  ["L", hexEncode entry.ledgerId, hexEncode entry.runId,
    hexEncode entry.sessionId, hexEncode entry.stepId,
    hexEncode entry.toolName, hexEncode entry.toolVersion,
    hexEncode entry.toolCallId, hexEncode entry.idempotencyKey,
    hexEncode entry.causalToken, hexEncode entry.requestHash,
    hexEncode entry.requestRef, hexEncode entry.status,
    encodeOptionString entry.externalId, encodeOptionString entry.responseHash,
    encodeOptionString entry.responseRef, encodeOptionString entry.errorType,
    encodeOptionValue text entry.response, text.print entry.createdAt,
    text.print entry.updatedAt]

def ApprovalRequest.fields (approval : ApprovalRequest) : List String :=
  ["A", hexEncode approval.approvalId, hexEncode approval.approvalKey,
    hexEncode approval.runId, hexEncode approval.sessionId,
    hexEncode approval.stepId, hexEncode approval.toolName,
    hexEncode approval.riskLevel, hexEncode approval.status,
    hexEncode approval.reason, hexEncode approval.requestHash,
    hexEncode approval.requestRef, hexEncode approval.requestedBy,
    encodeOptionString approval.approvedBy,
    encodeOptionString approval.decisionReason, text.print approval.createdAt,
    text.print approval.updatedAt]

def CostRecord.fields (cost : CostRecord) : List String :=
  ["C", hexEncode cost.costId, hexEncode cost.runId, hexEncode cost.sessionId,
    hexEncode cost.stepId, hexEncode cost.category, hexEncode cost.name,
    text.print cost.amount, hexEncode cost.unit,
    encodeState text cost.metadata, text.print cost.createdAt]

def Artifact.fields (artifact : Artifact) : List String :=
  ["F", hexEncode artifact.artifactId, hexEncode artifact.runId,
    encodeOptionString artifact.stepId, hexEncode artifact.name,
    hexEncode artifact.blobHash, hexEncode artifact.blobRef,
    encodeState text artifact.metadata, text.print artifact.createdAt]

/-! ### encode_store -/

/-- Rows in the order of a field. -/
def sortedBy {Row : Type} (key : Row → String) (rows : List Row) : List Row :=
  rows.insertionSort fun first second => key first ≤ key second

/-- The vectors of a map, in the order of their keys. -/
def inKeyOrder {Row : Type} (map : Dictionary String (List Row)) : List Row :=
  map.keys.flatMap fun key => (map.get? key).getD []

def header : String := "AGENTLEDGER_RUST_STORE_V1"

/-- The rows of a store, as the fields of each. -/
def storeRows (store : MemoryStore) : List (List String) :=
  (sortedBy Run.runId store.runs.values).map (Run.fields text) ++
  ((sortedBy Step.stepId store.steps.values).map (Step.fields text) ++
  ((inKeyOrder store.events).map (Event.fields text) ++
  ((sortedBy ToolLedgerEntry.idempotencyKey store.toolLedger.values).map
    (ToolLedgerEntry.fields text) ++
  ((sortedBy ApprovalRequest.approvalKey store.approvalRequests.values).map
    (ApprovalRequest.fields text) ++
  ((inKeyOrder store.costRecords).map (CostRecord.fields text) ++
  (inKeyOrder store.artifacts).map (Artifact.fields text))))))

def encodeStore (store : MemoryStore) : String :=
  "\n".intercalate
    (header :: ((storeRows text store).map joinFields ++ [""]))

/-! ### decode_store -/

def withoutReturn (line : List Char) : List Char :=
  if line.getLast? = some '\r' then line.dropLast else line

/-- `str::lines`: a line that is not ended is one if it is not empty. -/
def textLines (body : String) : List String :=
  let parts := body.toList.splitOn '\n'
  let last := (parts.getLast?.filter fun line => line ≠ []).toList
  (parts.dropLast.map withoutReturn ++ last).map String.ofList

def splitFields (line : String) : List String :=
  (line.toList.splitOn '\t').map String.ofList

def requireLen (tag : String) (fields : List String) (expected : Nat) :
    Result Unit :=
  if fields.length ≠ expected then
    .error ⟨"invalid " ++ tag ++ " row: expected " ++ toString expected ++
      " fields, got " ++ toString fields.length⟩
  else .ok ()

/-- The field of a row that has so many. -/
def fieldAt (fields : List String) (index : Nat) : String :=
  fields.getD index ""

def decodeRun (fields : List String) : Result Run := do
  requireLen "R" fields 8
  let runId ← hexDecode (fieldAt fields 1)
  let sessionId ← hexDecode (fieldAt fields 2)
  let status ← hexDecode (fieldAt fields 3)
  let stateVersion ← parseU64 (fieldAt fields 4)
  let createdAt ← parseF64 text (fieldAt fields 5)
  let updatedAt ← parseF64 text (fieldAt fields 6)
  let state ← decodeState text (fieldAt fields 7)
  return ⟨runId, sessionId, status, state, stateVersion, createdAt, updatedAt⟩

def decodeStep (fields : List String) : Result Step := do
  requireLen "S" fields 16
  let stepId ← hexDecode (fieldAt fields 1)
  let runId ← hexDecode (fieldAt fields 2)
  let sessionId ← hexDecode (fieldAt fields 3)
  let status ← hexDecode (fieldAt fields 4)
  let owner ← decodeOptionString (fieldAt fields 5)
  let leaseToken ← decodeOptionString (fieldAt fields 6)
  let leaseUntil ← decodeOptionF64 text (fieldAt fields 7)
  let attempt ← parseU64 (fieldAt fields 8)
  let stateVersion ← parseU64 (fieldAt fields 9)
  let checkpointId ← decodeOptionString (fieldAt fields 10)
  let lastErrorType ← decodeOptionString (fieldAt fields 11)
  let lastError ← decodeOptionString (fieldAt fields 12)
  let cancelledAt ← decodeOptionF64 text (fieldAt fields 13)
  let createdAt ← parseF64 text (fieldAt fields 14)
  let updatedAt ← parseF64 text (fieldAt fields 15)
  return ⟨stepId, runId, sessionId, status, owner, leaseToken, leaseUntil,
    attempt, stateVersion, checkpointId, lastErrorType, lastError, cancelledAt,
    createdAt, updatedAt⟩

def decodeEvent (fields : List String) : Result Event := do
  requireLen "E" fields 14
  let eventId ← hexDecode (fieldAt fields 1)
  let runId ← hexDecode (fieldAt fields 2)
  let sessionId ← decodeOptionString (fieldAt fields 3)
  let stepId ← decodeOptionString (fieldAt fields 4)
  let seq ← parseU64 (fieldAt fields 5)
  let eventType ← hexDecode (fieldAt fields 6)
  let timestamp ← parseF64 text (fieldAt fields 7)
  let agentRole ← decodeOptionString (fieldAt fields 8)
  let stateVersion ← decodeOptionU64 (fieldAt fields 9)
  let causalToken ← decodeOptionString (fieldAt fields 10)
  let payloadHash ← hexDecode (fieldAt fields 11)
  let payloadRef ← hexDecode (fieldAt fields 12)
  let payload ← decodeState text (fieldAt fields 13)
  return ⟨eventId, runId, sessionId, stepId, seq, eventType, timestamp,
    agentRole, stateVersion, causalToken, payloadHash, payloadRef, payload⟩

def decodeLedger (fields : List String) : Result ToolLedgerEntry := do
  requireLen "L" fields 20
  let ledgerId ← hexDecode (fieldAt fields 1)
  let runId ← hexDecode (fieldAt fields 2)
  let sessionId ← hexDecode (fieldAt fields 3)
  let stepId ← hexDecode (fieldAt fields 4)
  let toolName ← hexDecode (fieldAt fields 5)
  let toolVersion ← hexDecode (fieldAt fields 6)
  let toolCallId ← hexDecode (fieldAt fields 7)
  let idempotencyKey ← hexDecode (fieldAt fields 8)
  let causalToken ← hexDecode (fieldAt fields 9)
  let requestHash ← hexDecode (fieldAt fields 10)
  let requestRef ← hexDecode (fieldAt fields 11)
  let status ← hexDecode (fieldAt fields 12)
  let externalId ← decodeOptionString (fieldAt fields 13)
  let responseHash ← decodeOptionString (fieldAt fields 14)
  let responseRef ← decodeOptionString (fieldAt fields 15)
  let errorType ← decodeOptionString (fieldAt fields 16)
  let response ← decodeOptionValue text (fieldAt fields 17)
  let createdAt ← parseF64 text (fieldAt fields 18)
  let updatedAt ← parseF64 text (fieldAt fields 19)
  return ⟨ledgerId, runId, sessionId, stepId, toolName, toolVersion,
    toolCallId, idempotencyKey, causalToken, requestHash, requestRef, status,
    externalId, responseHash, responseRef, errorType, response, createdAt,
    updatedAt⟩

def decodeApproval (fields : List String) : Result ApprovalRequest := do
  requireLen "A" fields 17
  let approvalId ← hexDecode (fieldAt fields 1)
  let approvalKey ← hexDecode (fieldAt fields 2)
  let runId ← hexDecode (fieldAt fields 3)
  let sessionId ← hexDecode (fieldAt fields 4)
  let stepId ← hexDecode (fieldAt fields 5)
  let toolName ← hexDecode (fieldAt fields 6)
  let riskLevel ← hexDecode (fieldAt fields 7)
  let status ← hexDecode (fieldAt fields 8)
  let reason ← hexDecode (fieldAt fields 9)
  let requestHash ← hexDecode (fieldAt fields 10)
  let requestRef ← hexDecode (fieldAt fields 11)
  let requestedBy ← hexDecode (fieldAt fields 12)
  let approvedBy ← decodeOptionString (fieldAt fields 13)
  let decisionReason ← decodeOptionString (fieldAt fields 14)
  let createdAt ← parseF64 text (fieldAt fields 15)
  let updatedAt ← parseF64 text (fieldAt fields 16)
  return ⟨approvalId, approvalKey, runId, sessionId, stepId, toolName,
    riskLevel, status, reason, requestHash, requestRef, requestedBy, approvedBy,
    decisionReason, createdAt, updatedAt⟩

def decodeCost (fields : List String) : Result CostRecord := do
  requireLen "C" fields 11
  let costId ← hexDecode (fieldAt fields 1)
  let runId ← hexDecode (fieldAt fields 2)
  let sessionId ← hexDecode (fieldAt fields 3)
  let stepId ← hexDecode (fieldAt fields 4)
  let category ← hexDecode (fieldAt fields 5)
  let name ← hexDecode (fieldAt fields 6)
  let amount ← parseF64 text (fieldAt fields 7)
  let unit ← hexDecode (fieldAt fields 8)
  let metadata ← decodeState text (fieldAt fields 9)
  let createdAt ← parseF64 text (fieldAt fields 10)
  return ⟨costId, runId, sessionId, stepId, category, name, amount, unit,
    metadata, createdAt⟩

def decodeArtifact (fields : List String) : Result Artifact := do
  requireLen "F" fields 9
  let artifactId ← hexDecode (fieldAt fields 1)
  let runId ← hexDecode (fieldAt fields 2)
  let stepId ← decodeOptionString (fieldAt fields 3)
  let name ← hexDecode (fieldAt fields 4)
  let blobHash ← hexDecode (fieldAt fields 5)
  let blobRef ← hexDecode (fieldAt fields 6)
  let metadata ← decodeState text (fieldAt fields 7)
  let createdAt ← parseF64 text (fieldAt fields 8)
  return ⟨artifactId, runId, stepId, name, blobHash, blobRef, metadata,
    createdAt⟩

namespace MemoryStore

def putRun (store : MemoryStore) (run : Run) : MemoryStore :=
  { store with runs := store.runs.insert run.runId run }

def putStep (store : MemoryStore) (step : Step) : MemoryStore :=
  { store with steps := store.steps.insert step.stepId step }

def putEvent (store : MemoryStore) (event : Event) : MemoryStore :=
  { store with events := store.events.push event.runId event }

def putLedger (store : MemoryStore) (entry : ToolLedgerEntry) : MemoryStore :=
  { store with
    toolLedger := store.toolLedger.insert entry.idempotencyKey entry }

def putApproval (store : MemoryStore) (approval : ApprovalRequest) :
    MemoryStore :=
  { store with
    approvalRequests :=
      store.approvalRequests.insert approval.approvalKey approval }

def putCost (store : MemoryStore) (cost : CostRecord) : MemoryStore :=
  { store with costRecords := store.costRecords.push cost.runId cost }

def putArtifact (store : MemoryStore) (artifact : Artifact) : MemoryStore :=
  { store with artifacts := store.artifacts.push artifact.runId artifact }

end MemoryStore

def decodeLine (store : MemoryStore) (line : String) : Result MemoryStore :=
  let fields := splitFields line
  let tag := fields.headD ""
  match tag with
  | "R" => (decodeRun text fields).map store.putRun
  | "S" => (decodeStep text fields).map store.putStep
  | "E" => (decodeEvent text fields).map store.putEvent
  | "L" => (decodeLedger text fields).map store.putLedger
  | "A" => (decodeApproval text fields).map store.putApproval
  | "C" => (decodeCost text fields).map store.putCost
  | "F" => (decodeArtifact text fields).map store.putArtifact
  | _ => .error ⟨"unknown Rust store snapshot row: " ++ tag⟩

def decodeStore (body : String) : Result MemoryStore :=
  match textLines body with
  | [] => .error ⟨"invalid Rust store snapshot header"⟩
  | first :: rest =>
      if first = header then
        (rest.filter fun line => !isBlank line).foldlM (decodeLine text)
          MemoryStore.new
      else .error ⟨"invalid Rust store snapshot header"⟩

end

end AgentLedger.Rust
