import AgentLedger.Rust.Memory.Demands
import Mathlib.Data.List.Infix

namespace AgentLedger.Rust

open Foundation

namespace Decoding

open Guarded

/-! A snapshot that somebody else may have written, row by row. -/

section

variable (text : F64Text) (stack : Nat)

def decodeOptionString (value : String) : Decoding (Option String) :=
  if value = "-" then pure none
  else do
    let item ← hexDecode value
    return some item

def decodeOptionValue (value : String) : Decoding (Option MapValue) :=
  if value = "-" then pure none
  else do
    let item ← decodeValue text stack value
    return some item

def decodeRun (fields : List String) : Decoding Run := do
  of (requireLen "R" fields 8)
  let runId ← hexDecode (fieldAt fields 1)
  let sessionId ← hexDecode (fieldAt fields 2)
  let status ← hexDecode (fieldAt fields 3)
  let stateVersion ← of (parseU64 (fieldAt fields 4))
  let createdAt ← of (parseF64 text (fieldAt fields 5))
  let updatedAt ← of (parseF64 text (fieldAt fields 6))
  let state ← decodeState text stack (fieldAt fields 7)
  return ⟨runId, sessionId, status, state, stateVersion, createdAt, updatedAt⟩

def decodeStep (fields : List String) : Decoding Step := do
  of (requireLen "S" fields 16)
  let stepId ← hexDecode (fieldAt fields 1)
  let runId ← hexDecode (fieldAt fields 2)
  let sessionId ← hexDecode (fieldAt fields 3)
  let status ← hexDecode (fieldAt fields 4)
  let owner ← decodeOptionString (fieldAt fields 5)
  let leaseToken ← decodeOptionString (fieldAt fields 6)
  let leaseUntil ← of (decodeOptionF64 text (fieldAt fields 7))
  let attempt ← of (parseU64 (fieldAt fields 8))
  let stateVersion ← of (parseU64 (fieldAt fields 9))
  let checkpointId ← decodeOptionString (fieldAt fields 10)
  let lastErrorType ← decodeOptionString (fieldAt fields 11)
  let lastError ← decodeOptionString (fieldAt fields 12)
  let cancelledAt ← of (decodeOptionF64 text (fieldAt fields 13))
  let createdAt ← of (parseF64 text (fieldAt fields 14))
  let updatedAt ← of (parseF64 text (fieldAt fields 15))
  return ⟨stepId, runId, sessionId, status, owner, leaseToken, leaseUntil,
    attempt, stateVersion, checkpointId, lastErrorType, lastError, cancelledAt,
    createdAt, updatedAt⟩

def decodeEvent (fields : List String) : Decoding Event := do
  of (requireLen "E" fields 14)
  let eventId ← hexDecode (fieldAt fields 1)
  let runId ← hexDecode (fieldAt fields 2)
  let sessionId ← decodeOptionString (fieldAt fields 3)
  let stepId ← decodeOptionString (fieldAt fields 4)
  let seq ← of (parseU64 (fieldAt fields 5))
  let eventType ← hexDecode (fieldAt fields 6)
  let timestamp ← of (parseF64 text (fieldAt fields 7))
  let agentRole ← decodeOptionString (fieldAt fields 8)
  let stateVersion ← of (decodeOptionU64 (fieldAt fields 9))
  let causalToken ← decodeOptionString (fieldAt fields 10)
  let payloadHash ← hexDecode (fieldAt fields 11)
  let payloadRef ← hexDecode (fieldAt fields 12)
  let payload ← decodeState text stack (fieldAt fields 13)
  return ⟨eventId, runId, sessionId, stepId, seq, eventType, timestamp,
    agentRole, stateVersion, causalToken, payloadHash, payloadRef, payload⟩

def decodeLedger (fields : List String) : Decoding ToolLedgerEntry := do
  of (requireLen "L" fields 20)
  let ledgerId ← hexDecode (fieldAt fields 1)
  let runId ← hexDecode (fieldAt fields 2)
  let sessionId ← hexDecode (fieldAt fields 3)
  let stepId ← hexDecode (fieldAt fields 4)
  let toolName ← hexDecode (fieldAt fields 5)
  let toolVersion ← hexDecode (fieldAt fields 6)
  let toolCallId ← hexDecode (fieldAt fields 7)
  let idempotencyKey ← hexDecode (fieldAt fields 8)
  let causalToken ← hexDecode (fieldAt fields 9)
  let requestHash ← hexDecode (fieldAt fields 10)
  let requestRef ← hexDecode (fieldAt fields 11)
  let status ← hexDecode (fieldAt fields 12)
  let externalId ← decodeOptionString (fieldAt fields 13)
  let responseHash ← decodeOptionString (fieldAt fields 14)
  let responseRef ← decodeOptionString (fieldAt fields 15)
  let errorType ← decodeOptionString (fieldAt fields 16)
  let response ← decodeOptionValue text stack (fieldAt fields 17)
  let createdAt ← of (parseF64 text (fieldAt fields 18))
  let updatedAt ← of (parseF64 text (fieldAt fields 19))
  return ⟨ledgerId, runId, sessionId, stepId, toolName, toolVersion,
    toolCallId, idempotencyKey, causalToken, requestHash, requestRef, status,
    externalId, responseHash, responseRef, errorType, response, createdAt,
    updatedAt⟩

def decodeApproval (fields : List String) : Decoding ApprovalRequest := do
  of (requireLen "A" fields 17)
  let approvalId ← hexDecode (fieldAt fields 1)
  let approvalKey ← hexDecode (fieldAt fields 2)
  let runId ← hexDecode (fieldAt fields 3)
  let sessionId ← hexDecode (fieldAt fields 4)
  let stepId ← hexDecode (fieldAt fields 5)
  let toolName ← hexDecode (fieldAt fields 6)
  let riskLevel ← hexDecode (fieldAt fields 7)
  let status ← hexDecode (fieldAt fields 8)
  let reason ← hexDecode (fieldAt fields 9)
  let requestHash ← hexDecode (fieldAt fields 10)
  let requestRef ← hexDecode (fieldAt fields 11)
  let requestedBy ← hexDecode (fieldAt fields 12)
  let approvedBy ← decodeOptionString (fieldAt fields 13)
  let decisionReason ← decodeOptionString (fieldAt fields 14)
  let createdAt ← of (parseF64 text (fieldAt fields 15))
  let updatedAt ← of (parseF64 text (fieldAt fields 16))
  return ⟨approvalId, approvalKey, runId, sessionId, stepId, toolName,
    riskLevel, status, reason, requestHash, requestRef, requestedBy, approvedBy,
    decisionReason, createdAt, updatedAt⟩

def decodeCost (fields : List String) : Decoding CostRecord := do
  of (requireLen "C" fields 11)
  let costId ← hexDecode (fieldAt fields 1)
  let runId ← hexDecode (fieldAt fields 2)
  let sessionId ← hexDecode (fieldAt fields 3)
  let stepId ← hexDecode (fieldAt fields 4)
  let category ← hexDecode (fieldAt fields 5)
  let name ← hexDecode (fieldAt fields 6)
  let amount ← of (parseF64 text (fieldAt fields 7))
  let unit ← hexDecode (fieldAt fields 8)
  let metadata ← decodeState text stack (fieldAt fields 9)
  let createdAt ← of (parseF64 text (fieldAt fields 10))
  return ⟨costId, runId, sessionId, stepId, category, name, amount, unit,
    metadata, createdAt⟩

def decodeArtifact (fields : List String) : Decoding Artifact := do
  of (requireLen "F" fields 9)
  let artifactId ← hexDecode (fieldAt fields 1)
  let runId ← hexDecode (fieldAt fields 2)
  let stepId ← decodeOptionString (fieldAt fields 3)
  let name ← hexDecode (fieldAt fields 4)
  let blobHash ← hexDecode (fieldAt fields 5)
  let blobRef ← hexDecode (fieldAt fields 6)
  let metadata ← decodeState text stack (fieldAt fields 7)
  let createdAt ← of (parseF64 text (fieldAt fields 8))
  return ⟨artifactId, runId, stepId, name, blobHash, blobRef, metadata,
    createdAt⟩

def decodeLine (store : MemoryStore) (line : String) : Decoding MemoryStore :=
  let fields := splitFields line
  let tag := fields.headD ""
  match tag with
  | "R" => do return store.putRun (← decodeRun text stack fields)
  | "S" => do return store.putStep (← decodeStep text fields)
  | "E" => do return store.putEvent (← decodeEvent text stack fields)
  | "L" => do return store.putLedger (← decodeLedger text stack fields)
  | "A" => do return store.putApproval (← decodeApproval text fields)
  | "C" => do return store.putCost (← decodeCost text stack fields)
  | "F" => do return store.putArtifact (← decodeArtifact text stack fields)
  | _ => of (.error ⟨"unknown Rust store snapshot row: " ++ tag⟩)

def decodeStore (body : String) : Decoding MemoryStore :=
  match textLines body with
  | [] => of (.error ⟨"invalid Rust store snapshot header"⟩)
  | first :: rest =>
      if first = header then
        (rest.filter fun line => !isBlank line).foldlM (decodeLine text stack)
          MemoryStore.new
      else of (.error ⟨"invalid Rust store snapshot header"⟩)

/-! ### Files -/

/-- What `fs::read_to_string` makes of a path. -/
abbrev Reading := String → Result String

def blobPrefix : String := "blob://sha256/"

/-- `LocalBlobStore::get_json`, up to the text of the file. -/
def blobText (files : Reading) (reference : String) : Result String :=
  let unsupported : RuntimeError := ⟨"unsupported blob ref: " ++ reference⟩
  if ¬blobPrefix.toList <+: reference.toList then .error unsupported
  else
    let name := reference.toList.drop blobPrefix.toList.length
    if ¬".json".toList <:+ name ∨ "..".toList <:+: name ∨ '/' ∈ name ∨
        '\\' ∈ name then
      .error unsupported
    else files (String.ofList name)

def getJson (files : Reading) (reference : String) : Decoding MapValue := do
  let body ← of (blobText files reference)
  decodeValue text stack body

def loadFromPath (files : Reading) (path : String) : Decoding MemoryStore := do
  let body ← of (files path)
  decodeStore text stack body

/-! ### What a row holds -/

inductive Kind
  | hex
  | optionHex
  | u64
  | optionU64
  | f64
  | optionF64
  | state
  | optionValue

def Kind.read (kind : Kind) (field : String) : Decoding Unit :=
  match kind with
  | .hex => discard (hexDecode field)
  | .optionHex => discard (decodeOptionString field)
  | .u64 => discard (of (parseU64 field) : Decoding UInt64)
  | .optionU64 => discard (of (decodeOptionU64 field) : Decoding _)
  | .f64 => discard (of (parseF64 text field) : Decoding F64)
  | .optionF64 => discard (of (decodeOptionF64 text field) : Decoding _)
  | .state => discard (decodeState text stack field)
  | .optionValue => discard (decodeOptionValue text stack field)

/-- The field makes its decoder ask for too much. -/
def Kind.Breaches (kind : Kind) (field : String) : Prop :=
  match kind with
  | .hex => CutsField field
  | .optionHex => field ≠ "-" ∧ CutsField field
  | .state => Decoding.Breaches text stack field.toList
  | .optionValue => field ≠ "-" ∧ Decoding.Breaches text stack field.toList
  | .u64 | .optionU64 | .f64 | .optionF64 => False

def columns : String → Option (List Kind)
  | "R" => some [.hex, .hex, .hex, .u64, .f64, .f64, .state]
  | "S" => some [.hex, .hex, .hex, .hex, .optionHex, .optionHex, .optionF64,
      .u64, .u64, .optionHex, .optionHex, .optionHex, .optionF64, .f64, .f64]
  | "E" => some [.hex, .hex, .optionHex, .optionHex, .u64, .hex, .f64,
      .optionHex, .optionU64, .optionHex, .hex, .hex, .state]
  | "L" => some [.hex, .hex, .hex, .hex, .hex, .hex, .hex, .hex, .hex, .hex,
      .hex, .hex, .optionHex, .optionHex, .optionHex, .optionHex, .optionValue,
      .f64, .f64]
  | "A" => some [.hex, .hex, .hex, .hex, .hex, .hex, .hex, .hex, .hex, .hex,
      .hex, .hex, .optionHex, .optionHex, .f64, .f64]
  | "C" => some [.hex, .hex, .hex, .hex, .hex, .hex, .f64, .hex, .state, .f64]
  | "F" => some [.hex, .hex, .optionHex, .hex, .hex, .hex, .state, .f64]
  | _ => none

/-- The fields behind the tag, each with its kind. -/
def cells (kinds : List Kind) (fields : List String) : List (Kind × String) :=
  kinds.zipIdx.map fun kind => (kind.1, fieldAt fields (kind.2 + 1))

def Reads (held : List (Kind × String)) : Prop :=
  ∀ cell ∈ held, (cell.1.read text stack cell.2).Yields ()

/-- The first field that is not in order asks for too much. -/
def RowBreaches (held : List (Kind × String)) : Prop :=
  Meets (fun cell => (cell.1.read text stack cell.2).Yields ())
    (fun cell => cell.1.Breaches text stack cell.2) held

def LineReads (line : String) : Prop :=
  ∃ kinds, columns ((splitFields line).headD "") = some kinds ∧
    (splitFields line).length = kinds.length + 1 ∧
    Reads text stack (cells kinds (splitFields line))

def LineBreaches (line : String) : Prop :=
  ∃ kinds, columns ((splitFields line).headD "") = some kinds ∧
    (splitFields line).length = kinds.length + 1 ∧
    RowBreaches text stack (cells kinds (splitFields line))

/-- The first row that is not in order is one that asks for too much. -/
def StoreBreaches (body : String) : Prop :=
  ∃ rest, textLines body = header :: rest ∧
    Meets (LineReads text stack) (LineBreaches text stack)
      (rest.filter fun line => !isBlank line)

end

/-! ### Field by field -/

section Rows

variable {text : F64Text} {stack : Nat}

theorem discard_eq {α : Type} (decode : Decoding α) :
    discard decode = decode >>= fun _ => pure () := by
  rcases decode.cases with ⟨fault, rfl⟩ | ⟨error, rfl⟩ | ⟨value, rfl⟩ <;> rfl

theorem faults_discard {α : Type} {decode : Decoding α} :
    Faults (discard decode) ↔ decode.Faults := by
  rw [discard_eq, faults_bind]
  refine or_iff_left ?_
  rintro ⟨_, _, faults⟩
  exact not_faults_pure _ faults

theorem yields_discard {α : Type} {decode : Decoding α} :
    Yields (discard decode) () ↔ ∃ value, decode.Yields value := by
  rw [discard_eq, yields_bind]
  exact exists_congr fun value => and_iff_left (yields_pure.mpr rfl)

theorem faults_decodeOptionString {field : String} :
    (decodeOptionString field).Faults ↔ field ≠ "-" ∧ CutsField field := by
  rw [decodeOptionString]
  split
  · exact iff_of_false (not_faults_pure _) fun breaches => breaches.1 ‹_›
  · rw [faults_bind, faults_hexDecode, and_iff_right ‹_›]
    refine or_iff_left ?_
    rintro ⟨_, _, faults⟩
    exact not_faults_pure _ faults

theorem faults_decodeOptionValue {field : String} :
    (decodeOptionValue text stack field).Faults ↔
      field ≠ "-" ∧ Decoding.Breaches text stack field.toList := by
  rw [decodeOptionValue]
  split
  · exact iff_of_false (not_faults_pure _) fun breaches => breaches.1 ‹_›
  · rw [faults_bind, faults_decodeValue, and_iff_right ‹_›]
    refine or_iff_left ?_
    rintro ⟨_, _, faults⟩
    exact not_faults_pure _ faults

theorem faults_read {kind : Kind} {field : String} :
    (kind.read text stack field).Faults ↔ kind.Breaches text stack field := by
  cases kind with
  | hex => exact faults_discard.trans faults_hexDecode
  | optionHex => exact faults_discard.trans faults_decodeOptionString
  | state => exact faults_discard.trans faults_decodeState
  | optionValue => exact faults_discard.trans faults_decodeOptionValue
  | u64 => exact faults_discard.trans (iff_of_false (not_faults_of _) id)
  | optionU64 => exact faults_discard.trans (iff_of_false (not_faults_of _) id)
  | f64 => exact faults_discard.trans (iff_of_false (not_faults_of _) id)
  | optionF64 => exact faults_discard.trans (iff_of_false (not_faults_of _) id)

/-- A decoder reads a field of the kind, as the plain decoder does. -/
structure Cell (text : F64Text) (stack : Nat) {α : Type} (decode : Decoding α)
    (plain : Result α) (kind : Kind) (field : String) : Prop where
  read : kind.read text stack field = discard decode
  plain : ∀ value, decode.Yields value → plain = .ok value

theorem hexCell (field : String) :
    Cell text stack (hexDecode field) (Rust.hexDecode field) .hex field :=
  ⟨rfl, fun _ => hexDecode_of_yields⟩

theorem optionHexCell (field : String) :
    Cell text stack (decodeOptionString field) (Rust.decodeOptionString field)
      .optionHex field := by
  refine ⟨rfl, fun value yields => ?_⟩
  rw [decodeOptionString] at yields
  rw [Rust.decodeOptionString]
  split_ifs at yields ⊢
  · exact congrArg Except.ok (yields_pure.mp yields)
  · obtain ⟨item, read, yields⟩ := yields_bind.mp yields
    rw [hexDecode_of_yields read]
    exact congrArg Except.ok (yields_pure.mp yields)

theorem u64Cell (field : String) :
    Cell text stack (of (parseU64 field)) (parseU64 field) .u64 field :=
  ⟨rfl, fun _ => yields_of.mp⟩

theorem optionU64Cell (field : String) :
    Cell text stack (of (decodeOptionU64 field)) (decodeOptionU64 field)
      .optionU64 field :=
  ⟨rfl, fun _ => yields_of.mp⟩

theorem f64Cell (field : String) :
    Cell text stack (of (parseF64 text field)) (parseF64 text field) .f64
      field :=
  ⟨rfl, fun _ => yields_of.mp⟩

theorem optionF64Cell (field : String) :
    Cell text stack (of (decodeOptionF64 text field))
      (decodeOptionF64 text field) .optionF64 field :=
  ⟨rfl, fun _ => yields_of.mp⟩

theorem stateCell (field : String) :
    Cell text stack (decodeState text stack field)
      (Rust.decodeState text field) .state field :=
  ⟨rfl, fun _ => plain_decodeState⟩

theorem optionValueCell (field : String) :
    Cell text stack (decodeOptionValue text stack field)
      (Rust.decodeOptionValue text field) .optionValue field := by
  refine ⟨rfl, fun value yields => ?_⟩
  rw [decodeOptionValue] at yields
  rw [Rust.decodeOptionValue]
  split_ifs at yields ⊢
  · exact congrArg Except.ok (yields_pure.mp yields)
  · obtain ⟨item, read, yields⟩ := yields_bind.mp yields
    rw [plain_decodeValue read]
    exact congrArg Except.ok (yields_pure.mp yields)

/-- A decoder reads these fields, one after the other. -/
structure Follows (text : F64Text) (stack : Nat) {α : Type}
    (decode : Decoding α) (plain : Result α) (held : List (Kind × String)) :
    Prop where
  faults : decode.Faults ↔ RowBreaches text stack held
  yields : (∃ value, decode.Yields value) ↔ Reads text stack held
  plain : ∀ value, decode.Yields value → plain = .ok value

theorem Follows.done {α : Type} (value : α) :
    Follows text stack (pure value) (pure value) [] where
  faults := iff_of_false (not_faults_pure value) not_meets_nil
  yields := iff_of_true ⟨value, yields_pure.mpr rfl⟩ (by simp [Reads])
  plain other yields := congrArg Except.ok (yields_pure.mp yields)

theorem Cell.step {α β : Type} {decode : Decoding α} {plain : Result α}
    {kind : Kind} {field : String} {next : α → Decoding β}
    {plainNext : α → Result β} {held : List (Kind × String)}
    (cell : Cell text stack decode plain kind field)
    (others : ∀ value, Follows text stack (next value) (plainNext value) held) :
    Follows text stack (decode >>= next) (plain >>= plainNext)
      ((kind, field) :: held) where
  faults := by
    rw [faults_bind, RowBreaches, meets_cons, ← faults_read, cell.read,
      faults_discard, yields_discard]
    refine or_congr_right ?_
    rw [← exists_and_right]
    exact exists_congr fun value => and_congr_right fun _ =>
      (others value).faults
  yields := by
    rw [Reads, List.forall_mem_cons, cell.read, yields_discard]
    constructor
    · rintro ⟨result, yields⟩
      obtain ⟨value, own, yields⟩ := yields_bind.mp yields
      exact ⟨⟨value, own⟩, (others value).yields.mp ⟨result, yields⟩⟩
    · rintro ⟨⟨value, own⟩, reads⟩
      obtain ⟨result, yields⟩ := (others value).yields.mpr reads
      exact ⟨result, yields_bind.mpr ⟨value, own, yields⟩⟩
  plain result yields := by
    obtain ⟨value, own, yields⟩ := yields_bind.mp yields
    exact bind_ok (cell.plain value own) ((others value).plain result yields)

/-- A row of the right length is read field by field, any other is an error. -/
structure RowFollows (text : F64Text) (stack : Nat) {α : Type}
    (decode : Decoding α) (plain : Result α) (kinds : List Kind)
    (fields : List String) : Prop where
  follows : fields.length = kinds.length + 1 →
    Follows text stack decode plain (cells kinds fields)
  wrong : fields.length ≠ kinds.length + 1 →
    ∃ error, decode = of (.error error)

theorem RowFollows.behind {α : Type} {tag : String} {expected : Nat}
    {kinds : List Kind} {fields : List String} {next : Unit → Decoding α}
    {plainNext : Unit → Result α} (size : expected = kinds.length + 1)
    (others : Follows text stack (next ()) (plainNext ())
      (cells kinds fields)) :
    RowFollows text stack (of (requireLen tag fields expected) >>= next)
      (requireLen tag fields expected >>= plainNext) kinds fields where
  follows right := by
    rw [requireLen, if_neg (by omega)]
    exact others
  wrong wrong := by
    rw [requireLen, if_pos (by omega)]
    exact ⟨_, rfl⟩

theorem decodeRun_row (fields : List String) :
    RowFollows text stack (decodeRun text stack fields)
      (Rust.decodeRun text fields)
      [.hex, .hex, .hex, .u64, .f64, .f64, .state] fields := by
  unfold decodeRun Rust.decodeRun
  refine .behind rfl ?_
  refine (hexCell _).step fun runId => ?_
  refine (hexCell _).step fun sessionId => ?_
  refine (hexCell _).step fun status => ?_
  refine (u64Cell _).step fun stateVersion => ?_
  refine (f64Cell _).step fun createdAt => ?_
  refine (f64Cell _).step fun updatedAt => ?_
  refine (stateCell _).step fun state => ?_
  exact .done _

theorem decodeStep_row (fields : List String) :
    RowFollows text stack (decodeStep text fields)
      (Rust.decodeStep text fields)
      [.hex, .hex, .hex, .hex, .optionHex, .optionHex, .optionF64, .u64,
        .u64, .optionHex, .optionHex, .optionHex, .optionF64, .f64, .f64]
        fields := by
  unfold decodeStep Rust.decodeStep
  refine .behind rfl ?_
  refine (hexCell _).step fun stepId => ?_
  refine (hexCell _).step fun runId => ?_
  refine (hexCell _).step fun sessionId => ?_
  refine (hexCell _).step fun status => ?_
  refine (optionHexCell _).step fun owner => ?_
  refine (optionHexCell _).step fun leaseToken => ?_
  refine (optionF64Cell _).step fun leaseUntil => ?_
  refine (u64Cell _).step fun attempt => ?_
  refine (u64Cell _).step fun stateVersion => ?_
  refine (optionHexCell _).step fun checkpointId => ?_
  refine (optionHexCell _).step fun lastErrorType => ?_
  refine (optionHexCell _).step fun lastError => ?_
  refine (optionF64Cell _).step fun cancelledAt => ?_
  refine (f64Cell _).step fun createdAt => ?_
  refine (f64Cell _).step fun updatedAt => ?_
  exact .done _

theorem decodeEvent_row (fields : List String) :
    RowFollows text stack (decodeEvent text stack fields)
      (Rust.decodeEvent text fields)
      [.hex, .hex, .optionHex, .optionHex, .u64, .hex, .f64, .optionHex,
        .optionU64, .optionHex, .hex, .hex, .state] fields := by
  unfold decodeEvent Rust.decodeEvent
  refine .behind rfl ?_
  refine (hexCell _).step fun eventId => ?_
  refine (hexCell _).step fun runId => ?_
  refine (optionHexCell _).step fun sessionId => ?_
  refine (optionHexCell _).step fun stepId => ?_
  refine (u64Cell _).step fun seq => ?_
  refine (hexCell _).step fun eventType => ?_
  refine (f64Cell _).step fun timestamp => ?_
  refine (optionHexCell _).step fun agentRole => ?_
  refine (optionU64Cell _).step fun stateVersion => ?_
  refine (optionHexCell _).step fun causalToken => ?_
  refine (hexCell _).step fun payloadHash => ?_
  refine (hexCell _).step fun payloadRef => ?_
  refine (stateCell _).step fun payload => ?_
  exact .done _

theorem decodeLedger_row (fields : List String) :
    RowFollows text stack (decodeLedger text stack fields)
      (Rust.decodeLedger text fields)
      [.hex, .hex, .hex, .hex, .hex, .hex, .hex, .hex, .hex, .hex, .hex,
        .hex, .optionHex, .optionHex, .optionHex, .optionHex,
        .optionValue, .f64, .f64] fields := by
  unfold decodeLedger Rust.decodeLedger
  refine .behind rfl ?_
  refine (hexCell _).step fun ledgerId => ?_
  refine (hexCell _).step fun runId => ?_
  refine (hexCell _).step fun sessionId => ?_
  refine (hexCell _).step fun stepId => ?_
  refine (hexCell _).step fun toolName => ?_
  refine (hexCell _).step fun toolVersion => ?_
  refine (hexCell _).step fun toolCallId => ?_
  refine (hexCell _).step fun idempotencyKey => ?_
  refine (hexCell _).step fun causalToken => ?_
  refine (hexCell _).step fun requestHash => ?_
  refine (hexCell _).step fun requestRef => ?_
  refine (hexCell _).step fun status => ?_
  refine (optionHexCell _).step fun externalId => ?_
  refine (optionHexCell _).step fun responseHash => ?_
  refine (optionHexCell _).step fun responseRef => ?_
  refine (optionHexCell _).step fun errorType => ?_
  refine (optionValueCell _).step fun response => ?_
  refine (f64Cell _).step fun createdAt => ?_
  refine (f64Cell _).step fun updatedAt => ?_
  exact .done _

theorem decodeApproval_row (fields : List String) :
    RowFollows text stack (decodeApproval text fields)
      (Rust.decodeApproval text fields)
      [.hex, .hex, .hex, .hex, .hex, .hex, .hex, .hex, .hex, .hex, .hex,
        .hex, .optionHex, .optionHex, .f64, .f64] fields := by
  unfold decodeApproval Rust.decodeApproval
  refine .behind rfl ?_
  refine (hexCell _).step fun approvalId => ?_
  refine (hexCell _).step fun approvalKey => ?_
  refine (hexCell _).step fun runId => ?_
  refine (hexCell _).step fun sessionId => ?_
  refine (hexCell _).step fun stepId => ?_
  refine (hexCell _).step fun toolName => ?_
  refine (hexCell _).step fun riskLevel => ?_
  refine (hexCell _).step fun status => ?_
  refine (hexCell _).step fun reason => ?_
  refine (hexCell _).step fun requestHash => ?_
  refine (hexCell _).step fun requestRef => ?_
  refine (hexCell _).step fun requestedBy => ?_
  refine (optionHexCell _).step fun approvedBy => ?_
  refine (optionHexCell _).step fun decisionReason => ?_
  refine (f64Cell _).step fun createdAt => ?_
  refine (f64Cell _).step fun updatedAt => ?_
  exact .done _

theorem decodeCost_row (fields : List String) :
    RowFollows text stack (decodeCost text stack fields)
      (Rust.decodeCost text fields)
      [.hex, .hex, .hex, .hex, .hex, .hex, .f64, .hex, .state, .f64]
        fields := by
  unfold decodeCost Rust.decodeCost
  refine .behind rfl ?_
  refine (hexCell _).step fun costId => ?_
  refine (hexCell _).step fun runId => ?_
  refine (hexCell _).step fun sessionId => ?_
  refine (hexCell _).step fun stepId => ?_
  refine (hexCell _).step fun category => ?_
  refine (hexCell _).step fun name => ?_
  refine (f64Cell _).step fun amount => ?_
  refine (hexCell _).step fun unit => ?_
  refine (stateCell _).step fun metadata => ?_
  refine (f64Cell _).step fun createdAt => ?_
  exact .done _

theorem decodeArtifact_row (fields : List String) :
    RowFollows text stack (decodeArtifact text stack fields)
      (Rust.decodeArtifact text fields)
      [.hex, .hex, .optionHex, .hex, .hex, .hex, .state, .f64] fields :=
        by
  unfold decodeArtifact Rust.decodeArtifact
  refine .behind rfl ?_
  refine (hexCell _).step fun artifactId => ?_
  refine (hexCell _).step fun runId => ?_
  refine (optionHexCell _).step fun stepId => ?_
  refine (hexCell _).step fun name => ?_
  refine (hexCell _).step fun blobHash => ?_
  refine (hexCell _).step fun blobRef => ?_
  refine (stateCell _).step fun metadata => ?_
  refine (f64Cell _).step fun createdAt => ?_
  exact .done _

/-! ### Row by row -/

/-- What is said of a line, of its decoder. -/
structure LineFollows (text : F64Text) (stack : Nat) (line : String)
    (decode : Decoding MemoryStore) (plain : Result MemoryStore) : Prop where
  faults : decode.Faults ↔ LineBreaches text stack line
  yields : (∃ store, decode.Yields store) ↔ LineReads text stack line
  plain : ∀ store, decode.Yields store → plain = .ok store

theorem RowFollows.line {Row : Type} {decode : Decoding Row}
    {plain : Result Row} {kinds : List Kind} {line : String}
    (row : RowFollows text stack decode plain kinds (splitFields line))
    (known : columns ((splitFields line).headD "") = some kinds)
    (put : Row → MemoryStore) :
    LineFollows text stack line (decode >>= fun read => pure (put read))
      (plain.map put) := by
  have own {holds : List Kind → Prop} :
      (∃ found, columns ((splitFields line).headD "") = some found ∧
        holds found) ↔ holds kinds := by
    rw [known]
    constructor
    · rintro ⟨found, same, holds⟩
      cases same
      exact holds
    · intro holds
      exact ⟨kinds, rfl, holds⟩
  have stored : (∃ store, (decode >>= fun read => pure (put read) :
      Decoding MemoryStore).Yields store) ↔ ∃ read, decode.Yields read := by
    constructor
    · rintro ⟨store, yields⟩
      obtain ⟨read, own, _⟩ := yields_bind.mp yields
      exact ⟨read, own⟩
    · rintro ⟨read, own⟩
      exact ⟨put read, yields_bind.mpr ⟨read, own, yields_pure.mpr rfl⟩⟩
  have faulty : (decode >>= fun read => pure (put read) :
      Decoding MemoryStore).Faults ↔ decode.Faults := by
    rw [faults_bind]
    refine or_iff_left ?_
    rintro ⟨_, _, faults⟩
    exact not_faults_pure _ faults
  by_cases right : (splitFields line).length = kinds.length + 1
  · have follows := row.follows right
    refine ⟨?_, ?_, ?_⟩
    · rw [faulty, LineBreaches, own, and_iff_right right, follows.faults]
    · rw [stored, LineReads, own, and_iff_right right, follows.yields]
    · intro store yields
      obtain ⟨read, given, yields⟩ := yields_bind.mp yields
      rw [follows.plain read given]
      exact congrArg Except.ok (yields_pure.mp yields)
  · obtain ⟨error, failed⟩ := row.wrong right
    rw [failed] at faulty stored
    rw [failed]
    refine ⟨?_, ?_, ?_⟩
    · rw [faulty, LineBreaches, own]
      exact iff_of_false (not_faults_of _) fun breaches => right breaches.1
    · rw [stored, LineReads, own]
      refine iff_of_false ?_ fun reads => right reads.1
      rintro ⟨read, yields⟩
      cases yields_of.mp yields
    · intro store yields
      obtain ⟨read, yields, _⟩ := yields_bind.mp yields
      cases yields_of.mp yields

theorem decodeLine_follows (store : MemoryStore) (line : String) :
    LineFollows text stack line (decodeLine text stack store line)
      (Rust.decodeLine text store line) := by
  unfold decodeLine Rust.decodeLine
  dsimp only
  generalize head : (splitFields line).headD "" = tag
  split
  case h_1 =>
      exact (decodeRun_row _).line (congrArg columns head) store.putRun
  case h_2 =>
      exact (decodeStep_row _).line (congrArg columns head) store.putStep
  case h_3 =>
      exact (decodeEvent_row _).line (congrArg columns head) store.putEvent
  case h_4 =>
      exact (decodeLedger_row _).line (congrArg columns head) store.putLedger
  case h_5 =>
      exact (decodeApproval_row _).line (congrArg columns head)
        store.putApproval
  case h_6 =>
      exact (decodeCost_row _).line (congrArg columns head) store.putCost
  case h_7 =>
      exact (decodeArtifact_row _).line (congrArg columns head)
        store.putArtifact
  case h_8 =>
      have unknown : columns ((splitFields line).headD "") = none := by
        rw [head]
        unfold columns
        split <;> simp_all
      refine ⟨?_, ?_, ?_⟩
      · refine iff_of_false (not_faults_of _) ?_
        rintro ⟨kinds, same, _⟩
        rw [unknown] at same
        cases same
      · refine iff_of_false ?_ ?_
        · rintro ⟨next, yields⟩
          cases yields_of.mp yields
        · rintro ⟨kinds, same, _⟩
          rw [unknown] at same
          cases same
      · intro next yields
        cases yields_of.mp yields

theorem faults_decodeStore {body : String} :
    (decodeStore text stack body).Faults ↔ StoreBreaches text stack body := by
  unfold decodeStore StoreBreaches
  cases textLines body with
  | nil =>
      refine iff_of_false (not_faults_of _) ?_
      rintro ⟨rest, same, _⟩
      cases same
  | cons first rest =>
      dsimp only
      split
      · rename_i same
        subst same
        rw [faults_foldlM (fun store line =>
          (decodeLine_follows store line).faults) (fun store line =>
          (decodeLine_follows store line).yields)]
        constructor
        · intro meets
          exact ⟨rest, rfl, meets⟩
        · rintro ⟨found, same, meets⟩
          cases same
          exact meets
      · refine iff_of_false (not_faults_of _) ?_
        rintro ⟨found, same, _⟩
        cases same
        exact ‹¬_› rfl

/-- A snapshot that is read is read as the plain decoder reads it. -/
theorem plain_decodeStore {body : String} {store : MemoryStore}
    (yields : (decodeStore text stack body).Yields store) :
    Rust.decodeStore text body = .ok store := by
  have rows (lines : List String) (start : MemoryStore)
      (yields : (lines.foldlM (decodeLine text stack) start).Yields store) :
      lines.foldlM (Rust.decodeLine text) start = .ok store := by
    induction lines generalizing start with
    | nil => exact congrArg Except.ok (yields_pure.mp yields)
    | cons line rest ih =>
        rw [List.foldlM_cons] at yields ⊢
        obtain ⟨next, own, yields⟩ := yields_bind.mp yields
        apply bind_ok ((decodeLine_follows start line).plain next own)
        exact ih next yields
  unfold decodeStore at yields
  unfold Rust.decodeStore
  cases lines : textLines body with
  | nil =>
      rw [lines] at yields
      cases yields_of.mp yields
  | cons first rest =>
      rw [lines] at yields
      dsimp only at yields ⊢
      split at yields
      · rw [if_pos ‹_›]
        exact rows _ _ yields
      · cases yields_of.mp yields

end Rows

/-- The decoders come back from exactly the texts in which whatever goes wrong
first is neither a character cut in two, nor a vector counted too long, nor a
value nested deeper than the stack holds. -/
theorem decoders_return_iff (text : F64Text) (stack : Nat) :
    (∀ encoded, (decodeValue text stack encoded).Returns ↔
      ¬Breaches text stack encoded.toList) ∧
    (∀ body, (decodeStore text stack body).Returns ↔
      ¬StoreBreaches text stack body) ∧
    (∀ files reference, (getJson text stack files reference).Returns ↔
      ∀ body, blobText files reference = .ok body →
        ¬Breaches text stack body.toList) ∧
    ∀ files path, (loadFromPath text stack files path).Returns ↔
      ∀ body, files path = .ok body → ¬StoreBreaches text stack body := by
  refine ⟨?_, ?_, ?_, ?_⟩
  · intro encoded
    rw [returns_iff, faults_decodeValue]
  · intro body
    rw [returns_iff, faults_decodeStore]
  · intro files reference
    rw [returns_iff, getJson, faults_of_bind, not_exists]
    simp only [faults_decodeValue, not_and]
  · intro files path
    rw [returns_iff, loadFromPath, faults_of_bind, not_exists]
    simp only [faults_decodeStore, not_and]

/-- For texts without numbers. -/
def numberless : F64Text :=
  { print := fun _ => "0", parse := fun _ => .error "invalid float literal" }

/-- Null in so many arrays of one element. -/
def nested : Nat → List Char
  | 0 => ['Z']
  | depth + 1 => 'A' :: '1' :: ':' :: nested depth

theorem nested_breaches {text : F64Text} (stack : Nat) :
    Breaches text stack (nested stack) := by
  induction stack with
  | zero => exact .stack
  | succ stack ih =>
      have counted : parseUsize "1" = .ok 1 := by
        rw [parseUsize, Decimal.parseUnsigned]
        decide
      have fits : 1 ≤ byteLength (nested stack) := by
        calc
          1 ≤ (nested stack).length := by
            cases stack with
            | zero => exact le_rfl
            | succ stack => exact Nat.succ_pos _
          _ ≤ byteLength (nested stack) := length_le_byteLength _
      exact .item rfl counted fits Nat.one_pos (yields_pure.mpr rfl) ih

/-- Whatever the stack holds, some text is nested deeper. -/
theorem nested_overflows (text : F64Text) (stack : Nat) :
    ¬(decodeValue text stack (String.ofList (nested stack))).Returns := by
  rw [returns_iff, not_not, faults_decodeValue, String.toList_ofList]
  exact nested_breaches stack

set_option maxRecDepth 2000 in
theorem damaged_text_panics : ¬(decodeValue numberless 64 "Saéb:").Returns ∧
    ¬(decodeValue numberless 64 "A18446744073709551615:").Returns ∧
    ¬(decodeValue numberless 3 "A1:A1:A1:Z").Returns ∧
    ¬(decodeStore numberless 64
      "AGENTLEDGER_RUST_STORE_V1\nF\taéb\t\t-\t\t\t\tO0:\t0").Returns := by
  have counted : parseUsize "18446744073709551615" =
      .ok 18446744073709551615 := by
    rw [parseUsize, Decimal.parseUnsigned]
    decide
  have exceeding : Breaches numberless 64 "A18446744073709551615:".toList :=
    .count rfl counted (by decide)
  have deep : Breaches numberless 3 "A1:A1:A1:Z".toList := nested_breaches 3
  refine ⟨?_, ?_, ?_, ?_⟩
  · rw [returns_iff, not_not]
    exact ⟨.slice, rfl⟩
  · rw [returns_iff, not_not]
    exact faults_decodeValue.mpr exceeding
  · rw [returns_iff, not_not]
    exact faults_decodeValue.mpr deep
  · rw [returns_iff, not_not]
    exact ⟨.slice, rfl⟩

end Decoding

end AgentLedger.Rust
