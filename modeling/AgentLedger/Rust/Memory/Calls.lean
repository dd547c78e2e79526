import AgentLedger.Foundation.Run
import AgentLedger.Rust.Memory.RoundTrip
import AgentLedger.Rust.Memory.Rules

namespace AgentLedger.Rust

open Foundation

/-! The calls that change a store, and the stores that they lead to. -/

inductive StoreCall
  | createRun (initialState : State)
  | createExternalStep (runId : String)
  | claimStep (workerId runId : String) (leaseSeconds : F64)
  | recoverExpiredLeases (iteration : Iteration)
  | cancelRun (iteration : Iteration) (runId reason : String)
  | commitStatePatch (runId stepId leaseToken : String) (baseVersion : UInt64)
      (patch : State)
  | applySystemStatePatch (runId : String) (patch : State) (reason : String)
  | markRetry (runId stepId errorType message : String)
  | markWaitingHuman (runId stepId reason approvalId : String)
  | markFailed (runId stepId errorType message : String)
  | appendEvent (runId : String) (sessionId stepId : Option String)
      (eventType : String) (payload : State) (agentRole : Option String)
      (stateVersion : Option UInt64) (causalToken : Option String)
  | reserveLedger (key : String) (entry : ToolLedgerEntry)
  | updateLedger (key status : String) (externalId : Option String)
      (response : Option MapValue) (errorType : Option String)
  | requestApproval (request : ApprovalRequest)
  | approveRequest (iteration : Iteration) (approvalId approver reason : String)
  | denyRequest (iteration : Iteration) (approvalId approver reason : String)
  | recordCost (runId sessionId stepId category name : String) (amount : F64)
      (unit : String) (metadata : State)
  | createArtifact (runId : String) (stepId : Option String) (name : String)
      (content metadata : State)

namespace StoreCall

section

variable (text : F64Text)

/-- The process after the call, whether it returns, fails or panics. -/
def next : StoreCall → Process → Process
  | createRun initialState => fun process =>
      (MemoryStore.createRun text initialState process).2
  | createExternalStep runId => fun process =>
      (MemoryStore.createExternalStep text runId process).2
  | claimStep workerId runId leaseSeconds => fun process =>
      (MemoryStore.claimStep text workerId runId leaseSeconds process).2
  | recoverExpiredLeases iteration => fun process =>
      (MemoryStore.recoverExpiredLeases text iteration process).2
  | cancelRun iteration runId reason => fun process =>
      (MemoryStore.cancelRun text iteration runId reason process).2
  | commitStatePatch runId stepId leaseToken baseVersion patch =>
      fun process => (MemoryStore.commitStatePatch text runId stepId leaseToken
        baseVersion patch process).2
  | applySystemStatePatch runId patch reason => fun process =>
      (MemoryStore.applySystemStatePatch text runId patch reason process).2
  | markRetry runId stepId errorType message => fun process =>
      (MemoryStore.markRetry text runId stepId errorType message process).2
  | markWaitingHuman runId stepId reason approvalId => fun process =>
      (MemoryStore.markWaitingHuman text runId stepId reason approvalId
        process).2
  | markFailed runId stepId errorType message => fun process =>
      (MemoryStore.markFailed text runId stepId errorType message process).2
  | appendEvent runId sessionId stepId eventType payload agentRole stateVersion
      causalToken => fun process =>
      (MemoryStore.appendEvent text runId sessionId stepId eventType payload
        agentRole stateVersion causalToken process).2
  | reserveLedger key entry => fun process =>
      (MemoryStore.reserveLedger key entry process).2
  | updateLedger key status externalId response errorType => fun process =>
      (MemoryStore.updateLedger text key status externalId response errorType
        process).2
  | requestApproval request => fun process =>
      (MemoryStore.requestApproval request process).2
  | approveRequest iteration approvalId approver reason => fun process =>
      (MemoryStore.approveRequest text iteration approvalId approver reason
        process).2
  | denyRequest iteration approvalId approver reason => fun process =>
      (MemoryStore.denyRequest text iteration approvalId approver reason
        process).2
  | recordCost runId sessionId stepId category name amount unit metadata =>
      fun process => (MemoryStore.recordCost text runId sessionId stepId
        category name amount unit metadata process).2
  | createArtifact runId stepId name content metadata => fun process =>
      (MemoryStore.createArtifact text runId stepId name content metadata
        process).2

end

/-- Whoever reserves a key reserves it for an entry that carries it. -/
def OwnKey : StoreCall → Prop
  | reserveLedger key entry => entry.idempotencyKey = key
  | _ => True

instance (call : StoreCall) : Decidable call.OwnKey := by
  cases call <;> unfold OwnKey <;> infer_instance

open MemoryStore

/-- One rule for all calls. -/
theorem keeps_next {good : Known → Process → Prop} (rules : Rules good)
    {known : Known} (text : F64Text) {process : Process}
    (holds : good known process) (call : StoreCall)
    (reserve : ∀ key entry, call = .reserveLedger key entry →
      Keeps (good known) (insertLedger key entry)) :
    good known (call.next text process) := by
  cases call with
  | createRun => exact (keeps_createRun rules text ..).after _ holds
  | createExternalStep =>
      exact (keeps_createExternalStep rules text ..).after _ holds
  | claimStep => exact (keeps_claimStep rules text ..).after _ holds
  | recoverExpiredLeases =>
      exact (keeps_recoverExpiredLeases rules text ..).after _ holds
  | cancelRun => exact (keeps_cancelRun rules text ..).after _ holds
  | commitStatePatch =>
      exact (keeps_commitStatePatch rules text ..).after _ holds
  | applySystemStatePatch =>
      exact (keeps_applySystemStatePatch rules text ..).after _ holds
  | markRetry => exact (keeps_markRetry rules text ..).after _ holds
  | markWaitingHuman =>
      exact (keeps_markWaitingHuman rules text ..).after _ holds
  | markFailed => exact (keeps_markFailed rules text ..).after _ holds
  | appendEvent => exact (keeps_appendEvent rules text ..).after _ holds
  | reserveLedger key entry =>
      exact (keeps_reserveLedger (reserve key entry rfl)).after _ holds
  | updateLedger => exact (keeps_updateLedger rules text ..).after _ holds
  | requestApproval => exact (keeps_requestApproval rules ..).after _ holds
  | approveRequest => exact (keeps_decideApproval rules text ..).after _ holds
  | denyRequest => exact (keeps_decideApproval rules text ..).after _ holds
  | recordCost => exact (keeps_recordCost rules text ..).after _ holds
  | createArtifact => exact (keeps_createArtifact rules text ..).after _ holds

end StoreCall

/-! ### Rows stay under their keys -/

namespace MemoryStore

theorem keyed_new : MemoryStore.new.Keyed where
  runs _ member := by cases member
  steps _ member := by cases member
  events _ member := by cases member
  toolLedger _ member := by cases member
  approvalRequests _ member := by cases member
  costRecords _ member := by cases member
  artifacts _ member := by cases member

theorem rules_keyed : Rules fun _ process => process.store.Keyed where
  forget keyed := keyed
  draw keyed := keyed
  tick keyed := keyed
  insertRun _ _ := Keeps.modify fun _ keyed =>
    { keyed with runs := Dictionary.forall_insert keyed.runs rfl }
  changeRun same := Keeps.bind_get fun process keyed => by
    cases found : process.store.runs.get? _ with
    | none => exact keyed
    | some run =>
        have own := keyed.runs _ (Dictionary.mem_of_get? found)
        exact { keyed with runs :=
          Dictionary.forall_insert keyed.runs ((same run).1.trans own) }
  changeRunIfAny same := Keeps.modify fun _ keyed =>
    { keyed with
      runs := Dictionary.forall_modify keyed.runs fun run own =>
        (same run).1.trans own }
  insertStep _ _ := Keeps.modify fun _ keyed =>
    { keyed with steps := Dictionary.forall_insert keyed.steps rfl }
  changeStep same := Keeps.bind_get fun process keyed => by
    cases found : process.store.steps.get? _ with
    | none => exact keyed
    | some step =>
        have own := keyed.steps _ (Dictionary.mem_of_get? found)
        exact { keyed with steps :=
          Dictionary.forall_insert keyed.steps ((same step).1.trans own) }
  pushEvent _ := Keeps.modify fun _ keyed =>
    { keyed with events := Dictionary.forall_push keyed.events _ }
  changeLedger same := Keeps.modify fun _ keyed =>
    { keyed with
      toolLedger := Dictionary.forall_modify keyed.toolLedger
        fun entry own => (same entry).2.trans own }
  insertApproval _ := Keeps.modify fun _ keyed =>
    { keyed with approvalRequests :=
        Dictionary.forall_insert keyed.approvalRequests rfl }
  changeApproval same := Keeps.bind_get fun process keyed => by
    cases found : process.store.approvalRequests.get? _ with
    | none => exact keyed
    | some approval =>
        have own := keyed.approvalRequests _ (Dictionary.mem_of_get? found)
        have same := (same approval).2.trans own
        exact { keyed with
          approvalRequests :=
            Dictionary.forall_insert keyed.approvalRequests same }
  pushCost _ := Keeps.modify fun _ keyed =>
    { keyed with costRecords := Dictionary.forall_push keyed.costRecords _ }
  pushArtifact _ := Keeps.modify fun _ keyed =>
    { keyed with artifacts := Dictionary.forall_push keyed.artifacts _ }

theorem keyed_insertLedger {key : String} {entry : ToolLedgerEntry}
    (own : entry.idempotencyKey = key) :
    Keeps (fun process : Process => process.store.Keyed)
      (insertLedger key entry) :=
  Keeps.modify fun _ keyed =>
    { keyed with toolLedger := Dictionary.forall_insert keyed.toolLedger own }

end MemoryStore

theorem keyed_next {text : F64Text} {process : Process}
    (keyed : process.store.Keyed) {call : StoreCall} (own : call.OwnKey) :
    (call.next text process).store.Keyed := by
  apply @StoreCall.keeps_next _ MemoryStore.rules_keyed [] text process keyed
  rintro key entry rfl
  exact MemoryStore.keyed_insertLedger own

/-- A process that starts with an empty store. -/
def Process.start (clock : Nat → F64) : Process := ⟨.new, 1, clock, []⟩

theorem keyed_runFrom {text : F64Text} {process : Process}
    (keyed : process.store.Keyed) {calls : List StoreCall}
    (own : ∀ call ∈ calls, call.OwnKey) :
    (runFrom (StoreCall.next text) process calls).store.Keyed := by
  induction calls generalizing process with
  | nil => exact keyed
  | cons call rest ih =>
      apply ih (keyed_next keyed (own call (List.mem_cons_self ..)))
      exact fun other member => own other (List.mem_cons_of_mem _ member)

/-- Every value, and every store that the calls lead to, is read back from its
text. -/
theorem snapshot_round_trip {text : F64Text} (lawful : text.Lawful)
    (value : MapValue) (small : value.value.finite = true)
    (clock : Nat → F64) (calls : List StoreCall)
    (own : ∀ call ∈ calls, call.OwnKey)
    (finite : (runFrom (StoreCall.next text) (.start clock) calls).store.Finite) :
    decodeValue text (String.ofList (encodeValue text value.value)) =
      .ok value ∧
    decodeStore text (encodeStore text
        (runFrom (StoreCall.next text) (.start clock) calls).store) =
      .ok (runFrom (StoreCall.next text) (.start clock) calls).store :=
  ⟨decodeValue_encodeValue lawful value small,
    decodeStore_encodeStore lawful
      (@keyed_runFrom text (.start clock) MemoryStore.keyed_new calls own)
      finite⟩

/-! ### Numbers by their bits -/

/-- Zero is written as it is. -/
def bitText : F64Text where
  print number := number.bits.toNat.repr
  parse value :=
    match Decimal.parseNat value with
    | some bits => .ok ⟨BitVec.ofNat 64 bits⟩
    | none => .error "invalid float literal"

theorem bitText_lawful : bitText.Lawful where
  parse_print number _ := by
    have same : (⟨BitVec.ofNat 64 number.bits.toNat⟩ : F64) = number := by
      rw [BitVec.ofNat_toNat, BitVec.setWidth_eq]
    simp only [bitText, Decimal.parseNat_repr, same]
  solid number :=
    solid_of_alphanum fun _ member => .inl (by
      rw [Char.isAlphanum, Decimal.isDigit_of_mem member, Bool.or_true])
  print_ne_dash number := by
    intro same
    have dash : '-' ∈ number.bits.toNat.repr.toList := by
      rw [show number.bits.toNat.repr = "-" from same]
      exact List.mem_singleton_self '-'
    exact absurd (Decimal.isDigit_of_mem dash) (by decide)

/-- A clock that stands still. -/
def midnight : Nat → F64 := fun _ => ⟨0⟩

def emptyEntry (key : String) : ToolLedgerEntry :=
  ⟨"", "", "", "", "", "", "", key, "", "", "", "", none, none, none, none,
    none, ⟨0⟩, ⟨0⟩⟩

/-- Notes with a separator of the snapshot among them. -/
def notes : MapValue where
  value := .array [.string "a|b\n", .null, .bool true]
  ordered := ⟨trivial, trivial, trivial, trivial⟩

/-- A run that uses a tool and pays for it twice. -/
def paidRun : List StoreCall :=
  [.createRun (State.new.insert "notes" notes.value notes.ordered),
    .reserveLedger "key" (emptyEntry "key"),
    .recordCost "run" "session" "step" "tool" "send" ⟨0⟩ "call" State.new,
    .recordCost "run" "session" "step" "model" "gpt" ⟨0⟩ "token" State.new]

theorem created_run_round_trip :
    decodeValue bitText (String.ofList (encodeValue bitText notes.value)) =
      .ok notes ∧
    decodeStore bitText (encodeStore bitText (runFrom (StoreCall.next bitText)
        (.start midnight) paidRun).store) =
      .ok (runFrom (StoreCall.next bitText) (.start midnight) paidRun).store :=
  snapshot_round_trip bitText_lawful notes rfl midnight paidRun
    (by decide) (by constructor <;> decide +kernel)

/-- An entry that is reserved under another key than its own is read back under
its own. -/
theorem other_key_moved :
    let store := (runFrom (StoreCall.next bitText) (.start midnight)
      [.reserveLedger "a" (emptyEntry "b")]).store
    store.toolLedger.keys = ["a"] ∧
    (decodeStore bitText (encodeStore bitText store)).toOption.map
      (fun read => read.toolLedger.keys) = some ["b"] := by
  constructor <;> decide +kernel

end AgentLedger.Rust
