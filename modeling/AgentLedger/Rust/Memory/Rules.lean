import AgentLedger.Foundation.Preserving
import AgentLedger.Rust.Memory.Operations

namespace AgentLedger.Rust

open Foundation

/-! What every operation of the store keeps.  An invariant is stated with the
ids that the operation has drawn so far; it has to be kept by each change of a
row, and then it is kept by each operation. -/

abbrev Known := List (IdKind × String)

def drawId (kind : IdKind) (process : Process) : Process :=
  { process with
    idCounter := process.idCounter + 1
    issued := process.issued ++
      [⟨kind, UInt64.ofNat process.idCounter,
        decide (idText kind (UInt64.ofNat process.idCounter) ∈
          process.store.ids kind)⟩] }

def tick (process : Process) : Process :=
  { process with clock := fun later => process.clock (later + 1) }

namespace MemoryStore

structure Rules (good : Known → Process → Prop) : Prop where
  forget : ∀ {known id process}, good (id :: known) process →
    good known process
  draw : ∀ {known kind process}, good known process →
    good ((kind, idText kind (UInt64.ofNat process.idCounter)) :: known)
      (drawId kind process)
  tick : ∀ {known process}, good known process → good known (tick process)
  insertRun : ∀ {known run}, (.run, run.runId) ∈ known →
    (.session, run.sessionId) ∈ known → Keeps (good known) (insertRun run)
  changeRun : ∀ {known runId change},
    (∀ run : Run, (change run).runId = run.runId ∧
      (change run).sessionId = run.sessionId) →
    Keeps (good known) (changeRun runId change)
  changeRunIfAny : ∀ {known runId change},
    (∀ run : Run, (change run).runId = run.runId ∧
      (change run).sessionId = run.sessionId) →
    Keeps (good known) (changeRunIfAny runId change)
  insertStep : ∀ {known step}, (.step, step.stepId) ∈ known →
    step.leaseToken = none → Keeps (good known) (insertStep step)
  changeStep : ∀ {known stepId change},
    (∀ step : Step, (change step).stepId = step.stepId ∧
      ∀ token ∈ (change step).leaseToken,
        step.leaseToken = some token ∨ (.lease, token) ∈ known) →
    Keeps (good known) (changeStep stepId change)
  pushEvent : ∀ {known event}, (.event, event.eventId) ∈ known →
    Keeps (good known) (pushEvent event)
  changeLedger : ∀ {known key change},
    (∀ entry : ToolLedgerEntry, (change entry).ledgerId = entry.ledgerId ∧
      (change entry).idempotencyKey = entry.idempotencyKey) →
    Keeps (good known) (changeLedger key change)
  insertApproval : ∀ {known approval},
    (.approval, approval.approvalId) ∈ known →
    Keeps (good known) (insertApproval approval)
  changeApproval : ∀ {known key change},
    (∀ approval : ApprovalRequest,
      (change approval).approvalId = approval.approvalId ∧
        (change approval).approvalKey = approval.approvalKey) →
    Keeps (good known) (changeApproval key change)
  pushCost : ∀ {known cost}, (.cost, cost.costId) ∈ known →
    Keeps (good known) (pushCost cost)
  pushArtifact : ∀ {known artifact},
    (.artifact, artifact.artifactId) ∈ known →
    Keeps (good known) (pushArtifact artifact)

variable {good : Known → Process → Prop} (rules : Rules good) {known : Known}
  {α : Type} (text : F64Text)

include rules

theorem Rules.bind_newId {kind : IdKind} {next : String → Op α}
    (later : ∀ id, Keeps (good ((kind, id) :: known)) (next id)) :
    Keeps (good known) (newId kind >>= next) := by
  constructor
  intro _ holds
  exact rules.forget ((later _).after _ (rules.draw holds))

theorem Rules.bind_now {next : F64 → Op α}
    (later : ∀ now, Keeps (good known) (next now)) :
    Keeps (good known) (nowSeconds >>= next) :=
  ⟨fun _ holds => (later _).after _ (rules.tick holds)⟩

omit rules

theorem keeps_orFail (message : String) (value : Option α) :
    Keeps (good known) (orFail message value) := by
  cases value with
  | none => exact Keeps.throw _
  | some value => exact Keeps.pure value

theorem keeps_findRun (runId : String) :
    Keeps (good known) (findRun runId) :=
  Keeps.get_bind fun _ => keeps_orFail _ _

theorem keeps_findStep (stepId : String) :
    Keeps (good known) (findStep stepId) :=
  Keeps.get_bind fun _ => keeps_orFail _ _

theorem keeps_reserveLedger {key : String} {entry : ToolLedgerEntry}
    (insert : Keeps (good known) (insertLedger key entry)) :
    Keeps (good known) (reserveLedger key entry) := by
  apply Keeps.get_bind
  intro process
  cases process.store.toolLedger.get? key with
  | some existing => exact Keeps.pure _
  | none =>
      apply Keeps.bind insert
      intro _
      exact Keeps.pure _

theorem keeps_updateRow {key status : String} {externalId : Option String}
    {response : Option MapValue} {errorType : Option String}
    {kept : Process → Prop} (ticks : ∀ {process}, kept process →
      kept (AgentLedger.Rust.tick process))
    (change : ∀ change : ToolLedgerEntry → ToolLedgerEntry,
      (∀ entry, (change entry).ledgerId = entry.ledgerId ∧
        (change entry).idempotencyKey = entry.idempotencyKey) →
      Keeps kept (changeLedger key change)) :
    Keeps kept (updateLedger text key status externalId response errorType) := by
  apply Keeps.get_bind
  intro process
  cases process.store.toolLedger.get? key with
  | none => exact Keeps.pure _
  | some entry =>
      constructor
      intro state holds
      have update := change (fun entry => { entry with
        status := status
        externalId := externalId
        response := response
        responseRef := response.map fun value => formatValue text value.value
        responseHash := (response.map fun value =>
          formatValue text value.value).map stableHash
        errorType := errorType
        updatedAt := state.clock 0 }) fun _ => ⟨rfl, rfl⟩
      exact update.after _ (ticks holds)

include rules

theorem keeps_appendEvent (runId : String) (sessionId stepId : Option String)
    (eventType : String) (payload : State) (agentRole : Option String)
    (stateVersion : Option UInt64) (causalToken : Option String) :
    Keeps (good known) (appendEvent text runId sessionId stepId eventType
      payload agentRole stateVersion causalToken) := by
  apply Keeps.get_bind
  intro process
  apply rules.bind_newId
  intro eventId
  apply rules.bind_now
  intro timestamp
  apply Keeps.bind
  · exact rules.pushEvent (List.mem_cons_self ..)
  intro _
  exact Keeps.pure _

theorem keeps_log (runId sessionId : String) (stepId : Option String)
    (eventType : String) (payload : List (String × MapValue))
    (stateVersion : Option UInt64) :
    Keeps (good known)
      (log text runId sessionId stepId eventType payload stateVersion) := by
  apply Keeps.bind (keeps_appendEvent rules text ..)
  intro _
  exact Keeps.pure _

theorem keeps_createRun (initialState : State) :
    Keeps (good known) (createRun text initialState) := by
  apply rules.bind_newId
  intro runId
  apply rules.bind_newId
  intro sessionId
  apply rules.bind_newId
  intro stepId
  apply rules.bind_now
  intro now
  apply Keeps.bind (rules.insertRun (by simp) (by simp))
  intro _
  apply Keeps.bind
  · exact rules.insertStep (List.mem_cons_self ..) rfl
  intro _
  apply Keeps.bind (keeps_log rules text ..)
  intro _
  apply Keeps.bind (keeps_log rules text ..)
  intro _
  exact Keeps.pure _

theorem keeps_createExternalStep (runId : String) :
    Keeps (good known) (createExternalStep text runId) := by
  apply Keeps.bind (keeps_findRun runId)
  intro run
  apply rules.bind_newId
  intro stepId
  apply rules.bind_now
  intro now
  apply Keeps.bind
  · exact rules.insertStep (List.mem_cons_self ..) rfl
  intro _
  apply Keeps.bind
  · exact rules.changeRunIfAny fun _ => ⟨rfl, rfl⟩
  intro _
  apply Keeps.bind (keeps_log rules text ..)
  intro _
  exact Keeps.pure _

theorem keeps_claimStep (workerId runId : String) (leaseSeconds : F64) :
    Keeps (good known) (claimStep text workerId runId leaseSeconds) := by
  apply Keeps.get_bind
  intro process
  apply Keeps.bind (Keeps.ite (Keeps.throw _) (Keeps.pure _))
  intro candidates
  apply Keeps.bind (keeps_orFail _ _)
  intro candidate
  apply rules.bind_now
  intro now
  apply rules.bind_newId
  intro leaseToken
  apply Keeps.bind
  · apply rules.changeStep
    intro step
    refine ⟨rfl, fun token same => .inr ?_⟩
    cases same
    exact List.mem_cons_self ..
  intro step
  apply Keeps.bind
  · exact rules.changeRun fun _ => ⟨rfl, rfl⟩
  intro _
  apply Keeps.bind (keeps_log rules text ..)
  intro _
  exact Keeps.pure _

private theorem keeps_release {stepId : String} {change : Step → Step}
    (same : ∀ step, (change step).stepId = step.stepId ∧
      (change step).leaseToken = none) :
    Keeps (good known) (changeStep stepId change) := by
  apply rules.changeStep
  intro step
  obtain ⟨id, lease⟩ := same step
  refine ⟨id, fun token given => ?_⟩
  rw [lease] at given
  cases given

theorem keeps_recoverStep (now : F64) (recovered : Nat) (stepId : String) :
    Keeps (good known) (recoverStep text now recovered stepId) := by
  apply Keeps.get_bind
  intro process
  cases process.store.steps.get? stepId with
  | none => exact Keeps.pure _
  | some step =>
      apply Keeps.ite
      · apply Keeps.bind
        · exact keeps_release rules fun _ => ⟨rfl, rfl⟩
        intro _
        apply Keeps.bind
        · exact rules.changeRun fun _ => ⟨rfl, rfl⟩
        intro _
        apply Keeps.bind (keeps_log rules text ..)
        intro _
        apply Keeps.bind (keeps_log rules text ..)
        intro _
        exact Keeps.pure _
      · exact Keeps.pure _

theorem keeps_recoverExpiredLeases (iteration : Iteration) :
    Keeps (good known) (recoverExpiredLeases text iteration) := by
  apply rules.bind_now
  intro now
  apply Keeps.get_bind
  intro process
  exact Keeps.foldlM (keeps_recoverStep rules text now) _ _

theorem keeps_cancelStep (runId reason : String) (now : F64) (cancelled : Nat)
    (stepId : String) :
    Keeps (good known) (cancelStep text runId reason now cancelled stepId) := by
  apply Keeps.get_bind
  intro process
  cases process.store.steps.get? stepId with
  | none => exact Keeps.pure _
  | some step =>
      apply Keeps.ite
      · apply Keeps.bind
        · exact keeps_release rules fun _ => ⟨rfl, rfl⟩
        intro _
        apply Keeps.bind (keeps_log rules text ..)
        intro _
        exact Keeps.pure _
      · exact Keeps.pure _

theorem keeps_cancelRun (iteration : Iteration) (runId reason : String) :
    Keeps (good known) (cancelRun text iteration runId reason) := by
  apply Keeps.bind (keeps_findRun runId)
  intro run
  apply Keeps.bind (keeps_log rules text ..)
  intro _
  apply Keeps.get_bind
  intro process
  apply rules.bind_now
  intro now
  apply Keeps.bind (Keeps.foldlM (keeps_cancelStep rules text runId reason now)
    _ _)
  intro cancelled
  apply Keeps.bind
  · exact rules.changeRun fun _ => ⟨rfl, rfl⟩
  intro _
  apply Keeps.bind (keeps_log rules text ..)
  intro _
  exact Keeps.pure _

theorem keeps_validateLease (stepId leaseToken : String) :
    Keeps (good known) (validateLease stepId leaseToken) := by
  apply Keeps.bind (keeps_findStep stepId)
  intro step
  apply Keeps.ite (Keeps.throw _)
  cases step.leaseUntil with
  | none => exact Keeps.pure _
  | some until_ =>
      apply rules.bind_now
      intro now
      exact Keeps.ite (Keeps.throw _) (Keeps.pure _)

theorem keeps_commitStatePatch (runId stepId leaseToken : String)
    (baseVersion : UInt64) (patch : State) :
    Keeps (good known)
      (commitStatePatch text runId stepId leaseToken baseVersion patch) := by
  apply Keeps.bind (keeps_validateLease rules stepId leaseToken)
  intro _
  apply Keeps.bind (keeps_findRun runId)
  intro run
  apply Keeps.bind (Keeps.ite (Keeps.throw _) (Keeps.pure _))
  intro _
  apply rules.bind_now
  intro now
  apply Keeps.bind
  · exact rules.changeRun fun _ => ⟨rfl, rfl⟩
  intro _
  apply Keeps.bind
  · exact rules.changeStep fun _ => ⟨rfl, fun _ same => .inl same⟩
  intro step
  apply Keeps.bind (keeps_log rules text ..)
  intro _
  apply Keeps.bind (keeps_log rules text ..)
  intro _
  exact Keeps.pure _

theorem keeps_applySystemStatePatch (runId : String) (patch : State)
    (reason : String) :
    Keeps (good known) (applySystemStatePatch text runId patch reason) := by
  apply Keeps.bind (keeps_findRun runId)
  intro run
  apply rules.bind_now
  intro now
  apply Keeps.bind
  · exact rules.changeRunIfAny fun _ => ⟨rfl, rfl⟩
  intro _
  apply Keeps.bind (keeps_log rules text ..)
  intro _
  exact Keeps.pure _

theorem keeps_markStep (runId stepId status errorType message : String) :
    Keeps (good known) (markStep runId stepId status errorType message) := by
  apply rules.bind_now
  intro now
  apply Keeps.bind
  · exact keeps_release rules fun _ => ⟨rfl, rfl⟩
  intro step
  apply Keeps.bind
  · exact rules.changeRun fun _ => ⟨rfl, rfl⟩
  intro _
  exact Keeps.pure _

theorem keeps_markRetry (runId stepId errorType message : String) :
    Keeps (good known) (markRetry text runId stepId errorType message) := by
  apply Keeps.bind (keeps_markStep rules ..)
  intro step
  apply Keeps.bind (keeps_log rules text ..)
  intro _
  apply Keeps.bind (keeps_log rules text ..)
  intro _
  exact keeps_log rules text ..

theorem keeps_markWaitingHuman (runId stepId reason approvalId : String) :
    Keeps (good known)
      (markWaitingHuman text runId stepId reason approvalId) := by
  apply Keeps.bind (keeps_markStep rules ..)
  intro step
  exact keeps_log rules text ..

theorem keeps_markFailed (runId stepId errorType message : String) :
    Keeps (good known) (markFailed text runId stepId errorType message) := by
  apply Keeps.bind (keeps_markStep rules ..)
  intro step
  apply Keeps.bind (keeps_log rules text ..)
  intro _
  apply Keeps.bind (keeps_log rules text ..)
  intro _
  exact keeps_log rules text ..

theorem keeps_updateLedger (key status : String) (externalId : Option String)
    (response : Option MapValue) (errorType : Option String) :
    Keeps (good known)
      (updateLedger text key status externalId response errorType) :=
  keeps_updateRow text rules.tick fun _ same => rules.changeLedger same

theorem keeps_requestApproval (request : ApprovalRequest) :
    Keeps (good known) (requestApproval request) := by
  apply Keeps.get_bind
  intro process
  cases process.store.approvalRequests.get? request.approvalKey with
  | some existing => exact Keeps.pure _
  | none =>
      apply rules.bind_now
      intro now
      apply rules.bind_newId
      intro approvalId
      apply Keeps.bind
      · exact rules.insertApproval (List.mem_cons_self ..)
      intro _
      exact Keeps.pure _

theorem keeps_settle (approval : ApprovalRequest) (status reason : String) :
    Keeps (good known) (settle text approval status reason) := by
  apply Keeps.ite
  · apply rules.bind_now
    intro now
    apply Keeps.bind
    · exact keeps_release rules fun _ => ⟨rfl, rfl⟩
    intro _
    apply Keeps.bind
    · exact rules.changeRun fun _ => ⟨rfl, rfl⟩
    intro _
    exact keeps_log rules text ..
  · apply Keeps.ite
    · exact keeps_markFailed rules text ..
    · exact Keeps.pure _

theorem keeps_decideApproval (iteration : Iteration)
    (approvalId status approver reason : String) :
    Keeps (good known) (decideApproval text iteration approvalId status approver
      reason) := by
  apply Keeps.get_bind
  intro process
  apply Keeps.bind (keeps_orFail _ _)
  intro key
  apply rules.bind_now
  intro now
  apply Keeps.bind
  · exact rules.changeApproval fun _ => ⟨rfl, rfl⟩
  intro approval
  apply Keeps.bind (keeps_log rules text ..)
  intro _
  apply Keeps.get_bind
  intro later
  split
  · apply Keeps.bind (keeps_settle rules text ..)
    intro _
    exact Keeps.pure _
  · exact Keeps.pure _

theorem keeps_recordCost (runId sessionId stepId category name : String)
    (amount : F64) (unit : String) (metadata : State) :
    Keeps (good known) (recordCost text runId sessionId stepId category name
      amount unit metadata) := by
  apply rules.bind_newId
  intro costId
  apply rules.bind_now
  intro now
  apply Keeps.bind
  · exact rules.pushCost (List.mem_cons_self ..)
  intro _
  apply Keeps.bind (keeps_log rules text ..)
  intro _
  exact Keeps.pure _

theorem keeps_createArtifact (runId : String) (stepId : Option String)
    (name : String) (content metadata : State) :
    Keeps (good known)
      (createArtifact text runId stepId name content metadata) := by
  apply rules.bind_newId
  intro artifactId
  apply rules.bind_now
  intro now
  apply Keeps.bind
  · exact rules.pushArtifact (List.mem_cons_self ..)
  intro _
  exact Keeps.pure _

end MemoryStore

end AgentLedger.Rust
