import AgentLedger.Go.Store

namespace AgentLedger.Go

open Foundation

/-! The mutating methods of the store as one type, and what their writes leave
of the process. -/

inductive StoreCall
  | createRun (sessionId : String) (initialState : JsonObject)
  | createExternalStep (runId : String)
  | claimStep (workerId runId : String) (leaseSeconds : Int)
  | heartbeat (stepId leaseToken : String) (leaseSeconds : Int)
  | recoverExpiredLeases
  | cancelRun (runId reason : String)
  | commitStatePatch (runId stepId leaseToken : String) (baseVersion : Int)
      (patch : JsonObject) (checkpointId : String)
  | applySystemStatePatch (runId : String) (patch : JsonObject)
      (reason : String)
  | markRetry (runId stepId errorType message : String)
  | markFailed (runId stepId errorType message : String)
  | markWaitingHuman (runId stepId reason approvalId : String)
  | appendEvent (input : AppendEventInput)
  | reserveLedger (input : LedgerReservation)
  | updateLedger (update : LedgerUpdate)
  | requestApproval (input : ApprovalRequestInput)
  | decideApproval (approvalId status approver reason : String)
  | recordCost (input : CostRecordInput)
  | createArtifact (runId stepId name : String) (content : Option Json)
      (metadata : JsonObject)

section

variable (random : Randomness) (encoding : Encoding)

/-- The method without its answer. -/
def StoreCall.method : StoreCall → Method Unit
  | .createRun sessionId initialState => fun process =>
      (Go.createRun random sessionId initialState process).map fun _ => ()
  | .createExternalStep runId => fun process =>
      (Go.createExternalStep random runId process).map fun _ => ()
  | .claimStep workerId runId leaseSeconds => fun process =>
      (Go.claimStep random workerId runId leaseSeconds process).map fun _ => ()
  | .heartbeat stepId leaseToken leaseSeconds => fun process =>
      (Go.heartbeat stepId leaseToken leaseSeconds process).map fun _ => ()
  | .recoverExpiredLeases => fun process =>
      (Go.recoverExpiredLeases process).map fun _ => ()
  | .cancelRun runId reason => fun process =>
      (Go.cancelRun runId reason process).map fun _ => ()
  | .commitStatePatch runId stepId leaseToken baseVersion patch checkpointId =>
      fun process => (Go.commitStatePatch runId stepId leaseToken baseVersion
        patch checkpointId process).map fun _ => ()
  | .applySystemStatePatch runId patch reason => fun process =>
      (Go.applySystemStatePatch runId patch reason process).map fun _ => ()
  | .markRetry runId stepId errorType message =>
      Go.markRetry runId stepId errorType message
  | .markFailed runId stepId errorType message =>
      Go.markFailed runId stepId errorType message
  | .markWaitingHuman runId stepId reason approvalId =>
      Go.markWaitingHuman runId stepId reason approvalId
  | .appendEvent input => Go.appendEvent input
  | .reserveLedger input => fun process =>
      (Go.reserveLedger random input process).map fun _ => ()
  | .updateLedger update => Go.updateLedger update
  | .requestApproval input => fun process =>
      (Go.requestApproval random input process).map fun _ => ()
  | .decideApproval approvalId status approver reason => fun process =>
      (Go.decideApproval approvalId status approver reason process).map
        fun _ => ()
  | .recordCost input => fun process =>
      (Go.recordCost random input process).map fun _ => ()
  | .createArtifact runId stepId name content metadata => fun process =>
      (Go.createArtifact random encoding runId stepId name content metadata
        process).map fun _ => ()

end

section

variable (random : Randomness) (encoding : Encoding) {α : Type}

/-! ### Writes -/

theorem apply_file (write : Write) (process : Process) :
    (process.apply random encoding write).file = process.file := by
  cases write <;> rfl

theorem written_file (process : Process) (writes : List Write) :
    (process.written random encoding writes).file = process.file :=
  applyAll_same Process.file
    (fun write _ => apply_file random encoding write) process.advance

theorem written_nil (process : Process) :
    (process.written random encoding []).data = process.data := rfl

/-- The events of a run. -/
def Process.eventsOf (process : Process) (runId : String) : List Event :=
  (process.data.events.get? runId).getD []

theorem eventsOf_appendEvent (process : Process) (input : AppendEventInput)
    (runId : String) :
    (process.appendEvent random encoding input).eventsOf runId =
      if runId = input.runId then process.eventsOf runId ++
        [process.newEvent random encoding input]
      else process.eventsOf runId := by
  unfold Process.eventsOf Process.appendEvent Dictionary.push
  simp only [Dictionary.get?_insert]
  split
  · rename_i same
    rw [same, Option.getD_some]
  · rfl

theorem length_eventsOf_apply (write : Write) (process : Process)
    (runId : String) : (process.eventsOf runId).length ≤
      ((process.apply random encoding write).eventsOf runId).length := by
  cases write with
  | event input =>
      rw [Process.apply, eventsOf_appendEvent]
      split
      · rw [List.length_append]
        exact Nat.le_add_right _ _
      · exact Nat.le_refl _
  | run _ _ | step _ _ | ledger _ _ | approval _ _ | cost _ | artifact _ =>
      exact Nat.le_refl _

theorem eventsOf_written {writes : List Write} {input : AppendEventInput}
    (member : .event input ∈ writes) (process : Process) :
    (process.eventsOf input.runId).length <
      ((process.written random encoding writes).eventsOf input.runId).length := by
  obtain ⟨before, after, rfl⟩ := List.append_of_mem member
  have grows (writes : List Write) (start : Process) :
      (start.eventsOf input.runId).length ≤
        ((applyAll (Process.apply random encoding) writes start).eventsOf
          input.runId).length :=
    applyAll_keeps (fun reached =>
        (start.eventsOf input.runId).length ≤
          (reached.eventsOf input.runId).length)
      (fun write _ reached held =>
        held.trans
          (length_eventsOf_apply random encoding write reached input.runId))
      (Nat.le_refl _)
  rw [Process.written, applyAll_append, applyAll_cons]
  refine Nat.lt_of_lt_of_le ?_ (grows after _)
  rw [Process.apply, eventsOf_appendEvent, if_pos rfl, List.length_append,
    List.length_singleton]
  exact Nat.lt_succ_of_le (grows before process.advance)

theorem written_ne {writes : List Write} {input : AppendEventInput}
    (member : .event input ∈ writes) (process : Process) :
    (process.written random encoding writes).data ≠ process.data := by
  intro same
  have longer := eventsOf_written random encoding member process
  rw [Process.eventsOf, Process.eventsOf, same] at longer
  exact Nat.lt_irrefl _ longer

/-! ### Calls -/

theorem flush_data (process : Process) :
    process.flush.2.data = process.data := by
  unfold Process.flush
  split
  · rfl
  · split
    · dsimp only
      split <;> rfl
    · rfl

theorem flush_file {process : Process} {error : GoError}
    (failed : process.flush.1 = some error) :
    process.flush.2.file = process.file := by
  unfold Process.flush at failed ⊢
  split
  · rfl
  · rename_i path
    rw [if_neg path] at failed
    split
    · rename_i encodable
      rw [if_pos encodable] at failed
      dsimp only at failed ⊢
      split
      · rfl
      · rename_i works
        rw [works] at failed
        cases failed
    · rfl

/-- A call writes what its method writes, whatever comes of the flush. -/
theorem call_data (method : Method α) (process : Process) :
    (process.call random encoding method).2.data =
      (process.written random encoding (method process).writes).data := by
  unfold Process.call
  dsimp only
  split
  · rfl
  · split
    · have kept := flush_data
        (process.written random encoding (method process).writes)
      split <;> (rename_i flushed; rw [flushed] at kept; exact kept)
    · rfl

theorem call_failed {method : Method α} {process : Process} {error : GoError}
    (failed : (process.call random encoding method).1 = .error error) :
    (process.call random encoding method).2.file = process.file ∧
      ((∃ error, (method process).result = .error error) ∨
        (method process).saves = true) := by
  have file := written_file random encoding process (method process).writes
  unfold Process.call at failed ⊢
  dsimp only at failed ⊢
  split
  · rename_i error refused
    exact ⟨file, .inl ⟨error, refused⟩⟩
  · rename_i value answered
    rw [answered] at failed
    dsimp only at failed
    split
    · rename_i saves
      rw [if_pos saves] at failed
      refine ⟨?_, .inr saves⟩
      split
      · rename_i problem after flushed
        have kept := flush_file (congrArg Prod.fst flushed)
        rw [flushed] at kept
        exact kept.trans file
      · rename_i after flushed
        rw [flushed] at failed
        cases failed
    · rename_i quiet
      rw [if_neg quiet] at failed
      cases failed

end

end AgentLedger.Go
