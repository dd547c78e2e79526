import AgentLedger.Failure.Envelopes
import AgentLedger.Store.Calls
import AgentLedger.TimeTravel
import Mathlib.Data.List.Sort

namespace AgentLedger

open Foundation

/-! `FailureReplayPlanner`. -/

structure ReplayAction where
  failureId : String
  category : String
  status : String
  replayAction : String := "reuse_recorded_evidence"
  replaySafe : Bool := true
  requiresManualVerification : Bool := false
  reason : String := "recorded runtime evidence can be inspected without " ++
    "calling external systems"

structure FailureReplayPlan where
  runId : String
  safeToReplay : Bool
  unsafeSideEffectCount : Nat
  manualVerificationCount : Nat
  recordedToolCallCount : Nat
  recordedEventCount : Nat
  actions : List ReplayAction

namespace FailureReplayPlanner

/-- The chain of `_action_for_envelope` over status and recoverability. -/
def actionByStatus (envelope : FailureEnvelope) : ReplayAction :=
  let action : ReplayAction :=
    { failureId := envelope.failureId
      category := envelope.category
      status := envelope.status }
  if envelope.status = "unknown_side_effect" ∨
      envelope.recoverability = "manual_verification" then
    { action with
      replayAction := "manual_verify_side_effect"
      replaySafe := false
      requiresManualVerification := true
      reason := "Tool Ledger recorded an unknown side-effect state; replay " ++
        "must not call the external tool again automatically" }
  else if envelope.status = "waiting_human" ∨
      envelope.recoverability = "human_required" then
    { action with
      replayAction := "resume_after_approval"
      reason := "runtime can resume after human approval without repeating " ++
        "completed side effects" }
  else if envelope.status = "recovery_scheduled" ∨
      envelope.recoverability = "auto_retry" then
    { action with
      replayAction := "retry_from_checkpoint"
      reason := "runtime retry is guarded by checkpoint, lease, and Tool " ++
        "Ledger evidence" }
  else if envelope.status ∈ ["terminal", "blocked"] then
    { action with
      replayAction := "terminal_stop"
      reason := "terminal failure should be replayed as evidence only " ++
        "unless the operator starts a new run" }
  else action

/-- A failure at an external boundary that no evidence is kept of. -/
def lacksEvidence (envelope : FailureEnvelope) : Bool :=
  decide (envelope.category ∈ ["tool", "sandbox"]) &&
    (decide (envelope.status ∈ ["failed", "terminal"]) &&
      envelope.evidenceRefs.isEmpty)

/-- `_action_for_envelope`. -/
def actionForEnvelope (envelope : FailureEnvelope) : ReplayAction :=
  if lacksEvidence envelope then
    { actionByStatus envelope with
      replaySafe := false
      requiresManualVerification := true
      reason := "external boundary failure lacks evidence refs for " ++
        "automatic replay" }
  else actionByStatus envelope

def plan (runId : String) (envelopes : List FailureEnvelope)
    (ledger : List LedgerRow) (events : List EventRow) : FailureReplayPlan :=
  let actions := envelopes.map actionForEnvelope
  let unsafe_ := actions.filter fun action => !action.replaySafe
  let manual := actions.filter ReplayAction.requiresManualVerification
  { runId := runId
    safeToReplay := unsafe_.isEmpty
    unsafeSideEffectCount := unsafe_.length
    manualVerificationCount := manual.length
    recordedToolCallCount := ledger.length
    recordedEventCount := events.length
    actions := actions }

/-- The outcome of the effect is unknown, or nothing was kept of it. -/
def Unsafe (envelope : FailureEnvelope) : Prop :=
  envelope.status = "unknown_side_effect" ∨
    envelope.recoverability = "manual_verification" ∨
      lacksEvidence envelope = true

theorem actionByStatus_replaySafe {envelope : FailureEnvelope} :
    (actionByStatus envelope).replaySafe = false ↔
      envelope.status = "unknown_side_effect" ∨
        envelope.recoverability = "manual_verification" := by
  unfold actionByStatus
  simp only
  split
  · rename_i unknown
    exact iff_of_true rfl unknown
  · rename_i known
    refine iff_of_false ?_ known
    repeat' split
    all_goals simp

theorem replaySafe_eq_false_iff {envelope : FailureEnvelope} :
    (actionForEnvelope envelope).replaySafe = false ↔ Unsafe envelope := by
  unfold actionForEnvelope Unsafe
  split
  · rename_i lacking
    exact iff_of_true rfl (.inr (.inr lacking))
  · rename_i supported
    rw [actionByStatus_replaySafe]
    simp only [supported, Bool.false_eq_true, or_false]

theorem safeToReplay_eq_false_iff {runId : String}
    {envelopes : List FailureEnvelope} {ledger : List LedgerRow}
    {events : List EventRow} :
    (plan runId envelopes ledger events).safeToReplay = false ↔
      ∃ envelope ∈ envelopes, Unsafe envelope := by
  simp only [plan, List.isEmpty_eq_false_iff_exists_mem, List.mem_filter,
    List.mem_map, Bool.not_eq_true']
  constructor
  · rintro ⟨_, ⟨envelope, member, rfl⟩, unsafe_⟩
    exact ⟨envelope, member, replaySafe_eq_false_iff.mp unsafe_⟩
  · rintro ⟨envelope, member, unsafe_⟩
    exact ⟨_, ⟨envelope, member, rfl⟩, replaySafe_eq_false_iff.mpr unsafe_⟩

theorem not_unsafe {envelope : FailureEnvelope}
    (known : envelope.status ≠ "unknown_side_effect")
    (recovers : envelope.recoverability ≠ "manual_verification")
    (supported : envelope.evidenceRefs ≠ [] ∨
      envelope.category ∉ ["tool", "sandbox"]) : ¬ Unsafe envelope := by
  rintro (unknown | manual | lacking)
  · exact known unknown
  · exact recovers manual
  · simp only [lacksEvidence, Bool.and_eq_true, decide_eq_true_eq,
      List.isEmpty_iff] at lacking
    rcases supported with kept | inside
    · exact kept lacking.2.2
    · exact inside lacking.1

variable {texts : FailureTexts} {runId runStatus : String}

theorem fromStep_safe {row : StepRow} (named : row.stepId ≠ "") :
    ¬ Unsafe (texts.fromStep runId runStatus row) := by
  apply not_unsafe
  · by_cases ended_ : runStatus = "failed" ∨ runStatus = "cancelled" <;>
      cases status : row.status <;>
        simp [FailureTexts.fromStep, ended_, status]
  · by_cases ended_ : runStatus = "failed" ∨ runStatus = "cancelled" <;>
      cases status : row.status <;>
        simp [FailureTexts.fromStep, ended_, status]
  · left
    simp only [FailureTexts.fromStep, texts.text_str named]
    exact failureRefs_ne_nil_of_step named none none none none

theorem ledgerFails_iff {row : LedgerRow} :
    row.fails = true ↔ row.status = .pendingVerification := by
  unfold LedgerRow.fails
  cases row.status <;> decide

theorem fromLedger_unsafe {row : LedgerRow} (fails : row.fails) :
    Unsafe (texts.fromLedger runId row) := by
  left
  simp [FailureTexts.fromLedger, ledgerFails_iff.mp fails, LedgerStatus.text]

theorem fromApproval_safe {row : ApprovalRow} :
    ¬ Unsafe (texts.fromApproval runId runStatus row) := by
  apply not_unsafe
  · simp only [FailureTexts.fromApproval]
    split <;> simp
  · simp only [FailureTexts.fromApproval]
    split <;> simp
  · right
    simp only [FailureTexts.fromApproval]
    split <;> simp

theorem fromEvent_safe {event : EventRow} :
    ¬ Unsafe (texts.fromEvent runId runStatus event) := by
  apply not_unsafe
  · simp only [FailureTexts.fromEvent, eventFailureStatus]
    repeat' split
    all_goals simp
  · simp only [FailureTexts.fromEvent, eventRecoverability]
    repeat' split
    all_goals simp
  · left
    exact failureRefs_ne_nil_of_event _ _ _ _ _

theorem fromRun_safe : ¬ Unsafe (texts.fromRun runId) := by
  apply not_unsafe
  · simp [FailureTexts.fromRun]
  · simp [FailureTexts.fromRun]
  · right
    simp [FailureTexts.fromRun]

/-- The plan holds back exactly for the rows that wait for verification. -/
theorem unsafe_iff {snapshot : Snapshot}
    (named : ∀ row ∈ snapshot.steps, row.stepId ≠ "") :
    (∃ envelope ∈ texts.fromSnapshot snapshot, Unsafe envelope) ↔
      ∃ row ∈ snapshot.ledger, row.status = .pendingVerification := by
  constructor
  · rintro ⟨envelope, member, unsafe_⟩
    obtain ⟨kind, source⟩ :=
      FailureTexts.source_of_mem (mem_of_mem_firsts member)
    cases source with
    | step row among fails =>
        exact absurd unsafe_ (fromStep_safe (named row among))
    | ledger row among fails => exact ⟨row, among, ledgerFails_iff.mp fails⟩
    | approval row among fails => exact absurd unsafe_ fromApproval_safe
    | event event among fails => exact absurd unsafe_ fromEvent_safe
    | run cancelled => exact absurd unsafe_ fromRun_safe
  · rintro ⟨row, member, waits⟩
    have source : texts.Source snapshot .toolLedger _ :=
      .ledger row member (ledgerFails_iff.mpr waits)
    obtain ⟨kept, among, own, _⟩ := source.kept
    cases own with
    | ledger other _ fails => exact ⟨_, among, fromLedger_unsafe fails⟩

end FailureReplayPlanner

/-! ### The report -/

structure FailureAttributionReport where
  runId : String
  runStatus : String
  failureEnvelopes : List FailureEnvelope
  failureReplayPlan : FailureReplayPlan

namespace Store

variable (store : Store)

/-- `SELECT * FROM tool_ledger WHERE run_id=? ORDER BY created_at`. -/
def ledgerRows (runId : String) : List LedgerRow :=
  (store.ledger.rows.filter fun row => row.runId = runId).insertionSort
    fun first second => first.createdAt ≤ second.createdAt

/-- The rows of a run; approval requests are held in the order of their
creation. -/
def snapshot (run : RunRow) : Snapshot :=
  { runId := run.runId
    runStatus := run.status.text
    steps := (store.steps.rows.filter fun row =>
      row.runId = run.runId).insertionSort
        fun first second => first.createdAt ≤ second.createdAt
    ledger := store.ledgerRows run.runId
    approvals := store.approvals.rows.filter fun row => row.runId = run.runId
    events := (store.eventsOf run.runId).filter EventRow.fails }

end Store

/-- `FailureAttributionReporter.report`, of a store that does not change
meanwhile. -/
def FailureTexts.report (texts : FailureTexts) (store : Store)
    (runId : String) : Except PyError FailureAttributionReport :=
  match store.run? runId with
  | none => .error (.keyError ("run not found: " ++ runId))
  | some run =>
      let snapshot := store.snapshot run
      let envelopes := texts.fromSnapshot snapshot
      .ok
        { runId := run.runId
          runStatus := run.status.text
          failureEnvelopes := envelopes
          failureReplayPlan := FailureReplayPlanner.plan run.runId envelopes
            snapshot.ledger (store.eventsOf run.runId) }

/-- The effect may have happened without being recorded. -/
def LedgerStatus.unsettled : LedgerStatus → Bool
  | .reserved | .running | .pendingVerification => true
  | _ => false

/-- The plan is unsafe for every unsettled row exactly if it waits for
verification, or another one does. -/
theorem replay_unsafe_iff {texts : FailureTexts} {store : Store}
    {runId : String} {report : FailureAttributionReport}
    (reported : texts.report store runId = .ok report)
    (named : ∀ row ∈ store.steps.rows, row.stepId ≠ "") :
    ((∃ row ∈ store.ledgerRows runId, row.status.unsettled) →
        report.failureReplayPlan.safeToReplay = false) ↔
      ((∃ row ∈ store.ledgerRows runId, row.status.unsettled) →
        ∃ row ∈ store.ledgerRows runId,
          row.status = .pendingVerification) := by
  unfold FailureTexts.report at reported
  cases found : store.run? runId with
  | none =>
      rw [found] at reported
      cases reported
  | some run =>
      rw [found] at reported
      cases reported
      have own : run.runId = runId := (Table.get?_some found).2
      have steps : ∀ row ∈ (store.snapshot run).steps, row.stepId ≠ "" := by
        intro row member
        simp only [Store.snapshot, List.mem_insertionSort, List.mem_filter]
          at member
        exact named row member.1
      have ledger : (store.snapshot run).ledger = store.ledgerRows runId := by
        rw [← own]
        rfl
      apply imp_congr_right
      intro _
      rw [← ledger, ← FailureReplayPlanner.unsafe_iff steps]
      exact FailureReplayPlanner.safeToReplay_eq_false_iff

/-! ### A call that a worker began and did not end -/

def reservedHistory : List (Call × Moment) :=
  let moment (now : Int) : Moment := ⟨now, fun kind => kind ++ "_0", 0⟩
  [(.createRun none none none, moment 0),
    (.claimStep "worker" none 30, moment 1),
    (.reserveLedger
      { runId := "run_0"
        stepId := "step_0"
        toolName := "charge"
        toolVersion := "v1"
        toolCallId := "toolcall_0"
        idempotencyKey := "key"
        causalToken := .obj []
        requestHash := "hash"
        requestRef := "ref" }, moment 2)]

def reservedStore : Store :=
  reservedHistory.foldl (fun store operation => store.next operation) .empty

def verifyingStore : Store :=
  reservedStore.next
    (.updateLedger
      { idempotencyKey := "key", status := .pendingVerification },
      ⟨3, fun kind => kind, 0⟩)

theorem verifying_unsafe :
    ∃ report, asciiTexts.report verifyingStore "run_0" = .ok report ∧
      report.failureReplayPlan.safeToReplay = false := by
  refine ⟨_, rfl, ?_⟩
  have iff := @replay_unsafe_iff asciiTexts verifyingStore "run_0" _ rfl
    (by decide)
  exact iff.mpr (fun _ => by decide) (by decide)

/-- The worker died after `reserve_ledger`; the effect may have happened. -/
theorem reserved_called_safe :
    (∃ row ∈ reservedStore.ledgerRows "run_0", row.status.unsettled) ∧
      ((asciiTexts.report reservedStore "run_0").toOption.map fun report =>
        report.failureReplayPlan.safeToReplay) = some true := by
  decide

end AgentLedger
