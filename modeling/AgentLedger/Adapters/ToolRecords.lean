import AgentLedger.Adapters.Turns
import AgentLedger.Foundation.Answers

namespace AgentLedger

open Foundation

/-! What `record_tool_execution` comes to, and what it leaves of the ledger. -/

structure ToolReceipt where
  ledgerStatus : LedgerStatus
  replayedFromLedger : Bool := false
  idempotencyKey : String
  toolCallId : String

namespace ExecutionEvidenceBridge

variable (bridge : ExecutionEvidenceBridge)

def settled (record : Record) : RuntimeM ToolReceipt := do
  let status ← bridge.settle record
  return {
    ledgerStatus := status
    idempotencyKey := record.key
    toolCallId := record.toolCallId }

/-- The part after the reservation, by what the ledger holds of the key. -/
def proceed (record : Record) : Option LedgerRow → RuntimeM ToolReceipt
  | none => bridge.settled record
  | some existing =>
      match existing.status with
      | .succeeded => do
          report "tool_call_completed" (event record "tool_call_completed"
            (bridge.replayedPayload record existing) none none)
          return {
            ledgerStatus := .succeeded
            replayedFromLedger := true
            idempotencyKey := record.key
            toolCallId := record.toolCallId }
      | .pendingVerification =>
          .raise (.runtimeError "tool side effect pending verification")
      | .reserved | .running =>
          .raise (.runtimeError "tool side effect already in progress")
      | .failedNoEffect | .compensated => bridge.settled record

/-- `record_tool_execution` in an active turn, with all that it returns. -/
def recordExecution (turn : ActiveTurn) (execution : ToolExecution) :
    RuntimeM ToolReceipt := do
  let record ← bridge.open_ turn execution
  let existing ← store (.reserveLedger (ledgerArgs record))
  bridge.proceed record existing

theorem status_recordExecution (turn : ActiveTurn) (execution : ToolExecution) :
    (do
      let receipt ← bridge.recordExecution turn execution
      return receipt.ledgerStatus) =
      bridge.recordToolExecution turn execution := by
  have same (record : Record) :
      (do
        let receipt ← bridge.settled record
        return receipt.ledgerStatus) = bridge.settle record := by
    unfold settled
    rw [Program.bind_assoc]
    exact Program.bind_done_right _
  unfold recordExecution recordToolExecution
  simp only [Program.bind_assoc]
  congr 1
  funext record
  congr 1
  funext existing
  cases existing with
  | none => exact same record
  | some row =>
      unfold proceed
      cases status : row.status
      all_goals simp only [status, Program.bind_assoc]
      all_goals first | rfl | exact same record

/-- `execution.tool_call_id or new_id("toolcall")`. -/
def callId (moment : Moment) (execution : ToolExecution) : String :=
  (nonEmpty execution.toolCallId).getD (moment.id "toolcall")

/-- What the record is opened with. -/
def recordOf (moment : Moment) (turn : ActiveTurn)
    (execution : ToolExecution) : Record :=
  let toolCallId := callId moment execution
  let digest := bridge.gateway.sha256
    (.obj (bridge.requestPayload execution toolCallId))
  let scope := bridge.source ++ ":" ++ execution.sessionId ++ ":" ++
    execution.turnId
  { turn := turn
    execution := execution
    toolCallId := toolCallId
    key := (nonEmpty execution.idempotencyKey).getD
      (scope ++ ":" ++ execution.toolName ++ ":" ++ toolCallId)
    causalToken := (nonEmpty execution.causalToken).getD
      (scope ++ ":" ++ toolCallId)
    requestHash := blobHash digest
    requestRef := blobRef digest }

/-! ### Values that cannot be serialised -/

/-- What `canonical_json` raises on a value.  Any value may stand for one that
is no JSON. -/
abbrev Refusals := Json → Option PyError

/-- `put_json` raises what `canonical_json` does, before it writes. -/
def refused (refusals : Refusals) : (cmd : Command) → Option cmd.Reply
  | .putJson _ value => (refusals value).map .error
  | _ => none

section Alone

variable {bridge} {refusals : Refusals} {moment : Moment} {world : World}

theorem answered_store (call : Call) :
    (store call).answered (refused refusals) = store call :=
  Program.Uses.answered_eq (uses_store rfl)

theorem answered_orRaise {α : Type} (result : Except PyError α) :
    (orRaise result).answered (refused refusals) = orRaise result :=
  Program.Uses.answered_eq (uses_orRaise result)

theorem answered_report (name : String) (args : EventArgs) :
    (report name args).answered (refused refusals) = report name args :=
  Program.Uses.answered_eq (uses_report rfl)

theorem alone_report (name : String) (args : EventArgs) :
    World.alone moment (report name args) world =
      (.ok (), (world.perform 0 (.appendEvent name args) moment).2) := by
  obtain ⟨seq, appended⟩ :=
    @Store.perform_appendEvent world.store moment name args
  unfold report
  rw [World.alone_bind, World.alone_store]
  rcases performed : world.perform 0 (.appendEvent name args) moment
    with ⟨answer, after⟩
  have same : answer = .ok seq :=
    (congrArg Prod.fst performed).symm.trans appended
  rw [same]
  rfl

private theorem answered_update (update : LedgerUpdate) :
    (store (.updateLedger update)).answered (refused refusals) =
      store (.updateLedger update) := answered_store _

private theorem answered_cost (args : CostArgs) :
    (store (.recordCost args)).answered (refused refusals) =
      store (.recordCost args) := answered_store _

private theorem alone_update (update : LedgerUpdate) :
    World.alone moment (store (.updateLedger update)) world =
      (.ok (), (world.perform 0 (.updateLedger update) moment).2) :=
  World.alone_store _

private theorem alone_cost (args : CostArgs) :
    ∃ costId, World.alone moment (store (.recordCost args)) world =
      (.ok costId, (world.perform 0 (.recordCost args) moment).2) := by
  obtain ⟨costId, recorded⟩ :=
    @Store.perform_recordCost world.store moment args
  refine ⟨costId, (World.alone_store _).trans ?_⟩
  exact Prod.ext recorded rfl

theorem ledgerRow?_perform {call : Call} (other : call.entersLedger = false) :
    (world.perform 0 call moment).2.store.ledgerRow? =
      world.store.ledgerRow? :=
  Store.ledgerRow?_of_other other

theorem alone_putJson_refused {value : Json} {error : PyError}
    (refuses : refusals value = some error) :
    World.alone moment
        ((bridge.gateway.putJson value).answered (refused refusals)) world =
      (.error error, world) := by
  have known : refused refusals (.putJson (bridge.gateway.sha256 value) value) =
      some (.error error) := by
    rw [refused, refuses]
    rfl
  unfold ToolGateway.putJson
  rw [Program.bind_call, Program.answered_known known]
  rfl

theorem alone_putJson {value : Json} (accepts : refusals value = none) :
    World.alone moment
        ((bridge.gateway.putJson value).answered (refused refusals)) world =
      (.ok (blobHash (bridge.gateway.sha256 value),
          blobRef (bridge.gateway.sha256 value)),
        world.putBlob (blobRef (bridge.gateway.sha256 value)) value) := by
  have unknown : refused refusals
      (.putJson (bridge.gateway.sha256 value) value) = none := by
    rw [refused, accepts]
    rfl
  unfold ToolGateway.putJson
  rw [Program.bind_call, Program.answered_unknown unknown]
  rfl

end Alone

/-- The status that the execution asks for. -/
def statusOf (execution : ToolExecution) : Except PyError LedgerStatus :=
  ledgerStatus execution.ledgerStatus
    ((nonEmpty execution.errorMessage).orElse fun _ => execution.errorType)

/-- The ledger knows the status, and the result can be archived. -/
def sound (refusals : Refusals) (execution : ToolExecution) : Bool :=
  (statusOf execution).isOk &&
    (decide (execution.result = .null) || (refusals execution.result).isNone)

/-- The request can be archived. -/
def requestable (refusals : Refusals) (moment : Moment)
    (execution : ToolExecution) : Bool :=
  (refusals (.obj (bridge.requestPayload execution
    (callId moment execution)))).isNone

section Alone

variable {bridge} {refusals : Refusals} {moment : Moment} {world : World}
  {turn : ActiveTurn} {execution : ToolExecution}

private theorem alone_callId (next : String → RuntimeM Record) :
    World.alone moment
        ((match nonEmpty execution.toolCallId with
          | some id => next id
          | none => Runtime.newId "toolcall" >>= next).answered
            (refused refusals)) world =
      World.alone moment
        ((next (callId moment execution)).answered (refused refusals))
        world := by
  unfold callId
  cases nonEmpty execution.toolCallId with
  | some id => rfl
  | none =>
      change World.alone moment ((Program.call (.newId "toolcall") next).answered
        (refused refusals)) world = _
      rw [Program.answered_unknown rfl]
      rfl

theorem alone_open_refused
    (refuses : bridge.requestable refusals moment execution = false) :
    ∃ error, World.alone moment
        ((bridge.open_ turn execution).answered (refused refusals)) world =
      (.error error, world) := by
  obtain ⟨error, raised⟩ := Option.isSome_iff_exists.mp
    (Option.isNone_eq_false_iff.mp refuses)
  refine ⟨error, ?_⟩
  refine (alone_callId _).trans ?_
  rw [Program.bind_done, Program.answered_bind, World.alone_bind,
    alone_putJson_refused raised]

theorem alone_open
    (accepts : bridge.requestable refusals moment execution = true) :
    ∃ after, World.alone moment
        ((bridge.open_ turn execution).answered (refused refusals)) world =
          (.ok (bridge.recordOf moment turn execution), after) ∧
      after.store.ledgerRow? = world.store.ledgerRow? := by
  have archived := Option.isNone_iff_eq_none.mp accepts
  apply Exists.intro
  apply And.intro
  · refine (alone_callId _).trans ?_
    rw [Program.bind_done, Program.answered_bind, World.alone_bind,
      alone_putJson archived]
    simp only [Program.answered_bind, answered_report, World.alone_bind]
    rw [alone_report]
    rfl
  · exact ledgerRow?_perform rfl

private theorem alone_putResult {result : Json}
    (accepts : (decide (result = .null) || (refusals result).isNone) = true) :
    ∃ response after, World.alone moment
        ((bridge.putResult result).answered (refused refusals)) world =
          (.ok response, after) ∧ after.store = world.store := by
  by_cases absent : result = .null
  · subst absent
    exact ⟨none, world, rfl, rfl⟩
  · have archived : refusals result = none := by
      simpa [absent] using accepts
    have unfolded : bridge.putResult result = (do
        let written ← bridge.gateway.putJson result
        return some written) := by
      cases result with
      | null => exact absurd rfl absent
      | _ => rfl
    rw [unfolded, Program.answered_bind, World.alone_bind,
      alone_putJson archived]
    exact ⟨_, _, rfl, rfl⟩

private theorem alone_putResult_refused {result : Json}
    (refuses :
      (decide (result = .null) || (refusals result).isNone) = false) :
    ∃ error, World.alone moment
        ((bridge.putResult result).answered (refused refusals)) world =
      (.error error, world) := by
  obtain ⟨present, raises⟩ := Bool.or_eq_false_iff.mp refuses
  have absent : result ≠ .null := of_decide_eq_false present
  obtain ⟨error, raised⟩ := Option.isSome_iff_exists.mp
    (Option.isNone_eq_false_iff.mp raises)
  have unfolded : bridge.putResult result = (do
      let written ← bridge.gateway.putJson result
      return some written) := by
    cases result with
    | null => exact absurd rfl absent
    | _ => rfl
  refine ⟨error, ?_⟩
  rw [unfolded, Program.answered_bind, World.alone_bind,
    alone_putJson_refused raised]

/-- Neither the status nor the result is looked at before the key is
reserved. -/
theorem alone_settle_refused {record : Record}
    (refuses : sound refusals record.execution = false) :
    ∃ error, World.alone moment
        ((bridge.settle record).answered (refused refusals)) world =
      (.error error, world) := by
  unfold settle sound at *
  rw [Program.answered_bind, answered_orRaise, World.alone_bind,
    World.alone_orRaise]
  cases status : statusOf record.execution with
  | error error =>
      unfold statusOf at status
      rw [status]
      exact ⟨error, rfl⟩
  | ok value =>
      rw [status] at refuses
      obtain ⟨error, raised⟩ :=
        @alone_putResult_refused bridge refusals moment world _ refuses
      unfold statusOf at status
      rw [status]
      refine ⟨error, ?_⟩
      simp only [Program.answered_bind]
      rw [World.alone_bind, raised]

theorem alone_settle {record : Record}
    (accepts : sound refusals record.execution = true) :
    ∃ status update after, World.alone moment
        ((bridge.settle record).answered (refused refusals)) world =
          (.ok status, after) ∧
      update.idempotencyKey = record.key ∧
      after.store.ledgerRow? = Function.update world.store.ledgerRow?
        record.key
        ((world.store.ledgerRow? record.key).map
          (LedgerUpdate.apply update)) := by
  unfold settle sound at *
  rw [Program.answered_bind, answered_orRaise, World.alone_bind,
    World.alone_orRaise]
  cases status : statusOf record.execution with
  | error error =>
      rw [status] at accepts
      cases accepts
  | ok value =>
      rw [status] at accepts
      obtain ⟨response, written, archived, kept⟩ :=
        @alone_putResult bridge refusals moment world _ accepts
      unfold statusOf at status
      rw [status]
      simp only [Program.answered_bind, answered_report]
      rw [World.alone_bind, archived]
      simp only [World.alone_bind, alone_report]
      rw [answered_update, alone_update]
      have moved (name : String) (args : EventArgs) (update : LedgerUpdate) :
          ((written.perform 0 (.updateLedger update) moment).2.perform 0
            (.appendEvent name args) moment).2.store.ledgerRow? =
          Function.update world.store.ledgerRow? update.idempotencyKey
            ((world.store.ledgerRow? update.idempotencyKey).map
              update.apply) := by
        rw [ledgerRow?_perform rfl, ← kept]
        exact Store.ledgerRow?_updateLedger _ update
      by_cases unfinished : value = .reserved ∨ value = .running
      · simp only [if_pos unfinished]
        exact ⟨value, _, _, rfl, rfl, moved _ _ _⟩
      · simp only [if_neg unfinished, Program.answered_bind, World.alone_bind]
        rw [answered_cost]
        obtain ⟨costId, recorded⟩ := alone_cost _
        rw [recorded]
        exact ⟨value, _, _, rfl, rfl,
          (ledgerRow?_perform rfl).trans (moved _ _ _)⟩

end Alone

/-! ### What a record comes to -/

/-- The row of each key. -/
abbrev LedgerView := String → Option LedgerRow

variable (refusals : Refusals) (moment : Moment) (turn : ActiveTurn)
  (execution : ToolExecution) (ledger : LedgerView)

/-- The ledger with the key of the execution reserved. -/
def reserved : LedgerView :=
  let record := bridge.recordOf moment turn execution
  Function.update ledger record.key
    (some ((ledger record.key).getD ((ledgerArgs record).row moment)))

/-- The ledger lets the execution pass. -/
def admits : Bool :=
  bridge.requestable refusals moment execution &&
    match ledger (bridge.recordOf moment turn execution).key with
    | none => sound refusals execution
    | some row =>
        match row.status with
        | .succeeded => true
        | .failedNoEffect | .compensated => sound refusals execution
        | .pendingVerification | .reserved | .running => false

/-- The record ends after the reservation of a key that nobody had. -/
def halfMade : Bool :=
  bridge.requestable refusals moment execution &&
    (ledger (bridge.recordOf moment turn execution).key).isNone &&
    !sound refusals execution

end ExecutionEvidenceBridge

/-- What a row is about. -/
def LedgerRow.subject (row : LedgerRow) : String × String × String :=
  (row.runId, row.toolName, row.toolCallId)

namespace ExecutionEvidenceBridge

variable (bridge : ExecutionEvidenceBridge) (refusals : Refusals)
  (moment : Moment) (turn : ActiveTurn) (execution : ToolExecution)

/-- The result of a record, and the ledger before and after it. -/
structure Comes (result : Except PyError ToolReceipt)
    (before after : LedgerView) : Prop where
  admitted : result.isOk = bridge.admits refusals moment turn execution before
  left : result.isOk = false →
    after = if bridge.halfMade refusals moment turn execution before then
      bridge.reserved moment turn execution before else before
  others : ∀ key, key ≠ (bridge.recordOf moment turn execution).key →
    after key = before key
  subject : bridge.requestable refusals moment execution = true →
    (after (bridge.recordOf moment turn execution).key).map
        LedgerRow.subject =
      (bridge.reserved moment turn execution before
        (bridge.recordOf moment turn execution).key).map LedgerRow.subject
  receipt : ∀ receipt, result = .ok receipt →
    receipt.idempotencyKey = (bridge.recordOf moment turn execution).key ∧
      receipt.toolCallId = callId moment execution ∧
      (receipt.replayedFromLedger = true → ∃ row,
        before receipt.idempotencyKey = some row ∧ row.status = .succeeded)

variable {bridge refusals moment turn execution} {world : World}

private theorem reserved_found {ledger : LedgerView} {row : LedgerRow}
    (found : ledger (bridge.recordOf moment turn execution).key = some row) :
    bridge.reserved moment turn execution ledger = ledger := by
  simp only [reserved]
  rw [found, Option.getD_some, ← found]
  exact Function.update_eq_self _ _

private theorem reserved_other {ledger : LedgerView} {key : String}
    (other : key ≠ (bridge.recordOf moment turn execution).key) :
    bridge.reserved moment turn execution ledger key = ledger key :=
  Function.update_of_ne other _ _

private theorem alone_reserve (args : LedgerArgs) :
    World.alone moment
        ((store (.reserveLedger args)).answered (refused refusals)) world =
      ((Call.perform (.reserveLedger args) moment world.store).1,
        (world.perform 0 (.reserveLedger args) moment).2) := by
  rw [answered_store]
  exact World.alone_store _

private theorem alone_settled_refused {record : Record}
    (refuses : sound refusals record.execution = false) :
    ∃ error, World.alone moment
        ((bridge.settled record).answered (refused refusals)) world =
      (.error error, world) := by
  obtain ⟨error, raised⟩ := @alone_settle_refused bridge refusals moment world
    record refuses
  refine ⟨error, ?_⟩
  unfold settled
  rw [Program.answered_bind, World.alone_bind, raised]

private theorem alone_settled {record : Record}
    (accepts : sound refusals record.execution = true) :
    ∃ status update after, World.alone moment
        ((bridge.settled record).answered (refused refusals)) world =
          (.ok
            { ledgerStatus := status
              idempotencyKey := record.key
              toolCallId := record.toolCallId }, after) ∧
      after.store.ledgerRow? = Function.update world.store.ledgerRow?
        record.key
        ((world.store.ledgerRow? record.key).map
          (LedgerUpdate.apply update)) := by
  obtain ⟨status, update, after, done, _, moved⟩ :=
    @alone_settle bridge refusals moment world record accepts
  refine ⟨status, update, after, ?_, moved⟩
  unfold settled
  rw [Program.answered_bind, World.alone_bind, done]
  rfl

/-- A record whose execution may be settled is settled, or else leaves the
ledger as the reservation did. -/
private theorem comes_settled {before : LedgerView}
    (reservedBefore : world.store.ledgerRow? =
      bridge.reserved moment turn execution before)
    (admits : bridge.admits refusals moment turn execution before =
      sound refusals execution)
    (half : sound refusals execution = false →
      bridge.reserved moment turn execution before =
        if bridge.halfMade refusals moment turn execution before then
          bridge.reserved moment turn execution before else before) :
    let outcome := World.alone moment
      ((bridge.settled (bridge.recordOf moment turn execution)).answered
        (refused refusals)) world
    bridge.Comes refusals moment turn execution outcome.1 before
      outcome.2.store.ledgerRow? := by
  cases settles : sound refusals execution with
  | true =>
      obtain ⟨status, update, after, done, moved⟩ :=
        @alone_settled bridge refusals moment world
          (bridge.recordOf moment turn execution) settles
      rw [done]
      refine ⟨?_, ?_, ?_, ?_, ?_⟩
      · rw [admits, settles]
        rfl
      · intro failed
        cases failed
      · intro key other
        rw [moved, Function.update_of_ne other, reservedBefore,
          reserved_other other]
      · intro _
        rw [moved, Function.update_self, reservedBefore, Option.map_map]
        rfl
      · intro receipt answered
        cases answered
        refine ⟨rfl, rfl, ?_⟩
        intro replayed
        cases replayed
  | false =>
      obtain ⟨error, raised⟩ := @alone_settled_refused bridge refusals moment
        world (bridge.recordOf moment turn execution) settles
      rw [raised]
      refine ⟨?_, ?_, ?_, ?_, ?_⟩
      · rw [admits, settles]
        rfl
      · intro _
        exact reservedBefore.trans (half settles)
      · intro key other
        rw [reservedBefore, reserved_other other]
      · intro _
        rw [reservedBefore]
      · intro receipt answered
        cases answered

private theorem comes_raised {before : LedgerView} {error : PyError}
    (known : (before (bridge.recordOf moment turn execution).key).isSome)
    (turned : bridge.admits refusals moment turn execution before = false) :
    bridge.Comes refusals moment turn execution (.error error) before
      before := by
  obtain ⟨row, found⟩ := Option.isSome_iff_exists.mp known
  have untouched := @reserved_found bridge moment turn execution _ row found
  refine ⟨turned.symm, ?_, ?_, ?_, ?_⟩
  · intro _
    rw [untouched, ite_self]
  · intro key _
    rfl
  · intro _
    rw [untouched]
  · intro receipt answered
    cases answered

private theorem comes_found {row : LedgerRow}
    (requested : bridge.requestable refusals moment execution = true)
    (found : world.store.ledgerRow?
      (bridge.recordOf moment turn execution).key = some row) :
    let outcome := World.alone moment
      ((bridge.proceed (bridge.recordOf moment turn execution)
        (some row)).answered (refused refusals)) world
    bridge.Comes refusals moment turn execution outcome.1
      world.store.ledgerRow? outcome.2.store.ledgerRow? := by
  have known : (world.store.ledgerRow?
      (bridge.recordOf moment turn execution).key).isSome := by
    rw [found]
    rfl
  have untouched := @reserved_found bridge moment turn execution _ row found
  have settles (admitted : bridge.admits refusals moment turn execution
      world.store.ledgerRow? = sound refusals execution) :
      let outcome := World.alone moment
        ((bridge.settled (bridge.recordOf moment turn execution)).answered
          (refused refusals)) world
      bridge.Comes refusals moment turn execution outcome.1
        world.store.ledgerRow? outcome.2.store.ledgerRow? := by
    apply comes_settled untouched.symm admitted
    intro _
    rw [untouched, ite_self]
  unfold proceed
  cases status : row.status with
  | succeeded =>
      simp only [status, Program.answered_bind, answered_report]
      rw [World.alone_bind, alone_report]
      refine ⟨?_, ?_, ?_, ?_, ?_⟩
      · simp [admits, requested, found, status]
        rfl
      · intro failed
        cases failed
      · intro key _
        exact congrFun (ledgerRow?_perform rfl) key
      · intro _
        rw [untouched]
        exact congrArg _ (congrFun (ledgerRow?_perform rfl) _)
      · intro receipt answered
        cases answered
        exact ⟨rfl, rfl, fun _ => ⟨row, found, status⟩⟩
  | pendingVerification =>
      simp only [status]
      exact comes_raised known (by simp [admits, found, status])
  | reserved =>
      simp only [status]
      exact comes_raised known (by simp [admits, found, status])
  | running =>
      simp only [status]
      exact comes_raised known (by simp [admits, found, status])
  | failedNoEffect =>
      simp only [status]
      exact settles (by simp [admits, requested, found, status])
  | compensated =>
      simp only [status]
      exact settles (by simp [admits, requested, found, status])

theorem comes_recordExecution :
    let outcome := World.alone moment
      ((bridge.recordExecution turn execution).answered (refused refusals))
      world
    bridge.Comes refusals moment turn execution outcome.1
      world.store.ledgerRow? outcome.2.store.ledgerRow? := by
  unfold recordExecution
  cases requested : bridge.requestable refusals moment execution with
  | false =>
      obtain ⟨error, raised⟩ := @alone_open_refused bridge refusals moment world
        turn execution requested
      rw [Program.answered_bind, World.alone_bind, raised]
      refine ⟨?_, ?_, ?_, ?_, ?_⟩
      · simp [admits, requested]
        rfl
      · intro _
        simp [halfMade, requested]
      · intro key _
        rfl
      · intro archived
        cases requested.symm.trans archived
      · intro receipt answered
        cases answered
  | true =>
      obtain ⟨after, opened, same⟩ := @alone_open bridge refusals moment world
        turn execution requested
      rw [Program.answered_bind, World.alone_bind, opened, ← same]
      simp only [Program.answered_bind, World.alone_bind]
      rw [alone_reserve]
      have kept := @Store.perform_reserveLedger_found after.store moment
        (ledgerArgs (bridge.recordOf moment turn execution))
      have entered := @Store.perform_reserveLedger_fresh after.store moment
        (ledgerArgs (bridge.recordOf moment turn execution))
      cases found : after.store.ledgerRow?
          (bridge.recordOf moment turn execution).key with
      | none =>
          obtain ⟨answered, inserted⟩ := entered found
          rw [answered]
          apply comes_settled
          · refine inserted.trans ?_
            simp only [reserved]
            rw [found]
            rfl
          · simp [admits, requested, found]
          · intro settles
            rw [if_pos]
            simp [halfMade, requested, found, settles]
      | some row =>
          have performed := kept found
          rw [performed]
          have store : (after.perform 0 (.reserveLedger (ledgerArgs
              (bridge.recordOf moment turn execution))) moment).2.store =
                after.store := congrArg Prod.snd performed
          have comes := @comes_found bridge refusals moment turn execution
            (after.perform 0 (.reserveLedger (ledgerArgs
              (bridge.recordOf moment turn execution))) moment).2 row requested
            (by rw [store]; exact found)
          rwa [store] at comes

end ExecutionEvidenceBridge

/-! ### A record of a bridge -/

/-- The same for the programs of a bridge. -/
def BridgeCommand.refused (refusals : ExecutionEvidenceBridge.Refusals) :
    (cmd : BridgeCommand) → Option cmd.Reply
  | .runtime cmd => ExecutionEvidenceBridge.refused refusals cmd
  | _ => none

theorem BridgeM.answered_lift {α : Type}
    (refusals : ExecutionEvidenceBridge.Refusals) (program : RuntimeM α) :
    (BridgeM.lift program).answered (BridgeCommand.refused refusals) =
      BridgeM.lift
        (program.answered (ExecutionEvidenceBridge.refused refusals)) := by
  induction program with
  | done value => rfl
  | raise error => rfl
  | call cmd next ih =>
      rw [BridgeM.lift]
      cases known : ExecutionEvidenceBridge.refused refusals cmd with
      | some reply =>
          rw [Program.answered_known known, @Program.answered_known
            BridgeCommand BridgeCommand.Reply _ _
            (BridgeCommand.refused refusals) (.runtime cmd) reply known]
          exact ih reply
      | none =>
          rw [Program.answered_unknown known, @Program.answered_unknown
            BridgeCommand BridgeCommand.Reply _ _
            (BridgeCommand.refused refusals) (.runtime cmd) known, BridgeM.lift]
          congr 1
          funext reply
          exact ih reply

namespace SessionBridge

open BridgeM BridgeState

variable (bridge : SessionBridge)
  (refusals : ExecutionEvidenceBridge.Refusals) (moment : Moment)
  (execution : ToolExecution) (state : BridgeState)

def recordExecution (execution : ToolExecution) : BridgeM ToolReceipt := do
  let active ← bridge.requireTurn execution.sessionId execution.turnId
  lift (bridge.toExecutionEvidenceBridge.recordExecution active.toActiveTurn
    execution)

/-- One record, with nothing else in between. -/
def record : Except PyError ToolReceipt × BridgeState :=
  alone moment ((bridge.recordExecution execution).answered
    (BridgeCommand.refused refusals)) state

def activeFor : Option LeasedTurn :=
  state.memory.activeTurns.lookup
    (turnKey execution.sessionId execution.turnId)

/-- The turn is active, the request can be archived and nobody has the key, but
the status is unknown or the result cannot be archived. -/
def halfMade : Bool :=
  (activeFor execution state).any fun active =>
    bridge.toExecutionEvidenceBridge.halfMade refusals moment
      active.toActiveTurn execution state.world.store.ledgerRow?

/-- The turn is active, and the ledger lets the execution pass. -/
def accepts : Bool :=
  (activeFor execution state).any fun active =>
    bridge.toExecutionEvidenceBridge.admits refusals moment
      active.toActiveTurn execution state.world.store.ledgerRow?

variable {bridge refusals moment execution state}

private theorem answered_requireTurn :
    (bridge.requireTurn execution.sessionId execution.turnId).answered
        (BridgeCommand.refused refusals) =
      bridge.requireTurn execution.sessionId execution.turnId := by
  have answered : Program.Uses
      (fun cmd => BridgeCommand.refused refusals cmd = none) retrieve :=
    ⟨rfl, fun _ => trivial⟩
  apply Program.Uses.answered_eq
  unfold requireTurn
  refine answered.bind fun memory => ?_
  split
  · trivial
  · trivial

theorem record_inactive (inactive : activeFor execution state = none) :
    ∃ error, bridge.record refusals moment execution state =
      (.error error, state) := by
  obtain ⟨error, raised⟩ :=
    @requireTurn_missing execution.sessionId moment state bridge _ inactive
  refine ⟨error, ?_⟩
  unfold record recordExecution
  rw [Program.answered_bind, answered_requireTurn, alone_bind_error raised]

theorem record_active {active : LeasedTurn}
    (found : activeFor execution state = some active) :
    bridge.record refusals moment execution state =
      let outcome := World.alone moment
        ((bridge.toExecutionEvidenceBridge.recordExecution active.toActiveTurn
          execution).answered (ExecutionEvidenceBridge.refused refusals))
        state.world
      (outcome.1, { state with world := outcome.2 }) := by
  have required :=
    @requireTurn_active execution.sessionId moment state bridge _ active found
  unfold record recordExecution
  rw [Program.answered_bind, answered_requireTurn, alone_bind_ok required,
    answered_lift]
  exact alone_lift _

theorem memory_record :
    (bridge.record refusals moment execution state).2.memory =
      state.memory := by
  cases found : activeFor execution state with
  | none =>
      obtain ⟨error, raised⟩ := @record_inactive bridge refusals moment _ _ found
      rw [raised]
  | some active => rw [record_active found]

theorem record_isOk :
    (bridge.record refusals moment execution state).1.isOk =
      bridge.accepts refusals moment execution state := by
  cases found : activeFor execution state with
  | none =>
      obtain ⟨error, raised⟩ := @record_inactive bridge refusals moment _ _ found
      rw [raised, accepts, found]
      rfl
  | some active =>
      rw [record_active found, accepts, found]
      exact ExecutionEvidenceBridge.comes_recordExecution.admitted

theorem record_raised
    (raised : (bridge.record refusals moment execution state).1.isOk = false)
    (complete : bridge.halfMade refusals moment execution state = false) :
    (bridge.record refusals moment execution
      state).2.world.store.ledgerRow? = state.world.store.ledgerRow? := by
  cases found : activeFor execution state with
  | none =>
      obtain ⟨error, same⟩ := @record_inactive bridge refusals moment _ _ found
      rw [same]
  | some active =>
      rw [record_active found] at raised ⊢
      rw [halfMade, found, Option.any_some] at complete
      have left := ExecutionEvidenceBridge.comes_recordExecution.left raised
      rw [complete] at left
      exact left

/-- Whether a record is accepted depends on the turns and the ledger alone. -/
theorem accepts_of_same {other : BridgeState}
    (memory : other.memory = state.memory)
    (ledger : other.world.store.ledgerRow? = state.world.store.ledgerRow?) :
    bridge.accepts refusals moment execution other =
      bridge.accepts refusals moment execution state := by
  unfold accepts activeFor
  rw [memory, ledger]

theorem record_half {active : LeasedTurn}
    (found : activeFor execution state = some active)
    (half : bridge.halfMade refusals moment execution state = true) :
    let record := bridge.recordOf moment active.toActiveTurn execution
    let outcome := bridge.record refusals moment execution state
    outcome.1.isOk = false ∧ state.world.store.ledgerRow? record.key = none ∧
      outcome.2.world.store.ledgerRow? =
        Function.update state.world.store.ledgerRow? record.key (some
          ((ExecutionEvidenceBridge.ledgerArgs record).row moment)) := by
  rw [halfMade, found, Option.any_some] at half
  have parts := half
  simp only [ExecutionEvidenceBridge.halfMade, Bool.and_eq_true,
    Option.isNone_iff_eq_none, Bool.not_eq_true'] at parts
  obtain ⟨⟨requested, fresh⟩, unsound⟩ := parts
  have comes := @ExecutionEvidenceBridge.comes_recordExecution
    bridge.toExecutionEvidenceBridge refusals moment active.toActiveTurn
    execution state.world
  have turned : bridge.admits refusals moment active.toActiveTurn execution
      state.world.store.ledgerRow? = false := by
    simp [ExecutionEvidenceBridge.admits, requested, fresh, unsound]
  intro record outcome
  simp only [outcome, record_active found]
  have raised := comes.admitted.trans turned
  refine ⟨raised, fresh, ?_⟩
  rw [comes.left raised, if_pos half]
  simp only [ExecutionEvidenceBridge.reserved]
  rw [fresh]
  rfl

/-- The key of a record that is half made is refused to the corrected record,
and to every other one. -/
theorem half_made_refused {active : LeasedTurn}
    (found : activeFor execution state = some active)
    (half : bridge.halfMade refusals moment execution state = true)
    (refusalsAfter : ExecutionEvidenceBridge.Refusals) (later : Moment)
    {corrected : ToolExecution} {turn : LeasedTurn}
    (activeToo : activeFor corrected state = some turn)
    (sameKey : (bridge.recordOf later turn.toActiveTurn corrected).key =
      (bridge.recordOf moment active.toActiveTurn execution).key) :
    (bridge.record refusalsAfter later corrected
      (bridge.record refusals moment execution state).2).1.isOk = false := by
  obtain ⟨_, _, left⟩ := record_half found half
  have stays : activeFor corrected
      (bridge.record refusals moment execution state).2 = some turn := by
    rw [activeFor, memory_record]
    exact activeToo
  rw [record_isOk, accepts, stays, Option.any_some, left]
  simp [ExecutionEvidenceBridge.admits, sameKey, LedgerArgs.row]

end SessionBridge

/-- A tool that was executed in the turn, with a result that is no JSON. -/
def rawResult : ToolExecution :=
  { sessionId := "s"
    turnId := "t"
    toolName := "charge"
    toolCallId := some "call"
    result := .str "object()" }

def notSerializable : PyError :=
  { cls := .exception
    typeName := "TypeError"
    message := "Object of type object is not JSON serializable" }

def refusesRaw : ExecutionEvidenceBridge.Refusals := fun value =>
  if value = rawResult.result then some notSerializable else none

def inTurn : BridgeState :=
  runFrom chargeSession.next (BridgeState.opened Store.empty)
    [(.sessionStarted { sessionId := "s" }, momentAt 1),
      (.turnStarted startedTurn, momentAt 2)]

end AgentLedger
