import AgentLedger.Adapters.Besides

namespace AgentLedger

open Foundation

/-! Bridges of many processes over one store, and which of the tools that they
record are told apart. -/

/-- A tool that was executed, within the run that it is recorded in. -/
structure RecordedTool where
  runId : String
  sessionId : String
  turnId : String
  toolName : String
  toolCallId : String
  deriving DecidableEq

/-- A record that has come to the reservation of its key. -/
structure Reservation where
  key : String
  tool : RecordedTool
  /-- It has returned. -/
  returned : Bool
  deriving DecidableEq

/-- The bridges over their store.  No program reads the last three. -/
structure Fleet where
  world : World
  memories : Nat → Memory
  /-- The turns whose start was recorded in the process. -/
  started : Nat → List (String × String)
  /-- The turn that the entry under a key was made for. -/
  owners : Nat → String → String × String
  reservations : List Reservation

inductive FleetStep
  | toolRecord (which : Nat)
      (refusals : ExecutionEvidenceBridge.Refusals)
      (execution : ToolExecution)
  | operation (which : Nat) (operation : BridgeOperation)
  /-- The process ends, and another one takes its place. -/
  | restart (which : Nat)
  /-- An operation of the store, of whoever it is. -/
  | call (call : Call)

abbrev FleetLabel := FleetStep × Moment

namespace Fleet

def opened : Fleet :=
  ⟨World.opened, fun _ => .empty, fun _ => [], fun _ _ => ("", ""), []⟩

def at_ (which : Nat) (fleet : Fleet) : BridgeState :=
  ⟨fleet.world, fleet.memories which⟩

def put (which : Nat) (state : BridgeState) (fleet : Fleet) : Fleet :=
  { fleet with
    world := state.world
    memories := Function.update fleet.memories which state.memory }

variable (bridges : Nat → SessionBridge)

def toolIn (execution : ToolExecution) (moment : Moment)
    (turn : LeasedTurn) : RecordedTool :=
  { runId := turn.runId
    sessionId := execution.sessionId
    turnId := execution.turnId
    toolName := execution.toolName
    toolCallId := ExecutionEvidenceBridge.callId moment execution }

/-- What is recorded, if the turn is active. -/
def toolOf (which : Nat) (execution : ToolExecution) (moment : Moment)
    (fleet : Fleet) : Option RecordedTool :=
  (SessionBridge.activeFor execution (fleet.at_ which)).map
    (toolIn execution moment)

/-- `{source}:{session}:{turn}:{tool}:{tool_call_id}`. -/
def keyOf (which : Nat) (execution : ToolExecution) (moment : Moment) :
    String :=
  (bridges which).source ++ ":" ++ execution.sessionId ++ ":" ++
    execution.turnId ++ ":" ++ execution.toolName ++ ":" ++
    ExecutionEvidenceBridge.callId moment execution

def reservationIn (which : Nat) (refusals : ExecutionEvidenceBridge.Refusals)
    (execution : ToolExecution) (moment : Moment) (fleet : Fleet)
    (turn : LeasedTurn) : Reservation :=
  { key := keyOf bridges which execution moment
    tool := toolIn execution moment turn
    returned := ((bridges which).record refusals moment execution
      (fleet.at_ which)).1.isOk }

/-- The reservation that a record comes to. -/
def reservation (which : Nat) (refusals : ExecutionEvidenceBridge.Refusals)
    (execution : ToolExecution) (moment : Moment) (fleet : Fleet) :
    Option Reservation :=
  if (bridges which).requestable refusals moment execution then
    (SessionBridge.activeFor execution (fleet.at_ which)).map
      (fleet.reservationIn bridges which refusals execution moment)
  else none

/-- The turn counts as started, and an entry that is made is made for it. -/
def start (which : Nat) (turn : ExecutionTurn) (fleet : Fleet) : Fleet :=
  let key := turnKey turn.sessionId turn.turnId
  { fleet with
    started := Function.update fleet.started which
      ((turn.sessionId, turn.turnId) :: fleet.started which)
    owners :=
      if ((fleet.memories which).activeTurns.lookup key).isNone then
        Function.update fleet.owners which
          (Function.update (fleet.owners which) key
            (turn.sessionId, turn.turnId))
      else fleet.owners }

def next (label : FleetLabel) (fleet : Fleet) : Fleet :=
  match label with
  | (.toolRecord which refusals execution, moment) =>
      let outcome := (bridges which).record refusals moment execution
        (fleet.at_ which)
      { fleet.put which outcome.2 with
        reservations := fleet.reservations ++
          (fleet.reservation bridges which refusals execution moment).toList }
  | (.operation which operation, moment) =>
      let after := (bridges which).next (operation, moment) (fleet.at_ which)
      match operation with
      | .turnStarted turn => (fleet.start which turn).put which after
      | _ => fleet.put which after
  | (.restart which, _) =>
      { fleet with
        memories := Function.update fleet.memories which .empty
        started := Function.update fleet.started which [] }
  | (.call call, moment) =>
      { fleet with world := (fleet.world.perform 0 call moment).2 }

/-- Tools are recorded without a key of their own, and nobody else writes the
ledger. -/
def Plain (_ : Fleet) : FleetLabel → Prop
  | (.toolRecord _ _ execution, _) => nonEmpty execution.idempotencyKey = none
  | (.operation _ operation, _) => operation.other
  | (.restart _, _) => True
  | (.call call, _) => call.entersLedger = false

/-- No other turn that was started has the text of this one. -/
def TurnApart (which : Nat) (sessionId turnId : String) (fleet : Fleet) :
    Prop :=
  ∀ pair ∈ fleet.started which,
    turnKey pair.1 pair.2 = turnKey sessionId turnId →
      pair = (sessionId, turnId)

/-- No record of another tool has the key of this one. -/
def KeyApart (which : Nat) (execution : ToolExecution) (moment : Moment)
    (fleet : Fleet) : Prop :=
  ∀ tool ∈ fleet.toolOf which execution moment,
    ∀ earlier ∈ fleet.reservations,
      earlier.key = keyOf bridges which execution moment →
        earlier.tool = tool

/-- The joined texts of different turns and tools differ. -/
def Apart (fleet : Fleet) : FleetLabel → Prop
  | (.toolRecord which _ execution, moment) =>
      fleet.TurnApart which execution.sessionId execution.turnId ∧
        fleet.KeyApart bridges which execution moment
  | (.operation which (.turnStarted turn), _) =>
      fleet.TurnApart which turn.sessionId turn.turnId
  | _ => True

instance (fleet : Fleet) (label : FleetLabel) :
    Decidable (Plain fleet label) :=
  match label with
  | (.toolRecord _ _ _, _) => inferInstanceAs (Decidable (_ = _))
  | (.operation _ operation, _) => inferInstanceAs (Decidable operation.other)
  | (.restart _, _) => isTrue trivial
  | (.call _, _) => inferInstanceAs (Decidable (_ = _))

instance (which : Nat) (sessionId turnId : String) (fleet : Fleet) :
    Decidable (fleet.TurnApart which sessionId turnId) :=
  List.decidableBAll _ _

instance (which : Nat) (execution : ToolExecution) (moment : Moment)
    (fleet : Fleet) :
    Decidable (fleet.KeyApart bridges which execution moment) :=
  inferInstanceAs (Decidable (∀ tool ∈ fleet.toolOf which execution moment,
    ∀ earlier ∈ fleet.reservations,
      earlier.key = keyOf bridges which execution moment →
        earlier.tool = tool))

instance (fleet : Fleet) (label : FleetLabel) :
    Decidable (Apart bridges fleet label) :=
  match label with
  | (.toolRecord _ _ _, _) => inferInstanceAs (Decidable (_ ∧ _))
  | (.operation which (.turnStarted turn), _) =>
      inferInstanceAs (Decidable
        (fleet.TurnApart which turn.sessionId turn.turnId))
  | (.operation _ (.sessionStarted _), _) => isTrue trivial
  | (.operation _ (.turnCompleted _), _) => isTrue trivial
  | (.operation _ (.modelCall _), _) => isTrue trivial
  | (.operation _ (.toolProposal _), _) => isTrue trivial
  | (.operation _ (.executionEvent _), _) => isTrue trivial
  | (.operation _ (.toolExecution _), _) => isTrue trivial
  | (.operation _ (.failure _), _) => isTrue trivial
  | (.operation _ (.stateChange _), _) => isTrue trivial
  | (.operation _ (.artifact _), _) => isTrue trivial
  | (.restart _, _) => isTrue trivial
  | (.call _, _) => isTrue trivial

/-- A record that returns is made in the turn it names; the row of its key is
one of the turn's run, for its tool and its call; and it is replayed only if
the same was recorded before in this run. -/
structure Faithful (which : Nat) (execution : ToolExecution) (moment : Moment)
    (fleet : Fleet) (receipt : ToolReceipt) (after : BridgeState) : Prop where
  own : fleet.owners which (turnKey execution.sessionId execution.turnId) =
    (execution.sessionId, execution.turnId)
  recorded : ∃ turn tool row,
    SessionBridge.activeFor execution (fleet.at_ which) = some turn ∧
      fleet.toolOf which execution moment = some tool ∧
      receipt.toolCallId = tool.toolCallId ∧
      after.world.store.ledgerRow? receipt.idempotencyKey = some row ∧
      row.runId = turn.runId ∧ row.toolName = execution.toolName ∧
      row.toolCallId = receipt.toolCallId ∧
      (receipt.replayedFromLedger = true → ∃ earlier ∈ fleet.reservations,
        earlier.returned = true ∧ earlier.tool = tool)

/-- Records that return are faithful, and a turn that starts has an entry that
was made for it. -/
def Good (fleet : Fleet) : FleetLabel → Prop
  | (.toolRecord which refusals execution, moment) =>
      let outcome := (bridges which).record refusals moment execution
        (fleet.at_ which)
      ∀ receipt, outcome.1 = .ok receipt →
        fleet.Faithful which execution moment receipt outcome.2
  | (.operation which (.turnStarted turn), moment) =>
      let after := next bridges (.operation which (.turnStarted turn), moment)
        fleet
      let key := turnKey turn.sessionId turn.turnId
      ((after.memories which).activeTurns.lookup key).isSome →
        after.owners which key = (turn.sessionId, turn.turnId)
  | _ => True

end Fleet

/-! ### What a record does to the rows -/

namespace ExecutionEvidenceBridge.Comes

variable {bridge : ExecutionEvidenceBridge} {refusals : Refusals}
  {moment : Moment} {turn : ActiveTurn} {execution : ToolExecution}
  {result : Except PyError ToolReceipt} {before after : LedgerView}
  (comes : bridge.Comes refusals moment turn execution result before after)

include comes

/-- The row of the key is about what it was about, or about the execution. -/
theorem subject_cases
    (requested : bridge.requestable refusals moment execution = true)
    {row : LedgerRow}
    (found : after (bridge.recordOf moment turn execution).key = some row) :
    (before (bridge.recordOf moment turn execution).key = none ∧
      row.subject =
        (turn.runId, execution.toolName, callId moment execution)) ∨
    ∃ earlier, before (bridge.recordOf moment turn execution).key =
      some earlier ∧ row.subject = earlier.subject := by
  have same := comes.subject requested
  simp only [reserved] at same
  rw [found, Function.update_self] at same
  cases known : before (bridge.recordOf moment turn execution).key with
  | none =>
      rw [known] at same
      exact .inl ⟨rfl, Option.some.inj same⟩
  | some earlier =>
      rw [known] at same
      exact .inr ⟨earlier, rfl, Option.some.inj same⟩

theorem row (requested : bridge.requestable refusals moment execution = true) :
    ∃ row, after (bridge.recordOf moment turn execution).key = some row := by
  have same := comes.subject requested
  simp only [reserved] at same
  rw [Function.update_self, Option.map_some] at same
  obtain ⟨row, found, _⟩ := Option.map_eq_some_iff.mp same
  exact ⟨row, found⟩

/-- A record that raises makes no row but one that is reserved. -/
theorem raised_cases (raised : result.isOk = false) {key : String}
    {row : LedgerRow} (found : after key = some row) :
    before key = some row ∨ row.status = .reserved := by
  have left := comes.left raised
  split at left
  · rw [left] at found
    simp only [reserved] at found
    by_cases same : key = (bridge.recordOf moment turn execution).key
    · rw [same, Function.update_self, Option.some.injEq] at found
      cases known : before (bridge.recordOf moment turn execution).key with
      | none =>
          rw [known, Option.getD_none] at found
          subst found
          exact .inr rfl
      | some earlier =>
          rw [known, Option.getD_some] at found
          subst found
          rw [same]
          exact .inl known
    · rw [Function.update_of_ne same] at found
      exact .inl found
  · rw [left] at found
    exact .inl found

theorem unrequested
    (refused : bridge.requestable refusals moment execution = false) :
    result.isOk = false ∧ after = before := by
  have raised : result.isOk = false := by
    rw [comes.admitted]
    simp [admits, refused]
  refine ⟨raised, (comes.left raised).trans (if_neg ?_)⟩
  simp [halfMade, refused]

end ExecutionEvidenceBridge.Comes

theorem ExecutionEvidenceBridge.key_of_default
    {bridge : ExecutionEvidenceBridge} {execution : ToolExecution}
    (plain : nonEmpty execution.idempotencyKey = none) (moment : Moment)
    (turn : ActiveTurn) :
    (bridge.recordOf moment turn execution).key =
      bridge.source ++ ":" ++ execution.sessionId ++ ":" ++
        execution.turnId ++ ":" ++ execution.toolName ++ ":" ++
        callId moment execution := by
  simp only [recordOf]
  rw [plain]
  rfl

namespace Fleet

variable {bridges : Nat → SessionBridge} {fleet : Fleet}

/-- What holds of the rows and of the entries throughout. -/
structure Kept (fleet : Fleet) : Prop where
  creators : ∀ key row, fleet.world.store.ledgerRow? key = some row →
    ∃ earlier ∈ fleet.reservations, earlier.key = key ∧
      row.subject = (earlier.tool.runId, earlier.tool.toolName,
        earlier.tool.toolCallId)
  settled : ∀ key row, fleet.world.store.ledgerRow? key = some row →
    row.status = .reserved ∨ ∃ earlier ∈ fleet.reservations,
      earlier.key = key ∧ earlier.returned = true
  owned : ∀ which key,
    ((fleet.memories which).activeTurns.lookup key).isSome →
      fleet.owners which key ∈ fleet.started which ∧
        turnKey (fleet.owners which key).1 (fleet.owners which key).2 = key

theorem kept_opened : Kept opened := by
  refine ⟨?_, ?_, ?_⟩
  · intro key row found
    cases found
  · intro key row found
    cases found
  · intro which key present
    cases present

private theorem Kept.of_ledger (kept : Kept fleet) {after : Fleet}
    (ledger : after.world.store.ledgerRow? = fleet.world.store.ledgerRow?)
    (reservations : after.reservations = fleet.reservations)
    (owned : ∀ which key,
      ((after.memories which).activeTurns.lookup key).isSome →
        after.owners which key ∈ after.started which ∧
          turnKey (after.owners which key).1 (after.owners which key).2 =
            key) : Kept after := by
  refine ⟨?_, ?_, owned⟩
  · intro key row found
    rw [ledger] at found
    rw [reservations]
    exact kept.creators key row found
  · intro key row found
    rw [ledger] at found
    rw [reservations]
    exact kept.settled key row found

/-! ### A record of a tool -/

section Record

variable {which : Nat} {refusals : ExecutionEvidenceBridge.Refusals}
  {execution : ToolExecution} {moment : Moment}

private theorem reservation_inactive
    (inactive : SessionBridge.activeFor execution (fleet.at_ which) = none) :
    fleet.reservation bridges which refusals execution moment = none := by
  unfold reservation
  rw [inactive]
  exact ite_self _

private theorem reservation_active {turn : LeasedTurn}
    (found : SessionBridge.activeFor execution (fleet.at_ which) = some turn)
    (requested :
      (bridges which).requestable refusals moment execution = true) :
    fleet.reservation bridges which refusals execution moment =
      some (fleet.reservationIn bridges which refusals execution moment
        turn) := by
  unfold reservation
  rw [found, if_pos requested]
  rfl

private theorem owned_record (kept : Kept fleet) (other : Nat) (key : String)
    (present : (((fleet.next bridges
      (.toolRecord which refusals execution, moment)).memories
        other).activeTurns.lookup key).isSome) :
    fleet.owners other key ∈ fleet.started other ∧
      turnKey (fleet.owners other key).1 (fleet.owners other key).2 = key := by
  apply kept.owned
  have same : (fleet.next bridges
      (.toolRecord which refusals execution, moment)).memories =
        fleet.memories := by
    simp only [next, put]
    rw [SessionBridge.memory_record]
    exact Function.update_eq_self _ _
  rwa [same] at present

private theorem reservation_unrequested
    (refused :
      (bridges which).requestable refusals moment execution = false) :
    fleet.reservation bridges which refusals execution moment = none := by
  unfold reservation
  rw [refused]
  rfl

private theorem comes_record {turn : LeasedTurn}
    (found : SessionBridge.activeFor execution (fleet.at_ which) =
      some turn) :
    let outcome := (bridges which).record refusals moment execution
      (fleet.at_ which)
    (bridges which).Comes refusals moment turn.toActiveTurn execution
      outcome.1 fleet.world.store.ledgerRow?
      outcome.2.world.store.ledgerRow? := by
  rw [SessionBridge.record_active found]
  exact ExecutionEvidenceBridge.comes_recordExecution

private theorem Kept.recorded (kept : Kept fleet)
    (plain : nonEmpty execution.idempotencyKey = none) {turn : LeasedTurn}
    (found : SessionBridge.activeFor execution (fleet.at_ which) = some turn)
    (requested :
      (bridges which).requestable refusals moment execution = true) :
    Kept (fleet.next bridges
      (.toolRecord which refusals execution, moment)) := by
  have comes := @comes_record bridges fleet which refusals execution moment
    turn found
  have named : ((bridges which).recordOf moment turn.toActiveTurn
      execution).key = keyOf bridges which execution moment :=
    ExecutionEvidenceBridge.key_of_default plain _ _
  have reservations : (fleet.next bridges
      (.toolRecord which refusals execution, moment)).reservations =
        fleet.reservations ++
          [fleet.reservationIn bridges which refusals execution moment turn] :=
    congrArg (fun own : Option Reservation => fleet.reservations ++ own.toList)
      (reservation_active found requested)
  refine ⟨?_, ?_, owned_record kept⟩
  · intro key row entered
    rw [reservations]
    by_cases same : key = keyOf bridges which execution moment
    · rcases comes.subject_cases requested (by rw [named]; exact same ▸ entered)
        with ⟨_, subject⟩ | ⟨earlier, known, subject⟩
      · exact ⟨_, List.mem_append_right _ (List.mem_singleton_self _),
          same.symm, subject⟩
      · rw [named] at known
        obtain ⟨creator, member, keyed, about⟩ := kept.creators _ _ known
        exact ⟨creator, List.mem_append_left _ member, keyed.trans same.symm,
          subject.trans about⟩
    · have before := comes.others key (by rw [named]; exact same)
      obtain ⟨creator, member, keyed, about⟩ :=
        kept.creators key row (before.symm.trans entered)
      exact ⟨creator, List.mem_append_left _ member, keyed, about⟩
  · intro key row entered
    rw [reservations]
    by_cases same : key = keyOf bridges which execution moment
    · cases returned : ((bridges which).record refusals moment execution
          (fleet.at_ which)).1.isOk with
      | true =>
          exact .inr ⟨_, List.mem_append_right _ (List.mem_singleton_self _),
            same.symm, returned⟩
      | false =>
          rcases comes.raised_cases returned entered with before | reserved
          · exact (kept.settled key row before).imp_right
              fun ⟨earlier, member, settled⟩ =>
                ⟨earlier, List.mem_append_left _ member, settled⟩
          · exact .inl reserved
    · have before := comes.others key (by rw [named]; exact same)
      exact (kept.settled key row (before.symm.trans entered)).imp_right
        fun ⟨earlier, member, settled⟩ =>
          ⟨earlier, List.mem_append_left _ member, settled⟩

private theorem Kept.record (kept : Kept fleet)
    (plain : nonEmpty execution.idempotencyKey = none) :
    Kept (fleet.next bridges
      (.toolRecord which refusals execution, moment)) := by
  cases found : SessionBridge.activeFor execution (fleet.at_ which) with
  | none =>
      obtain ⟨error, raised⟩ := @SessionBridge.record_inactive
        (bridges which) refusals moment execution _ found
      apply kept.of_ledger
      · simp only [next, put]
        rw [raised]
        rfl
      · simp only [next, put]
        rw [reservation_inactive found]
        exact List.append_nil _
      · exact owned_record kept
  | some turn =>
      have comes := @comes_record bridges fleet which refusals execution
        moment turn found
      cases requested :
          (bridges which).requestable refusals moment execution with
      | false =>
          apply kept.of_ledger
          · exact (comes.unrequested requested).2
          · simp only [next, put]
            rw [reservation_unrequested requested]
            exact List.append_nil _
          · exact owned_record kept
      | true => exact kept.recorded plain found requested

private theorem Kept.faithful (kept : Kept fleet)
    (plain : nonEmpty execution.idempotencyKey = none)
    (turnApart : fleet.TurnApart which execution.sessionId execution.turnId)
    (keyApart : fleet.KeyApart bridges which execution moment)
    {receipt : ToolReceipt}
    (returned : ((bridges which).record refusals moment execution
      (fleet.at_ which)).1 = .ok receipt) :
    fleet.Faithful which execution moment receipt
      ((bridges which).record refusals moment execution
        (fleet.at_ which)).2 := by
  cases found : SessionBridge.activeFor execution (fleet.at_ which) with
  | none =>
      obtain ⟨error, raised⟩ := @SessionBridge.record_inactive
        (bridges which) refusals moment execution _ found
      rw [raised] at returned
      cases returned
  | some turn =>
      have comes := @comes_record bridges fleet which refusals execution
        moment turn found
      have named : ((bridges which).recordOf moment turn.toActiveTurn
          execution).key = keyOf bridges which execution moment :=
        ExecutionEvidenceBridge.key_of_default plain _ _
      have tool : fleet.toolOf which execution moment =
          some (toolIn execution moment turn) :=
        congrArg (Option.map (toolIn execution moment)) found
      obtain ⟨keyed, call, replays⟩ := comes.receipt receipt returned
      have requested :
          (bridges which).requestable refusals moment execution = true := by
        by_contra refused
        have raised := (comes.unrequested (Bool.eq_false_iff.mpr refused)).1
        rw [returned] at raised
        cases raised
      have own := kept.owned which _ (Option.isSome_of_eq_some found)
      obtain ⟨row, entered⟩ := comes.row requested
      have subject : row.subject = (turn.runId, execution.toolName,
          ExecutionEvidenceBridge.callId moment execution) := by
        rcases comes.subject_cases requested entered with ⟨_, fresh⟩ |
          ⟨earlier, known, same⟩
        · exact fresh
        · rw [named] at known
          obtain ⟨creator, member, key, about⟩ := kept.creators _ _ known
          rw [same, about, keyApart _ tool creator member key]
          rfl
      obtain ⟨run, name, id⟩ : row.runId = turn.runId ∧
          row.toolName = execution.toolName ∧ row.toolCallId =
            ExecutionEvidenceBridge.callId moment execution := by
        simpa only [LedgerRow.subject, Prod.mk.injEq] using subject
      refine ⟨turnApart _ own.1 own.2, turn, toolIn execution moment turn, row,
        found, tool, call, keyed ▸ entered, run, name, id.trans call.symm, ?_⟩
      intro replayed
      obtain ⟨settledRow, known, succeeded⟩ := replays replayed
      rw [keyed, named] at known
      rcases kept.settled _ _ known with reserved |
        ⟨earlier, member, key, settled⟩
      · rw [succeeded] at reserved
        cases reserved
      · exact ⟨earlier, member, settled, keyApart _ tool earlier member key⟩

end Record

/-! ### Runs -/

private theorem put_cases {which other : Nat} {state : BridgeState}
    {key : String}
    (present : (((fleet.put which state).memories
      other).activeTurns.lookup key).isSome) :
    (other ≠ which ∧ ((fleet.memories other).activeTurns.lookup key).isSome) ∨
      (other = which ∧ (state.memory.activeTurns.lookup key).isSome) := by
  simp only [put] at present
  by_cases same : other = which
  · subst same
    rw [Function.update_self] at present
    exact .inr ⟨rfl, present⟩
  · rw [Function.update_of_ne same] at present
    exact .inl ⟨same, present⟩

private theorem Kept.put (kept : Kept fleet) {which : Nat}
    {state : BridgeState}
    (beside : BridgeState.Beside (fun _ => False) (fleet.at_ which) state) :
    Kept (fleet.put which state) := by
  apply kept.of_ledger
  · exact beside.ledger
  · rfl
  · intro other key present
    rcases put_cases present with ⟨_, before⟩ | ⟨rfl, within⟩
    · exact kept.owned other key before
    · exact kept.owned other key ((beside.turns key within).elim id False.elim)

private theorem owners_present {which other : Nat} (turn : ExecutionTurn)
    {key : String}
    (present : ((fleet.memories other).activeTurns.lookup key).isSome) :
    (fleet.start which turn).owners other key = fleet.owners other key := by
  simp only [Fleet.start]
  split
  · rename_i absent
    by_cases same : other = which
    · subst same
      rw [Function.update_self, Function.update_of_ne]
      intro own
      rw [← own] at absent
      rw [Option.isNone_iff_eq_none.mp absent] at present
      cases present
    · rw [Function.update_of_ne same]
  · rfl

private theorem owners_absent {which : Nat} {turn : ExecutionTurn}
    (absent : ((fleet.memories which).activeTurns.lookup
      (turnKey turn.sessionId turn.turnId)).isNone) :
    (fleet.start which turn).owners which
        (turnKey turn.sessionId turn.turnId) =
      (turn.sessionId, turn.turnId) := by
  simp only [Fleet.start]
  rw [if_pos absent, Function.update_self, Function.update_self]

private theorem started_mem {which other : Nat} {turn : ExecutionTurn}
    {pair : String × String} (member : pair ∈ fleet.started other) :
    pair ∈ (fleet.start which turn).started other := by
  simp only [Fleet.start]
  by_cases same : other = which
  · subst same
    rw [Function.update_self]
    exact List.mem_cons_of_mem _ member
  · rwa [Function.update_of_ne same]

private theorem Kept.start (kept : Kept fleet) {which : Nat}
    {state : BridgeState} {turn : ExecutionTurn}
    (beside : BridgeState.Beside
      (fun key => key = turnKey turn.sessionId turn.turnId)
      (fleet.at_ which) state) :
    Kept ((fleet.start which turn).put which state) := by
  apply kept.of_ledger
  · exact beside.ledger
  · rfl
  · intro other key present
    have stays
        (before : ((fleet.memories other).activeTurns.lookup key).isSome) :
        (fleet.start which turn).owners other key ∈
            (fleet.start which turn).started other ∧
          turnKey ((fleet.start which turn).owners other key).1
            ((fleet.start which turn).owners other key).2 = key := by
      rw [owners_present turn before]
      obtain ⟨member, named⟩ := kept.owned other key before
      exact ⟨started_mem member, named⟩
    rcases put_cases present with ⟨_, before⟩ | ⟨rfl, within⟩
    · exact stays before
    · rcases beside.turns key within with before | rfl
      · exact stays before
      · by_cases absent : ((fleet.memories other).activeTurns.lookup
            (turnKey turn.sessionId turn.turnId)).isNone
        · change (fleet.start other turn).owners other _ ∈
              (fleet.start other turn).started other ∧
            turnKey ((fleet.start other turn).owners other _).1
              ((fleet.start other turn).owners other _).2 = _
          rw [owners_absent absent]
          refine ⟨?_, rfl⟩
          simp only [Fleet.start]
          rw [Function.update_self]
          exact List.mem_cons_self
        · apply stays
          rw [← Option.not_isNone, Bool.eq_false_iff.mpr absent]
          rfl

theorem Kept.next (kept : Kept fleet) {label : FleetLabel}
    (plain : Plain fleet label) : Kept (fleet.next bridges label) := by
  obtain ⟨step, moment⟩ := label
  cases step with
  | toolRecord which refusals execution => exact kept.record plain
  | operation which operation =>
      have beside := @BridgeState.beside_next (bridges which) operation plain
        moment (fleet.at_ which)
      cases operation with
      | turnStarted turn => exact kept.start beside
      | toolExecution execution => exact plain.elim
      | _ => exact kept.put beside
  | restart which =>
      refine @Kept.of_ledger fleet kept _ rfl rfl ?_
      intro other key present
      simp only [Fleet.next] at present ⊢
      by_cases same : other = which
      · subst same
        rw [Function.update_self] at present
        cases present
      · rw [Function.update_of_ne same] at present ⊢
        exact kept.owned other key present
  | call call =>
      exact kept.of_ledger
        (ExecutionEvidenceBridge.ledgerRow?_perform plain) rfl kept.owned

theorem Kept.good (kept : Kept fleet) {label : FleetLabel}
    (plain : Plain fleet label) (apart : Apart bridges fleet label) :
    Good bridges fleet label := by
  obtain ⟨step, moment⟩ := label
  cases step with
  | toolRecord which refusals execution =>
      intro receipt returned
      exact kept.faithful plain apart.1 apart.2 returned
  | operation which operation =>
      have after := @Kept.next bridges fleet kept
        (.operation which operation, moment) plain
      cases operation with
      | turnStarted turn =>
          intro present
          obtain ⟨member, named⟩ := after.owned which _ present
          have started : (fleet.next bridges (.operation which
              (.turnStarted turn), moment)).started which =
                (turn.sessionId, turn.turnId) :: fleet.started which :=
            Function.update_self _ _ _
          rw [started] at member
          rcases List.mem_cons.mp member with own | earlier
          · exact own
          · exact apart _ earlier named
      | _ => trivial
  | restart which => trivial
  | call call => trivial

end Fleet

open Fleet in
/-- Tools that bridges of any number of processes record over one store are
told apart, in every run in which the joined texts of different turns and tools
differ. -/
theorem tool_records_apart (bridges : Nat → SessionBridge)
    (labels : List FleetLabel)
    (plain : Each (Fleet.next bridges) Plain opened labels)
    (apart : Each (Fleet.next bridges) (Apart bridges) opened labels) :
    Each (Fleet.next bridges) (Good bridges) opened labels := by
  have start := kept_opened
  generalize opened = fleet at start plain apart
  induction labels generalizing fleet with
  | nil => trivial
  | cons label rest ih =>
      refine ⟨start.good plain.1 apart.1, ?_⟩
      exact ih _ (start.next plain.1) plain.2 apart.2

/-- One session with a turn, and a tool executed in it, on the first bridge. -/
def recordedIn (sessionId turnId : String) (now : Nat) : List FleetLabel :=
  [(.operation 0 (.sessionStarted { sessionId := sessionId }), momentAt now),
    (.operation 0 (.turnStarted
      { sessionId := sessionId, turnId := turnId }), momentAt (now + 1)),
    (.toolRecord 0 (fun _ => none)
      { sessionId := sessionId
        turnId := turnId
        toolName := "charge"
        toolCallId := some "call" }, momentAt (now + 2))]

theorem plain_texts_apart :
    Each (Fleet.next fun _ => chargeSession) (Fleet.Good fun _ => chargeSession)
      Fleet.opened (recordedIn "s" "t" 1 ++ recordedIn "u" "t" 4) :=
  tool_records_apart (fun _ => chargeSession) _ (by decide) (by decide)

/-- The key of the second record is that of the first, of another session and
another run. -/
def joinedAlike : List FleetLabel :=
  recordedIn "s" "t:u" 1 ++ recordedIn "s:t" "u" 4

def joinedBefore : Fleet :=
  runFrom (Fleet.next fun _ => chargeSession) Fleet.opened (joinedAlike.take 5)

def joinedLast : ToolExecution :=
  { sessionId := "s:t"
    turnId := "u"
    toolName := "charge"
    toolCallId := some "call" }

theorem joined_alike_replayed :
    let outcome := chargeSession.record (fun _ => none) (momentAt 6) joinedLast
      (joinedBefore.at_ 0)
    Each (Fleet.next fun _ => chargeSession) Fleet.Plain Fleet.opened
        joinedAlike ∧
      outcome.1.toOption.map (·.replayedFromLedger) = some true ∧
      outcome.2.world.store.ledger.rows.map (·.runId) = ["run-1"] ∧
      outcome.2.world.store.runs.rows.map (·.runId) = ["run-1", "run-4"] ∧
      ¬ Each (Fleet.next fun _ => chargeSession)
        (Fleet.Good fun _ => chargeSession) Fleet.opened joinedAlike := by
  refine ⟨by decide, by decide, by decide, by decide, ?_⟩
  intro good
  obtain ⟨receipt, returned⟩ : ∃ receipt, (chargeSession.record
      (fun _ => none) (momentAt 6) joinedLast
      (joinedBefore.at_ 0)).1 = .ok receipt := by
    exact ⟨_, rfl⟩
  obtain ⟨turn, tool, row, active, _, _, found, run, _⟩ :=
    (good.2.2.2.2.2.1 receipt returned).recorded
  have ofRun : turn.runId = "run-4" := by
    have runs : (SessionBridge.activeFor joinedLast
      (joinedBefore.at_ 0)).map (·.runId) = some "run-4" := by decide
    rw [show SessionBridge.activeFor joinedLast (joinedBefore.at_ 0) =
      some turn from active] at runs
    exact Option.some.inj runs
  have alone : ∀ row ∈ (chargeSession.record (fun _ => none) (momentAt 6)
      joinedLast (joinedBefore.at_ 0)).2.world.store.ledger.rows,
      row.runId = "run-1" := by
    decide
  have other := alone row (Table.get?_some found).1
  rw [run, ofRun] at other
  exact absurd other (by decide)

end AgentLedger
