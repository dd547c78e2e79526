import AgentLedger.Adapters.Besides
import AgentLedger.Foundation.Trimming
import AgentLedger.Reconstruction

namespace AgentLedger

open Foundation BridgeM

/-! `MCPEvidenceObserver` and `A2AEvidenceObserver`: the tool executions that
they observe, and what becomes of a failed one. -/

/-- What the two observers differ in. -/
structure ObserverDialect where
  label : String
  source : String
  sessionKeys : List String
  turnKeys : List String
  /-- The fields that the metadata repeat. -/
  externalKeys : List String
  schemaVersion : String
  /-- `_ensure_bound_session` comes before every event. -/
  bindsSession : Bool

def mcpDialect : ObserverDialect where
  label := "MCP"
  source := "mcp"
  sessionKeys := ["session_id", "connection_id"]
  turnKeys := ["turn_id", "request_id"]
  externalKeys := ["session_id", "connection_id", "turn_id", "request_id",
    "server_name", "server_uri", "tool_name", "resource_uri", "prompt_name",
    "mime_type", "attempt"]
  schemaVersion := "agentledger.mcp.observer.v1"
  bindsSession := true

def a2aDialect : ObserverDialect where
  label := "A2A"
  source := "a2a"
  sessionKeys := ["context_id", "session_id"]
  turnKeys := ["task_id", "turn_id"]
  externalKeys := ["context_id", "task_id", "handoff_id", "message_id",
    "from_agent", "to_agent"]
  schemaVersion := "agentledger.a2a.observer.v1"
  bindsSession := false

structure EvidenceObserver where
  dialect : ObserverDialect
  gateway : ToolGateway
  appName : String
  runId : Option String := none
  modelLimits : ModelLimits := {}

def MCPEvidenceObserver (gateway : ToolGateway) (appName : String)
    (runId : Option String) : EvidenceObserver :=
  { dialect := mcpDialect, gateway := gateway, appName := appName
    runId := runId }

def A2AEvidenceObserver (gateway : ToolGateway) (appName : String)
    (runId : Option String) : EvidenceObserver :=
  { dialect := a2aDialect, gateway := gateway, appName := appName
    runId := runId }

namespace EvidenceObserver

variable (observer : EvidenceObserver)

/-- `ExecutionEvidenceBridge(runtime, app_name=app_name, source=...)`. -/
def bridge : SessionBridge :=
  { gateway := observer.gateway
    source := observer.dialect.source
    appName := observer.appName
    modelLimits := observer.modelLimits }

/-- The value of a field, where it shows something. -/
def shown (event : Fields) (key : String) : Option String :=
  match getOrNone event key with
  | .null => none
  | value =>
      let text := observer.gateway.text value
      if isBlank text then none else some text

/-- `_optional`. -/
def optional (event : Fields) (keys : List String) : Option String :=
  keys.findSome? (observer.shown event)

/-- `_required`. -/
def required (event : Fields) (keys : List String) : Except PyError String :=
  match observer.optional event keys with
  | some value => .ok value
  | none => .error (.valueError (observer.dialect.label ++
      " evidence event requires one of: " ++ ", ".intercalate keys))

/-- `_dict`. -/
def dict (event : Fields) : List String → Except PyError Fields
  | [] => .ok []
  | key :: rest =>
      match getOrNone event key with
      | .null => dict event rest
      | .obj fields => .ok fields
      | _ => .error (.typeError (observer.dialect.label ++
          " evidence field " ++ key ++ " must be a dictionary"))

/-- `_metadata`. -/
def metadata (event : Fields) : Except PyError Fields :=
  match (Fields.get? event "metadata").getD (.obj []) with
  | .obj held =>
      let external := observer.dialect.externalKeys.filterMap fun key =>
        match getOrNone event key with
        | .null => none
        | value => some ("external_" ++ key, value)
      .ok (update held (external ++
        [("observer_schema_version", .str observer.dialect.schemaVersion)]))
  | _ => .error (.typeError (observer.dialect.label ++
      " evidence metadata must be a dictionary"))

/-- `text.replace(".", "_")`. -/
def undotted (text : String) : String :=
  String.ofList (text.toList.map fun letter =>
    if letter = '.' then '_' else letter)

/-- `_event_type`. -/
def eventType (event : Fields) : Except PyError String :=
  let named := getOrNone event "type"
  match if truthy named then named else getOrNone event "event_type" with
  | .str text =>
      if isBlank text then
        .error (.valueError (observer.dialect.label ++
          " evidence event requires type"))
      else .ok (undotted (lower (strip text)))
  | _ => .error (.valueError (observer.dialect.label ++
      " evidence event requires type"))

/-- `_runtime_run_id`. -/
def runtimeRunId (event : Fields) : Option String :=
  (observer.optional event ["runtime_run_id", "agentledger_run_id"]).or
    observer.runId

/-- `_ensure_bound_session`. -/
def ensureBoundSession (event : Fields) (sessionId : String) : BridgeM Unit :=
  match observer.runtimeRunId event with
  | none => return ()
  | some runId => do
      let initialState ← lift (orRaise (observer.dict event ["initial_state"]))
      let metadata ← lift (orRaise (observer.metadata event))
      let _ ← observer.bridge.recordSessionStarted
        { sessionId := sessionId
          initialState := initialState
          metadata := metadata
          runId := some runId }
      return ()

/-- What comes before the event itself. -/
def prepare (event : Fields) (sessionId : String) : BridgeM Unit :=
  if observer.dialect.bindsSession then
    observer.ensureBoundSession event sessionId
  else return ()

/-- The execution that an event tells of, whatever type it has. -/
def toolExecution (event : Fields) (sessionId : String) :
    Except PyError ToolExecution := do
  let turnId ← observer.required event observer.dialect.turnKeys
  let toolName ← observer.required event ["tool_name", "tool"]
  let arguments ← observer.dict event ["arguments", "args"]
  let metadata ← observer.metadata event
  return {
    sessionId := sessionId
    turnId := turnId
    toolName := toolName
    arguments := arguments
    result := getOrNone event "result"
    toolCallId := observer.optional event ["tool_call_id"]
    toolVersion :=
      ((given event "tool_version").map observer.gateway.text).getD "external"
    idempotencyKey := observer.optional event ["idempotency_key"]
    ledgerStatus := observer.optional event ["ledger_status", "status"]
    errorType := observer.optional event ["error_type"]
    errorMessage := observer.optional event ["error_message", "error"]
    externalId := observer.optional event ["external_id"]
    causalToken := observer.optional event ["causal_token"]
    metadata := metadata }

/-- The types of the events that `record_tool_execution` is called for. -/
def toolEvents : List String :=
  ["tool_call_completed", "tool_call_failed", "tool_execution"]

/-- `observe`.  The events of other types go to the other records of the
bridge. -/
def observe (others : String → String → Fields → BridgeM ToolReceipt)
    (event : Fields) : BridgeM ToolReceipt := do
  let eventType ← lift (orRaise (observer.eventType event))
  let sessionId ← lift (orRaise
    (observer.required event observer.dialect.sessionKeys))
  observer.prepare event sessionId
  if toolEvents.contains eventType then do
    let execution ← lift (orRaise (observer.toolExecution event sessionId))
    observer.bridge.recordExecution execution
  else others eventType sessionId event

end EvidenceObserver

/-! ### What becomes of a failed execution -/

/-- The run of the turn that the event is about. -/
def EvidenceObserver.runOf (observer : EvidenceObserver) (event : Fields)
    (state : BridgeState) : Option String := do
  let sessionId ←
    (observer.required event observer.dialect.sessionKeys).toOption
  let execution ← (observer.toolExecution event sessionId).toOption
  let active ← SessionBridge.activeFor execution state
  return active.runId

/-- The row of the key says that the effect is unknown or did not happen; of the
events that are new, one of the run is the failure under this key, and none is a
completion. -/
def FailureRecorded (run : Option String) (key : String)
    (before after : Store) : Prop :=
  (∃ row, after.ledgerRow? key = some row ∧
    (row.status = .pendingVerification ∨ row.status = .failedNoEffect)) ∧
  ∃ added, after.events = before.events ++ added ∧
    (∃ event ∈ added, some event.runId = run ∧
      event.type = .reported "tool_call_failed" ∧
      ∃ payload, event.payloadRef = .inline (.obj payload) ∧
        Fields.get? payload "idempotency_key" = some (.str key)) ∧
    ∀ event ∈ added, event.type ≠ .reported "tool_call_completed"

/-- The event says what went wrong. -/
def EvidenceObserver.Explained (observer : EvidenceObserver) (event : Fields) :
    Prop :=
  ∃ key ∈ ["error_message", "error", "error_type"],
    (observer.shown event key).isSome

/-! ### The events of a store -/

namespace Store

variable {store : Store} {moment : Moment}

theorem events_appendEvent (name : String) (args : EventArgs) :
    ((Call.appendEvent name args).perform moment store).2.events =
      store.events ++ [EventArgs.row { args with type := .reported name }
        (store.maxSeq args.runId + 1)] := by
  have written := store.write_event { args with type := .reported name }
  simp [Call.perform, perform, Call.body, appendEvent, appendEventInTx, select,
    execute, Store.query, written, insertOrRaise, Store.after, append]

theorem events_recordCost (args : CostArgs) :
    ∃ row : EventRow, row.type = .costRecorded ∧
      ((Call.recordCost args).perform moment store).2.events =
        store.events ++ [row] := by
  refine ⟨EventArgs.row
    { runId := args.runId
      sessionId := args.sessionId
      stepId := args.stepId
      type := .costRecorded
      payload := .obj
        [("amount", .float args.amount), ("category", .str args.category),
          ("cost_id", .str (moment.id "cost")),
          ("metadata", .obj args.metadata), ("name", .str args.name),
          ("unit", .str args.unit)] } (store.maxSeq args.runId + 1), rfl, ?_⟩
  simp [Call.perform, perform, Call.body, recordCost, newId, nowTs, execute,
    Moment.tell, Sql.exec_withConn_bind]
  rfl

theorem events_reserveLedger (args : LedgerArgs) :
    ((Call.reserveLedger args).perform moment store).2.events =
      store.events := by
  cases found : store.ledger.get? args.idempotencyKey with
  | some row => rw [perform_reserveLedger_found found]
  | none =>
      cases inserted : store.ledger.insert? (args.row moment) with
      | none => exact absurd found (Table.insert?_eq_none_iff.mp inserted)
      | some ledger =>
          have accepted : store.write (.insertLedger (args.row moment)) =
              (true, { store with ledger := ledger }) := by
            simp only [write, inserted]
          simp only [LedgerArgs.row] at accepted
          simp [Call.perform, perform, Call.body, reserveLedger, select,
            Store.query, found, nowTs, newId, execute, Moment.tell, accepted,
            after, insertOrRaise]

end Store

/-! ### A record that is accepted -/

theorem World.alone_bind_ok_iff {α β : Type} {first : RuntimeM α}
    {next : α → RuntimeM β} {moment : Moment} {world after : World}
    {value : β} :
    World.alone moment (first >>= next) world = (.ok value, after) ↔
      ∃ middle between, World.alone moment first world = (.ok middle, between) ∧
        World.alone moment (next middle) between = (.ok value, after) := by
  rw [World.alone_bind]
  rcases outcome : World.alone moment first world with ⟨result, between⟩
  cases result with
  | ok middle => simp
  | error error => simp

namespace ExecutionEvidenceBridge

variable {bridge : ExecutionEvidenceBridge} {refusals : Refusals}
  {moment : Moment} {world after : World} {turn : ActiveTurn}
  {execution : ToolExecution} {record : Record} {receipt : ToolReceipt}

/-- `tool_call_completed` or `tool_call_failed`. -/
def outcomeName : LedgerStatus → String
  | .succeeded | .compensated => "tool_call_completed"
  | _ => "tool_call_failed"

/-- The row of the key has the status, and the first of the new events tells the
outcome. -/
structure Settled (bridge : ExecutionEvidenceBridge) (record : Record)
    (status : LedgerStatus) (before after : Store) : Prop where
  row : ∀ row, before.ledgerRow? record.key = some row → ∃ changed,
    after.ledgerRow? record.key = some changed ∧ changed.status = status
  events : ∃ told rest response,
    after.events = before.events ++ told :: rest ∧
    told.type = .reported (outcomeName status) ∧
    told.runId = record.turn.runId ∧
    told.payloadRef =
      .inline (.obj (bridge.settledPayload record status response)) ∧
    ∀ other ∈ rest, other.type = .costRecorded

theorem key_settledPayload {status : LedgerStatus}
    {response : Option (String × String)} :
    Fields.get? (bridge.settledPayload record status response)
      "idempotency_key" = some (.str record.key) := by
  unfold settledPayload compact
  cases record.execution.errorMessage <;> cases record.execution.errorType <;>
    simp [Fields.get?]

private theorem store_putResult (result : Json) :
    (World.alone moment ((bridge.putResult result).answered (refused refusals))
      world).2.store = world.store := by
  by_cases absent : result = .null
  · subst absent
    rfl
  · have unfolded : bridge.putResult result = (do
        let written ← bridge.gateway.putJson result
        return some written) := by
      cases result with
      | null => exact absurd rfl absent
      | _ => rfl
    rw [unfolded, Program.answered_bind, World.alone_bind]
    cases refuses : refusals result with
    | some error => rw [alone_putJson_refused refuses]
    | none =>
        rw [alone_putJson refuses]
        rfl

private theorem told_report {name : String} {args : EventArgs} {done : Unit}
    (told : World.alone moment ((report name args).answered (refused refusals))
      world = (.ok done, after)) :
    after.store.ledgerRow? = world.store.ledgerRow? ∧
      after.store.events = world.store.events ++
        [EventArgs.row { args with type := .reported name }
          (world.store.maxSeq args.runId + 1)] := by
  rw [answered_report, alone_report] at told
  have same := congrArg (fun outcome => outcome.2.store) told
  dsimp only at same
  rw [← same]
  exact ⟨ledgerRow?_perform rfl, Store.events_appendEvent name args⟩

private theorem written_update {update : LedgerUpdate} {done : Unit}
    (updated : World.alone moment ((store (.updateLedger update)).answered
      (refused refusals)) world = (.ok done, after)) :
    after.store.events = world.store.events ∧
      ∀ row, world.store.ledgerRow? update.idempotencyKey = some row →
        after.store.ledgerRow? update.idempotencyKey =
          some (update.apply row) := by
  rw [answered_store, World.alone_store] at updated
  have written := congrArg (fun outcome => outcome.2.store) updated
  dsimp only at written
  rw [← written]
  refine ⟨rfl, fun row found => ?_⟩
  refine (congrFun (Store.ledgerRow?_updateLedger _ _)
    update.idempotencyKey).trans ?_
  rw [Function.update_self]
  exact congrArg (Option.map update.apply) found

private theorem settled_of_settle {status : LedgerStatus}
    (done : World.alone moment ((bridge.settle record).answered
      (refused refusals)) world = (.ok status, after)) :
    statusOf record.execution = .ok status ∧
      bridge.Settled record status world.store after.store := by
  unfold settle at done
  simp only [Program.answered_bind, World.alone_bind_ok_iff] at done
  obtain ⟨asked, first, given, response, second, archived, _, third, updated,
    _, fourth, told, ended⟩ := done
  rw [answered_orRaise, World.alone_orRaise] at given
  obtain ⟨asks, rfl⟩ := Prod.mk.inj given
  have kept : second.store = world.store := by
    have same := @store_putResult bridge refusals moment world
      record.execution.result
    rw [archived] at same
    exact same
  obtain ⟨eventsWritten, rowWritten⟩ := written_update updated
  obtain ⟨rowsKept, eventTold⟩ := told_report told
  have finished : asked = status ∧
      after.store.ledgerRow? = fourth.store.ledgerRow? ∧ ∃ rest,
        after.store.events = fourth.store.events ++ rest ∧
        ∀ other ∈ rest, other.type = .costRecorded := by
    by_cases unfinished : asked = .reserved ∨ asked = .running
    · rw [if_pos unfinished] at ended
      cases ended
      exact ⟨rfl, rfl, [], (List.append_nil _).symm, by simp⟩
    · rw [if_neg unfinished] at ended
      simp only [Program.answered_bind, World.alone_bind_ok_iff] at ended
      obtain ⟨_, fifth, costed, ended⟩ := ended
      rw [answered_store, World.alone_store] at costed
      cases ended
      have same := congrArg (fun outcome => outcome.2.store) costed
      dsimp only at same
      rw [← same]
      obtain ⟨row, type, added⟩ := @Store.events_recordCost fourth.store moment _
      exact ⟨rfl, ledgerRow?_perform rfl, [row], added, by simpa using type⟩
  obtain ⟨rfl, rows, rest, added, costs⟩ := finished
  rw [eventTold, eventsWritten, kept, List.append_assoc,
    List.singleton_append] at added
  rw [kept] at rowWritten
  refine ⟨asks, ?_, _, rest, response, added, ?_, rfl, rfl, costs⟩
  · intro row found
    exact ⟨_, (congrFun (rows.trans rowsKept) _).trans (rowWritten row found),
      rfl⟩
  · cases asked <;> rfl

private theorem store_putJson {value : Json} {written : String × String}
    (done : World.alone moment ((bridge.gateway.putJson value).answered
      (refused refusals)) world = (.ok written, after)) :
    after.store = world.store := by
  cases refuses : refusals value with
  | some error =>
      rw [alone_putJson_refused refuses] at done
      cases done
  | none =>
      rw [alone_putJson refuses] at done
      cases done
      rfl

/-- The record is opened with an event that a call was asked for. -/
private theorem opened_of_alone
    (done : World.alone moment ((bridge.open_ turn execution).answered
      (refused refusals)) world = (.ok record, after)) :
    record.turn = turn ∧ record.execution = execution ∧
      after.store.ledgerRow? = world.store.ledgerRow? ∧
      ∃ row : EventRow, row.type = .reported "tool_call_requested" ∧
        after.store.events = world.store.events ++ [row] := by
  have opened : ∃ (toolCallId : String) (first : World),
      first.store = world.store ∧
      World.alone moment ((do
        let payload := bridge.requestPayload execution toolCallId
        let stored ← bridge.gateway.putJson (.obj payload)
        let scope := bridge.source ++ ":" ++ execution.sessionId ++ ":" ++
          execution.turnId
        let record : Record :=
          { turn := turn
            execution := execution
            toolCallId := toolCallId
            key := (nonEmpty execution.idempotencyKey).getD
              (scope ++ ":" ++ execution.toolName ++ ":" ++ toolCallId)
            causalToken := (nonEmpty execution.causalToken).getD
              (scope ++ ":" ++ toolCallId)
            requestHash := stored.1
            requestRef := stored.2 }
        report "tool_call_requested" (event record "tool_call_requested" payload
          (some stored.1) (some stored.2))
        return record : RuntimeM Record).answered (refused refusals)) first =
          (.ok record, after) := by
    unfold open_ at done
    cases named : nonEmpty execution.toolCallId with
    | some id =>
        rw [named] at done
        exact ⟨id, world, rfl, done⟩
    | none =>
        rw [named] at done
        exact ⟨moment.id "toolcall", world, rfl, done⟩
  obtain ⟨toolCallId, first, same, done⟩ := opened
  simp only [Program.answered_bind, World.alone_bind_ok_iff] at done
  obtain ⟨written, second, archived, _, third, told, ended⟩ := done
  obtain ⟨rows, events⟩ := told_report told
  have kept := store_putJson archived
  cases ended
  rw [kept, same] at rows events
  exact ⟨rfl, rfl, rows, _, rfl, events⟩

/-- An execution whose key had not succeeded is settled with the status that it
asks for. -/
theorem settled_of_recordExecution
    (done : World.alone moment ((bridge.recordExecution turn execution).answered
      (refused refusals)) world = (.ok receipt, after))
    (unsettled : ∀ row,
      world.store.ledgerRow? receipt.idempotencyKey = some row →
        row.status ≠ .succeeded) :
    ∃ record status, record.turn = turn ∧ record.execution = execution ∧
      record.key = receipt.idempotencyKey ∧ statusOf execution = .ok status ∧
      ∃ middle, bridge.Settled record status middle after.store ∧
        (middle.ledgerRow? record.key).isSome ∧
        ∃ row : EventRow, row.type = .reported "tool_call_requested" ∧
          middle.events = world.store.events ++ [row] := by
  unfold recordExecution at done
  simp only [Program.answered_bind, World.alone_bind_ok_iff] at done
  obtain ⟨record, first, opened, existing, second, reserved, ended⟩ := done
  obtain ⟨mine, own, rows, row, type, events⟩ := opened_of_alone opened
  rw [answered_store, World.alone_store] at reserved
  have stored := congrArg (fun outcome => outcome.2.store) reserved
  have answer := congrArg Prod.fst reserved
  dsimp only at stored answer
  have eventsKept : second.store.events = world.store.events ++ [row] := by
    rw [← stored, ← events]
    exact Store.events_reserveLedger _
  have settles (present : (second.store.ledgerRow? record.key).isSome)
      (done : World.alone moment ((bridge.settled record).answered
        (refused refusals)) second = (.ok receipt, after)) :
      ∃ record status, record.turn = turn ∧ record.execution = execution ∧
        record.key = receipt.idempotencyKey ∧ statusOf execution = .ok status ∧
        ∃ middle, bridge.Settled record status middle after.store ∧
          (middle.ledgerRow? record.key).isSome ∧
          ∃ row : EventRow, row.type = .reported "tool_call_requested" ∧
            middle.events = world.store.events ++ [row] := by
    unfold settled at done
    simp only [Program.answered_bind, World.alone_bind_ok_iff] at done
    obtain ⟨status, third, settled, ended⟩ := done
    cases ended
    obtain ⟨asks, left⟩ := settled_of_settle settled
    rw [own] at asks
    exact ⟨record, status, mine, own, rfl, asks, second.store, left, present, row,
      type, eventsKept⟩
  cases found : first.store.ledgerRow? record.key with
  | none =>
      obtain ⟨fresh, inserted⟩ := @Store.perform_reserveLedger_fresh first.store
        moment (ledgerArgs record) found
      have missing : existing = none :=
        (Except.ok.inj (fresh.symm.trans answer)).symm
      subst missing
      refine settles ?_ ended
      rw [← stored]
      refine (congrArg Option.isSome (congrFun inserted record.key)).trans ?_
      rw [show record.key = (ledgerArgs record).idempotencyKey from rfl,
        Function.update_self]
      rfl
  | some held =>
      have performed := @Store.perform_reserveLedger_found first.store moment
        (ledgerArgs record) held found
      have present : existing = some held :=
        (Except.ok.inj ((congrArg Prod.fst performed).symm.trans answer)).symm
      subst present
      have same : second.store = first.store :=
        stored.symm.trans (congrArg Prod.snd performed)
      have here : (second.store.ledgerRow? record.key).isSome := by
        rw [same, found]
        rfl
      unfold proceed at ended
      cases status : held.status with
      | succeeded =>
          simp only [status, Program.answered_bind, World.alone_bind_ok_iff]
            at ended
          obtain ⟨_, third, _, ended⟩ := ended
          cases ended
          rw [rows] at found
          exact absurd status (unsettled held found)
      | pendingVerification =>
          simp only [status] at ended
          cases ended
      | reserved =>
          simp only [status] at ended
          cases ended
      | running =>
          simp only [status] at ended
          cases ended
      | failedNoEffect =>
          simp only [status] at ended
          exact settles here ended
      | compensated =>
          simp only [status] at ended
          exact settles here ended

end ExecutionEvidenceBridge

/-! ### The session that is bound first -/

namespace BridgeState

variable {moment : Moment} {state after : BridgeState} {α β : Type}

theorem alone_bind_ok_iff {first : BridgeM α} {next : α → BridgeM β}
    {value : β} :
    alone moment (first >>= next) state = (.ok value, after) ↔
      ∃ middle between, alone moment first state = (.ok middle, between) ∧
        alone moment (next middle) between = (.ok value, after) := by
  rw [alone_bind]
  rcases outcome : alone moment first state with ⟨result, between⟩
  cases result with
  | ok middle => simp
  | error error => simp

end BridgeState

/-- Commands that read, remember, and append events of one type. -/
def BridgeCommand.tells (name : String) : BridgeCommand → Prop
  | .runtime (.store (.run _)) => True
  | .runtime (.store (.appendEvent told _)) => told = name
  | .runtime _ => False
  | _ => True

namespace BridgeState

variable {moment : Moment} {state after : BridgeState} {name : String}
  {α : Type}

/-- The ledger is the same, and the events are more by some of one type. -/
structure Tells (name : String) (before after : BridgeState) : Prop where
  ledger : after.world.store.ledgerRow? = before.world.store.ledgerRow?
  events : ∃ added,
    after.world.store.events = before.world.store.events ++ added ∧
    ∀ event ∈ added, event.type = .reported name

theorem Tells.refl (state : BridgeState) : Tells name state state :=
  ⟨rfl, [], (List.append_nil _).symm, by simp⟩

theorem Tells.trans {first second third : BridgeState}
    (one : Tells name first second) (two : Tells name second third) :
    Tells name first third := by
  obtain ⟨early, before, earlyTypes⟩ := one.events
  obtain ⟨late, behind, lateTypes⟩ := two.events
  refine ⟨two.ledger.trans one.ledger, early ++ late, ?_, ?_⟩
  · rw [behind, before, List.append_assoc]
  · intro event member
    exact (List.mem_append.mp member).elim (earlyTypes event) (lateTypes event)

theorem tells_of_act {cmd : BridgeCommand} (tells : cmd.tells name)
    {reply : cmd.Reply} (acted : act moment cmd state = some (reply, after)) :
    Tells name state after := by
  cases cmd with
  | runtime cmd =>
      simp only [act, Option.map_eq_some_iff] at acted
      obtain ⟨⟨answer, world⟩, performed, same⟩ := acted
      cases same
      cases cmd with
      | store call =>
          rcases World.store_of_act performed with kept | ⟨_, same, _, moved⟩
          · exact ⟨congrArg Store.ledgerRow? kept, [], by simp [kept], by simp⟩
          · cases same
            cases call with
            | run runId =>
                have same : ((Call.run runId).perform moment
                    state.world.store).2 = state.world.store := by
                  simp only [Call.perform, Call.body, AgentLedger.perform, run,
                    select, Program.bind_call, Program.bind_done, exec_select]
                  split <;> rfl
                rw [same] at moved
                exact ⟨congrArg Store.ledgerRow? moved, [], by simp [moved],
                  by simp⟩
            | appendEvent told args =>
                refine ⟨?_, _, (congrArg Store.events moved).trans
                  (Store.events_appendEvent told args), ?_⟩
                · exact (congrArg Store.ledgerRow? moved).trans
                    (Store.ledgerRow?_of_other rfl)
                · intro event member
                  rw [List.mem_singleton.mp member]
                  exact congrArg EventType.reported tells
            | _ => exact tells.elim
      | _ => exact tells.elim
  | steps runId =>
      cases acted
      exact .refl state
  | retrieve =>
      cases acted
      exact .refl state
  | remember change =>
      cases acted
      exact ⟨rfl, [], (List.append_nil _).symm, by simp⟩

theorem tells_of_uses {program : BridgeM α}
    (uses : program.Uses (BridgeCommand.tells name)) :
    Tells name state (alone moment program state).2 := by
  induction program generalizing state with
  | done value => exact .refl state
  | raise error => exact .refl state
  | call cmd next ih =>
      simp only [alone]
      cases acted : act moment cmd state with
      | none => exact .refl state
      | some outcome =>
          exact (tells_of_act uses.1 acted).trans
            (ih outcome.1 (uses.2 outcome.1))

end BridgeState

namespace SessionBridge

variable {bridge : SessionBridge} {refusals : ExecutionEvidenceBridge.Refusals}

theorem answered_of_tells {name : String} {α : Type} {program : BridgeM α}
    (uses : program.Uses (BridgeCommand.tells name)) :
    program.answered (BridgeCommand.refused refusals) = program := by
  apply Program.Uses.answered_eq
  refine uses.mono fun cmd tells => ?_
  cases cmd with
  | runtime cmd =>
      cases cmd with
      | store call => rfl
      | _ => exact tells.elim
  | _ => rfl

/-- A session of a run that is there already creates nothing. -/
theorem uses_recordSessionStarted {session : ExecutionSession} {runId : String}
    (named : session.runId = some runId) :
    (bridge.recordSessionStarted session).Uses
      (BridgeCommand.tells (bridge.eventType "session_started")) := by
  have opens : (ensureSession session).Uses
      (BridgeCommand.tells (bridge.eventType "session_started")) := by
    refine ⟨trivial, fun memory => ?_⟩
    simp only [Program.bind]
    split
    · trivial
    · unfold newSession
      rw [named]
      refine ⟨trivial, fun answer => ?_⟩
      cases answer with
      | error error => trivial
      | ok run => exact ⟨trivial, fun _ => ⟨trivial, fun _ => trivial⟩⟩
  refine ⟨trivial, fun memory => ?_⟩
  simp only [Program.bind]
  split
  · trivial
  · apply opens.bind
    intro opened
    refine ⟨trivial, fun answer => ?_⟩
    cases answer with
    | error error => trivial
    | ok run =>
        refine ⟨rfl, fun answer => ?_⟩
        cases answer <;> trivial

end SessionBridge

namespace EvidenceObserver

open BridgeState

variable {observer : EvidenceObserver} {event : Fields} {sessionId : String}
  {refusals : ExecutionEvidenceBridge.Refusals} {moment : Moment}
  {state after : BridgeState} {execution : ToolExecution}
  {others : String → String → Fields → BridgeM ToolReceipt}
  {receipt : ToolReceipt}

private theorem alone_orRaise_ok {α : Type} {result : Except PyError α}
    {value : α} (done : alone moment ((lift (orRaise result)).answered
      (BridgeCommand.refused refusals)) state = (.ok value, after)) :
    result = .ok value ∧ state = after := by
  cases result with
  | ok held =>
      cases done
      exact ⟨rfl, rfl⟩
  | error error => cases done

private theorem prepared (done : alone moment
    ((observer.prepare event sessionId).answered
      (BridgeCommand.refused refusals)) state = (.ok (), after)) :
    Tells "execution_session_started" state after := by
  unfold prepare ensureBoundSession at done
  split at done
  · cases bound : observer.runtimeRunId event with
    | none =>
      rw [bound] at done
      cases done
      exact .refl state
    | some runId =>
      rw [bound] at done
      simp only [Program.answered_bind, alone_bind_ok_iff] at done
      obtain ⟨initialState, _, read, metadata, _, described, _, third, started,
        ended⟩ := done
      obtain ⟨_, rfl⟩ := alone_orRaise_ok read
      obtain ⟨_, rfl⟩ := alone_orRaise_ok described
      cases ended
      have uses := @SessionBridge.uses_recordSessionStarted observer.bridge
        { sessionId := sessionId
          initialState := initialState
          metadata := metadata
          runId := some runId } runId rfl
      rw [SessionBridge.answered_of_tells uses] at started
      have tells := @tells_of_uses moment state _ _ _ uses
      rw [started] at tells
      exact tells
  · cases done
    exact .refl state

private theorem recorded_of_observe {kind : String}
    (type : observer.eventType event = .ok kind)
    (tool : toolEvents.contains kind = true)
    (accepted : alone moment ((observer.observe others event).answered
      (BridgeCommand.refused refusals)) state = (.ok receipt, after)) :
    ∃ sessionId execution middle turn,
      observer.toolExecution event sessionId = .ok execution ∧
      observer.runOf event after = some turn.runId ∧
      Tells "execution_session_started" state middle ∧
      World.alone moment ((observer.bridge.toExecutionEvidenceBridge.recordExecution
        turn execution).answered (ExecutionEvidenceBridge.refused refusals))
          middle.world = (.ok receipt, after.world) := by
  unfold observe at accepted
  simp only [Program.answered_bind, alone_bind_ok_iff] at accepted
  obtain ⟨eventType, _, typed, sessionId, _, named, _, middle, prepares,
    accepted⟩ := accepted
  obtain ⟨same, rfl⟩ := alone_orRaise_ok typed
  obtain ⟨required, rfl⟩ := alone_orRaise_ok named
  have own : eventType = kind := Except.ok.inj (same.symm.trans type)
  subst own
  rw [if_pos tool] at accepted
  simp only [Program.answered_bind, alone_bind_ok_iff] at accepted
  obtain ⟨execution, _, told, accepted⟩ := accepted
  obtain ⟨tells, rfl⟩ := alone_orRaise_ok told
  change observer.bridge.record refusals moment execution _ = _ at accepted
  cases found : SessionBridge.activeFor execution middle with
  | none =>
      obtain ⟨error, raised⟩ := @SessionBridge.record_inactive observer.bridge
        refusals moment _ _ found
      rw [raised] at accepted
      cases accepted
  | some active =>
      rw [SessionBridge.record_active found] at accepted
      have world := congrArg (fun outcome => outcome.2.world) accepted
      have answer := congrArg Prod.fst accepted
      have memory := congrArg (fun outcome => outcome.2.memory) accepted
      have run : observer.runOf event after = some active.runId := by
        have still : SessionBridge.activeFor execution after = some active := by
          rw [← found, SessionBridge.activeFor, SessionBridge.activeFor,
            ← show middle.memory = after.memory from memory]
        simp only [runOf, required, Except.toOption, Option.bind_eq_bind,
          Option.bind_some, tells, still]
        rfl
      exact ⟨sessionId, execution, middle, active.toActiveTurn, tells, run,
        prepared prepares, Prod.ext answer world⟩

private theorem optional_isSome_iff (keys : List String) :
    (observer.optional event keys).isSome ↔
      ∃ key ∈ keys, (observer.shown event key).isSome := by
  rw [optional, List.findSome?_isSome_iff]

private theorem shown_ne_empty {key text : String}
    (shows : observer.shown event key = some text) : text ≠ "" := by
  unfold shown at shows
  split at shows
  · cases shows
  · dsimp only at shows
    split at shows
    case isTrue => cases shows
    case isFalse present =>
        cases shows
        intro empty
        rw [empty] at present
        exact present rfl

private theorem nonEmpty_optional (keys : List String) :
    nonEmpty (observer.optional event keys) =
      observer.optional event keys := by
  cases found : observer.optional event keys with
  | none => rfl
  | some text =>
      obtain ⟨key, _, shows⟩ := List.exists_of_findSome?_eq_some found
      simp [nonEmpty, shown_ne_empty shows]

private theorem made_of_bind {α β : Type} {first : Except PyError α}
    {next : α → Except PyError β} {value : β}
    (made : (first >>= next) = .ok value) :
    ∃ middle, next middle = .ok value := by
  cases first with
  | ok middle => exact ⟨middle, made⟩
  | error error => cases made

/-- The status that is inferred: whether anything is said to have gone wrong. -/
private theorem statusOf_toolExecution
    (told : observer.toolExecution event sessionId = .ok execution)
    (unmarked : observer.optional event ["ledger_status", "status"] = none) :
    ∃ status, ExecutionEvidenceBridge.statusOf execution = .ok status ∧
      (observer.Explained event ∧ status = .pendingVerification ∨
        ¬ observer.Explained event ∧ status = .succeeded) := by
  obtain ⟨turnId, told⟩ := made_of_bind told
  obtain ⟨toolName, told⟩ := made_of_bind told
  obtain ⟨arguments, told⟩ := made_of_bind told
  obtain ⟨metadata, told⟩ := made_of_bind told
  cases told
  rw [ExecutionEvidenceBridge.statusOf]
  dsimp only
  rw [unmarked, nonEmpty_optional, ledgerStatus]
  have explained : observer.Explained event ↔
      (observer.optional event ["error_message", "error"]).isSome ∨
        (observer.optional event ["error_type"]).isSome := by
    rw [optional_isSome_iff, optional_isSome_iff, Explained]
    simp [or_assoc]
  refine ⟨_, rfl, ?_⟩
  rw [explained]
  cases message : observer.optional event ["error_message", "error"] with
  | some text =>
      left
      have same := @nonEmpty_optional observer event ["error_message", "error"]
      rw [message] at same
      simp [same]
  | none =>
      have same := @nonEmpty_optional observer event ["error_type"]
      cases type : observer.optional event ["error_type"] with
      | some text =>
          rw [type] at same
          simp [same]
      | none => simp [nonEmpty]

/-- A failure that is accepted, of a key that had not succeeded, is recorded as
one exactly when the event says what went wrong. -/
theorem failed_event_recorded_iff (observer : EvidenceObserver)
    (others : String → String → Fields → BridgeM ToolReceipt)
    (refusals : ExecutionEvidenceBridge.Refusals) (moment : Moment)
    (event : Fields) (state after : BridgeState) (receipt : ToolReceipt)
    (type : observer.eventType event = .ok "tool_call_failed")
    (unmarked : observer.optional event ["ledger_status", "status"] = none)
    (accepted : alone moment ((observer.observe others event).answered
      (BridgeCommand.refused refusals)) state = (.ok receipt, after))
    (unsettled : ∀ row,
      state.world.store.ledgerRow? receipt.idempotencyKey = some row →
        row.status ≠ .succeeded) :
    FailureRecorded (observer.runOf event after) receipt.idempotencyKey
      state.world.store after.world.store ↔ observer.Explained event := by
  obtain ⟨sessionId, execution, middle, turn, told, run, tells, recorded⟩ :=
    recorded_of_observe type (by decide) accepted
  obtain ⟨before, early, started⟩ := tells.events
  rw [← tells.ledger] at unsettled
  obtain ⟨record, status, mine, _, key, asks, reserved, settled, present, asked,
    requested, behind⟩ := ExecutionEvidenceBridge.settled_of_recordExecution
      recorded unsettled
  obtain ⟨inferred, same, cases_⟩ := statusOf_toolExecution told unmarked
  have own : status = inferred := Except.ok.inj (asks.symm.trans same)
  subst own
  obtain ⟨row, held⟩ := Option.isSome_iff_exists.mp present
  obtain ⟨changed, left, marked⟩ := settled.row row held
  obtain ⟨outcome, rest, response, events, named, own, payload, costs⟩ :=
    settled.events
  rw [key] at left
  rcases cases_ with ⟨explained, pending⟩ | ⟨unexplained, success⟩
  · refine iff_of_true ⟨⟨changed, left, .inl (marked.trans pending)⟩,
      before ++ asked :: outcome :: rest, ?_, ?_, ?_⟩ explained
    · rw [events, behind, early]
      simp
    · refine ⟨outcome, by simp, ?_, ?_, _, payload, ?_⟩
      · rw [run, own, mine]
      · rw [named, pending]
        rfl
      · rw [← key]
        exact ExecutionEvidenceBridge.key_settledPayload
    · intro other member
      rw [pending] at named
      simp only [List.mem_append, List.mem_cons] at member
      rcases member with first | rfl | rfl | cost
      · rw [started other first]
        decide
      · rw [requested]
        decide
      · rw [named]
        decide
      · rw [costs other cost]
        decide
  · refine iff_of_false ?_ unexplained
    rintro ⟨⟨found, here, failing⟩, _⟩
    rw [left] at here
    cases here
    rw [marked, success] at failing
    exact absurd failing (by decide)

/-- The observer of a client with one session. -/
private def watcher : EvidenceObserver :=
  MCPEvidenceObserver chargeGateway "app" none

private def failedCharge : Fields :=
  [("error_message", .str "declined"), ("session_id", .str "s"),
    ("tool_call_id", .str "call"), ("tool_name", .str "charge"),
    ("turn_id", .str "t"), ("type", .str "tool.call.failed")]

private def noOthers : String → String → Fields → BridgeM ToolReceipt :=
  fun _ _ _ => .raise (.valueError "unsupported")

/-- The same with nothing but the type to say that it failed. -/
private def unexplainedCharge : Fields :=
  [("session_id", .str "s"), ("tool_call_id", .str "call"),
    ("tool_name", .str "charge"), ("turn_id", .str "t"),
    ("type", .str "tool_call_failed")]

/-- The turn of the client has started. -/
private def watched : BridgeState :=
  runFrom watcher.bridge.next (BridgeState.opened Store.empty)
    [(.sessionStarted { sessionId := "s" }, momentAt 1),
      (.turnStarted startedTurn, momentAt 2)]

private def observed (event : Fields) :
    Except PyError ToolReceipt × BridgeState :=
  alone (momentAt 3) ((watcher.observe noOthers event).answered
    (BridgeCommand.refused fun _ => none)) watched

private def chargeReceipt (status : LedgerStatus) : ToolReceipt :=
  { ledgerStatus := status
    idempotencyKey := "mcp:s:t:charge:call"
    toolCallId := "call" }

theorem declined_charge_recorded :
    FailureRecorded
        (watcher.runOf failedCharge (observed failedCharge).2)
        "mcp:s:t:charge:call" watched.world.store
        (observed failedCharge).2.world.store ↔
      watcher.Explained failedCharge :=
  failed_event_recorded_iff watcher noOthers (fun _ => none) (momentAt 3)
    failedCharge watched (observed failedCharge).2
    (chargeReceipt .pendingVerification) (by rfl) (by rfl)
    (Prod.ext (by rfl) rfl) (by
      intro row found
      have absent : watched.world.store.ledgerRow?
          "mcp:s:t:charge:call" = none := by decide
      cases absent.symm.trans found)

/-- A failure that says nothing else is entered as a success. -/
theorem unexplained_charge_succeeds :
    ¬ ∀ (observer : EvidenceObserver)
      (others : String → String → Fields → BridgeM ToolReceipt)
      (refusals : ExecutionEvidenceBridge.Refusals) (moment : Moment)
      (event : Fields) (state after : BridgeState) (receipt : ToolReceipt),
      observer.eventType event = .ok "tool_call_failed" →
      observer.optional event ["ledger_status", "status"] = none →
      alone moment ((observer.observe others event).answered
        (BridgeCommand.refused refusals)) state = (.ok receipt, after) →
      (∀ row, state.world.store.ledgerRow? receipt.idempotencyKey = some row →
        row.status ≠ .succeeded) →
      FailureRecorded (observer.runOf event after) receipt.idempotencyKey
        state.world.store after.world.store := by
  intro all
  have recorded := all watcher noOthers (fun _ => none) (momentAt 3)
    unexplainedCharge watched (observed unexplainedCharge).2
    (chargeReceipt .succeeded) (by rfl) (by rfl) (Prod.ext (by rfl) rfl) (by
      intro row found
      have absent : watched.world.store.ledgerRow?
          "mcp:s:t:charge:call" = none := by decide
      cases absent.symm.trans found)
  obtain ⟨⟨row, found, failing⟩, _⟩ := recorded
  have succeeded : ((observed unexplainedCharge).2.world.store.ledgerRow?
      "mcp:s:t:charge:call").map LedgerRow.status = some .succeeded := by
    decide
  have status := congrArg (Option.map LedgerRow.status) found
  rw [Option.map_some] at status
  have same : row.status = .succeeded :=
    Option.some.inj (status.symm.trans succeeded)
  rw [same] at failing
  exact absurd failing (by decide)

end EvidenceObserver

end AgentLedger
