import AgentLedger.Adapters.ToolRecords

namespace AgentLedger

open Foundation BridgeM

/-! What the other operations of a bridge leave: none of them writes the
ledger, and only the start of a turn makes one active. -/

/-- Commands that write no row of the ledger, and make no turn active but
under these keys. -/
def BridgeCommand.beside (keys : String → Prop) : BridgeCommand → Prop
  | .runtime (.store call) => call.entersLedger = false
  | .runtime _ => True
  | .steps _ => True
  | .retrieve => True
  | .remember change => ∀ memory key,
      ((change memory).activeTurns.lookup key).isSome →
        (memory.activeTurns.lookup key).isSome ∨ keys key

/-- The commands of the runtime among them. -/
def Command.beside (cmd : Command) : Prop :=
  BridgeCommand.beside (fun _ => False) (.runtime cmd)

theorem ToolGateway.records_beside (gateway : ToolGateway) :
    gateway.Records Command.beside := by
  constructor
  · intro call recording
    cases call <;> first | rfl | cases recording
  · intro value
    trivial

namespace BridgeState

variable {moment : Moment} {state after : BridgeState} {keys : String → Prop}
  {α β : Type}

/-- The ledger is the same, and the turns that are active were, but for these
keys. -/
structure Beside (keys : String → Prop) (before after : BridgeState) :
    Prop where
  ledger : after.world.store.ledgerRow? = before.world.store.ledgerRow?
  turns : ∀ key, (after.memory.activeTurns.lookup key).isSome →
    (before.memory.activeTurns.lookup key).isSome ∨ keys key

theorem Beside.refl (state : BridgeState) : Beside keys state state :=
  ⟨rfl, fun _ present => .inl present⟩

theorem Beside.trans {first second third : BridgeState}
    (one : Beside keys first second) (two : Beside keys second third) :
    Beside keys first third := by
  refine ⟨two.ledger.trans one.ledger, ?_⟩
  intro key present
  rcases two.turns key present with earlier | own
  · exact one.turns key earlier
  · exact .inr own

theorem beside_of_act {cmd : BridgeCommand} (beside : cmd.beside keys)
    {reply : cmd.Reply} (acted : act moment cmd state = some (reply, after)) :
    Beside keys state after := by
  cases cmd with
  | runtime cmd =>
      simp only [act, Option.map_eq_some_iff] at acted
      obtain ⟨⟨answer, world⟩, performed, same⟩ := acted
      cases same
      refine ⟨?_, fun _ present => .inl present⟩
      rcases World.store_of_act performed with kept | ⟨call, rfl, _, moved⟩
      · exact congrArg Store.ledgerRow? kept
      · exact (congrArg Store.ledgerRow? moved).trans
          (Store.ledgerRow?_of_other beside)
  | steps runId =>
      cases acted
      exact .refl state
  | retrieve =>
      cases acted
      exact .refl state
  | remember change =>
      cases acted
      exact ⟨rfl, beside state.memory⟩

theorem beside_of_uses {program : BridgeM α}
    (uses : program.Uses (BridgeCommand.beside keys)) :
    Beside keys state (alone moment program state).2 := by
  induction program generalizing state with
  | done value => exact .refl state
  | raise error => exact .refl state
  | call cmd next ih =>
      simp only [alone]
      cases acted : act moment cmd state with
      | none => exact .refl state
      | some outcome =>
          exact (beside_of_act uses.1 acted).trans
            (ih outcome.1 (uses.2 outcome.1))

end BridgeState

section Uses

variable {keys : String → Prop} {α : Type} {bridge : SessionBridge}

theorem uses_lift_beside {program : RuntimeM α}
    (uses : program.Uses Command.beside) :
    (lift program).Uses (BridgeCommand.beside keys) := by
  induction program with
  | done value => trivial
  | raise error => trivial
  | call cmd next ih =>
      refine ⟨?_, fun reply => ih reply (uses.2 reply)⟩
      cases cmd with
      | store call => exact uses.1
      | _ => trivial

private theorem uses_store_beside {call : Call}
    (other : call.entersLedger = false) :
    (lift (store call)).Uses (BridgeCommand.beside keys) :=
  uses_lift_beside (uses_store other)

private theorem uses_report_beside (name : String) (args : EventArgs) :
    (lift (report name args)).Uses (BridgeCommand.beside keys) :=
  uses_lift_beside (uses_report rfl)

theorem uses_requireTurn_beside (sessionId turnId : String) :
    (bridge.requireTurn sessionId turnId).Uses
      (BridgeCommand.beside keys) := by
  refine ⟨trivial, fun memory => ?_⟩
  simp only [Program.bind]
  split <;> trivial

private theorem uses_openSession (sessionId : String)
    (session : BridgeSession) :
    (remember (Memory.openSession sessionId session)).Uses
      (BridgeCommand.beside keys) :=
  ⟨fun _ _ present => .inl present, fun _ => trivial⟩

private theorem uses_endTurn (key : String) :
    (remember (Memory.endTurn key)).Uses (BridgeCommand.beside keys) := by
  refine ⟨fun memory other present => .inl ?_, fun _ => trivial⟩
  by_cases same : other = key
  · subst same
    rw [Memory.endTurn, AList.lookup_erase] at present
    cases present
  · rwa [Memory.endTurn, AList.lookup_erase_ne same] at present

theorem uses_ensureSession (session : ExecutionSession) :
    (SessionBridge.ensureSession session).Uses
      (BridgeCommand.beside keys) := by
  have new : (SessionBridge.newSession session).Uses
      (BridgeCommand.beside keys) := by
    unfold SessionBridge.newSession
    split
    · apply (uses_store_beside rfl).bind
      intro run
      exact ⟨trivial, fun _ => trivial⟩
    · apply (uses_store_beside rfl).bind
      intro created
      apply (uses_store_beside rfl).bind
      intro run
      trivial
  refine ⟨trivial, fun memory => ?_⟩
  simp only [Program.bind]
  split
  · trivial
  · apply new.bind
    intro opened
    apply (uses_openSession _ _).bind
    intro _
    trivial

theorem uses_sessionStarted (session : ExecutionSession) :
    (bridge.recordSessionStarted session).Uses
      (BridgeCommand.beside keys) := by
  refine ⟨trivial, fun memory => ?_⟩
  simp only [Program.bind]
  split
  · trivial
  · apply (uses_ensureSession session).bind
    intro opened
    apply (uses_store_beside rfl).bind
    intro run
    apply (uses_report_beside _ _).bind
    intro _
    trivial

private theorem uses_prepareStep (sessionId : String)
    (session : BridgeSession) :
    (SessionBridge.prepareStep sessionId session).Uses
      (BridgeCommand.beside keys) := by
  unfold SessionBridge.prepareStep
  split
  · exact uses_openSession _ _
  · refine ⟨trivial, fun rows => ?_⟩
    simp only [Program.bind]
    split
    · trivial
    · apply (uses_store_beside rfl).bind
      intro stepId
      trivial

theorem uses_turnStarted (turn : ExecutionTurn)
    (own : keys (turnKey turn.sessionId turn.turnId)) :
    (bridge.recordTurnStarted turn).Uses (BridgeCommand.beside keys) := by
  refine ⟨trivial, fun memory => ?_⟩
  simp only [Program.bind]
  split
  · trivial
  · apply (uses_ensureSession _).bind
    intro session
    apply (uses_prepareStep _ _).bind
    intro _
    apply (uses_store_beside rfl).bind
    intro claim
    split
    · trivial
    · rename_i claim
      refine ⟨?_, fun _ => ?_⟩
      · intro memory key present
        by_cases same : key = turnKey turn.sessionId turn.turnId
        · exact .inr (same ▸ own)
        · left
          rwa [Memory.startTurn, AList.lookup_insert_ne same] at present
      · apply (uses_report_beside _ _).bind
        intro _
        trivial

theorem uses_turnCompleted (turn : ExecutionTurn) :
    (bridge.recordTurnCompleted turn).Uses (BridgeCommand.beside keys) := by
  apply (uses_requireTurn_beside _ _).bind
  intro active
  apply (uses_store_beside rfl).bind
  intro version
  apply (uses_report_beside _ _).bind
  intro _
  apply (uses_endTurn _).bind
  intro _
  trivial

private theorem uses_inTurn {next : LeasedTurn → RuntimeM α}
    (sessionId turnId : String)
    (uses : ∀ active, (next active).Uses Command.beside) :
    (do
      let active ← bridge.requireTurn sessionId turnId
      lift (next active) : BridgeM α).Uses (BridgeCommand.beside keys) := by
  apply (uses_requireTurn_beside _ _).bind
  intro active
  exact uses_lift_beside (uses active)

theorem uses_failure (failure : ExecutionFailure) :
    (bridge.recordFailure failure).Uses (BridgeCommand.beside keys) := by
  have ended (active : LeasedTurn) :
      (SessionBridge.ending active failure).entersLedger = false := by
    unfold SessionBridge.ending
    simp only
    split
    · rfl
    · split <;> rfl
  apply (uses_requireTurn_beside _ _).bind
  intro active
  apply (uses_lift_beside (BridgeState.uses_reportModelFailure
    bridge.gateway.records_beside active failure)).bind
  intro _
  split
  · apply (uses_store_beside (ended active)).bind
    intro _
    exact uses_endTurn _
  · trivial

theorem uses_executionEvent (event : ExecutionEvent) :
    (bridge.recordExecutionEvent event).Uses (BridgeCommand.beside keys) := by
  apply (uses_ensureSession _).bind
  intro session
  refine ⟨trivial, fun memory => ?_⟩
  apply (uses_lift_beside (BridgeState.uses_versionOf
    bridge.gateway.records_beside _ _)).bind
  intro stateVersion
  exact uses_report_beside _ _

theorem uses_artifact (artifact : ExecutionArtifact) :
    (bridge.recordArtifact artifact).Uses (BridgeCommand.beside keys) := by
  apply (uses_lift_beside (uses_orRaise _)).bind
  intro _
  apply (uses_ensureSession _).bind
  intro session
  refine ⟨trivial, fun memory => ?_⟩
  exact uses_lift_beside (BridgeState.uses_keepArtifact
    bridge.gateway.records_beside _ _ _)

/-- The entry that a change renews is there. -/
private theorem uses_stateChange (change : ExecutionStateChange)
    (session : BridgeSession) (memory : Memory)
    (there : ∀ key, (memory.activeTurns.lookup key).isSome → keys key) :
    (do
      let active := memory.activeOf change.sessionId change.turnId
      let artifacts ← lift (bridge.storeSnapshots session active change)
      let newVersion ← SessionBridge.applyChange session active change
      lift (bridge.reportChange session active change artifacts newVersion)
      return newVersion : BridgeM (Option Int)).Uses
        (BridgeCommand.beside keys) := by
  apply (uses_lift_beside (BridgeState.uses_storeSnapshots
    bridge.gateway.records_beside _ _ _)).bind
  intro artifacts
  apply Program.Uses.bind
  · unfold SessionBridge.applyChange
    split
    · apply (uses_store_beside rfl).bind
      intro newVersion
      split
      · rename_i turn active
        have present := BridgeState.activeOf_some active
        refine ⟨?_, fun _ => trivial⟩
        intro earlier key inserted
        by_cases same : key = turnKey change.sessionId (change.turnId.getD "")
        · right
          apply there
          rw [same, present]
          rfl
        · left
          rwa [Memory.startTurn, AList.lookup_insert_ne same] at inserted
      · trivial
    · trivial
  · intro newVersion
    apply (uses_lift_beside (BridgeState.uses_reportChange
      bridge.gateway.records_beside _ _ _ _ _)).bind
    intro _
    trivial

end Uses

namespace BridgeState

variable {moment : Moment} {state : BridgeState} {bridge : SessionBridge}

theorem beside_stateChange (change : ExecutionStateChange) :
    Beside (fun _ => False) state
      (alone moment (bridge.recordStateChange change) state).2 := by
  have ensured := @beside_of_uses moment state (fun _ => False) _ _
    (uses_ensureSession { sessionId := change.sessionId })
  unfold SessionBridge.recordStateChange
  apply holds_bind ensured
  intro session after _ beside
  rw [alone_recall_bind]
  have changed := @beside_of_uses moment after
    (fun key => (after.memory.activeTurns.lookup key).isSome) _ _
    (@uses_stateChange _ bridge change session after.memory
      fun _ present => present)
  refine beside.trans ⟨changed.ledger, ?_⟩
  intro key present
  exact .inl ((changed.turns key present).elim id id)

end BridgeState

namespace BridgeOperation

/-- The keys under which the operation may make a turn active. -/
def starts : BridgeOperation → String → Prop
  | .turnStarted turn => fun key => key = turnKey turn.sessionId turn.turnId
  | _ => fun _ => False

/-- It is no tool execution that is recorded. -/
def other : BridgeOperation → Prop
  | .toolExecution _ => False
  | _ => True

instance : DecidablePred other
  | .toolExecution _ => isFalse id
  | .sessionStarted _ | .turnStarted _ | .turnCompleted _ | .modelCall _
  | .toolProposal _ | .executionEvent _ | .failure _ | .stateChange _
  | .artifact _ => isTrue trivial

end BridgeOperation

theorem BridgeState.beside_next {bridge : SessionBridge}
    {operation : BridgeOperation} (other : operation.other) (moment : Moment)
    (state : BridgeState) :
    Beside operation.starts state (bridge.next (operation, moment) state) := by
  cases operation with
  | sessionStarted session =>
      exact beside_of_uses (uses_sessionStarted session)
  | turnStarted turn => exact beside_of_uses (uses_turnStarted turn rfl)
  | turnCompleted turn => exact beside_of_uses (uses_turnCompleted turn)
  | modelCall record =>
      exact beside_of_uses (uses_inTurn _ _ fun active =>
        ModelEvidence.uses_recordModelCall bridge.gateway.records_beside _ _)
  | toolProposal proposal =>
      exact beside_of_uses (uses_inTurn _ _ fun active =>
        ModelEvidence.uses_recordToolCallProposal
          bridge.gateway.records_beside _ _)
  | executionEvent event => exact beside_of_uses (uses_executionEvent event)
  | toolExecution execution => exact other.elim
  | failure report => exact beside_of_uses (uses_failure report)
  | stateChange change => exact beside_stateChange change
  | artifact record => exact beside_of_uses (uses_artifact record)

end AgentLedger
