import AgentLedger.Adapters.Evidence
import AgentLedger.Store.Grounding

namespace AgentLedger

open Foundation BridgeM

/-! A session whose turns come one after the other, on a run that nobody else
writes: whether the turn that is active can be completed. -/

theorem nextRunnable_eq_none {state : BridgeState} {runId : String}
    {tie : Nat} : SessionBridge.nextRunnable (state.stepsOf runId) = none ↔
      state.world.store.query (.claimable (some runId) tie) = none := by
  rw [Store.claimable_eq_none]
  simp only [SessionBridge.nextRunnable, Option.map_eq_none_iff,
    List.find?_eq_none, BridgeState.stepsOf, List.mem_insertionSort,
    List.mem_filter, decide_eq_true_eq, Bool.not_eq_true, and_imp]
  constructor
  · intro none_ stepId row found own
    exact none_ row (Table.get?_some found).1 own
  · intro none_ row member own
    exact none_ row.stepId row (Table.get?_eq_some_iff.mpr ⟨member, rfl⟩) own

theorem ToolGateway.records_quiet (gateway : ToolGateway) :
    gateway.Records Command.quiet := by
  constructor
  · intro call recording
    cases call <;> first | rfl | cases recording
  · intro value
    trivial

namespace BridgeState

/-- The turn has its step, and the version of its run. -/
structure Holds (store : Store) (runId : String) (turn : LeasedTurn) :
    Prop where
  own : turn.runId = runId
  leased : ∃ row, store.step? turn.stepId = some row ∧
    row.leaseToken = some turn.leaseToken ∧ row.status = .running
  current : ∃ run, store.run? runId = some run ∧
    run.stateVersion = turn.stateVersion

/-- The session has its run, and every active turn is one of it. -/
structure Attended (sessionId : String) (state : BridgeState) : Prop where
  known : ∀ session, state.memory.sessions.lookup sessionId = some session →
    state.world.store.run? session.runId ≠ none
  held : ∀ key turn, state.memory.activeTurns.lookup key = some turn →
    ∃ session, state.memory.sessions.lookup sessionId = some session ∧
      Holds state.world.store session.runId turn

/-- The step that would be claimed next carries the version of its run. -/
def Fresh (store : Store) (tie : Nat) (runId : String) : Prop :=
  ∀ row run, store.query (.claimable (some runId) tie) = some row →
    store.run? runId = some run → row.stateVersion = run.stateVersion

variable {sessionId : String} {moment : Moment} {state after : BridgeState}

theorem Attended.spared (attended : Attended sessionId state)
    (spares : Spares state after) : Attended sessionId after := by
  constructor
  · intro session found
    rw [spares.memory] at found
    rw [spares.rows.run?]
    exact attended.known session found
  · intro key turn active
    rw [spares.memory] at active ⊢
    obtain ⟨session, found, own, leased, current⟩ :=
      attended.held key turn active
    refine ⟨session, found, own, ?_, ?_⟩
    · rw [spares.rows.step?]
      exact leased
    · rw [spares.rows.run?]
      exact current

theorem attended_idle
    (known : ∀ session, state.memory.sessions.lookup sessionId =
      some session → state.world.store.run? session.runId ≠ none)
    (idle : ∀ key, state.memory.activeTurns.lookup key = none) :
    Attended sessionId state :=
  ⟨known, fun key turn active => by
    rw [idle key] at active
    cases active⟩

theorem Attended.idle (attended : Attended sessionId state)
    (missing : state.memory.sessions.lookup sessionId = none) (key : String) :
    state.memory.activeTurns.lookup key = none := by
  cases active : state.memory.activeTurns.lookup key with
  | none => rfl
  | some turn =>
      obtain ⟨session, found, _⟩ := attended.held key turn active
      rw [missing] at found
      cases found

theorem run?_alone {α : Type} (program : BridgeM α) {runId : String}
    (present : state.world.store.run? runId ≠ none) :
    (alone moment program state).2.world.store.run? runId ≠ none :=
  @kept_alone moment state α (fun store => store.run? runId ≠ none)
    (fun call _ => Store.run?_perform call moment) program present

theorem alone_run (runId : String) :
    alone moment (lift (store (.run runId))) state =
      (match state.world.store.run? runId with
        | some run => .ok run
        | none => .error (.keyError ("run not found: " ++ runId)),
        (alone moment (lift (store (.run runId))) state).2) ∧
      Spares state (alone moment (lift (store (.run runId))) state).2 := by
  refine ⟨?_, spares_of_uses (uses_lift (uses_store rfl))⟩
  obtain ⟨after, answered, _⟩ := @alone_store moment state (.run runId)
  rw [answered]
  simp only [Call.perform, Call.body, perform, run, select, Program.bind_call,
    Program.bind_done, exec_select, Option.getD_none, Store.query]
  cases state.world.store.run? runId with
  | none => rfl
  | some run => rfl

/-- A session of its own gets a new run, or none. -/
theorem newSession_created {session : ExecutionSession}
    (unnamed : session.runId = none) :
    let outcome := alone moment (SessionBridge.newSession session) state
    outcome.2.memory = state.memory ∧
      ((∃ error, outcome.1 = .error error) ∨
        ∃ opened policy, outcome.1 = .ok opened ∧
          opened.runId = moment.id "run" ∧
          opened.initialStepId = some (moment.id "step") ∧
          state.world.store.run? (moment.id "run") = none ∧
          outcome.2.world.store.run? = Function.update
            state.world.store.run? (moment.id "run")
            (some (createdRun moment none (some session.initialState))) ∧
          outcome.2.world.store.step? = Function.update
            state.world.store.step? (moment.id "step")
            (some (createdStep moment none policy))) := by
  unfold SessionBridge.newSession
  rw [unnamed]
  simp only
  obtain ⟨after, created, memory, moved⟩ := @alone_store moment state
    (.createRun none (some session.initialState) none)
  rcases @performed_createRun state.world.store moment none
    (some session.initialState) none with ⟨error, raised⟩ |
      ⟨policy, freshRun, _, answered, runs, steps⟩
  · rw [raised] at created
    rw [alone_bind_error created]
    exact ⟨memory, .inl ⟨error, rfl⟩⟩
  · rw [answered] at created
    rw [alone_bind_ok created]
    rw [← moved] at runs steps
    obtain ⟨read, spares⟩ := @alone_run moment after (moment.id "run")
    rw [runs, Function.update_self] at read
    simp only
    rw [alone_bind_ok read]
    refine ⟨spares.memory.trans memory, .inr ⟨_, policy, rfl, rfl, rfl,
      freshRun, ?_, ?_⟩⟩
    · exact spares.rows.run?.trans runs
    · exact spares.rows.step?.trans steps

/-- What `_ensure_session` sets up has its run. -/
theorem newSession_cases (session : ExecutionSession) :
    let outcome := alone moment (SessionBridge.newSession session) state
    outcome.2.memory = state.memory ∧ ∀ opened, outcome.1 = .ok opened →
      outcome.2.world.store.run? opened.runId ≠ none := by
  cases named : session.runId with
  | some runId =>
      obtain ⟨answered, spares⟩ := @alone_run moment state runId
      unfold SessionBridge.newSession
      rw [named]
      simp only
      cases found : state.world.store.run? runId with
      | none =>
          rw [found] at answered
          rw [alone_bind_error answered]
          exact ⟨spares.memory, fun opened raised => by cases raised⟩
      | some row =>
          rw [found] at answered
          rw [alone_bind_ok answered, alone_steps_bind]
          refine ⟨spares.memory, fun opened returned => ?_⟩
          cases returned
          rw [Program.pure_eq]
          simp only [alone]
          rw [spares.rows.run?, found]
          exact Option.some_ne_none _
  | none =>
      obtain ⟨memory, raised | ⟨session, policy, answered, own, _, _, runs,
        _⟩⟩ := @newSession_created moment state session named
      · obtain ⟨error, raised⟩ := raised
        refine ⟨memory, fun opened returned => ?_⟩
        rw [raised] at returned
        cases returned
      · refine ⟨memory, fun opened returned => ?_⟩
        rw [answered] at returned
        cases returned
        rw [runs, own, Function.update_self]
        exact Option.some_ne_none _

theorem ensureSession_known {session : ExecutionSession}
    {known : BridgeSession}
    (found : state.memory.sessions.lookup session.sessionId = some known) :
    alone moment (SessionBridge.ensureSession session) state =
      (.ok known, state) := by
  unfold SessionBridge.ensureSession
  rw [alone_recall_bind, found]
  rfl

theorem ensureSession_opened {session : ExecutionSession}
    {opened : BridgeSession}
    (missing : state.memory.sessions.lookup session.sessionId = none)
    (answered : alone moment (SessionBridge.newSession session) state =
      (.ok opened, after)) :
    alone moment (SessionBridge.ensureSession session) state =
      (.ok opened, { after with
        memory := after.memory.openSession session.sessionId opened }) := by
  unfold SessionBridge.ensureSession
  rw [alone_recall_bind, missing]
  simp only
  rw [alone_bind_ok answered]
  rfl

theorem ensureSession_failed {session : ExecutionSession} {error : PyError}
    (missing : state.memory.sessions.lookup session.sessionId = none)
    (raised : alone moment (SessionBridge.newSession session) state =
      (.error error, after)) :
    alone moment (SessionBridge.ensureSession session) state =
      (.error error, after) := by
  unfold SessionBridge.ensureSession
  rw [alone_recall_bind, missing]
  simp only
  rw [alone_bind_error raised]

theorem Attended.ensured (attended : Attended sessionId state)
    {session : ExecutionSession} (own : session.sessionId = sessionId) :
    Attended sessionId
      (alone moment (SessionBridge.ensureSession session) state).2 := by
  subst own
  cases found : state.memory.sessions.lookup session.sessionId with
  | some known =>
      rw [ensureSession_known found]
      exact attended
  | none =>
      obtain ⟨memory, present⟩ := @newSession_cases moment state session
      have idle := attended.idle found
      rcases outcome : alone moment (SessionBridge.newSession session) state
        with ⟨answer, after⟩
      simp only [outcome] at memory present
      cases answer with
      | error error =>
          rw [ensureSession_failed found outcome]
          apply attended_idle
          · intro other known
            rw [memory, found] at known
            cases known
          · intro key
            rw [memory]
            exact idle key
      | ok opened =>
          rw [ensureSession_opened found outcome]
          apply attended_idle
          · intro other known
            simp only [Memory.openSession, AList.lookup_insert] at known
            cases known
            exact present opened rfl
          · intro key
            simp only [Memory.openSession, memory]
            exact idle key

/-! ### A turn that starts -/

/-- What `create_external_step` has done when it has returned. -/
private theorem externalStep_created {runId : String}
    (missing : state.world.store.query
      (.claimable (some runId) moment.tie) = none) :
    let outcome := alone moment
      (lift (store (.createExternalStep runId none none))) state
    outcome.2.memory = state.memory ∧
      ((∃ error, outcome.1 = .error error ∧ Spares state outcome.2) ∨
        (∀ stepId row, state.world.store.step? stepId = some row →
          outcome.2.world.store.step? stepId = some row) ∧
        outcome.2.world.store.run? = state.world.store.runsWith runId
          (RunRow.setStatus .pending) ∧
        Fresh outcome.2.world.store moment.tie runId) := by
  obtain ⟨after, created, memory, moved⟩ := @alone_store moment state
    (.createExternalStep runId none none)
  rw [created]
  refine ⟨memory, ?_⟩
  simp only
  rcases @createExternalStep_cases state.world.store moment runId none none
    with ⟨error, raised⟩ | ⟨run, policy, found, parses, fresh⟩
  · rw [raised] at moved ⊢
    exact .inl ⟨error, rfl, .of_store moved memory⟩
  · obtain ⟨runs, steps⟩ := performed_createExternalStep found parses fresh
    rw [← moved] at runs steps
    refine .inr ⟨fun stepId row present => ?_, runs, ?_⟩
    · rw [steps, Function.update_of_ne, present]
      rintro rfl
      rw [fresh] at present
      cases present
    · intro row later chosen foundLater
      obtain ⟨present, claimable, own⟩ := Store.claimable_found chosen
      rw [runs, Store.runsWith_eq_some] at foundLater
      rw [steps] at present
      rcases foundLater with ⟨_, before, same, rfl⟩ | ⟨different, _⟩
      · rw [found] at same
        cases same
        rw [Function.update_apply] at present
        split at present
        · cases present
          rfl
        · have unclaimable := Store.claimable_eq_none.mp missing _ _ present
            (own runId rfl)
          rw [claimable] at unclaimable
          cases unclaimable
      · exact absurd rfl different

theorem prepareStep_cases (session : BridgeSession) :
    let outcome := alone moment
      (SessionBridge.prepareStep sessionId session) state
    outcome = (.ok (), { state with
      memory := state.memory.openSession sessionId
        { session with initialStepId := none } }) ∨
    outcome = (.ok (), state) ∨
    state.world.store.query (.claimable (some session.runId) moment.tie) =
        none ∧
      outcome.2.memory = state.memory ∧
      ((∃ error, outcome.1 = .error error ∧ Spares state outcome.2) ∨
        (∀ stepId row, state.world.store.step? stepId = some row →
          outcome.2.world.store.step? stepId = some row) ∧
        outcome.2.world.store.run? = state.world.store.runsWith session.runId
          (RunRow.setStatus .pending) ∧
        Fresh outcome.2.world.store moment.tie session.runId) := by
  unfold SessionBridge.prepareStep
  cases session.initialStepId with
  | some stepId => exact .inl rfl
  | none =>
      simp only [alone_steps_bind]
      cases runnable : SessionBridge.nextRunnable
        (state.stepsOf session.runId) with
      | some stepId => exact .inr (.inl rfl)
      | none =>
          have missing : state.world.store.query
              (.claimable (some session.runId) moment.tie) = none :=
            nextRunnable_eq_none.mp runnable
          obtain ⟨memory, outcome⟩ := @externalStep_created moment state
            session.runId missing
          refine .inr (.inr ⟨missing, ?_⟩)
          simp only at memory outcome ⊢
          rw [alone_bind]
          generalize alone moment (lift (store (.createExternalStep
            session.runId none none))) state = result at memory outcome ⊢
          obtain ⟨answer, after⟩ := result
          cases answer with
          | error error =>
              refine ⟨memory, ?_⟩
              rcases outcome with ⟨_, _, spares⟩ | created
              · exact .inl ⟨error, rfl, spares⟩
              · exact .inr created
          | ok stepId =>
              refine ⟨memory, .inr ?_⟩
              rcases outcome with ⟨error, raised, _⟩ | created
              · cases raised
              · exact created

/-- A turn that is prepared finds its session's run, a step that is fresh if
one was, and the turns that were active. -/
theorem Attended.prepared (attended : Attended sessionId state)
    {session : BridgeSession}
    (found : state.memory.sessions.lookup sessionId = some session) :
    let outcome := alone moment
      (SessionBridge.prepareStep sessionId session) state
    Attended sessionId outcome.2 ∧
      (outcome.1 = .ok () →
        (∃ later, outcome.2.memory.sessions.lookup sessionId = some later ∧
          later.runId = session.runId) ∧
        (Fresh state.world.store moment.tie session.runId →
          Fresh outcome.2.world.store moment.tie session.runId)) := by
  rcases @prepareStep_cases sessionId moment state session with same | same |
    ⟨missing, memory, outcome⟩
  · simp only [same]
    refine ⟨⟨?_, ?_⟩, fun _ => ⟨⟨_, AList.lookup_insert _, rfl⟩, id⟩⟩
    · intro other known
      simp only [Memory.openSession, AList.lookup_insert] at known
      cases known
      exact attended.known session found
    · intro key turn active
      obtain ⟨other, known, holds⟩ := attended.held key turn active
      rw [found] at known
      cases known
      exact ⟨_, AList.lookup_insert _, holds⟩
  · simp only [same]
    exact ⟨attended, fun _ => ⟨⟨session, found, rfl⟩, id⟩⟩
  · generalize alone moment (SessionBridge.prepareStep sessionId session)
      state = result at memory outcome
    obtain ⟨answer, after⟩ := result
    simp only at memory outcome ⊢
    rcases outcome with ⟨error, raised, spares⟩ | ⟨steps, runs, fresh⟩
    · refine ⟨attended.spared spares, fun returned => ?_⟩
      rw [raised] at returned
      cases returned
    · refine ⟨⟨?_, ?_⟩, fun _ => ⟨⟨session, ?_, rfl⟩, fun _ => fresh⟩⟩
      · intro other known
        rw [memory] at known
        rw [runs, ne_eq, Store.runsWith_eq_none]
        exact attended.known other known
      · intro key turn active
        rw [memory] at active ⊢
        obtain ⟨other, known, own, ⟨row, present, leased⟩, run, current,
          version⟩ := attended.held key turn active
        refine ⟨other, known, own, ⟨row, steps _ _ present, leased⟩, ?_⟩
        rw [runs]
        by_cases same : other.runId = session.runId
        · exact ⟨run.setStatus .pending, (Store.runsWith_eq_some _).mpr
            (.inl ⟨same, run, current, rfl⟩), version⟩
        · exact ⟨run, (Store.runsWith_eq_some _).mpr (.inr ⟨same, current⟩),
            version⟩
      · rw [memory]
        exact found

theorem grounded_alone {α : Type} (named : moment.id "run" ≠ "")
    (program : BridgeM α) (grounded : state.world.store.Grounded) :
    (alone moment program state).2.world.store.Grounded :=
  kept_alone (fun call _ kept => kept.perform call named) program grounded

/-- The name of a run is none of the texts that `claim_step` takes for no run
at all. -/
theorem named_filter {runId : String} (grounded : state.world.store.Grounded)
    (present : state.world.store.run? runId ≠ none) :
    (some runId).filter (fun text => !text.isEmpty) = some runId := by
  have nonempty : runId ≠ "" := by
    rintro rfl
    exact present grounded.named
  simpa using nonempty

variable {bridge : SessionBridge}

/-- The part of `record_turn_started` from the claim on. -/
def claiming (bridge : SessionBridge) (turn : ExecutionTurn) :
    Option StepClaim → BridgeM String
  | none => .raise (.runtimeError ("no runnable step available for " ++
      bridge.source ++ " turn " ++ turn.turnId))
  | some claim => do
      let active := SessionBridge.activeTurn claim turn.agentRole
      remember (Memory.startTurn (turnKey turn.sessionId turn.turnId) active)
      lift (report (bridge.eventType "turn_started")
        (bridge.turnEvent active "turn_started"
          (bridge.described turn.sessionId (some turn.turnId) turn.metadata)
          turn.agentRole active.stateVersion))
      return active.stepId

theorem startTurn_eq (turn : ExecutionTurn) (session : BridgeSession) :
    bridge.startTurn turn session = (do
      SessionBridge.prepareStep turn.sessionId session
      let claim ← lift (store (.claimStep bridge.worker (some session.runId)
        bridge.leaseSeconds))
      claiming bridge turn claim) := by
  unfold SessionBridge.startTurn
  congr 1
  funext _
  congr 1
  funext claim
  cases claim with
  | none => rfl
  | some claim => rfl

/-- The turn is active by the claim. -/
def activated (turn : ExecutionTurn) (claim : StepClaim)
    (state : BridgeState) : BridgeState :=
  { state with
    memory := state.memory.startTurn (turnKey turn.sessionId turn.turnId)
      (SessionBridge.activeTurn claim turn.agentRole) }

theorem alone_claiming (turn : ExecutionTurn) (claim : StepClaim) :
    Spares (state.activated turn claim)
      (alone moment (claiming bridge turn (some claim)) state).2 := by
  simp only [claiming, alone_remember_bind]
  apply spares_of_uses
  refine (uses_lift (uses_report ?_)).bind fun _ => trivial
  rfl

theorem alone_claimed (grounded : state.world.store.Grounded)
    {session : BridgeSession}
    (present : state.world.store.run? session.runId ≠ none) {row : StepRow}
    (chosen : state.world.store.query
      (.claimable (some session.runId) moment.tie) = some row) (turn : ExecutionTurn) :
    ∃ taken : BridgeState, taken.memory = state.memory ∧
      taken.world.store.run? = state.world.store.runsWith row.runId
        (RunRow.setStatus .running) ∧
      taken.world.store.step? = state.world.store.stepsWith row.stepId
        (StepRow.claim bridge.worker (moment.id "lease")
          (moment.now + bridge.leaseSeconds) (row.attempt + 1)) ∧
      Spares (taken.activated turn (row.claimBy moment bridge.leaseSeconds))
        (alone moment (do
          let claim ← lift (store (.claimStep bridge.worker
            (some session.runId) bridge.leaseSeconds))
          claiming bridge turn claim) state).2 := by
  have filtered := named_filter grounded present
  obtain ⟨taken, claimed, memory, moved⟩ := @alone_store moment state
    (.claimStep bridge.worker (some session.runId) bridge.leaseSeconds)
  obtain ⟨answered, runs, steps⟩ := @performed_claimStep_some
    state.world.store moment bridge.worker (some session.runId)
    bridge.leaseSeconds row (by rw [filtered, chosen])
  rw [answered] at claimed
  rw [← moved] at runs steps
  refine ⟨taken, memory, runs, steps, ?_⟩
  rw [alone_bind_ok claimed]
  exact alone_claiming turn _

/-- The turn that a claim makes active is attended to, if its step was
fresh. -/
theorem Attended.claimed (attended : Attended sessionId state)
    (grounded : state.world.store.Grounded) {session : BridgeSession}
    (found : state.memory.sessions.lookup sessionId = some session)
    (fresh : Fresh state.world.store moment.tie session.runId) (turn : ExecutionTurn)
    (lone : (alone moment (do
      let claim ← lift (store (.claimStep bridge.worker (some session.runId)
        bridge.leaseSeconds))
      claiming bridge turn claim) state).2.memory.Lone) :
    Attended sessionId (alone moment (do
      let claim ← lift (store (.claimStep bridge.worker (some session.runId)
        bridge.leaseSeconds))
      claiming bridge turn claim) state).2 := by
  have present := attended.known session found
  cases chosen : state.world.store.query
      (.claimable (some session.runId) moment.tie) with
  | none =>
      obtain ⟨taken, claimed, memory, moved⟩ := @alone_store moment state
        (.claimStep bridge.worker (some session.runId) bridge.leaseSeconds)
      have idle := @performed_claimStep_none state.world.store moment
        bridge.worker (some session.runId) bridge.leaseSeconds
        (by rw [named_filter grounded present, chosen])
      rw [idle] at claimed moved
      rw [alone_bind_ok claimed]
      exact attended.spared (.of_store moved memory)
  | some row =>
      obtain ⟨foundRow, _, own⟩ := Store.claimable_found chosen
      replace own := own session.runId rfl
      obtain ⟨taken, memory, runs, steps, spares⟩ := @alone_claimed moment
        state bridge grounded session present row chosen turn
      refine Attended.spared ⟨?_, ?_⟩ spares
      · intro other known
        replace known : taken.memory.sessions.lookup sessionId =
          some other := known
        rw [memory] at known
        change taken.world.store.run? other.runId ≠ none
        rw [runs, ne_eq, Store.runsWith_eq_none]
        exact attended.known other known
      · intro key active activeKey
        rw [spares.memory] at lone
        have started : (taken.activated turn (row.claimBy moment
            bridge.leaseSeconds)).memory.activeTurns.lookup
              (turnKey turn.sessionId turn.turnId) = some _ :=
          AList.lookup_insert _
        obtain ⟨_, rfl⟩ := lone.same activeKey started
        obtain ⟨run, foundRun⟩ := Option.ne_none_iff_exists'.mp present
        refine ⟨session, ?_, own, ⟨row.claim bridge.worker (moment.id "lease")
          (moment.now + bridge.leaseSeconds) (row.attempt + 1), ?_, rfl, rfl⟩,
          run.setStatus .running, ?_, ?_⟩
        · change taken.memory.sessions.lookup sessionId = some session
          rw [memory]
          exact found
        · change taken.world.store.step? row.stepId = _
          rw [steps]
          exact (Store.stepsWith_eq_some _).mpr (.inl ⟨rfl, row, foundRow, rfl⟩)
        · change taken.world.store.run? session.runId = _
          rw [runs]
          exact (Store.runsWith_eq_some _).mpr
            (.inl ⟨own.symm, run, foundRun, rfl⟩)
        · exact (fresh row run chosen foundRun).symm

theorem Attended.startTurn (attended : Attended sessionId state)
    (grounded : state.world.store.Grounded) (named : moment.id "run" ≠ "")
    {session : BridgeSession}
    (found : state.memory.sessions.lookup sessionId = some session)
    (fresh : Fresh state.world.store moment.tie session.runId) {turn : ExecutionTurn}
    (own : turn.sessionId = sessionId)
    (lone : (alone moment (bridge.startTurn turn session)
      state).2.memory.Lone) :
    Attended sessionId (alone moment (bridge.startTurn turn session)
      state).2 := by
  subst own
  rw [startTurn_eq] at lone ⊢
  obtain ⟨prepared, ready⟩ := @Attended.prepared turn.sessionId moment state
    attended session found
  have groundedAfter := @grounded_alone moment state Unit named
    (SessionBridge.prepareStep turn.sessionId session) grounded
  rcases outcome : alone moment
    (SessionBridge.prepareStep turn.sessionId session) state with
      ⟨answer, after⟩
  simp only [outcome] at prepared ready groundedAfter
  cases answer with
  | error error =>
      rw [alone_bind_error outcome]
      exact prepared
  | ok _ =>
      obtain ⟨⟨later, foundLater, same⟩, freshAfter⟩ := ready rfl
      rw [alone_bind_ok outcome, ← same] at lone ⊢
      rw [← same] at freshAfter
      exact prepared.claimed groundedAfter foundLater
        (freshAfter (same ▸ fresh)) turn lone

theorem fresh_created {store : Store} (grounded : state.world.store.Grounded)
    {initialState : Option Fields} {policy : RetryPolicy}
    (freshRun : state.world.store.run? (moment.id "run") = none)
    (runs : store.run? = Function.update state.world.store.run?
      (moment.id "run") (some (createdRun moment none initialState)))
    (steps : store.step? = Function.update state.world.store.step?
      (moment.id "step") (some (createdStep moment none policy))) :
    Fresh store moment.tie (moment.id "run") := by
  intro row run chosen foundRun
  obtain ⟨present, _, own⟩ := Store.claimable_found chosen
  rw [runs, Function.update_self] at foundRun
  cases foundRun
  rw [steps, Function.update_apply] at present
  split at present
  · cases present
    rfl
  · have parent := grounded.parents _ row present
    rw [own _ rfl] at parent
    exact absurd freshRun parent

theorem Attended.turnStarted (attended : Attended sessionId state)
    (grounded : state.world.store.Grounded) (named : moment.id "run" ≠ "")
    {turn : ExecutionTurn} (own : turn.sessionId = sessionId)
    (fresh : state.memory.activeTurns.lookup
        (turnKey turn.sessionId turn.turnId) = none →
      ∀ session, state.memory.sessions.lookup sessionId = some session →
        Fresh state.world.store moment.tie session.runId)
    (lone : (alone moment (bridge.recordTurnStarted turn)
      state).2.memory.Lone) :
    Attended sessionId
      (alone moment (bridge.recordTurnStarted turn) state).2 := by
  subst own
  unfold SessionBridge.recordTurnStarted at lone ⊢
  rw [alone_recall_bind] at lone ⊢
  cases active : state.memory.activeTurns.lookup
    (turnKey turn.sessionId turn.turnId) with
  | some turn => exact attended
  | none =>
      simp only [active] at lone ⊢
      cases found : state.memory.sessions.lookup turn.sessionId with
      | some session =>
          have known := @ensureSession_known moment state
            { sessionId := turn.sessionId } session found
          rw [alone_bind_ok known] at lone ⊢
          exact attended.startTurn grounded named found
            (fresh active session found) rfl lone
      | none =>
          have ensured := @Attended.ensured turn.sessionId moment state
            attended { sessionId := turn.sessionId } rfl
          have groundedAfter := @grounded_alone moment state _ named
            (SessionBridge.ensureSession { sessionId := turn.sessionId })
            grounded
          obtain ⟨memory, created⟩ := @newSession_created moment state
            { sessionId := turn.sessionId } rfl
          rcases outcome : alone moment (SessionBridge.newSession
            { sessionId := turn.sessionId }) state with ⟨answer, after⟩
          simp only [outcome] at memory created
          rcases created with ⟨error, rfl⟩ | ⟨opened, policy, rfl, ownRun, _,
            freshRun, runs, steps⟩
          · have failed := ensureSession_failed found outcome
            rw [alone_bind_error failed]
            rw [failed] at ensured
            exact ensured
          · have known := ensureSession_opened found outcome
            rw [alone_bind_ok known] at lone ⊢
            rw [known] at ensured groundedAfter
            refine @Attended.startTurn turn.sessionId moment _ bridge ensured
              groundedAfter named opened (AList.lookup_insert _) ?_ turn rfl
              lone
            rw [ownRun]
            exact fresh_created grounded freshRun runs steps

/-! ### A turn that ends -/

theorem alone_report (name : String) (args : EventArgs) :
    ∃ after, alone moment (lift (report name args)) state = (.ok (), after) ∧
      Spares state after := by
  have spares := @spares_of_uses moment state Unit (lift (report name args))
    (uses_lift (uses_report rfl))
  obtain ⟨seq, appended⟩ :=
    @Store.perform_appendEvent state.world.store moment name args
  refine ⟨_, Prod.ext ?_ rfl, spares⟩
  rw [alone_lift]
  unfold report
  rw [World.alone_bind, World.alone_store]
  rcases performed : state.world.perform 0 (.appendEvent name args) moment
    with ⟨answer, world⟩
  have same : answer = .ok seq :=
    (congrArg Prod.fst performed).symm.trans appended
  rw [same]
  rfl

theorem requireTurn_active {turnId : String} {active : LeasedTurn}
    (found : state.memory.activeTurns.lookup (turnKey sessionId turnId) =
      some active) :
    alone moment (bridge.requireTurn sessionId turnId) state =
      (.ok active, state) := by
  unfold SessionBridge.requireTurn
  rw [alone_recall_bind, found]
  rfl

theorem requireTurn_missing {turnId : String}
    (missing : state.memory.activeTurns.lookup (turnKey sessionId turnId) =
      none) :
    ∃ error, alone moment (bridge.requireTurn sessionId turnId) state =
      (.error error, state) := by
  unfold SessionBridge.requireTurn
  rw [alone_recall_bind, missing]
  exact ⟨_, rfl⟩

/-- A turn whose commit the store accepts is completed, and is over. -/
theorem turnCompleted {turn : ExecutionTurn} {active : LeasedTurn}
    (found : state.memory.activeTurns.lookup
      (turnKey turn.sessionId turn.turnId) = some active)
    {row : StepRow} {run : RunRow}
    (accepts : state.world.store.Accepts moment.now
      (bridge.commitArgs turn active) row run) :
    let outcome := alone moment (bridge.recordTurnCompleted turn) state
    outcome.1 = .ok (active.stateVersion + 1) ∧
      outcome.2.memory =
        state.memory.endTurn (turnKey turn.sessionId turn.turnId) ∧
      outcome.2.world.store.run? = state.world.store.runsWith active.runId
        (RunRow.commit (mergePatch run.state (.obj turn.statePatch))
          (active.stateVersion + 1)) := by
  obtain ⟨after, committed, memory, moved⟩ := @alone_store moment state
    (.commitStatePatch (bridge.commitArgs turn active))
  have answered := @perform_commitStatePatch state.world.store moment _ _ _
    accepts
  obtain ⟨runs, _⟩ := performed_commitStatePatch accepts
  have version : ((Call.commitStatePatch (bridge.commitArgs turn
      active)).perform moment state.world.store).1 =
      .ok (active.stateVersion + 1) := congrArg Prod.fst answered
  rw [version] at committed
  rw [← moved] at runs
  unfold SessionBridge.recordTurnCompleted
  rw [alone_bind_ok (requireTurn_active found), alone_bind_ok committed]
  obtain ⟨later, reported, spares⟩ := @alone_report moment after
    (bridge.eventType "turn_completed")
    (bridge.turnEvent active "turn_completed"
      (bridge.described turn.sessionId (some turn.turnId) turn.metadata)
      active.agentRole (active.stateVersion + 1))
  rw [alone_bind_ok reported, alone_remember_bind]
  refine ⟨rfl, ?_, ?_⟩
  · simp only [Program.pure_eq, alone]
    rw [spares.memory, memory]
  · exact spares.rows.run?.trans runs

/-- What `commit_state_patch` asks of a turn that is attended to, is that its
lease has not run out. -/
theorem Holds.accepts {turn : ExecutionTurn} {active : LeasedTurn}
    {runId : String} (holds : Holds state.world.store runId active)
    {row : StepRow} (found : state.world.store.step? active.stepId = some row)
    (unexpired : ∀ leaseUntil, row.leaseUntil = some leaseUntil →
      ¬ leaseUntil < moment.now) :
    ∃ run, state.world.store.Accepts moment.now (bridge.commitArgs turn active)
      row run := by
  obtain ⟨own, ⟨leased, present, token, running⟩, run, foundRun, version⟩ :=
    holds
  rw [found] at present
  cases present
  refine ⟨run, ⟨found, token, running, unexpired⟩, ?_, version⟩
  change state.world.store.run? active.runId = some run
  rw [own]
  exact foundRun

theorem Attended.ended (attended : Attended sessionId state)
    (lone : state.memory.Lone) {key : String} {active : LeasedTurn}
    (found : state.memory.activeTurns.lookup key = some active)
    (memory : after.memory = state.memory.endTurn key)
    (runs : ∀ runId, state.world.store.run? runId ≠ none →
      after.world.store.run? runId ≠ none) : Attended sessionId after := by
  apply attended_idle
  · intro session known
    rw [memory] at known
    exact runs session.runId (attended.known session known)
  · intro other
    rw [memory]
    exact lone.ended found other

theorem Attended.turnCompleted (attended : Attended sessionId state)
    (lone : state.memory.Lone) (turn : ExecutionTurn) :
    Attended sessionId
      (alone moment (bridge.recordTurnCompleted turn) state).2 := by
  cases found : state.memory.activeTurns.lookup
    (turnKey turn.sessionId turn.turnId) with
  | none =>
      obtain ⟨error, raised⟩ :=
        @requireTurn_missing turn.sessionId moment state bridge _ found
      unfold SessionBridge.recordTurnCompleted
      rw [alone_bind_error raised]
      exact attended
  | some active =>
      by_cases accepted : ∃ row run, state.world.store.Accepts moment.now
          (bridge.commitArgs turn active) row run
      · obtain ⟨row, run, accepts⟩ := accepted
        obtain ⟨_, memory, _⟩ := BridgeState.turnCompleted found accepts
        exact attended.ended lone found memory fun runId present =>
          run?_alone _ present
      · simp only [not_exists] at accepted
        obtain ⟨error, _, refused⟩ := perform_commitStatePatch_refused accepted
        obtain ⟨after, committed, memory, moved⟩ := @alone_store moment state
          (.commitStatePatch (bridge.commitArgs turn active))
        have raised : ((Call.commitStatePatch (bridge.commitArgs turn
            active)).perform moment state.world.store) =
            (.error error, state.world.store) := refused
        rw [raised] at committed moved
        unfold SessionBridge.recordTurnCompleted
        rw [alone_bind_ok (requireTurn_active found),
          alone_bind_error committed]
        exact attended.spared (.of_store moved memory)

section Uses

variable {allowed : Command → Prop} (records : bridge.gateway.Records allowed)

include records

theorem uses_versionOf (runId : String) (active : Option LeasedTurn) :
    (SessionBridge.versionOf runId active).Uses allowed := by
  cases active with
  | none => exact (records.uses_store rfl).bind fun _ => trivial
  | some turn => trivial

theorem uses_storeArtifact (runId : String) (active : Option LeasedTurn)
    (name : String) (content : Json) (metadata : Fields)
    (stateVersion : Int) :
    (bridge.storeArtifact runId active name content metadata
      stateVersion).Uses allowed := by
  apply (records.uses_putJson _).bind
  intro written
  apply (records.uses_store rfl).bind
  intro artifactId
  apply (records.uses_store rfl).bind
  intro run
  apply (records.uses_report _ _).bind
  intro _
  trivial

theorem uses_storeSnapshot (session : BridgeSession)
    (active : Option LeasedTurn) (change : ExecutionStateChange)
    (suffix kind : String) (content : Json) :
    (bridge.storeSnapshot session active change suffix kind content).Uses
      allowed := by
  unfold SessionBridge.storeSnapshot
  split
  · trivial
  · apply (uses_versionOf records _ _).bind
    intro stateVersion
    apply (uses_storeArtifact records _ _ _ _ _ _).bind
    intro artifactId
    trivial

theorem uses_storeSnapshots (session : BridgeSession)
    (active : Option LeasedTurn) (change : ExecutionStateChange) :
    (bridge.storeSnapshots session active change).Uses allowed := by
  apply (uses_storeSnapshot records _ _ _ _ _ _).bind
  intro before
  apply (uses_storeSnapshot records _ _ _ _ _ _).bind
  intro after
  apply (uses_storeSnapshot records _ _ _ _ _ _).bind
  intro diff
  trivial

theorem uses_reportChange (session : BridgeSession)
    (active : Option LeasedTurn) (change : ExecutionStateChange)
    (artifacts : Fields) (newVersion : Option Int) :
    (bridge.reportChange session active change artifacts newVersion).Uses
      allowed := by
  unfold SessionBridge.reportChange
  cases newVersion with
  | some version => exact records.uses_report _ _
  | none =>
      exact (uses_versionOf records _ _).bind fun _ => records.uses_report _ _

theorem uses_reportModelFailure (active : LeasedTurn)
    (failure : ExecutionFailure) :
    (bridge.reportModelFailure active failure).Uses allowed := by
  unfold SessionBridge.reportModelFailure
  split
  · refine (ModelEvidence.uses_recordModelFailure records _ _).bind fun _ => ?_
    trivial
  · trivial

theorem uses_keepArtifact (artifact : ExecutionArtifact)
    (session : BridgeSession) (active : Option LeasedTurn) :
    (bridge.keepArtifact artifact session active).Uses allowed := by
  apply (records.uses_putJson _).bind
  intro written
  apply (records.uses_store rfl).bind
  intro artifactId
  apply (uses_versionOf records _ _).bind
  intro stateVersion
  apply (records.uses_report _ _).bind
  intro _
  trivial

end Uses

/-- The end of a turn whose step is there does not fail. -/
theorem ending_answers {store : Store} {active : LeasedTurn} {row : StepRow}
    (found : store.step? active.stepId = some row)
    (failure : ExecutionFailure) :
    ∃ value, ((SessionBridge.ending active failure).perform moment store).1 =
      .ok value := by
  generalize chosen : SessionBridge.ending active failure = call
  unfold SessionBridge.ending at chosen
  simp only at chosen
  split at chosen
  · subst chosen
    refine ⟨(), ?_⟩
    simp [Call.perform, Call.body, perform, markWaitingHuman, nowTs, select,
      execute, Store.query, found]
  · split at chosen
    · subst chosen
      cases allowed : row.retryPolicy.allowsRetryAfterAttempt row.attempt with
      | true =>
          refine ⟨true, ?_⟩
          simp [Call.perform, Call.body, perform, markRetry, nowTs, select,
            execute, Store.query, found, allowed]
      | false =>
          refine ⟨false, ?_⟩
          simp [Call.perform, Call.body, perform, markRetry, nowTs, select,
            execute, Store.query, found, allowed]
    · subst chosen
      refine ⟨(), ?_⟩
      simp [Call.perform, Call.body, perform, markFailed, nowTs, select,
        execute, Store.query, found]

theorem Attended.failed (attended : Attended sessionId state)
    (lone : state.memory.Lone) (failure : ExecutionFailure) :
    Attended sessionId
      (alone moment (bridge.recordFailure failure) state).2 := by
  have kept (runId : String) (present : state.world.store.run? runId ≠ none) :=
    @run?_alone moment state _ (bridge.recordFailure failure) runId present
  unfold SessionBridge.recordFailure at kept ⊢
  cases found : state.memory.activeTurns.lookup
    (turnKey failure.sessionId failure.turnId) with
  | none =>
      obtain ⟨error, raised⟩ :=
        @requireTurn_missing failure.sessionId moment state bridge _ found
      rw [alone_bind_error raised]
      exact attended
  | some active =>
      rw [alone_bind_ok (requireTurn_active found)] at kept ⊢
      have spares := @spares_of_uses moment state _
        (lift (bridge.reportModelFailure active failure))
        (uses_lift (uses_reportModelFailure
          bridge.gateway.records_quiet active failure))
      rcases reported : alone moment
        (lift (bridge.reportModelFailure active failure)) state with
          ⟨answer, after⟩
      rw [reported] at spares
      cases answer with
      | error error =>
          rw [alone_bind_error reported]
          exact attended.spared spares
      | ok _ =>
          rw [alone_bind_ok reported] at kept ⊢
          cases terminal : failure.terminal with
          | false => exact attended.spared spares
          | true =>
              obtain ⟨session, _, _, ⟨row, present, _⟩, _⟩ :=
                attended.held _ _ found
              rw [← spares.rows.step?] at present
              obtain ⟨value, answered⟩ :=
                @ending_answers moment _ _ _ present failure
              obtain ⟨later, performed, memory, moved⟩ := @alone_store moment
                after (SessionBridge.ending active failure)
              rw [answered] at performed
              simp only [terminal, if_true] at kept ⊢
              rw [alone_bind_ok performed] at kept ⊢
              refine attended.ended lone found ?_ kept
              simp only [BridgeM.remember, alone, act]
              rw [memory, spares.memory]

/-! ### A change of the state -/

theorem activeOf_some {memory : Memory} {turnId : Option String}
    {turn : LeasedTurn} (found : memory.activeOf sessionId turnId = some turn) :
    memory.activeTurns.lookup (turnKey sessionId (turnId.getD "")) =
      some turn := by
  unfold Memory.activeOf nonEmpty at found
  cases turnId with
  | none => cases found
  | some name =>
      simp only [Option.filter] at found
      split at found
      · exact found
      · cases found

/-- The session that `_ensure_session` answers is known, and no turn has
started. -/
theorem ensured_ok {session : ExecutionSession} {opened : BridgeSession}
    (answered : alone moment (SessionBridge.ensureSession session) state =
      (.ok opened, after)) :
    after.memory.sessions.lookup session.sessionId = some opened ∧
      after.memory.activeTurns = state.memory.activeTurns := by
  cases found : state.memory.sessions.lookup session.sessionId with
  | some known =>
      rw [ensureSession_known found] at answered
      cases answered
      exact ⟨found, rfl⟩
  | none =>
      obtain ⟨memory, _⟩ := @newSession_cases moment state session
      rcases outcome : alone moment (SessionBridge.newSession session) state
        with ⟨answer, later⟩
      simp only [outcome] at memory
      cases answer with
      | error error =>
          rw [ensureSession_failed found outcome] at answered
          cases answered
      | ok created =>
          rw [ensureSession_opened found outcome] at answered
          cases answered
          exact ⟨AList.lookup_insert _, by rw [← memory]; rfl⟩

/-- A change that the store accepts moves the run, and the turn it names. -/
theorem alone_applyChange {session : BridgeSession} {run : RunRow}
    (present : state.world.store.run? session.runId = some run)
    (active : Option LeasedTurn) {change : ExecutionStateChange}
    (commits : change.commits = true) :
    ∃ after, alone moment
        (SessionBridge.applyChange session active change) state =
        (.ok (some (run.stateVersion + 1)), after) ∧
      after.memory = (match active with
        | some turn => state.memory.startTurn
            (turnKey change.sessionId (change.turnId.getD ""))
            { turn with stateVersion := run.stateVersion + 1 }
        | none => state.memory) ∧
      after.world.store.run? = state.world.store.runsWith session.runId
        (RunRow.patch (mergePatch run.state (.obj change.patch))
          (run.stateVersion + 1)) ∧
      after.world.store.step? = state.world.store.step? := by
  obtain ⟨answered, runs, steps⟩ := @performed_applySystemStatePatch
    state.world.store moment _ _ present change.patch change.reason
  obtain ⟨moved, performed, memory, same⟩ := @alone_store moment state
    (.applySystemStatePatch session.runId change.patch change.reason)
  rw [answered] at performed
  rw [← same] at runs steps
  unfold SessionBridge.applyChange
  rw [if_pos commits, alone_bind_ok performed]
  cases active with
  | none => exact ⟨moved, rfl, memory, runs, steps⟩
  | some turn =>
      simp only [alone_remember_bind]
      exact ⟨_, rfl, by rw [memory], runs, steps⟩

theorem Attended.applied (attended : Attended sessionId state)
    (lone : state.memory.Lone) {session : BridgeSession}
    (found : state.memory.sessions.lookup sessionId = some session)
    {change : ExecutionStateChange} (own : change.sessionId = sessionId)
    (names : change.commits = true → ∀ key turn,
      state.memory.activeTurns.lookup key = some turn →
      (state.memory.activeOf change.sessionId change.turnId).isSome) :
    Attended sessionId (alone moment (SessionBridge.applyChange session
      (state.memory.activeOf change.sessionId change.turnId) change)
      state).2 := by
  subst own
  cases commits : change.commits with
  | false =>
      unfold SessionBridge.applyChange
      rw [commits]
      exact attended
  | true =>
      obtain ⟨run, present⟩ := Option.ne_none_iff_exists'.mp
        (attended.known session found)
      obtain ⟨after, answered, memory, runs, steps⟩ := @alone_applyChange
        moment state session run present
        (state.memory.activeOf change.sessionId change.turnId) change commits
      rw [answered]
      have known (other : BridgeSession)
          (was : state.memory.sessions.lookup change.sessionId = some other) :
          after.world.store.run? other.runId ≠ none := by
        rw [runs, ne_eq, Store.runsWith_eq_none]
        exact attended.known other was
      cases active : state.memory.activeOf change.sessionId change.turnId with
      | none =>
          rw [active] at memory
          apply attended_idle
          · intro other was
            rw [memory] at was
            exact known other was
          · intro key
            rw [memory]
            cases running : state.memory.activeTurns.lookup key with
            | none => rfl
            | some turn =>
                have named := names commits key turn running
                rw [active] at named
                cases named
      | some turn =>
          have held := activeOf_some active
          rw [active] at memory
          constructor
          · intro other was
            rw [memory] at was
            exact known other was
          · intro key other running
            rw [memory] at running ⊢
            have same : key =
                turnKey change.sessionId (change.turnId.getD "") := by
              by_contra different
              simp only [Memory.startTurn,
                AList.lookup_insert_ne different] at running
              exact different (lone.same running held).1
            subst same
            simp only [Memory.startTurn, AList.lookup_insert] at running
            cases running
            obtain ⟨holding, was, named, leased, _⟩ :=
              attended.held _ _ held
            rw [found] at was
            cases was
            refine ⟨session, found, named, ?_, run.patch (mergePatch run.state
              (.obj change.patch)) (run.stateVersion + 1), ?_, rfl⟩
            · rw [steps]
              exact leased
            · rw [runs]
              exact (Store.runsWith_eq_some _).mpr
                (.inl ⟨rfl, run, present, rfl⟩)

theorem Attended.changed (attended : Attended sessionId state)
    (lone : state.memory.Lone) {change : ExecutionStateChange}
    (own : change.sessionId = sessionId)
    (names : change.commits = true → ∀ key turn,
      state.memory.activeTurns.lookup key = some turn →
      (state.memory.activeOf change.sessionId change.turnId).isSome) :
    Attended sessionId
      (alone moment (bridge.recordStateChange change) state).2 := by
  have ensured := @Attended.ensured sessionId moment state attended
    { sessionId := change.sessionId } own
  unfold SessionBridge.recordStateChange
  rcases outcome : alone moment (SessionBridge.ensureSession
    { sessionId := change.sessionId }) state with ⟨answer, opened⟩
  rw [outcome] at ensured
  cases answer with
  | error error =>
      rw [alone_bind_error outcome]
      exact ensured
  | ok session =>
      obtain ⟨found, activeTurns⟩ := ensured_ok outcome
      rw [own] at found
      rw [alone_bind_ok outcome, alone_recall_bind]
      simp only
      have stored := @spares_of_uses moment opened _ (lift
        (bridge.storeSnapshots session (opened.memory.activeOf
          change.sessionId change.turnId) change))
        (uses_lift (uses_storeSnapshots
          bridge.gateway.records_quiet _ _ _))
      apply holds_bind
      · exact ensured.spared stored
      · intro artifacts after answered kept
        rw [answered] at stored
        have same : opened.memory.activeOf change.sessionId change.turnId =
            after.memory.activeOf change.sessionId change.turnId := by
          rw [stored.memory]
        have sameTurns : after.memory.activeTurns =
            state.memory.activeTurns := by
          rw [stored.memory, activeTurns]
        rw [same]
        apply holds_bind
        · refine kept.applied ?_ ?_ own ?_
          · unfold Memory.Lone
            rw [sameTurns]
            exact lone
          · rw [stored.memory]
            exact found
          · unfold Memory.activeOf
            rw [sameTurns]
            exact names
        · intro newVersion later _ applied
          apply holds_bind
          · exact applied.spared
              (spares_of_uses (uses_lift (uses_reportChange
          bridge.gateway.records_quiet _ _ _ _ _)))
          · intro _ final _ reported
            exact reported

/-! ### The other operations -/

theorem uses_requireTurn (turnId : String) :
    (bridge.requireTurn sessionId turnId).Uses BridgeCommand.quiet := by
  refine ⟨trivial, fun memory => ?_⟩
  simp only [Program.bind]
  split <;> trivial

/-- Once its session is known, an operation that writes no row leaves the
turns as they are. -/
theorem Attended.recorded (attended : Attended sessionId state)
    {session : ExecutionSession} (own : session.sessionId = sessionId)
    {α : Type} {next : BridgeSession → BridgeM α}
    (uses : ∀ opened, (next opened).Uses BridgeCommand.quiet) :
    Attended sessionId (alone moment
      (SessionBridge.ensureSession session >>= next) state).2 := by
  apply holds_bind
  · exact attended.ensured own
  · intro opened after _ kept
    exact kept.spared (spares_of_uses (uses opened))

theorem Attended.sessionStarted (attended : Attended sessionId state)
    {session : ExecutionSession} (own : session.sessionId = sessionId) :
    Attended sessionId
      (alone moment (bridge.recordSessionStarted session) state).2 := by
  unfold SessionBridge.recordSessionStarted
  rw [alone_recall_bind]
  cases state.memory.sessions.lookup session.sessionId with
  | some known => exact attended
  | none =>
      apply attended.recorded own
      intro opened
      apply (uses_lift (bridge.gateway.records_quiet.uses_store rfl)).bind
      intro run
      apply (uses_lift (uses_report rfl)).bind
      intro _
      trivial

theorem Attended.eventRecorded (attended : Attended sessionId state)
    {event : ExecutionEvent} (own : event.sessionId = sessionId) :
    Attended sessionId
      (alone moment (bridge.recordExecutionEvent event) state).2 := by
  refine attended.recorded own fun session => ⟨trivial, fun memory => ?_⟩
  apply (uses_lift (uses_versionOf bridge.gateway.records_quiet _ _)).bind
  intro stateVersion
  exact uses_lift (uses_report rfl)

theorem Attended.artifactRecorded (attended : Attended sessionId state)
    {artifact : ExecutionArtifact} (own : artifact.sessionId = sessionId) :
    Attended sessionId
      (alone moment (bridge.recordArtifact artifact) state).2 := by
  unfold SessionBridge.recordArtifact
  apply holds_bind
  · exact attended.spared (spares_of_uses (uses_lift (uses_orRaise _)))
  · intro _ after _ kept
    refine kept.recorded own fun session => ⟨trivial, fun memory => ?_⟩
    exact uses_lift (uses_keepArtifact bridge.gateway.records_quiet _ _ _)

/-- Within a turn, an operation that writes no row leaves it as it is. -/
theorem Attended.inTurn (attended : Attended sessionId state)
    {session turnId : String} {α : Type} {next : LeasedTurn → RuntimeM α}
    (uses : ∀ active, (next active).Uses Command.quiet) :
    Attended sessionId (alone moment (do
      let active ← bridge.requireTurn session turnId
      lift (next active)) state).2 := by
  apply attended.spared
  apply spares_of_uses
  apply (uses_requireTurn turnId).bind
  intro active
  exact uses_lift (uses active)

/-! ### Sequences of operations -/

/-- What a session is that has its turns one after the other, and its run to
itself. -/
structure Sound (sessionId : String) (state : BridgeState) : Prop where
  grounded : state.world.store.Grounded
  lone : state.memory.Lone
  attended : Attended sessionId state

/-- An operation of the session, after which at most one turn is active.
`new_id` names runs. -/
structure Alone (bridge : SessionBridge) (sessionId : String)
    (state : BridgeState) (label : BridgeOperation × Moment) : Prop where
  own : label.1.sessionId = sessionId
  named : label.2.id "run" ≠ ""
  lone : (bridge.next label state).memory.Lone

/-- A turn that starts takes up a step at the version of its run, and a change
of the state names the turn that is active. -/
def Current (sessionId : String) (state : BridgeState)
    (label : BridgeOperation × Moment) : Prop :=
  match label.1 with
  | .turnStarted turn =>
      state.memory.activeTurns.lookup
        (turnKey turn.sessionId turn.turnId) = none →
      ∀ session, state.memory.sessions.lookup sessionId = some session →
        Fresh state.world.store label.2.tie session.runId
  | .stateChange change =>
      change.commits = true → ∀ key turn,
        state.memory.activeTurns.lookup key = some turn →
        (state.memory.activeOf change.sessionId change.turnId).isSome
  | _ => True

theorem Sound.next (sound : Sound sessionId state)
    {label : BridgeOperation × Moment}
    (alone : Alone bridge sessionId state label)
    (current : Current sessionId state label) :
    Sound sessionId (bridge.next label state) := by
  obtain ⟨operation, moment⟩ := label
  obtain ⟨own, named, lone⟩ := alone
  have attended := sound.attended
  refine ⟨grounded_alone named _ sound.grounded, lone, ?_⟩
  unfold SessionBridge.next at lone ⊢
  cases operation with
  | sessionStarted session => exact attended.sessionStarted own
  | turnStarted turn =>
      exact attended.turnStarted sound.grounded named own current lone
  | turnCompleted turn => exact attended.turnCompleted sound.lone turn
  | modelCall record =>
      exact attended.inTurn fun active =>
        ModelEvidence.uses_recordModelCall bridge.gateway.records_quiet _ _
  | toolProposal proposal =>
      exact attended.inTurn fun active =>
        ModelEvidence.uses_recordToolCallProposal
          bridge.gateway.records_quiet _ _
  | executionEvent event => exact attended.eventRecorded own
  | toolExecution execution =>
      exact attended.inTurn fun active =>
        ExecutionEvidenceBridge.uses_recordToolExecution
          bridge.gateway.routine_quiet (fun _ => rfl) _ _
  | failure report => exact attended.failed sound.lone report
  | stateChange change => exact attended.changed sound.lone own current
  | artifact record => exact attended.artifactRecorded own

theorem sound_opened {store : Store} (grounded : store.Grounded) :
    Sound sessionId (opened store) := by
  refine ⟨grounded, Nat.zero_le _, ⟨?_, ?_⟩⟩
  · intro session found
    cases found
  · intro key turn active
    cases active

/-! ### What an active turn comes to -/

/-- Every active turn has the version of its run, and on a lease that has not
run out it can be completed. -/
structure Completable (bridge : SessionBridge) (state : BridgeState) :
    Prop where
  current : ∀ key active,
    state.memory.activeTurns.lookup key = some active →
    ∃ run, state.world.store.run? active.runId = some run ∧
      run.stateVersion = active.stateVersion
  completes : ∀ (turn : ExecutionTurn) active,
    state.memory.activeTurns.lookup
      (turnKey turn.sessionId turn.turnId) = some active →
    ∀ (moment : Moment) row,
      state.world.store.step? active.stepId = some row →
      (∀ leaseUntil, row.leaseUntil = some leaseUntil →
        ¬ leaseUntil < moment.now) →
      (state.alone moment (bridge.recordTurnCompleted turn)).1 =
          .ok (active.stateVersion + 1) ∧
        ((state.alone moment (bridge.recordTurnCompleted
          turn)).2.world.store.run? active.runId).map RunRow.stateVersion =
          some (active.stateVersion + 1)

theorem Sound.completable (sound : Sound sessionId state) :
    Completable bridge state := by
  constructor
  · intro key active found
    obtain ⟨session, _, own, _, run, present, version⟩ :=
      sound.attended.held key active found
    exact ⟨run, own ▸ present, version⟩
  · intro turn active found moment row present unexpired
    obtain ⟨session, _, holds⟩ := sound.attended.held _ active found
    obtain ⟨run, accepts⟩ := @Holds.accepts moment state bridge turn active _
      holds row present unexpired
    obtain ⟨answered, _, runs⟩ := turnCompleted found accepts
    refine ⟨answered, ?_⟩
    rw [runs, Option.map_eq_some_iff]
    exact ⟨_, (Store.runsWith_eq_some _).mpr
      (.inl ⟨rfl, run, accepts.found, rfl⟩), rfl⟩

/-! ### What goes wrong otherwise -/

/-- Where the run is there, the program answers, and leaves it there. -/
def Answers {α : Type} (moment : Moment) (runId : String)
    (program : RuntimeM α) : Prop :=
  ∀ world : World, world.store.run? runId ≠ none →
    ∃ value after, World.alone moment program world = (.ok value, after) ∧
      after.store.run? runId ≠ none

section Answers

variable {runId : String} {α β : Type}

theorem answers_done (value : α) :
    Answers moment runId (.done value : RuntimeM α) :=
  fun world present => ⟨value, world, rfl, present⟩

theorem Answers.bind {first : RuntimeM α} {next : α → RuntimeM β}
    (answers : Answers moment runId first)
    (rest : ∀ value, Answers moment runId (next value)) :
    Answers moment runId (first >>= next) := by
  intro world present
  obtain ⟨value, after, answered, kept⟩ := answers world present
  rw [World.alone_bind, answered]
  exact rest value after kept

theorem answers_store {call : Call}
    (answers : ∀ store : Store, store.run? runId ≠ none →
      ∃ value, (call.perform moment store).1 = .ok value) :
    Answers moment runId (store call) := by
  intro world present
  obtain ⟨value, answered⟩ := answers world.store present
  refine ⟨value, (world.perform 0 call moment).2, ?_,
    Store.run?_perform call moment present⟩
  rw [World.alone_store]
  exact Prod.ext answered rfl

theorem answers_putJson (gateway : ToolGateway) (value : Json) :
    Answers moment runId (gateway.putJson value) :=
  fun _ present => ⟨_, _, rfl, present⟩

theorem answers_run : Answers moment runId (store (.run runId)) := by
  apply answers_store
  intro store present
  obtain ⟨run, found⟩ := Option.ne_none_iff_exists'.mp present
  refine ⟨run, ?_⟩
  simp [Call.perform, Call.body, perform, AgentLedger.run, select,
    Store.query, found]

theorem answers_createArtifact (args : ArtifactArgs) :
    Answers moment runId (store (.createArtifact args)) := by
  apply answers_store
  intro store _
  refine ⟨moment.id "art", ?_⟩
  simp [Call.perform, Call.body, perform, createArtifact, newId, execute,
    Moment.tell]

theorem answers_report (name : String) (args : EventArgs) :
    Answers moment runId (report name args) := by
  refine (answers_store fun store _ => ?_).bind fun _ => answers_done ()
  exact Store.perform_appendEvent name args

theorem answers_versionOf (active : Option LeasedTurn) :
    Answers moment runId (SessionBridge.versionOf runId active) := by
  cases active with
  | some turn => exact answers_done _
  | none => exact answers_run.bind fun run => answers_done _

theorem answers_storeSnapshot (session : BridgeSession)
    (active : Option LeasedTurn) (change : ExecutionStateChange)
    (suffix kind : String) (content : Json) :
    Answers moment session.runId
      (bridge.storeSnapshot session active change suffix kind content) := by
  unfold SessionBridge.storeSnapshot
  split
  · exact answers_done _
  · apply (answers_versionOf active).bind
    intro stateVersion
    apply Answers.bind
    · apply (answers_putJson bridge.gateway _).bind
      intro written
      apply (answers_createArtifact _).bind
      intro artifactId
      apply answers_run.bind
      intro run
      apply (answers_report _ _).bind
      intro _
      exact answers_done _
    · intro artifactId
      exact answers_done _

theorem answers_storeSnapshots (session : BridgeSession)
    (active : Option LeasedTurn) (change : ExecutionStateChange) :
    Answers moment session.runId
      (bridge.storeSnapshots session active change) := by
  apply (answers_storeSnapshot session active change _ _ _).bind
  intro before
  apply (answers_storeSnapshot session active change _ _ _).bind
  intro after
  apply (answers_storeSnapshot session active change _ _ _).bind
  intro diff
  exact answers_done _

end Answers

/-- A change without the active turn leaves it behind its run. -/
theorem Sound.names (sound : Sound sessionId state)
    {change : ExecutionStateChange} (own : change.sessionId = sessionId)
    (completable : Completable bridge
      (alone moment (bridge.recordStateChange change) state).2)
    (commits : change.commits = true) {key : String} {turn : LeasedTurn}
    (running : state.memory.activeTurns.lookup key = some turn) :
    (state.memory.activeOf change.sessionId change.turnId).isSome := by
  cases active : state.memory.activeOf change.sessionId change.turnId with
  | some turn => rfl
  | none =>
      obtain ⟨session, found, named, _, run, present, version⟩ :=
        sound.attended.held key turn running
      have known := @ensureSession_known moment state
        { sessionId := change.sessionId } session (own ▸ found)
      unfold SessionBridge.recordStateChange at completable
      rw [alone_bind_ok known, alone_recall_bind] at completable
      simp only [active] at completable
      have stored := @spares_of_uses moment state _ (lift
        (bridge.storeSnapshots session none change))
        (uses_lift (uses_storeSnapshots
          bridge.gateway.records_quiet _ _ _))
      obtain ⟨artifacts, world, snapshots, _⟩ :=
        @answers_storeSnapshots moment bridge session none change state.world
          (by rw [present]; exact Option.some_ne_none _)
      have lifted := @alone_lift moment state _
        (bridge.storeSnapshots session none change)
      rw [snapshots] at lifted
      rw [lifted] at stored
      rw [alone_bind_ok lifted] at completable
      obtain ⟨after, applied, memory, runs, _⟩ := @alone_applyChange moment
        { state with world := world } session run
        (by rw [stored.rows.run?]; exact present) none change commits
      rw [alone_bind_ok applied] at completable
      have reported := @spares_of_uses moment after (Option Int) (do
          lift (bridge.reportChange session none change artifacts
            (some (run.stateVersion + 1)))
          return some (run.stateVersion + 1))
        ((uses_lift (uses_reportChange
          bridge.gateway.records_quiet _ _ _ _ _)).bind fun _ => trivial)
      obtain ⟨later, foundLater, laterVersion⟩ := completable.current key turn
        (by rw [reported.memory, memory, stored.memory]; exact running)
      rw [reported.rows.run?, runs, Store.runsWith_eq_some, named]
        at foundLater
      rcases foundLater with ⟨_, before, _, rfl⟩ | ⟨different, _⟩
      · simp only [RunRow.patch] at laterVersion
        omega
      · exact absurd rfl different

/-- A turn that takes up a step left behind its run is behind it as well. -/
theorem Sound.fresh (sound : Sound sessionId state) {turn : ExecutionTurn}
    (own : turn.sessionId = sessionId)
    (completable : Completable bridge
      (alone moment (bridge.recordTurnStarted turn) state).2)
    (inactive : state.memory.activeTurns.lookup
      (turnKey turn.sessionId turn.turnId) = none)
    {session : BridgeSession}
    (found : state.memory.sessions.lookup sessionId = some session) :
    Fresh state.world.store moment.tie session.runId := by
  intro row run chosen foundRun
  have present := sound.attended.known session found
  have known := @ensureSession_known moment state
    { sessionId := turn.sessionId } session (own ▸ found)
  unfold SessionBridge.recordTurnStarted at completable
  rw [alone_recall_bind] at completable
  simp only [inactive] at completable
  rw [alone_bind_ok known, startTurn_eq] at completable
  -- the step is there, so that none is created
  have prepared : ∃ prepared : BridgeState,
      alone moment (SessionBridge.prepareStep turn.sessionId session) state =
        (.ok (), prepared) ∧ prepared.world = state.world := by
    rcases @prepareStep_cases turn.sessionId moment state session with
      same | same | ⟨missing, _⟩
    · exact ⟨_, same, rfl⟩
    · exact ⟨_, same, rfl⟩
    · rw [chosen] at missing
      cases missing
  obtain ⟨prepared, answered, world⟩ := prepared
  rw [alone_bind_ok answered] at completable
  obtain ⟨_, _, own⟩ := Store.claimable_found chosen
  obtain ⟨taken, _, runs, _, spares⟩ := @alone_claimed moment prepared bridge
    (world ▸ sound.grounded) session (world ▸ present) row
    (by rw [world]; exact chosen) turn
  obtain ⟨later, foundLater, laterVersion⟩ := completable.current
    (turnKey turn.sessionId turn.turnId) _
    (by rw [spares.memory]; exact AList.lookup_insert _)
  rw [spares.rows.run?] at foundLater
  change taken.world.store.run? row.runId = some later at foundLater
  rw [runs, world, Store.runsWith_eq_some, own _ rfl] at foundLater
  rcases foundLater with ⟨_, before, same, rfl⟩ | ⟨different, _⟩
  · rw [foundRun] at same
    cases same
    exact laterVersion.symm
  · exact absurd rfl different

theorem Sound.current (sound : Sound sessionId state)
    {label : BridgeOperation × Moment}
    (alone : Alone bridge sessionId state label)
    (completable : Completable bridge (bridge.next label state)) :
    Current sessionId state label := by
  obtain ⟨operation, moment⟩ := label
  obtain ⟨own, named, lone⟩ := alone
  cases operation with
  | turnStarted turn =>
      intro inactive session found
      exact sound.fresh own completable inactive found
  | stateChange change =>
      intro commits key turn running
      exact sound.names own completable commits running
  | _ => trivial

/-! ### Conditions that can be tested -/

instance (store : Store) (tie : Nat) (runId : String) :
    Decidable (Fresh store tie runId) :=
  decidable_of_iff
    (((store.query (.claimable (some runId) tie)).all fun row =>
      (store.run? runId).all fun run =>
        decide (row.stateVersion = run.stateVersion)) = true) <| by
    simp only [Fresh, Option.all_eq_true, decide_eq_true_eq]
    exact ⟨fun fresh row run chosen found => fresh row chosen run found,
      fun fresh row chosen run found => fresh row run chosen found⟩

theorem current_turnStarted {turn : ExecutionTurn} :
    Current sessionId state (.turnStarted turn, moment) ↔
      (state.memory.activeTurns.lookup
        (turnKey turn.sessionId turn.turnId)).isNone = true →
      ((state.memory.sessions.lookup sessionId).all fun session =>
        decide (Fresh state.world.store moment.tie session.runId)) = true := by
  simp only [Current, Option.isNone_iff_eq_none, Option.all_eq_true,
    decide_eq_true_eq]

theorem current_stateChange {change : ExecutionStateChange} :
    Current sessionId state (.stateChange change, moment) ↔
      change.commits = true → state.memory.activeTurns.entries ≠ [] →
        (state.memory.activeOf change.sessionId change.turnId).isSome := by
  simp only [Current]
  constructor
  · intro names commits active
    obtain ⟨entry, member⟩ := List.exists_mem_of_ne_nil _ active
    exact names commits entry.1 entry.2 (AList.mem_lookup_iff.mpr member)
  · intro names commits key turn running
    exact names commits
      (List.ne_nil_of_mem (AList.mem_lookup_iff.mp running))

instance (sessionId : String) (state : BridgeState)
    (label : BridgeOperation × Moment) :
    Decidable (Current sessionId state label) :=
  match label with
  | (.turnStarted _, _) => decidable_of_iff _ current_turnStarted.symm
  | (.stateChange _, _) =>
      decidable_of_iff _ current_stateChange.symm
  | (.sessionStarted _, _) => isTrue trivial
  | (.turnCompleted _, _) => isTrue trivial
  | (.modelCall _, _) => isTrue trivial
  | (.toolProposal _, _) => isTrue trivial
  | (.executionEvent _, _) => isTrue trivial
  | (.toolExecution _, _) => isTrue trivial
  | (.failure _, _) => isTrue trivial
  | (.artifact _, _) => isTrue trivial

instance (bridge : SessionBridge) (sessionId : String) (state : BridgeState)
    (label : BridgeOperation × Moment) :
    Decidable (Alone bridge sessionId state label) :=
  decidable_of_iff (label.1.sessionId = sessionId ∧ label.2.id "run" ≠ "" ∧
      (bridge.next label state).memory.Lone)
    ⟨fun ⟨own, named, lone⟩ => ⟨own, named, lone⟩,
      fun ⟨own, named, lone⟩ => ⟨own, named, lone⟩⟩

end BridgeState

open BridgeState in
/-- On a session that has its turns one after the other and its run to itself,
the active turn can be completed throughout exactly when each turn takes up a
step at the version of the run, and each change of the state made during a turn
names it. -/
theorem lone_turn_completes (bridge : SessionBridge) (sessionId : String)
    (history : List (Call × Moment))
    (named : ∀ operation ∈ history, operation.2.id "run" ≠ "")
    (operations : List (BridgeOperation × Moment))
    (alone : Each bridge.next (Alone bridge sessionId)
      (opened (runFrom Store.next Store.empty history)) operations) :
    Always bridge.next (Completable bridge)
        (opened (runFrom Store.next Store.empty history)) operations ↔
      Each bridge.next (Current sessionId)
        (opened (runFrom Store.next Store.empty history)) operations :=
  always_iff_premised (Sound sessionId)
    (fun _ sound => sound.completable)
    (fun _ _ sound alone current => sound.next alone current)
    (fun _ _ sound alone completable => sound.current alone completable)
    (sound_opened (Store.grounded_empty.history named)) alone

/-- A bridge to compute with. -/
def chargeSession : SessionBridge :=
  { toExecutionEvidenceBridge := chargeBridge, appName := "app" }

def startedTurn : ExecutionTurn := { sessionId := "s", turnId := "t" }

def seenChange : ExecutionStateChange :=
  { sessionId := "s"
    reason := "seen"
    patch := [("k", .int 1)] }

def transientFailure : ExecutionFailure :=
  { sessionId := "s"
    turnId := "t"
    errorType := "RateLimit"
    message := "retry later"
    retryable := some true }

/-- Identifiers that end in the time they are made at. -/
def momentAt (now : Nat) : Moment :=
  ⟨now, fun kind => kind ++ "-" ++ toString now, 0⟩

/-- A turn that fails, is taken up again, changes the state and is completed,
and a change before the next one. -/
def retriedTurn : List (BridgeOperation × Moment) :=
  [(.sessionStarted { sessionId := "s" }, momentAt 1),
    (.turnStarted startedTurn, momentAt 2),
    (.failure transientFailure, momentAt 3),
    (.turnStarted startedTurn, momentAt 4),
    (.stateChange { seenChange with turnId := some "t" }, momentAt 5),
    (.turnCompleted startedTurn, momentAt 6),
    (.stateChange seenChange, momentAt 7),
    (.turnStarted { startedTurn with turnId := "u" }, momentAt 8)]

theorem retried_turn_completes :
    Always chargeSession.next (BridgeState.Completable chargeSession)
      (BridgeState.opened (runFrom Store.next Store.empty [])) retriedTurn :=
  (lone_turn_completes chargeSession "s" [] (by simp) retriedTurn
    (by decide)).mpr (by decide)

/-- A step keeps the version of its run at its creation, and a change before
the first turn leaves it behind. -/
def changedFirst : List (BridgeOperation × Moment) :=
  [(.sessionStarted { sessionId := "s" }, momentAt 1),
    (.stateChange seenChange, momentAt 2),
    (.turnStarted startedTurn, momentAt 3)]

def changedLast : BridgeState :=
  runFrom chargeSession.next
    (BridgeState.opened (runFrom Store.next Store.empty [])) changedFirst

theorem changed_before_turn :
    Each chargeSession.next (BridgeState.Alone chargeSession "s")
        (BridgeState.opened (runFrom Store.next Store.empty []))
        changedFirst ∧
      changedLast.world.store.runs.rows.map (·.stateVersion) = [1] ∧
      changedLast.memory.activeTurns.entries.map (·.2.stateVersion) = [0] ∧
      changedLast.world.store.steps.rows.map (·.leaseUntil) =
        [some (3 + chargeSession.leaseSeconds)] ∧
      (changedLast.alone (momentAt 4)
        (chargeSession.recordTurnCompleted startedTurn)).1 =
          .error (versionConflict 0 1) ∧
      ¬ Always chargeSession.next (BridgeState.Completable chargeSession)
        (BridgeState.opened (runFrom Store.next Store.empty []))
        changedFirst := by
  refine ⟨by decide, by decide, by decide, by decide, by rfl, ?_⟩
  intro always
  have outdated : (changedLast.memory.activeTurns.lookup
      (turnKey startedTurn.sessionId startedTurn.turnId)).any (fun active =>
        (changedLast.world.store.run? active.runId).all fun run =>
          decide (run.stateVersion ≠ active.stateVersion)) = true := by
    decide
  obtain ⟨active, found, differs⟩ :=
    (Option.any_eq_true _ _).mp outdated
  obtain ⟨run, present, version⟩ := always.last.current _ active found
  simp only [Option.all_eq_true, decide_eq_true_eq] at differs
  exact differs run present version

end AgentLedger
