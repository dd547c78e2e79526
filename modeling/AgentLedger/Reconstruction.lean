import AgentLedger.Store.Specs
import AgentLedger.TimeTravel

namespace AgentLedger

open Foundation

/-! The state that `inspect` rebuilds from the log against the state of the
run's row, over whole histories of operations. -/

/-! ### What the operations log -/

/-- The types `inspect` takes a patch from. -/
def EventType.replayed : EventType → Bool
  | .runCreated | .stateCommitted | .systemStatePatchApplied => true
  | _ => false

theorem replayEvent_quiet {event : EventRow}
    (quiet : event.type.replayed = false) (blobs : Blobs) (state : Json) :
    replayEvent blobs state event = state := by
  have unpatched (payload : Json) : patchForEvent event.type payload = none := by
    unfold patchForEvent
    split
    · split
      case _ same => simp [same, EventType.replayed] at quiet
      case _ same => simp [same, EventType.replayed] at quiet
      case _ same => simp [same, EventType.replayed] at quiet
      case _ => rfl
    · rfl
  unfold replayEvent
  split
  · rw [unpatched]
  · rfl

theorem replay_quiet {events : List EventRow}
    (quiet : ∀ event ∈ events, event.type.replayed = false) (blobs : Blobs)
    (state : Json) : replay blobs state events = state := by
  induction events with
  | nil => rfl
  | cons event rest ih =>
      have first := replayEvent_quiet (quiet event List.mem_cons_self) blobs
        state
      simp only [replay, List.foldl_cons, first]
      exact ih fun later member => quiet later (List.mem_cons_of_mem _ member)

namespace Store

/-- The state column; of a run that does not exist, nothing. -/
def rowState (store : Store) (runId : String) : Json :=
  ((store.run? runId).map RunRow.state).getD (.obj [])

theorem events_after {statement : Write} (other : statement.isEvent = false)
    (store : Store) : (store.after statement).events = store.events := by
  cases statement with
  | insertEvent row => cases other
  | insertRun row =>
      simp only [after, write]
      split <;> rfl
  | insertStep row =>
      simp only [after, write]
      split
      · split <;> rfl
      · rfl
  | insertApproval row =>
      simp only [after, write]
      split
      · rfl
      · split <;> rfl
  | insertLedger row =>
      simp only [after, write]
      split <;> rfl
  | _ => rfl

theorem events_insertEvent (row : EventRow) (store : Store) :
    (store.after (.insertEvent row)).events = store.events ∨
      (store.after (.insertEvent row)).events = store.events ++ [row] := by
  simp only [after, write]
  split
  · exact .inl rfl
  · exact .inr rfl

theorem log_after {statement : Write} (other : statement.isEvent = false)
    (store : Store) (runId : String) :
    (store.after statement).log runId = store.log runId := by
  rw [log, events_after other, log]

theorem log_append_own {args : EventArgs} {runId : String}
    (own : args.runId = runId) (store : Store) :
    (store.append args).log runId =
      store.log runId ++ [args.row (store.maxSeq args.runId + 1)] := by
  simp [log, append, List.filter_append, EventArgs.row, own]

theorem log_append_other {args : EventArgs} {runId : String}
    (other : args.runId ≠ runId) (store : Store) :
    (store.append args).log runId = store.log runId := by
  simp [log, append, List.filter_append, EventArgs.row, other]

/-- `create_run` is not refused. -/
def Creates (store : Store) (moment : Moment) (retryPolicy : Option Fields) :
    Prop :=
  (∃ policy, RetryPolicy.fromDict retryPolicy = .ok policy) ∧
    store.run? (moment.id "run") = none ∧
    store.step? (moment.id "step") = none

end Store

/-- The log of a run and its row, from those before the operation. -/
inductive Logs (store : Store) (operation : Call × Moment) (after : Store)
    (runId : String) : Prop
  | silent (new : List EventRow) (log : after.log runId = store.log runId ++ new)
      (quiet : ∀ event ∈ new, event.type.replayed = false)
      (row : (after.run? runId).map RunRow.state =
        (store.run? runId).map RunRow.state)
  | patched (patch : Json) (first : EventRow) (rest : List EventRow)
      (log : after.log runId = store.log runId ++ first :: rest)
      (quiet : ∀ event ∈ rest, event.type.replayed = false)
      (tells : ∀ blobs state,
        replayEvent blobs state first = mergePatch state patch)
      (row : (after.run? runId).map RunRow.state =
        some (mergePatch (store.rowState runId) patch))
  | started (sessionId : Option String)
      (initialState retryPolicy : Option Fields)
      (call : operation.1 = .createRun sessionId initialState retryPolicy)
      (creates : store.Creates operation.2 retryPolicy)
      (named : runId = operation.2.id "run") (first : EventRow)
      (rest : List EventRow)
      (log : after.log runId = store.log runId ++ first :: rest)
      (quiet : ∀ event ∈ rest, event.type.replayed = false)
      (tells : ∀ blobs state, replayEvent blobs state first =
        mergePatch state (.obj (initialState.getD [])))
      (row : (after.run? runId).map RunRow.state =
        some (.obj (initialState.getD [])))

section Logs

variable {store : Store} {moment : Moment}

/-- The operations whose events `inspect` replays. -/
def Call.mutates : Call → Bool
  | .createRun _ _ _ => true
  | .commitStatePatch _ => true
  | .applySystemStatePatch _ _ _ => true
  | _ => false

private theorem quiet_of_reports {call : Call}
    (other : call.mutates = false) {type : EventType}
    (reports : call.Reports type) : type.replayed = false := by
  cases type with
  | runCreated =>
      obtain ⟨_, _, _, rfl⟩ := reports
      cases other
  | stateCommitted =>
      obtain ⟨_, rfl⟩ := reports
      cases other
  | systemStatePatchApplied =>
      obtain ⟨_, _, _, rfl⟩ := reports
      cases other
  | _ => rfl

/-- All other operations append events that are not replayed, and leave every
state as it is. -/
private theorem logs_of_other {call : Call} (other : call.mutates = false)
    (runId : String) :
    Logs store (call, moment) (call.perform moment store).2 runId := by
  have kept : (∀ other, ((call.perform moment store).2.run? other).map
      RunRow.state = (store.run? other).map RunRow.state) ∧
      ∃ new, (call.perform moment store).2.events = store.events ++ new ∧
        ∀ event ∈ new, event.type.replayed = false := by
    refine Call.perform_keeps (fun state => (∀ other, (state.run? other).map
      RunRow.state = (store.run? other).map RunRow.state) ∧
      ∃ new, state.events = store.events ++ new ∧
        ∀ event ∈ new, event.type.replayed = false) ?_
      ⟨fun _ => rfl, [], by simp⟩
    intro statement state issued _ kept
    obtain ⟨states, new, events, quiet⟩ := kept
    have spared (spares : statement.SparesRows) (other : String) :
        ((state.after statement).run? other).map RunRow.state =
          (state.run? other).map RunRow.state := by
      simp only [Store.run?, (Store.after_of_sparesRows spares state).1]
    have silent (unlogged : statement.isEvent = false)
        (same : ∀ other, ((state.after statement).run? other).map
          RunRow.state = (state.run? other).map RunRow.state) :
        (∀ other, ((state.after statement).run? other).map RunRow.state =
          (store.run? other).map RunRow.state) ∧
        ∃ new, (state.after statement).events = store.events ++ new ∧
          ∀ event ∈ new, event.type.replayed = false :=
      ⟨fun other => (same other).trans (states other), new,
        (Store.events_after unlogged state).trans events, quiet⟩
    cases statement with
    | insertRun row =>
        obtain ⟨_, _, _, _, rfl⟩ := issued
        cases other
    | commitRun _ _ _ _ =>
        obtain ⟨_, _, rfl⟩ := issued
        cases other
    | patchRun _ _ _ _ =>
        obtain ⟨_, _, _, _, rfl⟩ := issued
        cases other
    | insertEvent row =>
        refine ⟨fun other => (spared trivial other).trans (states other), ?_⟩
        rcases Store.events_insertEvent row state with taken | appended
        · exact ⟨new, taken.trans events, quiet⟩
        · refine ⟨new ++ [row], by rw [appended, events, List.append_assoc], ?_⟩
          intro event member
          rcases List.mem_append.mp member with early | last
          · exact quiet event early
          · rw [List.mem_singleton.mp last]
            exact quiet_of_reports other issued
    | setRunStatus runId status =>
        refine silent rfl fun other => ?_
        rw [Store.run?_setRunStatus]
        split
        · cases state.run? other <;> rfl
        · rfl
    | insertStep row =>
        refine silent rfl fun other => ?_
        have same := (show (state.after (.insertStep row)).runs = state.runs by
          simp only [Store.after, Store.write]
          split
          · split <;> rfl
          · rfl)
        simp only [Store.run?, same]
    | insertApproval row => exact silent rfl (spared trivial)
    | insertLedger row => exact silent rfl (spared trivial)
    | _ => exact silent rfl fun other => rfl
  obtain ⟨states, new, events, quiet⟩ := kept
  refine .silent (new.filter fun event => event.runId = runId) ?_ ?_
    (states runId)
  · simp only [Store.log, events, List.filter_append]
  · exact fun event member => quiet event (List.mem_filter.mp member).1

/-- The first event of a run tells its initial state. -/
private theorem log_of_creates {sessionId : Option String}
    {initialState retryPolicy : Option Fields}
    (creates : store.Creates moment retryPolicy) :
    let after := ((Call.createRun sessionId initialState retryPolicy).perform
      moment store).2
    ∃ first rest,
      after.log (moment.id "run") =
          store.log (moment.id "run") ++ first :: rest ∧
        (∀ event ∈ rest, event.type.replayed = false) ∧
        (∀ blobs state, replayEvent blobs state first =
          mergePatch state (.obj (initialState.getD []))) ∧
        (after.run? (moment.id "run")).map RunRow.state =
          some (.obj (initialState.getD [])) := by
  obtain ⟨⟨policy, parses⟩, freshRun, freshStep⟩ := creates
  obtain ⟨_, _, runs, _⟩ := @inserted_created store moment sessionId
    initialState policy freshRun freshStep
  simp only [Call.perform, Call.body,
    perform_createRun parses freshRun freshStep]
  refine ⟨?first, ?rest, ?log, ?quiet, ?tells, ?row⟩
  case log =>
      rw [Store.log_append_own, Store.log_append_own, Store.log_after,
        Store.log_after]
      · exact List.append_assoc _ _ _
      all_goals rfl
  case quiet =>
      intro event member
      rw [List.mem_singleton.mp member]
      rfl
  case tells => exact fun blobs state => rfl
  case row =>
      simp only [Store.run?_append, runs, Function.update_self,
        Option.map_some]
      rfl

private theorem logs_of_creates {sessionId : Option String}
    {initialState retryPolicy : Option Fields}
    (creates : store.Creates moment retryPolicy) (runId : String) :
    Logs store (.createRun sessionId initialState retryPolicy, moment)
      ((Call.createRun sessionId initialState retryPolicy).perform moment
        store).2 runId := by
  by_cases named : runId = moment.id "run"
  · subst named
    obtain ⟨first, rest, log, quiet, tells, row⟩ :=
      @log_of_creates store moment sessionId initialState retryPolicy creates
    exact .started sessionId initialState retryPolicy rfl creates rfl first
      rest log quiet tells row
  · have other : moment.id "run" ≠ runId := fun same => named same.symm
    obtain ⟨⟨policy, parses⟩, freshRun, freshStep⟩ := creates
    obtain ⟨_, _, runs, _⟩ := @inserted_created store moment sessionId
      initialState policy freshRun freshStep
    simp only [Call.perform, Call.body,
      perform_createRun parses freshRun freshStep]
    refine .silent [] ?_ ?_ ?_
    · rw [Store.log_append_other, Store.log_append_other, Store.log_after,
        Store.log_after, List.append_nil]
      all_goals first | rfl | exact other
    · intro event member
      cases member
    · simp only [Store.run?_append, runs, Function.update_of_ne named]

private theorem logs_createRun (sessionId : Option String)
    (initialState retryPolicy : Option Fields) (runId : String) :
    Logs store (.createRun sessionId initialState retryPolicy, moment)
      ((Call.createRun sessionId initialState retryPolicy).perform moment
        store).2 runId := by
  by_cases creates : store.Creates moment retryPolicy
  · exact logs_of_creates creates runId
  · have refused : (∀ policy, RetryPolicy.fromDict retryPolicy ≠
        .ok policy) ∨ store.run? (moment.id "run") ≠ none ∨
          store.step? (moment.id "step") ≠ none := by
      simp only [Store.Creates, not_and_or, not_exists] at creates
      exact creates
    obtain ⟨error, raised⟩ := @perform_createRun_refused store moment
      sessionId initialState retryPolicy refused
    simp only [Call.perform, Call.body, raised]
    exact .silent [] (by simp) (by simp) rfl

private theorem logs_commitStatePatch (args : CommitArgs) (runId : String) :
    Logs store (.commitStatePatch args, moment)
      ((Call.commitStatePatch args).perform moment store).2 runId := by
  by_cases accepted : ∃ row run, store.Accepts moment.now args row run
  · obtain ⟨row, run, accepts⟩ := accepted
    have runs := (performed_commitStatePatch accepts).1
    simp only [Call.perform, Call.body, perform_commitStatePatch accepts]
      at runs ⊢
    by_cases named : runId = args.runId
    · subst named
      refine .patched (.obj args.patch) ?first ?rest ?log ?quiet ?tells ?row
      case log =>
          rw [Store.log_append_own, Store.log_append_own, Store.log_after,
            Store.log_after]
          · exact List.append_assoc _ _ _
          all_goals rfl
      case quiet =>
          intro event member
          rw [List.mem_singleton.mp member]
          rfl
      case tells => exact fun blobs state => rfl
      case row =>
          rw [runs]
          simp [Store.runsWith, accepts.found, RunRow.commit, Store.rowState]
    · have other : args.runId ≠ runId := fun same => named same.symm
      refine .silent [] ?_ ?_ ?_
      · rw [Store.log_append_other, Store.log_append_other, Store.log_after,
          Store.log_after, List.append_nil]
        all_goals first | rfl | exact other
      · intro event member
        cases member
      · rw [runs]
        simp [Store.runsWith, named]
  · simp only [not_exists] at accepted
    obtain ⟨error, _, raised⟩ := perform_commitStatePatch_refused accepted
    simp only [Call.perform, Call.body, raised]
    exact .silent [] (by simp) (by simp) rfl

private theorem logs_applySystemStatePatch (named : String) (patch : Fields)
    (reason : String) (runId : String) :
    Logs store (.applySystemStatePatch named patch reason, moment)
      ((Call.applySystemStatePatch named patch reason).perform moment
        store).2 runId := by
  simp only [Call.perform, Call.body]
  cases found : store.run? named with
  | none =>
      obtain ⟨error, raised⟩ := @perform_applySystemStatePatch_missing store
        moment named found patch reason
      rw [raised]
      exact .silent [] (by simp) (by simp) rfl
  | some run =>
      rw [perform_applySystemStatePatch found]
      by_cases same : runId = named
      · subst same
        refine .patched (.obj patch) ?first [] ?log ?quiet ?tells ?row
        case log =>
            rw [Store.log_append_own, Store.log_after]
            all_goals rfl
        case quiet =>
            intro event member
            cases member
        case tells => exact fun blobs state => rfl
        case row => simp [found, RunRow.patch, Store.rowState]
      · have other : named ≠ runId := fun equal => same equal.symm
        refine .silent [] ?_ ?_ ?_
        · rw [Store.log_append_other, Store.log_after, List.append_nil]
          all_goals first | rfl | exact other
        · intro event member
          cases member
        · simp [same]

theorem Call.logs (call : Call) (moment : Moment) (store : Store)
    (runId : String) :
    Logs store (call, moment) (call.perform moment store).2 runId := by
  cases call with
  | createRun sessionId initialState retryPolicy =>
      exact logs_createRun sessionId initialState retryPolicy runId
  | commitStatePatch args => exact logs_commitStatePatch args runId
  | applySystemStatePatch named patch reason =>
      exact logs_applySystemStatePatch named patch reason runId
  | _ => exact logs_of_other rfl runId

end Logs

/-! ### The log agrees with the rows -/

/-- The initial state is a JSON object. -/
def Call.CanonicalStart : Call → Prop
  | .createRun _ initialState _ => (Json.obj (initialState.getD [])).Canonical
  | _ => True

namespace Store

/-- The sequence numbers of every run ascend. -/
def Numbered (store : Store) : Prop :=
  ∀ runId, Ascending (store.log runId)

/-- Nothing is replayed of a run that does not exist. -/
def Unborn (store : Store) : Prop :=
  ∀ runId, store.run? runId = none →
    ∀ event ∈ store.log runId, event.type.replayed = false

/-- Replayed from its log, the state of every run is that of its row. -/
def Replays (store : Store) : Prop :=
  ∀ blobs runId,
    replay blobs (.obj []) (store.log runId) = store.rowState runId

/-- A run that is created starts without null members. -/
def StartsPlain (store : Store) : Call × Moment → Prop
  | (.createRun _ initialState retryPolicy, moment) =>
      store.Creates moment retryPolicy →
        NoNulls (.obj (initialState.getD []))
  | _ => True

end Store

theorem Store.Numbered.after {store : Store} (numbered : store.Numbered)
    {statement : Write} (follows : statement.Follows store) :
    (store.after statement).Numbered := by
  intro runId
  cases statement with
  | insertEvent row =>
      rcases Store.events_insertEvent row store with taken | appended
      · rw [Store.log, taken]
        exact numbered runId
      · rw [Store.log, appended, List.filter_append, Ascending,
          List.pairwise_append]
        refine ⟨numbered runId, ?_, ?_⟩
        · exact (List.pairwise_singleton _ row).sublist List.filter_sublist
        · intro event member last added
          have own := List.mem_filter.mp member
          have new := List.mem_filter.mp added
          rw [List.mem_singleton] at new
          obtain ⟨same, named⟩ := new
          subst same
          have below := store.seq_le_maxSeq own.1
          rw [of_decide_eq_true own.2, ← of_decide_eq_true named] at below
          rw [show last.seq = store.maxSeq last.runId + 1 from follows]
          omega
  | _ =>
      rw [Store.log_after rfl]
      exact numbered runId

theorem Store.Numbered.next {store : Store} (numbered : store.Numbered)
    (operation : Call × Moment) : (store.next operation).Numbered :=
  Call.perform_keeps Store.Numbered
    (fun _ _ _ follows kept => kept.after follows) numbered

theorem Store.Unborn.next {store : Store} (unborn : store.Unborn)
    (operation : Call × Moment) : (store.next operation).Unborn := by
  intro runId absent event member
  cases operation.1.logs operation.2 store runId with
  | silent new log quiet row =>
      have before : store.run? runId = none := by
        have states := row
        rw [show (operation.1.perform operation.2 store).2.run? runId = none
          from absent] at states
        exact Option.map_eq_none_iff.mp states.symm
      rw [show (store.next operation).log runId = _ from log] at member
      rcases List.mem_append.mp member with early | late
      · exact unborn runId before event early
      · exact quiet event late
  | patched _ _ _ _ _ _ row =>
      rw [show (operation.1.perform operation.2 store).2.run? runId = none
        from absent] at row
      cases row
  | started _ _ _ _ _ _ _ _ _ _ _ row =>
      rw [show (operation.1.perform operation.2 store).2.run? runId = none
        from absent] at row
      cases row

/-- Of events of which only the first is replayed, every part that starts at
the first makes the same of the state. -/
private theorem replay_part {blobs : Blobs} {state next : Json}
    {first : EventRow} {rest part more : List EventRow}
    (quiet : ∀ event ∈ rest, event.type.replayed = false)
    (tells : replayEvent blobs state first = next)
    (split : first :: rest = part ++ more) (reaches : part ≠ [] ∨ more = []) :
    replay blobs state part = next := by
  cases part with
  | nil =>
      rcases reaches with empty | empty
      · exact absurd rfl empty
      · rw [empty] at split
        cases split
  | cons head tail =>
      rw [List.cons_append, List.cons.injEq] at split
      obtain ⟨same, others⟩ := split
      subst same
      simp only [replay, List.foldl_cons, tells]
      refine replay_quiet (fun event member => quiet event ?_) blobs next
      rw [others]
      exact List.mem_append_left _ member

/-- Once the first of the operation's events is replayed, the state is that of
the row the operation leaves. -/
theorem Logs.appends {store after : Store} {operation : Call × Moment}
    {runId : String} (logs : Logs store operation after runId)
    (canonical : operation.1.CanonicalStart)
    (plain : store.StartsPlain operation) :
    ∃ new, after.log runId = store.log runId ++ new ∧
      ∀ blobs part more, new = part ++ more → part ≠ [] ∨ more = [] →
        replay blobs (store.rowState runId) part = after.rowState runId := by
  cases logs with
  | silent new log quiet row =>
      refine ⟨new, log, fun blobs part more split _ => ?_⟩
      simp only [Store.rowState, row]
      refine replay_quiet (fun event member => quiet event ?_) blobs _
      rw [split]
      exact List.mem_append_left _ member
  | patched patch first rest log quiet tells row =>
      refine ⟨_, log, fun blobs part more split reaches => ?_⟩
      refine replay_part quiet ?_ split reaches
      rw [tells]
      rw [show after.rowState runId = _ from congrArg (Option.getD · _) row]
      rfl
  | started sessionId initialState retryPolicy call creates named first rest
      log quiet tells row =>
      refine ⟨_, log, fun blobs part more split reaches => ?_⟩
      refine replay_part quiet ?_ split reaches
      obtain ⟨performed, moment⟩ := operation
      cases call
      have empty : store.rowState runId = .obj [] := by
        simp only [Store.rowState, named, creates.2.1]
        rfl
      rw [tells, empty, (mergePatch_empty_eq_iff canonical).mpr (plain creates)]
      rw [show after.rowState runId = _ from congrArg (Option.getD · _) row]
      rfl

theorem replay_append (blobs : Blobs) (state : Json)
    (first second : List EventRow) :
    replay blobs state (first ++ second) =
      replay blobs (replay blobs state first) second :=
  List.foldl_append

theorem Store.Replays.next {store : Store} (replays : store.Replays)
    {operation : Call × Moment} (canonical : operation.1.CanonicalStart)
    (plain : store.StartsPlain operation) : (store.next operation).Replays := by
  intro blobs runId
  obtain ⟨new, log, reached⟩ :=
    (operation.1.logs operation.2 store runId).appends canonical plain
  rw [show (store.next operation).log runId = _ from log, replay_append,
    replays blobs runId]
  exact reached blobs new [] (List.append_nil new).symm (.inr rfl)

theorem log_prefix (store : Store) (operations : List (Call × Moment))
    (runId : String) :
    store.log runId <+: (runFrom Store.next store operations).log runId := by
  induction operations generalizing store with
  | nil => exact List.prefix_refl _
  | cons operation rest ih =>
      have first : store.log runId <+: (store.next operation).log runId := by
        cases operation.1.logs operation.2 store runId with
        | silent new log => exact ⟨new, log.symm⟩
        | patched _ first later log => exact ⟨first :: later, log.symm⟩
        | started _ _ _ _ _ _ first later log =>
            exact ⟨first :: later, log.symm⟩
      exact first.trans (ih (store.next operation))

/-! ### Time travel -/

/-- `inspect` shows the state, where the payloads of the run can be fetched. -/
def Store.Shows (store : Store) (runId : String) (atSeq : Option Int)
    (state : Json) : Prop :=
  ∀ blobs includeStates includeDiffs, Readable blobs (store.log runId) →
    ∃ report, inspect blobs ⟨runId, atSeq, includeStates, includeDiffs⟩
      store = .ok report ∧ report.stateAtSeq = state

/-- What one operation of a history leaves can be inspected: the state that
`load_state` returns right away, and, from then on, the state of the row at
each event that the operation appended. -/
structure Reconstructed (earlier reached final : Store) : Prop where
  current : ∀ runId moment loaded,
    ((Call.loadState runId).perform moment reached).1 = .ok loaded →
      reached.Shows runId none loaded.1
  past : ∀ runId run event, reached.run? runId = some run →
    event ∈ reached.events → event ∉ earlier.events → event.runId = runId →
      final.Shows runId (some event.seq) run.state

private theorem filter_upTo {front back : List EventRow} {event : EventRow}
    (ascending : Ascending (front ++ event :: back)) :
    ((front ++ event :: back).filter fun row =>
      decide ((row.seq : Int) ≤ event.seq)) = front ++ [event] := by
  obtain ⟨_, onward, before⟩ := List.pairwise_append.mp ascending
  have later := (List.pairwise_cons.mp onward).1
  have fronts : (front.filter fun row =>
      decide ((row.seq : Int) ≤ event.seq)) = front := by
    refine List.filter_eq_self.mpr fun row member => ?_
    have below := before row member event List.mem_cons_self
    simp only [decide_eq_true_eq]
    omega
  have backs : (back.filter fun row =>
      decide ((row.seq : Int) ≤ event.seq)) = [] := by
    refine List.filter_eq_nil_iff.mpr fun row member => ?_
    have above := later row member
    simp only [decide_eq_true_eq]
    omega
  rw [List.filter_append, List.filter_cons, fronts, backs]
  simp

namespace Store

theorem Replays.shows {store : Store} (numbered : store.Numbered)
    (replays : store.Replays) {runId : String} {run : RunRow}
    (found : store.run? runId = some run) :
    store.Shows runId none run.state := by
  intro blobs includeStates includeDiffs readable
  obtain ⟨report, inspected, state⟩ := @inspect_of_readable blobs
    ⟨runId, none, includeStates, includeDiffs⟩ store (numbered runId) readable
  refine ⟨report, inspected, ?_⟩
  rw [state]
  simp only [Option.isNone_none, Bool.true_or, List.filter_true]
  rw [replays blobs runId]
  simp only [rowState, found]
  rfl

private theorem readable_null (events : List EventRow) :
    Readable (fun _ => .ok .null) events := by
  intro event _
  cases event.payloadRef with
  | inline payload => exact ⟨payload, rfl⟩
  | blob ref => exact ⟨.null, rfl⟩

/-- The converse, with a blob store that answers every reference. -/
theorem replay_of_shows {store : Store} (numbered : store.Numbered)
    {runId : String} {state : Json} (shows_ : store.Shows runId none state) :
    replay (fun _ => .ok .null) (.obj []) (store.log runId) = state := by
  have readable := readable_null (store.log runId)
  obtain ⟨report, inspected, shown⟩ := shows_ _ false false readable
  obtain ⟨other, again, state⟩ := @inspect_of_readable (fun _ => .ok .null)
    ⟨runId, none, false, false⟩ store (numbered runId) readable
  rw [inspected] at again
  cases again
  rw [← shown, state]
  simp

end Store

theorem reconstructed_of_plain {store : Store} (numbered : store.Numbered)
    (replays : store.Replays) {operation : Call × Moment}
    (canonical : operation.1.CanonicalStart)
    (plain : store.StartsPlain operation) (later : List (Call × Moment)) :
    Reconstructed store (store.next operation)
      (runFrom Store.next (store.next operation) later) where
  current := by
    intro runId moment loaded returned
    obtain ⟨run, found, same⟩ := perform_loadState.mp returned
    subst same
    exact (replays.next canonical plain).shows (numbered.next operation) found
  past := by
    intro runId run event found member fresh own blobs states diffs readable
    obtain ⟨new, log, reaches⟩ :=
      (operation.1.logs operation.2 store runId).appends canonical plain
    obtain ⟨more, logged⟩ := log_prefix (store.next operation) later runId
    rw [show (store.next operation).log runId = _ from log] at logged
    have added : event ∈ new := by
      have present : event ∈ (store.next operation).log runId :=
        List.mem_filter.mpr ⟨member, decide_eq_true own⟩
      rw [show (store.next operation).log runId = _ from log] at present
      rcases List.mem_append.mp present with early | late
      · exact absurd (List.mem_filter.mp early).1 fresh
      · exact late
    obtain ⟨front, back, split⟩ := List.append_of_mem added
    have ascending : Ascending ((store.log runId ++ front) ++
        event :: (back ++ more)) := by
      have all := runFrom_invariant
        (fun state label (kept : Store.Numbered state) => kept.next label)
        later (numbered.next operation) runId
      rw [← logged, split] at all
      simpa using all
    have ending : (runFrom Store.next (store.next operation) later).log runId =
        (store.log runId ++ front) ++ event :: (back ++ more) := by
      rw [← logged, split]
      simp
    obtain ⟨report, inspected, state⟩ := @inspect_of_readable blobs
      ⟨runId, some event.seq, states, diffs⟩ _ (ending ▸ ascending) readable
    refine ⟨report, inspected, ?_⟩
    rw [state]
    simp only [ending, Option.isNone_some, Bool.false_or, InspectArgs.selects,
      Option.any_some, filter_upTo ascending]
    rw [List.append_assoc, replay_append, replays blobs runId,
      reaches blobs (front ++ [event]) back (by simp [split])
        (.inl (by simp))]
    have row : (store.next operation).rowState runId = run.state := by
      simp only [Store.rowState, found]
      rfl
    exact row

/-- A run that starts with a null member is not shown as it is. -/
theorem plain_of_reconstructed {store final : Store}
    (numbered : store.Numbered) (unborn : store.Unborn)
    {operation : Call × Moment} (canonical : operation.1.CanonicalStart)
    (reconstructed : Reconstructed store (store.next operation) final) :
    store.StartsPlain operation := by
  obtain ⟨call, moment⟩ := operation
  cases call with
  | createRun sessionId initialState retryPolicy =>
      intro creates
      obtain ⟨first, rest, log, quiet, tells, row⟩ := @log_of_creates store
        moment sessionId initialState retryPolicy creates
      obtain ⟨run, found, state⟩ := Option.map_eq_some_iff.mp row
      have shown := reconstructed.current (moment.id "run") moment _
        (perform_loadState.mpr ⟨run, found, rfl⟩)
      have replayed := Store.replay_of_shows (numbered.next (_, moment)) shown
      rw [show (store.next (_, moment)).log (moment.id "run") = _ from log,
        replay_append, replay_quiet (unborn _ creates.2.1)] at replayed
      simp only [replay, List.foldl_cons, tells] at replayed
      rw [← replay, replay_quiet quiet, state] at replayed
      exact (mergePatch_empty_eq_iff canonical).mp replayed
  | _ => trivial

/-- Every operation of a history leaves what can be inspected exactly when
every run it creates starts without null members. -/
theorem reconstructed_iff (operations : List (Call × Moment))
    (canonical : ∀ operation ∈ operations, operation.1.CanonicalStart) :
    (∀ before operation later, operations = before ++ operation :: later →
      let earlier := runFrom Store.next Store.empty before
      Reconstructed earlier (earlier.next operation)
        (runFrom Store.next (earlier.next operation) later)) ↔
      Each Store.next Store.StartsPlain Store.empty operations := by
  have numbered (before : List (Call × Moment)) :
      (runFrom Store.next Store.empty before).Numbered :=
    runFrom_invariant (fun store label (kept : store.Numbered) =>
      kept.next label) before (fun _ => List.Pairwise.nil :
        Store.empty.Numbered)
  rw [each_iff]
  constructor
  · intro reconstructs before operation later split
    have unborn : (runFrom Store.next Store.empty before).Unborn :=
      runFrom_invariant (fun store label (kept : store.Unborn) =>
        kept.next label) before fun _ _ event member => by cases member
    have own := canonical operation (split ▸ by simp)
    exact plain_of_reconstructed (numbered before) unborn own
      (reconstructs before operation later split)
  · intro plain before operation later split
    have own := canonical operation (split ▸ by simp)
    have replays : (runFrom Store.next Store.empty before).Replays := by
      have each : Each Store.next (fun store operation =>
          operation.1.CanonicalStart ∧ store.StartsPlain operation)
          Store.empty before := by
        rw [each_iff]
        intro first label rest divided
        have whole : operations = first ++ label :: (rest ++ operation :: later) := by
          rw [split, divided]
          simp
        exact ⟨canonical label (whole ▸ by simp),
          plain first label _ whole⟩
      exact @Each.invariant _ _ Store.next _ Store.Replays
        (fun store label kept met => kept.next met.1 met.2) _ _
        (fun _ _ => rfl) each
    exact reconstructed_of_plain (numbered before) replays own
      (plain before operation later split) later

/-- A run whose initial state has a null member, at the top and in an array. -/
def nullStart : Call × Moment :=
  (.createRun none (some [("a", .null), ("b", .arr [.null])]) none,
    ⟨0, fun kind => kind, 0⟩)

theorem reconstructed_iff_of_nullStart :
    (∀ before operation later, [nullStart] = before ++ operation :: later →
      let earlier := runFrom Store.next Store.empty before
      Reconstructed earlier (earlier.next operation)
        (runFrom Store.next (earlier.next operation) later)) ↔
      Each Store.next Store.StartsPlain Store.empty [nullStart] := by
  refine reconstructed_iff [nullStart] ?_
  intro operation member
  rw [List.mem_singleton.mp member]
  refine ⟨fun field member => ?_, trivial, fun _ member => ?_,
    ⟨trivial, trivial⟩, trivial⟩
  · rw [List.mem_singleton.mp member]
    decide
  · cases member

/-- The row keeps the null; the state that is shown lacks it. -/
theorem null_lost_in_replay :
    let store := Store.empty.next nullStart
    (store.run? "run").map RunRow.state =
        some (.obj [("a", .null), ("b", .arr [.null])]) ∧
      (inspect (fun _ => .ok .null) ⟨"run", none, false, false⟩ store).map
          TimeTravelReport.stateAtSeq =
        .ok (.obj [("b", .arr [.null])]) ∧
      ¬ Reconstructed Store.empty store store := by
  have row : ((Store.empty.next nullStart).run? "run").map RunRow.state =
      some (.obj [("a", .null), ("b", .arr [.null])]) := by decide
  have shown : (inspect (fun _ => .ok .null) ⟨"run", none, false, false⟩
      (Store.empty.next nullStart)).map TimeTravelReport.stateAtSeq =
        .ok (.obj [("b", .arr [.null])]) := by decide
  refine ⟨row, shown, fun reconstructed => ?_⟩
  obtain ⟨run, found, state⟩ := Option.map_eq_some_iff.mp row
  obtain ⟨report, inspected, same⟩ := reconstructed.current "run"
    ⟨1, fun kind => kind, 0⟩ _ (perform_loadState.mpr ⟨run, found, rfl⟩)
    (fun _ => .ok .null) false false (Store.readable_null _)
  rw [inspected, Except.map, same, state] at shown
  have lost : (.obj [("a", .null), ("b", .arr [.null])] : Json) =
      .obj [("b", .arr [.null])] := Except.ok.inj shown
  exact absurd lost (by decide)

end AgentLedger
