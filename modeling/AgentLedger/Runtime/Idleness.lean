import AgentLedger.Reconstruction
import AgentLedger.Runtime.Worker
import AgentLedger.Store.Grounding

namespace AgentLedger

open Foundation

/-! What a worker service can conclude from its polls: when there is nothing to
do, and how many steps it has claimed. -/

namespace Serving

/-- The events of every run go on. -/
def Within (serving after : Serving) : Prop :=
  ∀ runId, serving.store.log runId <+: after.store.log runId

theorem Within.refl (serving : Serving) : serving.Within serving :=
  fun _ => List.prefix_refl _

theorem Within.trans {first second third : Serving}
    (before : first.Within second) (later : second.Within third) :
    first.Within third :=
  fun runId => (before runId).trans (later runId)

theorem within_pass (serving : Serving) (operations : List (Call × Moment)) :
    serving.Within (serving.pass operations) :=
  fun runId => log_prefix serving.store operations runId

theorem within_runtimeAct (cmd : Command) (serving : Serving)
    (reply : cmd.Reply) (after : Serving)
    (acted : runtimeAct cmd serving reply after) : serving.Within after := by
  obtain ⟨operations, stepped⟩ := acted
  apply (serving.within_pass operations).trans
  intro runId
  cases cmd with
  | store call =>
      obtain ⟨moment, _, rfl⟩ := stepped
      exact log_prefix _ [(call, moment)] runId
  | _ =>
      cases stepped
      exact List.prefix_refl _

end Serving

theorem Store.tellsClaim_mono {store later : Store} {runId : String}
    (within : store.log runId <+: later.log runId)
    (tells : store.tellsClaim runId = true) : later.tellsClaim runId = true := by
  obtain ⟨row, member, claims⟩ := List.any_eq_true.mp tells
  exact List.any_eq_true.mpr ⟨row, within.subset member, claims⟩

/-! ### One attempt -/

section Attempt

open Serving

variable {serving after : Serving}

theorem ends_orRaise {α : Type} {answer result : Except PyError α}
    (ends : (orRaise answer).Ends runtimeAct serving result after) :
    result = answer ∧ after = serving := by
  cases answer with
  | ok value => exact ends
  | error error => exact ends

theorem ends_store {call : Call} {result : Except PyError call.Result}
    (ends : (store call).Ends runtimeAct serving result after) :
    ∃ operations moment,
      result = (call.perform moment (serving.pass operations).store).1 ∧
        after = (serving.pass operations).perform call moment := by
  obtain ⟨reply, middle, ⟨operations, moment, answered, performed⟩, rest⟩ :=
    ends
  obtain ⟨same, stays⟩ := ends_orRaise rest
  exact ⟨operations, moment, same.trans answered, stays.trans performed⟩

theorem ends_agent {ctx : AgentContext} {state : Json}
    {result : Except PyError Fields}
    (ends : (runAgent ctx state).Ends runtimeAct serving result after) :
    after.stops = serving.stops ∧
      (∀ patch, result = .ok patch → after.seen = serving.seen) ∧
      ∀ error, result = .error error →
        after.seen = serving.seen ++ [.raised] := by
  obtain ⟨reply, between, ⟨operations, worked⟩, answered⟩ := ends
  obtain ⟨rfl, rfl⟩ := ends_orRaise answered
  cases worked
  refine ⟨rfl, ?_, ?_⟩
  · rintro patch rfl
    exact List.append_nil _
  · rintro error rfl
    rfl

theorem seen_of_quiet {call : Call} {result : Except PyError call.Result}
    (quiet : ∀ store : Store, store.observed call = [])
    (ends : (store call).Ends runtimeAct serving result after) :
    after.seen = serving.seen ∧ after.stops = serving.stops := by
  obtain ⟨operations, moment, _, rfl⟩ := ends_store ends
  simp [Serving.perform, Serving.see, Serving.pass, quiet]

theorem refuses_of_commit {args : CommitArgs} {moment : Moment}
    {store : Store} {error : PyError}
    (raised : ((Call.commitStatePatch args).perform moment store).1 =
      .error error) : error.refuses = true := by
  by_cases accepted : ∃ row run, store.Accepts moment.now args row run
  · obtain ⟨row, run, accepts⟩ := accepted
    simp only [Call.perform, Call.body, perform_commitStatePatch accepts]
      at raised
    cases raised
  · simp only [not_exists] at accepted
    obtain ⟨refusal, refuses, performed⟩ :=
      perform_commitStatePatch_refused accepted
    simp only [Call.perform, Call.body, performed] at raised
    cases raised
    exact refuses

private theorem seen_runBody {ctx : AgentContext} {state : Json} {ok : Bool}
    (ends : (runBody ctx state).Ends runtimeAct serving (.ok ok) after) :
    ok = true ∧ after.seen = serving.seen ∧ after.stops = serving.stops := by
  simp only [runBody] at ends
  obtain ⟨patch, middle, ran, rest⟩ := ends.bind_ok
  obtain ⟨version, last, committed, returned⟩ := rest.bind_ok
  obtain ⟨same, stays⟩ := returned
  obtain ⟨stopsRan, seenRan, _⟩ := ends_agent ran
  obtain ⟨seen, stops⟩ := seen_of_quiet (fun _ => rfl) committed
  subst stays
  exact ⟨Except.ok.inj same, seen.trans (seenRan _ rfl), stops.trans stopsRan⟩

/-- What ends the body is the agent, or a refusal of its commit. -/
private theorem seen_runBody_error {ctx : AgentContext} {state : Json}
    {error : PyError}
    (ends : (runBody ctx state).Ends runtimeAct serving (.error error) after) :
    after.stops = serving.stops ∧
      (after.seen = serving.seen ++ [.raised] ∨ error.refuses = true) := by
  simp only [runBody] at ends
  rcases ends.bind_error with ran | ⟨patch, middle, ran, rest⟩
  · obtain ⟨stops, _, seen⟩ := ends_agent ran
    exact ⟨stops, .inl (seen error rfl)⟩
  · obtain ⟨stopsRan, _, _⟩ := ends_agent ran
    rcases rest.bind_error with refused | ⟨version, last, _, returned⟩
    · obtain ⟨_, stops⟩ := seen_of_quiet (fun _ => rfl) refused
      obtain ⟨_, moment, raised, _⟩ := ends_store refused
      exact ⟨stops.trans stopsRan, .inr (refuses_of_commit raised.symm)⟩
    · cases returned.1

/-- A handled exception is none of the store's refusals. -/
private theorem seen_onException {ctx : AgentContext} {error : PyError}
    {ok : Bool}
    (ends : (onException ctx error).Ends runtimeAct serving (.ok ok) after) :
    ok = false ∧ error.refuses = false ∧ after.seen = serving.seen ∧
      after.stops = serving.stops := by
  have handled : ∀ {α : Type} {call : Call} {rest : call.Result → RuntimeM α}
      {value : α}, (∀ store : Store, store.observed call = []) →
      (store call >>= rest).Ends runtimeAct serving (.ok value) after →
      ∃ result middle, (rest result).Ends runtimeAct middle (.ok value) after ∧
        middle.seen = serving.seen ∧ middle.stops = serving.stops := by
    intro α call rest value quiet ends
    obtain ⟨result, middle, called, later⟩ := ends.bind_ok
    exact ⟨result, middle, later, seen_of_quiet quiet called⟩
  unfold onException at ends
  split at ends
  case h_1 cls =>
      obtain ⟨_, middle, ⟨same, rfl⟩, kept⟩ := handled (fun _ => rfl) ends
      exact ⟨Except.ok.inj same, by simp [PyError.refuses, cls], kept⟩
  case h_2 cls =>
      obtain ⟨_, middle, ⟨same, rfl⟩, kept⟩ := handled (fun _ => rfl) ends
      exact ⟨Except.ok.inj same, by simp [PyError.refuses, cls], kept⟩
  case h_3 cls =>
      obtain ⟨_, middle, ⟨same, rfl⟩, kept⟩ := handled (fun _ => rfl) ends
      exact ⟨Except.ok.inj same, by simp [PyError.refuses, cls], kept⟩
  case h_4 =>
      simp only at ends
      split at ends
      case isTrue retryable =>
          obtain ⟨_, middle, ⟨same, rfl⟩, kept⟩ := handled (fun _ => rfl) ends
          refine ⟨Except.ok.inj same, ?_, kept⟩
          unfold classifyException at retryable
          split at retryable <;> simp_all [PyError.refuses]
      case isFalse =>
          obtain ⟨_, middle, ⟨raised, _⟩, _⟩ := handled (fun _ => rfl) ends
          cases raised

/-- With a claim in hand, `run_once` returns `False` where the agent raises. -/
private theorem seen_runClaimed {args : RunOnceArgs} {claim : StepClaim}
    {ok : Bool}
    (ends : (runClaimed args claim).Ends runtimeAct serving (.ok ok) after) :
    after.seen = serving.seen ++ (if ok then [] else [.raised]) ∧
      after.stops = serving.stops := by
  simp only [runClaimed] at ends
  obtain ⟨⟨state, stateVersion, sessionId⟩, loaded, loads, ends⟩ := ends.bind_ok
  obtain ⟨seenLoaded, stopsLoaded⟩ := seen_of_quiet (fun _ => rfl) loads
  obtain ⟨_, started, reports, ends⟩ := ends.bind_ok
  obtain ⟨_, middle, appends, ⟨_, rfl⟩⟩ := Program.Ends.bind_ok reports
  obtain ⟨seenStarted, stopsStarted⟩ := seen_of_quiet (fun _ => rfl) appends
  rw [← seenLoaded, ← stopsLoaded, ← seenStarted, ← stopsStarted]
  rcases ends.tryCatch_ok with ran | ⟨error, failed, raised, handled⟩
  · obtain ⟨rfl, seen, stops⟩ := seen_runBody ran
    exact ⟨by simp [seen], stops⟩
  · obtain ⟨rfl, unrefused, seen, stops⟩ := seen_onException handled
    obtain ⟨stopsFailed, cause⟩ := seen_runBody_error raised
    rcases cause with seenFailed | refuses
    · exact ⟨by simp [seen, seenFailed], stops.trans stopsFailed⟩
    · rw [refuses] at unrefused
      cases unrefused

/-- What a call of `run_once` comes to, where it returns. -/
inductive Attempted (serving : Serving) (runId : Option String) :
    Bool → Serving → Prop
  | nothing (after : Serving) (seen : after.seen = serving.seen ++ [.nothing])
      (stops : after.stops = serving.stops) :
      Attempted serving runId false after
  | claimed (ok : Bool) (after : Serving)
      (seen : after.seen =
        serving.seen ++ .claimed :: if ok then [] else [.raised])
      (stops : after.stops = serving.stops)
      (tells : ∀ wanted, givenRun runId = some wanted →
        after.store.tellsClaim wanted = true) :
      Attempted serving runId ok after

private theorem performed_claimStep_tells {workerId : String}
    {runId : Option String} {leaseSeconds : Int} {moment : Moment}
    {store : Store} {row : StepRow} {wanted : String}
    (chosen : store.query (.claimable (givenRun runId) moment.tie) = some row)
    (named : givenRun runId = some wanted) :
    ((Call.claimStep workerId runId leaseSeconds).perform moment
      store).2.tellsClaim wanted = true := by
  obtain ⟨_, _, own⟩ := Store.claimable_found chosen
  simp only [Call.perform, Call.body, claimStep]
  rw [show (runId.filter fun text => !text.isEmpty) = givenRun runId from rfl,
    perform_claimLoop_some chosen]
  rw [Store.tellsClaim, Store.log_append_own (own wanted named),
    List.any_append, Bool.or_eq_true]
  exact .inr rfl

theorem Store.unclaimable_eq {store : Store} {runId : Option String}
    (tie : Nat) : store.unclaimable runId =
      (store.query (.claimable (givenRun runId) tie)).isNone := by
  rw [Store.unclaimable, Store.query, Bool.eq_iff_iff, List.isEmpty_iff,
    Option.isNone_iff_eq_none, firstBy_eq_none]

theorem ends_runOnce {args : RunOnceArgs} {ok : Bool}
    (ends : (runOnce args).Ends runtimeAct serving (.ok ok) after) :
    Attempted serving args.runId ok after := by
  simp only [runOnce] at ends
  obtain ⟨claim, middle, called, ends⟩ := ends.bind_ok
  obtain ⟨operations, moment, answered, rfl⟩ := ends_store called
  have unclaimable := @Store.unclaimable_eq (serving.pass operations).store
    args.runId moment.tie
  cases chosen : (serving.pass operations).store.query
      (.claimable (givenRun args.runId) moment.tie) with
  | none =>
      rw [chosen, Option.isNone_none] at unclaimable
      rw [performed_claimStep_none chosen] at answered
      cases answered
      obtain ⟨same, rfl⟩ := ends
      cases same
      refine .nothing _ ?_ rfl
      rw [Serving.perform, Serving.see, Store.observed, if_pos unclaimable]
      rfl
  | some row =>
      rw [chosen, Option.isNone_some] at unclaimable
      rw [(performed_claimStep_some chosen).1] at answered
      cases answered
      obtain ⟨seen, stops⟩ := seen_runClaimed ends
      refine .claimed ok after ?_ stops ?_
      · rw [seen, Serving.perform, Serving.see, Store.observed, unclaimable,
          if_neg Bool.false_ne_true, List.append_assoc]
        rfl
      · intro wanted named
        have within := ends.preserves Within.refl Within.trans
          within_runtimeAct wanted
        exact Store.tellsClaim_mono within
          (performed_claimStep_tells chosen named)

end Attempt

/-! ### One poll -/

section Poll

open Serving

variable {serving after : Serving} {runId : Option String}

theorem ends_runtime {α : Type} {program : RuntimeM α}
    {result : Except PyError α}
    (ends : (WorkerM.runtime program).Ends act serving result after) :
    program.Ends runtimeAct serving result after :=
  ends.of_through fun _ _ _ _ acted => acted

theorem givenRun_some {wanted : String} (named : givenRun runId = some wanted) :
    runId = some wanted ∧ givenRun (some wanted) = some wanted := by
  obtain ⟨same, nonempty⟩ := Option.filter_eq_some_iff.mp named
  subst same
  exact ⟨rfl, named⟩

theorem ends_run {named : String} {run : RunRow}
    (ends : (store (.run named)).Ends runtimeAct serving (.ok run) after) :
    after.seen = serving.seen ++ [Store.statusSeen run.status] ∧
      after.stops = serving.stops := by
  obtain ⟨operations, moment, answered, rfl⟩ := ends_store ends
  refine ⟨?_, rfl⟩
  cases found : (serving.pass operations).store.run? named with
  | none =>
      simp [Call.perform, Call.body, AgentLedger.perform, AgentLedger.run,
        select, Store.query, found] at answered
  | some row =>
      simp [Call.perform, Call.body, AgentLedger.perform, AgentLedger.run,
        select, Store.query, found] at answered
      subst answered
      rw [Serving.perform, Serving.see, Store.observed, found]
      rfl

/-- What the last look at the run shows. -/
def closing (runId : Option String) (status : Option Status) :
    List Observation :=
  if (givenRun runId).isSome then
    [if status.any Status.terminal then .ended else .opened]
  else []

theorem ends_finalStatus {status : Option Status}
    (ends : (finalStatus runId).Ends act serving (.ok status) after) :
    after.seen = serving.seen ++ closing runId status ∧
      after.stops = serving.stops := by
  unfold finalStatus at ends
  unfold closing
  split at ends
  case h_1 none_ =>
      obtain ⟨_, rfl⟩ := ends
      simp [none_]
  case h_2 wanted named =>
      obtain ⟨run, middle, ran, returned⟩ := ends.bind_ok
      obtain ⟨seen, stops⟩ := ends_run (ends_runtime ran)
      obtain ⟨same, rfl⟩ := returned
      cases same
      refine ⟨?_, stops⟩
      rw [seen, named]
      rfl

theorem Store.stepRows_any {store : Store} {wanted : String}
    (named : givenRun (some wanted) = some wanted) :
    (store.stepRows wanted).any (fun row => row.status.claimable) =
      !store.unclaimable (some wanted) := by
  rw [Store.unclaimable, named, Bool.eq_iff_iff]
  simp only [List.any_eq_true, Bool.not_eq_true', List.isEmpty_eq_false_iff,
    ne_eq, Store.claimableSteps, List.filter_eq_nil_iff, Store.stepRows,
    List.mem_insertionSort, List.mem_filter, Bool.and_eq_true, Option.all_some,
    decide_eq_true_eq, not_forall, not_not]
  constructor
  · rintro ⟨row, ⟨member, own⟩, claimable⟩
    exact ⟨row, member, claimable, own⟩
  · rintro ⟨row, member, claimable, own⟩
    exact ⟨row, ⟨member, own⟩, claimable⟩

/-- What the look at the run shows that lets `run_until_idle` go on. -/
def opening (runId : Option String) : List Observation :=
  if (givenRun runId).isSome then [.opened] else []

/-- How `run_until_idle` comes to call `run_once`, or not. -/
inductive Stopped (serving : Serving) (runId : Option String) :
    Option String → Serving → Prop
  | goes {after : Serving} (seen : after.seen = serving.seen ++ opening runId)
      (stops : after.stops = serving.stops) :
      Stopped serving runId none after
  | terminal {after : Serving} (given : (givenRun runId).isSome = true)
      (seen : after.seen = serving.seen ++ [.ended])
      (stops : after.stops = serving.stops) :
      Stopped serving runId (some "terminal_status") after
  | idle {after : Serving}
      (seen : after.seen = serving.seen ++ opening runId ++ [.nothing])
      (stops : after.stops = serving.stops) :
      Stopped serving runId (some "idle") after

theorem ends_stopsBefore {reason : Option String}
    (ends : (LocalWorker.stopsBefore runId).Ends act serving (.ok reason)
      after) : Stopped serving runId reason after := by
  unfold LocalWorker.stopsBefore at ends
  split at ends
  case h_1 none_ =>
      obtain ⟨same, rfl⟩ := ends
      cases same
      exact .goes (by simp [opening, none_]) rfl
  case h_2 wanted named =>
      obtain ⟨rfl, again⟩ := givenRun_some named
      obtain ⟨run, middle, ran, later⟩ := ends.bind_ok
      obtain ⟨seen, stops⟩ := ends_run (ends_runtime ran)
      split at later
      case isTrue ended =>
          obtain ⟨same, rfl⟩ := later
          cases same
          rw [Store.statusSeen, if_pos ended] at seen
          exact .terminal (by rw [named]; rfl) seen stops
      case isFalse open_ =>
          rw [Store.statusSeen, if_neg open_] at seen
          obtain ⟨claimable, last, has, returned⟩ := later.bind_ok
          obtain ⟨rows, read, reads, counted⟩ := Program.Ends.bind_ok has
          obtain ⟨reply, between, ⟨operations, rfl, rfl⟩, same, rfl⟩ := reads
          cases same
          obtain ⟨same, rfl⟩ := counted
          rw [Store.stepRows_any again] at same
          obtain ⟨answer, rfl⟩ := returned
          cases same
          have first : opening (some wanted) = [.opened] := by
            rw [opening, named]
            rfl
          cases unclaimable : (middle.pass operations).store.unclaimable
              (some wanted) with
          | true =>
              simp only [unclaimable, Bool.not_true, Bool.false_eq_true,
                if_false, if_true] at answer ⊢
              cases answer
              refine .idle ?_ stops
              rw [first, ← seen]
              rfl
          | false =>
              simp only [unclaimable, Bool.not_false, Bool.false_eq_true,
                if_false, if_true] at answer ⊢
              cases answer
              refine .goes ?_ stops
              rw [first, ← seen]
              exact List.append_nil _

theorem ends_idles {ok idle : Bool}
    (ends : (LocalWorker.idles runId 0 ok).Ends act serving (.ok idle) after) :
    ∃ recalled : Bool, idle = (!ok && !recalled) ∧
      after.seen = serving.seen ++
        (if !ok && recalled then [.recalled] else []) ∧
      after.stops = serving.stops ∧ (recalled = true → runId ≠ none) ∧
      ∀ wanted, runId = some wanted →
        serving.store.tellsClaim wanted = true → recalled = true := by
  unfold LocalWorker.idles at ends
  cases ok with
  | true =>
      obtain ⟨same, rfl⟩ := ends
      cases same
      refine ⟨runId.isSome, rfl, (List.append_nil _).symm, rfl, ?_, ?_⟩
      · rintro some_ rfl
        cases some_
      · rintro wanted rfl _
        rfl
  | false =>
      cases runId with
      | none =>
          obtain ⟨same, rfl⟩ := ends
          cases same
          exact ⟨false, rfl, (List.append_nil _).symm, rfl, nofun, nofun⟩
      | some named =>
          obtain ⟨recent, middle, has, returned⟩ := Program.Ends.bind_ok ends
          obtain ⟨rows, read, reads, counted⟩ := Program.Ends.bind_ok has
          obtain ⟨reply, seen, ⟨operations, rfl, rfl⟩, same, rfl⟩ := reads
          cases same
          obtain ⟨same, rfl⟩ := counted
          obtain ⟨answer, rfl⟩ := returned
          have recent_ : recent =
              (serving.pass operations).store.tellsClaim named := by
            rw [Except.ok.inj same, Bool.eq_iff_iff]
            simp [Store.tellsClaim, Store.eventsOf, List.countP_pos_iff]
          subst recent_
          refine ⟨_, Except.ok.inj answer, rfl, rfl, nofun, ?_⟩
          rintro wanted ⟨⟩ tells
          exact Store.tellsClaim_mono
            (serving.within_pass operations named) tells

/-- What an attempt comes to, and how many it counts. -/
inductive Tried (runId : Option String) : List Observation → Nat → Prop
  | nothing : Tried runId [.nothing] 0
  | committed : Tried runId [.claimed] 1
  | failed (named : runId ≠ none) :
      Tried runId [.claimed, .raised, .recalled] 1
  | missed (unnamed : givenRun runId = none) :
      Tried runId [.claimed, .raised] 0
  | recounted (named : runId ≠ none) : Tried runId [.nothing, .recalled] 1

/-- What is observed in one poll, and how many attempts it counts. -/
inductive Poll (runId : Option String) (status : Option Status) :
    List Observation → Nat → Prop
  | terminal (given : (givenRun runId).isSome = true) :
      Poll runId status (.polled :: .ended :: closing runId status) 0
  | tried {new : List Observation} {attempts : Nat}
      (tried : Tried runId new attempts) :
      Poll runId status
        (.polled :: (opening runId ++ new ++ closing runId status)) attempts

private theorem tried_of_attempted {going attempted after : Serving}
    {ok idle : Bool} (attempt : Attempted going runId ok attempted)
    (judged : (LocalWorker.idles runId 0 ok).Ends act attempted (.ok idle)
      after) :
    ∃ new, after.seen = going.seen ++ new ∧ after.stops = going.stops ∧
      Tried runId new (if idle then 0 else 1) := by
  obtain ⟨recalled, rfl, seen, stops, named, told⟩ := ends_idles judged
  cases attempt with
  | nothing _ seenFirst stopsFirst =>
      rw [seenFirst, List.append_assoc] at seen
      refine ⟨_, seen, stops.trans stopsFirst, ?_⟩
      cases recalled with
      | true => exact .recounted (named rfl)
      | false => exact .nothing
  | claimed _ _ seenFirst stopsFirst tells =>
      rw [seenFirst, List.append_assoc] at seen
      refine ⟨_, seen, stops.trans stopsFirst, ?_⟩
      cases ok with
      | true => exact .committed
      | false =>
          cases recalled with
          | true => exact .failed (named rfl)
          | false =>
              refine .missed ?_
              cases given : givenRun runId with
              | none => rfl
              | some wanted =>
                  cases told wanted (givenRun_some given).1
                    (tells wanted given)

theorem ends_iteration {worker : LocalWorker} (recovers : worker.recoverExpired)
    {start progress : Progress} {stops : Bool} (fresh : start.attempts = 0)
    (ends : (worker.iteration runId start).Ends act serving
      (.ok (progress, stops)) after) :
    ∃ new, after.seen = serving.seen ++ new ∧ after.stops = serving.stops ∧
      ∀ status,
        Poll runId status (new ++ closing runId status) progress.attempts := by
  simp only [LocalWorker.iteration, LocalWorker.recoverLeases, recovers,
    if_true] at ends
  obtain ⟨recovered, polled, called, tested⟩ := ends.bind_ok
  obtain ⟨operations, moment, _, rfl⟩ := ends_store (ends_runtime called)
  obtain ⟨reason, going, tests, later⟩ := tested.bind_ok
  have seen : ((serving.pass operations).perform .recoverExpiredLeases
      moment).seen = serving.seen ++ [.polled] := rfl
  have stops_ : ((serving.pass operations).perform .recoverExpiredLeases
      moment).stops = serving.stops := rfl
  generalize (serving.pass operations).perform .recoverExpiredLeases moment =
    polled at *
  cases ends_stopsBefore tests with
  | terminal given seenNext stopsNext =>
      obtain ⟨same, rfl⟩ := later
      cases same
      refine ⟨[.polled, .ended], ?_, stopsNext.trans stops_, fun status => ?_⟩
      · rw [seenNext, seen, List.append_assoc]
        rfl
      · rw [fresh]
        exact .terminal given
  | idle seenNext stopsNext =>
      obtain ⟨same, rfl⟩ := later
      cases same
      refine ⟨.polled :: (opening runId ++ [.nothing]), ?_,
        stopsNext.trans stops_, fun status => ?_⟩
      · rw [seenNext, seen, List.append_assoc, List.append_assoc]
        rfl
      · rw [fresh]
        exact .tried .nothing
  | goes seenNext stopsNext =>
      obtain ⟨ok, attempted, ran, judged⟩ := Program.Ends.bind_ok later
      obtain ⟨idle, last, counted, returned⟩ := judged.bind_ok
      rw [fresh] at counted
      have counts : after = last ∧ progress.attempts = if idle then 0 else 1 := by
        cases idle with
        | true =>
            obtain ⟨same, rfl⟩ := returned
            cases same
            exact ⟨rfl, fresh⟩
        | false =>
            obtain ⟨same, rfl⟩ := returned
            cases same
            exact ⟨rfl, by simp [fresh]⟩
      obtain ⟨rfl, attempts⟩ := counts
      rw [attempts]
      have attempt : Attempted going runId ok attempted :=
        ends_runOnce (ends_runtime ran)
      obtain ⟨new, seenAfter, stopsAfter, tried⟩ :=
        tried_of_attempted attempt counted
      refine ⟨.polled :: (opening runId ++ new), ?_,
        (stopsAfter.trans stopsNext).trans stops_, fun status => .tried tried⟩
      rw [seenAfter, seenNext, seen, List.append_assoc, List.append_assoc]
      rfl

theorem ends_runUntilIdle {worker : LocalWorker}
    (recovers : worker.recoverExpired) {summary : WorkerRunSummary}
    (ends : (worker.runUntilIdle runId 1).Ends act serving (.ok summary)
      after) :
    ∃ new, after.seen = serving.seen ++ new ∧ after.stops = serving.stops ∧
      Poll runId summary.finalStatus new summary.attempts := by
  simp only [LocalWorker.runUntilIdle] at ends
  obtain ⟨progress, middle, passes, later⟩ := ends.bind_ok
  obtain ⟨status, last, reads, same, rfl⟩ := later.bind_ok
  cases same
  obtain ⟨seenLast, stopsLast⟩ := ends_finalStatus reads
  obtain ⟨⟨passed, stops⟩, between, once, rest⟩ := Program.Ends.bind_ok passes
  have unchanged : middle = between ∧ progress.attempts = passed.attempts := by
    cases stops with
    | true =>
        obtain ⟨same, rfl⟩ := rest
        cases same
        exact ⟨rfl, rfl⟩
    | false =>
        obtain ⟨same, rfl⟩ := rest
        cases same
        exact ⟨rfl, rfl⟩
  obtain ⟨rfl, attempts⟩ := unchanged
  obtain ⟨new, seen, stops_, poll⟩ := ends_iteration recovers rfl once
  refine ⟨new ++ closing runId status, ?_, stopsLast.trans stops_, ?_⟩
  · rw [seenLast, seen, List.append_assoc]
  · simp only [attempts]
    exact poll status

end Poll

/-! ### The service -/

/-- A poll in which no step could be claimed. -/
def FoundNothing (poll : List Observation) : Prop :=
  ∃ rest, poll = .polled :: rest ∧ .polled ∉ rest ∧ .claimed ∉ rest ∧
    .nothing ∈ rest

/-- What the summary tells is so: the service was idle, and has claimed as many
steps as it counts attempts. -/
structure Faithful (maxIdlePolls : Option Int) (summary : WorkerServiceSummary)
    (seen : List Observation) : Prop where
  /-- Behind the last polls there is only the last look at the run. -/
  idle : summary.stoppedReason = "idle" →
    ∃ (most : Int) (front : List Observation)
      (polls : List (List Observation)) (after : List Observation),
    maxIdlePolls = some most ∧ most ≤ Int.ofNat polls.length ∧
      (∀ poll ∈ polls, FoundNothing poll) ∧
      seen = front ++ polls.flatten ++ after ∧
      ∀ observation ∈ after, observation = .ended ∨ observation = .opened
  attempts : summary.attempts = seen.count .claimed

/-- Where a run is given: where nothing could be claimed, the events do not
tell of a claim, and a run that has ended before an attempt is not open again
after it.  Else no agent raises, and no claim is on record for the run whose
identifier is empty. -/
def Quiet (runId : Option String) (seen : List Observation) : Prop :=
  if (givenRun runId).isSome then
    ¬ [.nothing, .recalled] <:+: seen ∧ ¬ [.polled, .ended, .opened] <:+: seen
  else .raised ∉ seen ∧ .recalled ∉ seen

section Service

open Serving

variable {serving after : Serving} {runId : Option String}

/-- What is quiet is so in each of its parts. -/
theorem Quiet.of_infix {part whole : List Observation}
    (quiet : Quiet runId whole) (inside : part <:+: whole) :
    Quiet runId part := by
  unfold Quiet at quiet ⊢
  split at quiet
  · rw [if_pos ‹_›]
    exact ⟨fun found => quiet.1 (found.trans inside),
      fun found => quiet.2 (found.trans inside)⟩
  · rw [if_neg ‹_›]
    exact ⟨fun member => quiet.1 (inside.subset member),
      fun member => quiet.2 (inside.subset member)⟩

theorem Quiet.split {first second : List Observation}
    (quiet : Quiet runId (first ++ second)) :
    Quiet runId first ∧ Quiet runId second :=
  ⟨quiet.of_infix (List.prefix_append _ _).isInfix,
    quiet.of_infix (List.suffix_append _ _).isInfix⟩

/-- The looks at the run are none of the other observations. -/
theorem count_looks {observation : Observation} (ended : observation ≠ .ended)
    (opened : observation ≠ .opened) (status : Option Status) :
    (opening runId).count observation = 0 ∧
      (closing runId status).count observation = 0 := by
  unfold opening closing
  constructor
  · split
    · exact List.count_eq_zero.mpr fun member =>
        opened (List.mem_singleton.mp member)
    · rfl
  · split
    · refine List.count_eq_zero.mpr fun member => ?_
      have same := List.mem_singleton.mp member
      split at same
      · exact ended same
      · exact opened same
    · rfl

theorem count_poll {observation : Observation} (polled : observation ≠ .polled)
    (ended : observation ≠ .ended) (opened : observation ≠ .opened)
    (new : List Observation) (status : Option Status) :
    (.polled :: (opening runId ++ new ++ closing runId status)).count
        observation = new.count observation := by
  obtain ⟨before, behind⟩ := @count_looks runId observation ended opened status
  rw [List.count_cons_of_ne polled.symm, List.count_append, List.count_append,
    before, behind, Nat.zero_add, Nat.add_zero]

/-- The attempts that are counted, with the failures that are not, are the
claims with those of others. -/
theorem Poll.counted {status : Option Status} {new : List Observation}
    {attempts : Nat} (poll : Poll runId status new attempts) :
    attempts + new.count .raised = new.count .claimed + new.count .recalled ∧
      (runId = none → .recalled ∉ new) := by
  cases poll with
  | terminal given =>
      have looks (observation : Observation) (ended : observation ≠ .ended)
          (opened : observation ≠ .opened) :=
        (@count_looks runId observation ended opened status).2
      constructor
      · simp [looks]
      · rintro rfl
        cases given
  | tried tried =>
      rw [← List.count_eq_zero, @count_poll runId .raised nofun nofun nofun,
        @count_poll runId .claimed nofun nofun nofun,
        @count_poll runId .recalled nofun nofun nofun]
      cases tried with
      | failed named => exact ⟨by decide, fun none_ => absurd none_ named⟩
      | recounted named => exact ⟨by decide, fun none_ => absurd none_ named⟩
      | _ => exact ⟨by decide, fun _ => by decide⟩

/-- A quiet poll counts its claim, and finds nothing where it counts none. -/
theorem Poll.of_quiet {status : Option Status} {new : List Observation}
    {attempts : Nat} (poll : Poll runId status new attempts)
    (quiet : Quiet runId new) :
    attempts = new.count .claimed ∧
      (attempts = 0 → status.any Status.terminal = false →
        FoundNothing new) := by
  unfold Quiet at quiet
  cases poll with
  | terminal given =>
      rw [if_pos given] at quiet
      refine ⟨?_, fun _ open_ => ?_⟩
      · have none_ := (@count_looks runId .claimed nofun nofun status).2
        rw [List.count_cons_of_ne (by decide),
          List.count_cons_of_ne (by decide), none_]
      · refine absurd ?_ quiet.2
        rw [closing, if_pos given, open_]
        exact List.infix_rfl
  | @tried attempt _ tried =>
      have inside : attempt <:+:
          .polled :: (opening runId ++ attempt ++ closing runId status) :=
        ⟨.polled :: opening runId, closing runId status, by simp⟩
      rw [@count_poll runId .claimed nofun nofun nofun]
      cases tried with
      | nothing =>
          refine ⟨rfl, fun _ _ => ⟨_, rfl, ?_, ?_, ?_⟩⟩
          · unfold opening closing
            split_ifs <;> decide
          · unfold opening closing
            split_ifs <;> decide
          · simp
      | committed => exact ⟨rfl, nofun⟩
      | failed named => exact ⟨rfl, nofun⟩
      | missed unnamed =>
          rw [unnamed, if_neg nofun] at quiet
          exact absurd (inside.subset (by simp)) quiet.1
      | recounted named =>
          split at quiet
          · exact absurd inside quiet.1
          · exact absurd (inside.subset (by simp)) quiet.2

/-- The attempts that are counted, against those observed. -/
structure Tallied (runId : Option String) (served : Served)
    (seen : List Observation) : Prop where
  attempts : Quiet runId seen → served.attempts = seen.count .claimed
  counted : served.attempts + seen.count .raised =
    seen.count .claimed + seen.count .recalled
  unread : runId = none → .recalled ∉ seen

theorem Tallied.kept {served other : Served} {seen : List Observation}
    (tallied : Tallied runId served seen)
    (same : other.attempts = served.attempts) :
    Tallied runId other seen where
  attempts quiet := same.trans (tallied.attempts quiet)
  counted := same ▸ tallied.counted
  unread := tallied.unread

theorem Tallied.add {served : Served} {seen new : List Observation}
    {summary : WorkerRunSummary} (tallied : Tallied runId served seen)
    (poll : Poll runId summary.finalStatus new summary.attempts) :
    Tallied runId (served.add summary) (seen ++ new) where
  attempts := by
    intro quiet
    have old := tallied.attempts quiet.split.1
    have added := (poll.of_quiet quiet.split.2).1
    rw [List.count_append, ← old, ← added]
    rfl
  counted := by
    have old := tallied.counted
    have added := poll.counted.1
    simp only [Served.add, List.count_append]
    omega
  unread := by
    intro none_ member
    rcases List.mem_append.mp member with early | late
    · exact tallied.unread none_ early
    · exact poll.counted.2 none_ late

/-- The last polls of the service are those it counts as idle. -/
def Rests (runId : Option String) (served : Served)
    (seen : List Observation) : Prop :=
  Quiet runId seen → ∃ (front : List Observation)
      (polls : List (List Observation)), polls.length = served.idlePolls ∧
    (∀ poll ∈ polls, FoundNothing poll) ∧ seen = front ++ polls.flatten

theorem Rests.idle {served : Served} {seen new : List Observation}
    {summary : WorkerRunSummary} (rests : Rests runId served seen)
    (poll : Poll runId summary.finalStatus new summary.attempts)
    (none_ : summary.attempts = 0)
    (open_ : summary.finalStatus.any Status.terminal = false) :
    Rests runId
      { served.add summary with idlePolls := served.idlePolls + 1 }
      (seen ++ new) := by
  intro quiet
  obtain ⟨front, polls, counted, nothing, ends⟩ := rests quiet.split.1
  refine ⟨front, polls ++ [new], ?_, ?_, ?_⟩
  · rw [List.length_append, counted]
    rfl
  · intro found member
    rcases List.mem_append.mp member with early | late
    · exact nothing found early
    · rw [List.mem_singleton.mp late]
      exact (poll.of_quiet quiet.split.2).2 none_ open_
  · rw [ends, List.flatten_append, List.append_assoc, List.flatten_singleton]

/-- What the loop ends with. -/
structure Concluded (args : ServeArgs) (served : Served) (final : Serving) :
    Prop where
  tallied : Tallied args.runId served final.seen
  idle : served.stoppedReason = "idle" → "idle" ∈ final.stops ∨
    Rests args.runId served final.seen ∧ ∃ most,
      args.maxIdlePolls = some most ∧ most ≤ (served.idlePolls : Int)

theorem ends_loop {worker : LocalWorker} {args : ServeArgs}
    (recovers : worker.recoverExpired) {passes : Nat} {start served : Served}
    (tallied : Tallied args.runId start serving.seen)
    (rests : Rests args.runId start serving.seen)
    (ends : (WorkerService.loop worker args passes start).Ends act serving
      (.ok (some served)) after) : Concluded args served after := by
  induction passes generalizing start serving with
  | zero => cases ends.1
  | succ passes ih =>
      unfold WorkerService.loop at ends
      split at ends
      case isTrue =>
          obtain ⟨same, rfl⟩ := ends
          cases same
          exact ⟨tallied.kept rfl, fun idle => by simp at idle⟩
      case isFalse =>
          obtain ⟨stop, asked, asks, later⟩ := ends.bind_ok
          obtain ⟨reply, between, ⟨operations, told⟩, same, rfl⟩ := asks
          cases same
          cases told
          cases stop with
          | some reason =>
              obtain ⟨same, rfl⟩ := later
              cases same
              refine ⟨tallied.kept rfl, fun idle => .inl ?_⟩
              simp at idle
              simp [idle]
          | none =>
              obtain ⟨summary, polled, polls, later⟩ :=
                Program.Ends.bind_ok later
              obtain ⟨new, seen, stops, poll⟩ :=
                ends_runUntilIdle recovers polls
              have next := tallied.add poll
              rw [← show polled.seen = serving.seen ++ new from seen] at next
              split at later
              case isTrue ended =>
                  obtain ⟨same, rfl⟩ := later
                  cases same
                  exact ⟨next.kept rfl, fun idle => by simp at idle⟩
              case isFalse open_ =>
                  split at later
                  case isTrue none_ =>
                      have rested := rests.idle poll none_
                        (Bool.not_eq_true _ ▸ open_)
                      rw [← show polled.seen = serving.seen ++ new from seen]
                        at rested
                      dsimp only at later
                      split at later
                      case isTrue enough =>
                          obtain ⟨same, rfl⟩ := later
                          cases same
                          obtain ⟨most, named, least⟩ :=
                            (Option.any_eq_true _ _).mp enough
                          exact ⟨next.kept rfl, fun _ =>
                            .inr ⟨rested, most, named, of_decide_eq_true least⟩⟩
                      case isFalse =>
                          obtain ⟨_, woken, sleeps, later⟩ :=
                            Program.Ends.bind_ok later
                          obtain ⟨_, _, ⟨operations, slept⟩, _, rfl⟩ := sleeps
                          cases slept
                          exact @ih (polled.pass operations)
                            { start.add summary with
                              idlePolls := start.idlePolls + 1 }
                            (next.kept rfl) rested later
                  case isFalse =>
                      refine @ih polled { start.add summary with idlePolls := 0 }
                        (next.kept rfl) (fun _ => ?_) later
                      exact ⟨polled.seen, [], rfl, nofun,
                        (List.append_nil _).symm⟩

private theorem ends_stopRequested {stop : Option String}
    (ends : WorkerM.stopRequested.Ends act serving (.ok stop) after) :
    after.seen = serving.seen ∧ after.stops = serving.stops ++ stop.toList := by
  obtain ⟨reply, asked, ⟨operations, told⟩, same, rfl⟩ := ends
  cases same
  cases told
  exact ⟨rfl, rfl⟩

/-- The summary tells how the loop has ended, or why it was to stop. -/
private theorem concluded_of_serve {worker : LocalWorker} {args : ServeArgs}
    {passes : Nat} {store : Store} {summary : WorkerServiceSummary}
    {final : Serving} (recovers : worker.recoverExpired = true)
    (ends : (WorkerService.serve worker args passes).Ends act ⟨store, [], []⟩
      (.ok (some summary)) final) :
    ∃ served looped status, Concluded args served looped ∧
      final.seen = looped.seen ++ closing args.runId status ∧
      looped.stops ⊆ final.stops ∧
      summary.attempts = served.attempts ∧
      (summary.stoppedReason = "idle" →
        served.stoppedReason = "idle" ∨ "idle" ∈ final.stops) := by
  simp only [WorkerService.serve] at ends
  obtain ⟨loop, looped, loops, later⟩ := ends.bind_ok
  cases loop with
  | none =>
      obtain ⟨same, _⟩ := later
      cases same
  | some served =>
      have concluded : Concluded args served looped := by
        have fresh : Tallied args.runId {} [] :=
          ⟨fun _ => rfl, rfl, fun _ member => by cases member⟩
        refine ends_loop recovers fresh (fun _ => ?_) loops
        exact ⟨[], [], rfl, nofun, rfl⟩
      obtain ⟨stop, asked, asks, rest⟩ := Program.Ends.bind_ok later
      obtain ⟨status, read, reads, more⟩ := Program.Ends.bind_ok rest
      obtain ⟨requested, last, again, same, unmoved⟩ :=
        Program.Ends.bind_ok more
      obtain ⟨seenAsked, stopsAsked⟩ := ends_stopRequested asks
      obtain ⟨seenRead, stopsRead⟩ := ends_finalStatus reads
      obtain ⟨seenLast, stopsLast⟩ := ends_stopRequested again
      subst unmoved
      have stops : final.stops =
          looped.stops ++ stop.toList ++ requested.toList := by
        rw [stopsLast, stopsRead, stopsAsked]
      cases same
      refine ⟨served, looped, status, concluded, ?_, ?_, rfl, fun idle => ?_⟩
      · rw [seenLast, seenRead, seenAsked]
      · rw [stops, List.append_assoc]
        exact List.subset_append_left _ _
      · cases stop with
        | none => exact .inl idle
        | some reason =>
            simp only at idle
            split at idle
            case isTrue =>
                subst idle
                exact .inr (by simp [stops])
            case isFalse => exact .inl idle

/-- A service that recovers expired leases, with others at work between any two
of its commands, tells what is so in every run that is quiet.  A count of
attempts is right only if the events tell of a claim as often as an agent
raises; where any run will do, they are never asked. -/
theorem serve_faithful {worker : LocalWorker} {args : ServeArgs} {passes : Nat}
    {store : Store} {summary : WorkerServiceSummary} {final : Serving}
    (recovers : worker.recoverExpired = true)
    (ends : (WorkerService.serve worker args passes).Ends act ⟨store, [], []⟩
      (.ok (some summary)) final) :
    (Quiet args.runId final.seen → "idle" ∉ final.stops →
      Faithful args.maxIdlePolls summary final.seen) ∧
    (final.seen.count .raised ≠ final.seen.count .recalled →
      ¬ Faithful args.maxIdlePolls summary final.seen) ∧
    (args.runId = none → .raised ∈ final.seen →
      ¬ Faithful args.maxIdlePolls summary final.seen) := by
  obtain ⟨served, looped, status, concluded, seen, stops, attempts, told⟩ :=
    concluded_of_serve recovers ends
  have count (observation : Observation) (ended : observation ≠ .ended)
      (opened : observation ≠ .opened) :
      final.seen.count observation = looped.seen.count observation := by
    rw [seen, List.count_append,
      (@count_looks args.runId observation ended opened status).2]
    rfl
  have counted : served.attempts + final.seen.count .raised =
      final.seen.count .claimed + final.seen.count .recalled := by
    rw [count .raised nofun nofun, count .claimed nofun nofun,
      count .recalled nofun nofun]
    exact concluded.tallied.counted
  rw [← attempts] at counted
  refine ⟨fun quiet unasked => ⟨fun idle => ?_, ?_⟩, fun apart faithful => ?_,
    fun any raised faithful => ?_⟩
  · have reason := (told idle).resolve_right unasked
    rcases concluded.idle reason with asked | ⟨rests, most, named, least⟩
    · exact absurd (stops asked) unasked
    · rw [seen] at quiet
      obtain ⟨front, polls, length, nothing, whole⟩ := rests quiet.split.1
      refine ⟨most, front, polls, closing args.runId status, named, ?_,
        nothing, by rw [seen, whole], ?_⟩
      · rw [length]
        exact least
      · unfold closing
        intro observation member
        split_ifs at member <;> simp_all
  · rw [attempts, count .claimed nofun nofun]
    exact concluded.tallied.attempts (seen ▸ quiet).split.1
  · have claimed := faithful.attempts
    omega
  · have unread : final.seen.count .recalled = 0 := by
      rw [count .recalled nofun nofun]
      exact List.count_eq_zero.mpr (concluded.tallied.unread any)
    have claimed := faithful.attempts
    have positive := List.count_pos_iff.mpr raised
    omega

/-- Nobody works on the store but the service, whose agent answers so. -/
def agentAnswers (answer : Except PyError Fields) :
    (cmd : WorkerCommand) → Serving → cmd.Reply × Serving
  | .runtime (.store call), serving =>
      let moment : Moment := ⟨0, fun kind => kind ++ "-1", 0⟩
      ((call.perform moment serving.store).1, serving.perform call moment)
  | .runtime (.agent _ _), serving =>
      (answer, serving.see
        (match answer with
          | .ok _ => []
          | .error _ => [.raised]))
  | .runtime (.invoke _), serving => (.ok .null, serving)
  | .runtime (.sandboxed _ _), serving =>
      (.ok ⟨true, .null, none, none, []⟩, serving)
  | .runtime (.putJson _ _), serving => (.ok (), serving)
  | .runtime (.getJson _), serving => (.ok .null, serving)
  | .runtime (.newId _), serving => ("", serving)
  | .steps runId, serving =>
      (serving.store.stepRows runId, serving.see
        (if serving.store.unclaimable (some runId) then [.nothing] else []))
  | .events runId, serving =>
      (serving.store.eventsOf runId, serving.see
        (if serving.store.tellsClaim runId then [.recalled] else []))
  | .stopRequested, serving => (none, serving)
  | .sleep, serving => ((), serving)

private theorem act_agentAnswers (answer : Except PyError Fields)
    (cmd : WorkerCommand) (serving : Serving) :
    act cmd serving (agentAnswers answer cmd serving).1
      (agentAnswers answer cmd serving).2 := by
  cases cmd with
  | runtime cmd =>
      cases cmd with
      | store call => exact ⟨[], _, rfl, rfl⟩
      | agent ctx state =>
          cases answer with
          | ok patch => exact ⟨[], rfl⟩
          | error error => exact ⟨[], rfl⟩
      | _ => exact ⟨[], rfl⟩
  | steps runId => exact ⟨[], rfl, rfl⟩
  | events runId => exact ⟨[], rfl, rfl⟩
  | stopRequested => exact ⟨[], by simp [step, agentAnswers, Serving.pass]⟩
  | sleep => exact ⟨[], rfl⟩

/-- The agent asks for another attempt. -/
def tryLater : Except PyError Fields :=
  .error ⟨.retryableAgentError, "RetryableAgentError", "later", none⟩

/-- Before the service claims the step, another worker has. -/
def rivalled : (cmd : WorkerCommand) → Serving → cmd.Reply × Serving
  | .runtime (.store (.claimStep workerId runId leaseSeconds)), serving =>
      let rival : Call := .claimStep "rival" none 60
      agentAnswers tryLater
        (.runtime (.store (.claimStep workerId runId leaseSeconds)))
        (serving.pass [(rival, ⟨0, fun kind => kind ++ "-1", 0⟩)])
  | cmd, serving => agentAnswers tryLater cmd serving

private theorem act_rivalled (cmd : WorkerCommand) (serving : Serving) :
    act cmd serving (rivalled cmd serving).1 (rivalled cmd serving).2 := by
  cases cmd with
  | runtime cmd =>
      cases cmd with
      | store call =>
          cases call with
          | claimStep workerId runId leaseSeconds =>
              exact ⟨[_], _, rfl, rfl⟩
          | _ => exact act_agentAnswers tryLater _ _
      | _ => exact act_agentAnswers tryLater _ _
  | _ => exact act_agentAnswers tryLater _ _

theorem ends_serve {respond : (cmd : WorkerCommand) → Serving →
      cmd.Reply × Serving}
    (acts : ∀ cmd serving,
      act cmd serving (respond cmd serving).1 (respond cmd serving).2)
    (args : ServeArgs) (passes : Nat) (store : Store)
    {summary : WorkerServiceSummary}
    (returns : ((WorkerService.serve {} args passes).alone respond
      ⟨store, [], []⟩).1 = .ok (some summary)) :
    (WorkerService.serve {} args passes).Ends act ⟨store, [], []⟩
      (.ok (some summary)) ((WorkerService.serve {} args passes).alone
        respond ⟨store, [], []⟩).2 := by
  rw [← returns]
  exact Program.ends_alone respond acts _ _

/-- A store in which one step is to be done. -/
def oneRun : Store :=
  Store.next (.createRun none none none, ⟨0, fun kind => kind ++ "-1", 0⟩)
    .empty

/-- One poll finds the step, and the next one nothing. -/
theorem serve_once : Faithful (some 1)
    ⟨"worker-local", none, 2, 1, 1, 0, 1, "idle", none, false⟩
    [.polled, .claimed, .polled, .nothing] := by
  refine (serve_faithful rfl (ends_serve (act_agentAnswers (.ok [])) {} 2 oneRun
    (by decide))).1 ?_ (by decide)
  rw [Quiet, if_neg (by decide)]
  exact ⟨by decide, by decide⟩

/-- The service claims the step, fails, and stops as if there were nothing to
do, with the step scheduled again; and what another worker claims is counted by
a service that has claimed nothing. -/
theorem idle_with_work : (∃ summary final,
    (WorkerService.serve {} {} 1).Ends act ⟨oneRun, [], []⟩
      (.ok (some summary)) final ∧
    final.store.unclaimable none = false ∧
    ¬ Faithful (some 1) summary final.seen) ∧
    ∃ summary final, (WorkerService.serve {}
        { runId := some "run-1", maxLoops := some 1 } 2).Ends act
      ⟨oneRun, [], []⟩ (.ok (some summary)) final ∧
    summary.attempts = 1 ∧ final.seen.count .claimed = 0 := by
  constructor
  · refine ⟨⟨"worker-local", none, 1, 0, 0, 0, 1, "idle", none, false⟩, _,
      ends_serve (act_agentAnswers tryLater) {} 1 oneRun (by decide), by decide,
      fun faithful => ?_⟩
    have counted := faithful.attempts
    revert counted
    decide
  · exact ⟨⟨"worker-local", some "run-1", 1, 1, 0, 0, 0, "max_loops",
      some .running, false⟩, _, ends_serve act_rivalled
        { runId := some "run-1", maxLoops := some 1 } 2 oneRun (by decide), rfl,
      by decide⟩

end Service

end AgentLedger
