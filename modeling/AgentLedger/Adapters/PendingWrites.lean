import AgentLedger.Adapters.RoundTrip

namespace AgentLedger

open Foundation LangGraphCheckpointerAdapter Checkpointing

/-! `put_writes` by several tasks of a run at once: each of its two calls of the
store is a step of its own. -/

@[reducible] def writersSystem (adapter : LangGraphCheckpointerAdapter) :
    Machine where
  Call := WritesArgs
  Result := fun _ => Unit
  Cmd := Command
  Reply := Command.Reply
  Error := PyError
  World := World
  Input := Surroundings
  body := adapter.putWrites
  start := fun _ _ world => world
  act := World.act
  crash := fun _ world => world

namespace PendingWrites

variable {adapter : LangGraphCheckpointerAdapter}

/-- The pending writes of the run. -/
def pendingOf (runId : String) (world : World) : List Json :=
  (pendingWrites (stateOf runId world)).toOption.getD []

/-- The calls that return at this step. -/
def returnedAt (config : (writersSystem adapter).Config) :
    (writersSystem adapter).Label → List WritesArgs
  | .act thread input =>
      match config.threads thread with
      | some running =>
          if running.ended then []
          else match (Machine.step (.act thread input) config).threads thread with
            | some ⟨args, .done _⟩ => [args]
            | _ => []
      | none => []
  | _ => []

/-- The calls that return in the course of a run, in this order. -/
def returned (config : (writersSystem adapter).Config) :
    List (writersSystem adapter).Label → List WritesArgs
  | [] => []
  | label :: rest =>
      returnedAt config label ++ returned (Machine.step label config) rest

def addresses (adapter : LangGraphCheckpointerAdapter) (runId : String)
    (args : WritesArgs) : Bool :=
  decide (adapter.runIdFromConfig args.config = .ok runId)

/-- The entries of the calls on this run that have returned. -/
def entriesOf (adapter : LangGraphCheckpointerAdapter) (runId : String)
    (calls : List WritesArgs) : List Json :=
  (calls.filter (addresses adapter runId)).map entry

/-- A call that patches the run extends the writes that are there. -/
def Extends (runId : String) (config : (writersSystem adapter).Config) :
    (writersSystem adapter).Label → Prop
  | .act thread input => input.fault = none →
      ∀ (args : WritesArgs) (patch : Fields) (reason : String) next,
        config.threads thread = some ⟨args,
          .call (.store (.applySystemStatePatch runId patch reason)) next⟩ →
        patch = writesPatch (pendingOf runId config.world ++ [entry args])
  | _ => True

/-! ### Where a call stands -/

def patchCommand (args : WritesArgs) (runId : String) (pending : List Json) :
    Command :=
  .store (.applySystemStatePatch runId (writesPatch (pending ++ [entry args]))
    "langgraph pending writes")

def patching (args : WritesArgs) (runId : String) (pending : List Json) :
    RuntimeM Unit := do
  let _ ← store (.applySystemStatePatch runId
    (writesPatch (pending ++ [entry args])) "langgraph pending writes")
  return ()

def reading (args : WritesArgs) (runId : String) : RuntimeM Unit := do
  let state ← finalState runId
  let pending ← orRaise (pendingWrites state)
  patching args runId pending

/-- `fits` says what is known of the writes that a call has read. -/
inductive Stage (adapter : LangGraphCheckpointerAdapter)
    (fits : String → List Json → Prop) (args : WritesArgs) : RuntimeM Unit → Prop
  | reading {runId : String}
      (own : adapter.runIdFromConfig args.config = .ok runId) :
      Stage adapter fits args (reading args runId)
  | patching {runId : String} {pending : List Json}
      (own : adapter.runIdFromConfig args.config = .ok runId)
      (known : fits runId pending) :
      Stage adapter fits args (patching args runId pending)
  | returned : Stage adapter fits args (.done ())
  | raised (error : PyError) : Stage adapter fits args (.raise error)

theorem stage_body {fits : String → List Json → Prop} (args : WritesArgs) :
    Stage adapter fits args (adapter.putWrites args) := by
  unfold LangGraphCheckpointerAdapter.putWrites
  cases own : adapter.runIdFromConfig args.config with
  | error problem => exact .raised problem
  | ok runId => exact .reading own

theorem Stage.mono {fits wider : String → List Json → Prop} {args : WritesArgs}
    {program : RuntimeM Unit} (stage : Stage adapter fits args program)
    (widens : ∀ runId pending, fits runId pending → wider runId pending) :
    Stage adapter wider args program := by
  cases stage with
  | reading own => exact .reading own
  | patching own known => exact .patching own (widens _ _ known)
  | returned => exact .returned
  | raised error => exact .raised error

variable {world after : World} {thread : Tid} {input : Surroundings}

theorem act_reading {args : WritesArgs} {runId : String} :
    ∃ cmd next, reading args runId = .call cmd next ∧
      (∀ named patch reason, cmd ≠
        .store (.applySystemStatePatch named patch reason)) ∧
      ∃ reply after, World.act thread cmd input world = some (reply, after) ∧
        after.store = world.store ∧
        ((∃ error, next reply = .raise error) ∨
          ∃ row pending, world.store.run? runId = some row ∧
            pendingWrites row.state.fields = .ok pending ∧
            next reply = patching args runId pending) := by
  refine ⟨.store (.loadState runId), _, rfl, nofun, ?_⟩
  simp only [World.act]
  cases input.fault with
  | some error => exact ⟨_, _, rfl, rfl, .inl ⟨error, rfl⟩⟩
  | none =>
      have loaded := @performed_loadState world.store input.moment runId
      refine ⟨_, _, rfl, congrArg Prod.snd loaded, ?_⟩
      simp only [loaded]
      cases found : world.store.run? runId with
      | none => exact .inl ⟨_, rfl⟩
      | some row =>
          cases pending : pendingWrites row.state.fields with
          | error problem =>
              refine .inl ⟨problem, ?_⟩
              change orRaise (pendingWrites row.state.fields) >>=
                patching args runId = _
              rw [pending]
              rfl
          | ok held =>
              refine .inr ⟨row, held, rfl, pending, ?_⟩
              change orRaise (pendingWrites row.state.fields) >>=
                patching args runId = _
              rw [pending]
              rfl

theorem act_patching {args : WritesArgs} {runId : String}
    {pending : List Json} :
    ∃ next reply after,
      patching args runId pending =
        .call (patchCommand args runId pending) next ∧
      World.act thread (patchCommand args runId pending) input world =
        some (reply, after) ∧
      ((∃ error, (input.fault = some error ∨
            world.store.run? runId = none) ∧
          after.store.run? = world.store.run? ∧ next reply = .raise error) ∨
        (input.fault = none ∧ ∃ row, world.store.run? runId = some row ∧
          after.store.run? = world.store.runsWith runId (RunRow.patch
            (mergePatch row.state (.obj (writesPatch
              (pending ++ [entry args])))) (row.stateVersion + 1)) ∧
          next reply = .done ())) := by
  simp only [patchCommand, World.act]
  cases input.fault with
  | some error =>
      exact ⟨_, _, _, rfl, rfl, .inl ⟨error, .inl rfl, rfl, rfl⟩⟩
  | none =>
      refine ⟨_, _, _, rfl, rfl, ?_⟩
      cases found : world.store.run? runId with
      | none =>
          obtain ⟨error, raised⟩ := @perform_applySystemStatePatch_missing
            world.store input.moment runId found
            (writesPatch (pending ++ [entry args])) "langgraph pending writes"
          refine .inl ⟨error, .inr rfl, ?_, ?_⟩
          · simp only [Call.perform, Call.body, raised]
          · simp only [Call.perform, Call.body, raised]
            rfl
      | some row =>
          obtain ⟨answered, runs, _⟩ :=
            @performed_applySystemStatePatch world.store input.moment runId row
              found (writesPatch (pending ++ [entry args]))
              "langgraph pending writes"
          refine .inr ⟨rfl, row, rfl, runs, ?_⟩
          simp only [answered]
          rfl

/-! ### The invariant -/

/-- What a call has read of the run was never longer than the writes that have
been made, and as long only if it is what is there still. -/
def Fits (runId : String) (written : Nat) (world : World) (named : String)
    (pending : List Json) : Prop :=
  named = runId → (∃ row, world.store.run? runId = some row) ∧
    pending.length ≤ written ∧
    (pending.length = written → pending = pendingOf runId world)

/-- `written` counts the writes there were at the start and those since. -/
structure Counted (runId : String) (written : Nat)
    (config : (writersSystem adapter).Config) : Prop where
  bounded : (pendingOf runId config.world).length ≤ written
  stages : ∀ thread running, config.threads thread = some running →
    Stage adapter (Fits runId written config.world) running.call running.rest

/-- One step leaves the writes of the run, or is the patch of a call. -/
inductive Stepped (runId : String) (written : Nat)
    (config : (writersSystem adapter).Config)
    (label : (writersSystem adapter).Label) : Prop
  | quiet
      (pending : pendingOf runId (Machine.step label config).world =
        pendingOf runId config.world)
      (none : entriesOf adapter runId (returnedAt config label) = [])
      (extends_ : Extends runId config label)
      (counted : Counted runId written (Machine.step label config))
  | wrote (args : WritesArgs) (held : List Json)
      (pending : pendingOf runId (Machine.step label config).world =
        held ++ [entry args])
      (one : entriesOf adapter runId (returnedAt config label) =
        [entry args])
      (exact_ : Extends runId config label ↔
        held = pendingOf runId config.world)
      (fits : held.length ≤ written)
      (current : held.length = written → held = pendingOf runId config.world)
      (counted : Counted runId (written + 1) (Machine.step label config))

theorem pendingOf_congr {runId : String} {first second : World}
    (same : first.store.run? runId = second.store.run? runId) :
    pendingOf runId first = pendingOf runId second := by
  simp only [pendingOf, stateOf, same]

theorem pendingOf_patched {runId : String} {row : RunRow} {pending : List Json}
    (found : world.store.run? runId = some row)
    (runs : after.store.run? = world.store.runsWith runId (RunRow.patch
      (mergePatch row.state (.obj (writesPatch pending)))
      (row.stateVersion + 1))) :
    pendingOf runId after = pending := by
  have state : stateOf runId after =
      mergeFields row.state.fields (writesPatch pending) := by
    simp only [stateOf, runs, Store.runsWith, found, if_pos, Option.map_some,
      Option.getD_some, RunRow.patch, mergePatch, Json.fields]
  rw [pendingOf, state, pendingWrites, writesPatch,
    get?_mergeFields _ (by simp)]
  rfl

theorem Fits.congr {runId named : String} {written : Nat} {pending : List Json}
    (same : after.store.run? runId = world.store.run? runId)
    (fits : Fits runId written world named pending) :
    Fits runId written after named pending := by
  intro own
  rw [same, pendingOf_congr same]
  exact fits own

theorem Counted.update {runId : String} {written : Nat}
    {config : (writersSystem adapter).Config}
    (counted : Counted runId written config)
    (same : after.store.run? runId = config.world.store.run? runId)
    {running : Option (writersSystem adapter).Thread}
    (own : ∀ mine, running = some mine →
      Stage adapter (Fits runId written after) mine.call mine.rest) :
    Counted runId written
      ⟨after, Function.update config.threads thread running⟩ := by
  constructor
  · rw [pendingOf_congr same]
    exact counted.bounded
  · intro other mine found
    by_cases here : other = thread
    · subst here
      simp only [Function.update_self] at found
      exact own mine found
    · simp only [Function.update_of_ne here] at found
      apply (counted.stages other mine found).mono
      intro named pending
      exact Fits.congr same

private theorem returnedAt_act {config : (writersSystem adapter).Config}
    {args : WritesArgs} {cmd : Command} {next : cmd.Reply → RuntimeM Unit}
    {reply : cmd.Reply}
    (found : config.threads thread = some ⟨args, .call cmd next⟩)
    (acted : World.act thread cmd input config.world = some (reply, after)) :
    returnedAt config (.act thread input) =
      match next reply with
      | .done _ => [args]
      | _ => [] := by
  have stepped := @Machine.step_act (writersSystem adapter) config thread input
    args cmd next reply after found acted
  simp only [returnedAt, found, stepped, Machine.Thread.ended,
    Function.update_self]
  cases next reply <;> rfl

theorem stepped_reading {runId named : String} {written : Nat}
    {config : (writersSystem adapter).Config} {args : WritesArgs}
    (counted : Counted runId written config)
    (found : config.threads thread = some ⟨args, reading args named⟩)
    (own : adapter.runIdFromConfig args.config = .ok named) :
    Stepped runId written config (.act thread input) := by
  obtain ⟨cmd, next, same, other, reply, after, acted, store, goes⟩ :=
    @act_reading config.world thread input args named
  rw [same] at found
  have keeps : after.store.run? runId = config.world.store.run? runId := by
    rw [store]
  refine .quiet ?_ ?_ ?_ ?_
  · rw [Machine.step_act found acted]
    exact pendingOf_congr keeps
  · rw [returnedAt_act found acted]
    rcases goes with ⟨error, raised⟩ | ⟨row, pending, _, _, later⟩
    · rw [raised]
      rfl
    · rw [later]
      rfl
  · intro _ _ patch reason _ here
    rw [found] at here
    cases here
    exact absurd rfl (other runId patch reason)
  · rw [Machine.step_act found acted]
    apply counted.update keeps
    rintro mine same
    cases same
    rcases goes with ⟨error, raised⟩ | ⟨row, pending, known, read, later⟩
    · rw [raised]
      exact .raised error
    · rw [later]
      apply Stage.patching own
      rintro rfl
      have current : pending = pendingOf named after := by
        rw [pendingOf_congr keeps, pendingOf, stateOf, known]
        simp [read, Except.toOption]
      refine ⟨⟨row, keeps.trans known⟩, ?_, fun _ => current⟩
      rw [current, pendingOf_congr keeps]
      exact counted.bounded

private theorem writesPatch_inj {first second : List Json} :
    writesPatch first = writesPatch second ↔ first = second := by
  simp [writesPatch]

theorem stepped_patching {runId named : String} {written : Nat}
    {config : (writersSystem adapter).Config} {args : WritesArgs}
    {held : List Json} (counted : Counted runId written config)
    (found : config.threads thread = some ⟨args, patching args named held⟩)
    (own : adapter.runIdFromConfig args.config = .ok named)
    (known : Fits runId written config.world named held) :
    Stepped runId written config (.act thread input) := by
  obtain ⟨next, reply, after, same, acted, goes⟩ :=
    @act_patching config.world thread input args named held
  rw [same] at found
  have stepped := @Machine.step_act (writersSystem adapter) config thread input
    args (patchCommand args named held) next reply after found acted
  have returns := returnedAt_act found acted
  rcases goes with ⟨error, cause, runs, raised⟩ | ⟨working, row, here, runs, done⟩
  · -- A patch that fails is none of the run's: its run is there.
    refine .quiet ?_ ?_ ?_ ?_
    · rw [stepped]
      exact pendingOf_congr (congrFun runs runId)
    · rw [returns, raised]
      rfl
    · intro working _ patch reason _ shown
      rw [found] at shown
      cases shown
      obtain ⟨row, present⟩ := (known rfl).1
      rcases cause with faulty | missing
      · rw [working] at faulty
        cases faulty
      · rw [present] at missing
        cases missing
    · rw [stepped]
      apply counted.update (congrFun runs runId)
      rintro mine same
      cases same
      rw [raised]
      exact .raised error
  · by_cases ours : named = runId
    · subst ours
      obtain ⟨_, fits, current⟩ := known rfl
      have writes := pendingOf_patched here runs
      have addressed : addresses adapter named args = true := by
        simp [addresses, own]
      refine .wrote args held ?_ ?_ ?_ fits current ?_
      · rw [stepped]
        exact writes
      · rw [returns, done]
        simp [entriesOf, addressed]
      · constructor
        · intro extends_
          have whole := extends_ working args _ _ next found
          rw [writesPatch_inj] at whole
          exact List.append_cancel_right whole
        · rintro rfl _ _ patch reason _ shown
          rw [found] at shown
          cases shown
          rfl
      · rw [stepped]
        constructor
        · simp only
          rw [writes, List.length_append]
          simpa using fits
        · intro other mine shown
          by_cases acting : other = thread
          · subst acting
            simp only [Function.update_self] at shown
            cases shown
            rw [done]
            exact .returned
          · simp only [Function.update_of_ne acting] at shown
            apply (counted.stages other mine shown).mono
            intro another pending fitted mineToo
            obtain ⟨present, shorter, _⟩ := fitted mineToo
            refine ⟨?_, by omega, by omega⟩
            simp only [runs, Store.runsWith, here, if_pos, Option.map_some]
            exact ⟨_, rfl⟩
    · have others : after.store.run? runId = config.world.store.run? runId := by
        rw [runs, Store.runsWith, if_neg (Ne.symm ours)]
      have foreign : addresses adapter runId args = false := by
        simp [addresses, own, ours]
      refine .quiet ?_ ?_ ?_ ?_
      · rw [stepped]
        exact pendingOf_congr others
      · rw [returns, done]
        simp [entriesOf, foreign]
      · intro _ _ patch reason _ shown
        rw [found] at shown
        cases shown
        exact absurd rfl ours
      · rw [stepped]
        apply counted.update others
        rintro mine same
        cases same
        rw [done]
        exact .returned

theorem stepped_idle {runId : String} {written : Nat}
    {config : (writersSystem adapter).Config}
    (counted : Counted runId written config)
    (idle : ∀ args cmd next,
      config.threads thread ≠ some ⟨args, .call cmd next⟩) :
    Stepped runId written config (.act thread input) := by
  have same : Machine.step (.act thread input) config = config ∧
      returnedAt config (.act thread input) = [] := by
    cases found : config.threads thread with
    | none => simp [Machine.step, returnedAt, found]
    | some running =>
        obtain ⟨args, program⟩ := running
        cases program with
        | call cmd next => exact absurd found (idle args cmd next)
        | done value =>
            simp [Machine.step, Machine.resume, returnedAt,
              Machine.Thread.ended, found]
        | raise error =>
            simp [Machine.step, Machine.resume, returnedAt,
              Machine.Thread.ended, found]
  refine .quiet (by rw [same.1]) ?_ ?_ (by rw [same.1]; exact counted)
  · rw [same.2]
    rfl
  · intro _ args _ _ next shown
    exact absurd shown (idle args _ next)

theorem stepped {runId : String} {written : Nat}
    {config : (writersSystem adapter).Config}
    (counted : Counted runId written config)
    (label : (writersSystem adapter).Label) :
    Stepped runId written config label := by
  cases label with
  | spawn thread args =>
      refine .quiet ?_ rfl trivial ?_
      · simp only [Machine.step]
        split <;> rfl
      · simp only [Machine.step]
        split
        · apply counted.update rfl
          rintro mine same
          cases same
          exact stage_body args
        · exact counted
  | crash thread =>
      refine .quiet rfl rfl trivial ?_
      apply counted.update rfl
      rintro mine same
      cases same
  | act thread input =>
      cases found : config.threads thread with
      | none =>
          apply stepped_idle counted
          intro args cmd next shown
          rw [found] at shown
          cases shown
      | some running =>
          obtain ⟨args, program⟩ := running
          have stage : Stage adapter (Fits runId written config.world) args
              program :=
            counted.stages thread _ found
          cases stage with
          | reading own => exact stepped_reading counted found own
          | patching own known =>
              exact stepped_patching counted found own known
          | returned =>
              apply stepped_idle counted
              intro args cmd next shown
              rw [found] at shown
              cases shown
          | raised error =>
              apply stepped_idle counted
              intro args cmd next shown
              rw [found] at shown
              cases shown

/-! ### Whole runs -/

section Runs

variable {runId : String} {written : Nat}
  {config : (writersSystem adapter).Config}
  {labels : List (writersSystem adapter).Label}

theorem entriesOf_append (first second : List WritesArgs) :
    entriesOf adapter runId (first ++ second) =
      entriesOf adapter runId first ++
        entriesOf adapter runId second := by
  simp [entriesOf]

/-- Where each patch extends what is there, no entry goes lost. -/
theorem pendingOf_run (counted : Counted runId written config)
    (each : Each Machine.step (Extends runId) config labels) :
    pendingOf runId (runFrom Machine.step config labels).world =
      pendingOf runId config.world ++
        entriesOf adapter runId (returned config labels) := by
  induction labels generalizing config written with
  | nil => simp [returned, entriesOf]
  | cons label rest ih =>
      obtain ⟨now, later⟩ := each
      rw [runFrom_cons, returned, entriesOf_append]
      cases stepped counted label with
      | quiet pending none extends_ next =>
          rw [ih next later, pending, none, List.nil_append]
      | wrote args held pending one exact_ fits current next =>
          rw [ih next later, pending, one, exact_.mp now, List.append_assoc]

/-- There are never more writes than were made, and as many only if each patch
has extended what was there. -/
theorem length_run (counted : Counted runId written config) :
    (pendingOf runId (runFrom Machine.step config labels).world).length ≤
      written + (entriesOf adapter runId
        (returned config labels)).length ∧
    ((pendingOf runId (runFrom Machine.step config labels).world).length =
        written + (entriesOf adapter runId
          (returned config labels)).length →
      (pendingOf runId config.world).length = written ∧
        Each Machine.step (Extends runId) config labels) := by
  induction labels generalizing config written with
  | nil =>
      constructor
      · exact counted.bounded
      · intro whole
        exact ⟨whole, trivial⟩
  | cons label rest ih =>
      rw [runFrom_cons, returned, entriesOf_append, List.length_append]
      cases stepped counted label with
      | quiet pending none extends_ next =>
          obtain ⟨bounded, whole⟩ := ih next
          rw [none, List.length_nil, Nat.zero_add]
          refine ⟨bounded, ?_⟩
          intro full
          obtain ⟨start, later⟩ := whole full
          rw [pending] at start
          exact ⟨start, extends_, later⟩
      | wrote args held pending one exact_ fits current next =>
          obtain ⟨bounded, whole⟩ := ih next
          rw [one, List.length_singleton]
          constructor
          · omega
          · intro full
            obtain ⟨start, later⟩ := whole (by omega)
            rw [pending, List.length_append, List.length_singleton] at start
            have same := current (by omega)
            rw [← same]
            exact ⟨by omega, exact_.mpr same, later⟩

end Runs

/-- In any run of calls on this and other runs, with faults and crashes: every
call that has returned has its entry there exactly once, whatever the order of
the steps, exactly when each patch extends the writes it finds. -/
theorem none_lost_iff (runId : String) (world : World)
    (labels : List (writersSystem adapter).Label) :
    (pendingOf runId (runFrom Machine.step
        (@Machine.initial (writersSystem adapter) world) labels).world).Perm
      (pendingOf runId world ++ entriesOf adapter runId
        (returned (Machine.initial world) labels)) ↔
      Each Machine.step (Extends runId) (Machine.initial world) labels := by
  have counted : Counted runId (pendingOf runId world).length
      (@Machine.initial (writersSystem adapter) world) :=
    ⟨le_refl _, nofun⟩
  constructor
  · intro same
    have lengths := same.length_eq
    rw [List.length_append] at lengths
    exact ((length_run counted).2 lengths).2
  · intro each
    rw [pendingOf_run counted each]
    exact List.Perm.refl _

def remark : WritesArgs where
  config := graphConfig
  writes := [.str "remarked"]
  taskId := "other"

/-- Two tasks of one run: both read before either of them writes. -/
def race : List (writersSystem graphAdapter).Label :=
  [.spawn 0 note, .spawn 1 remark,
    .act 0 (Surroundings.tick 101 fun kind => kind),
    .act 1 (Surroundings.tick 102 fun kind => kind),
    .act 0 (Surroundings.tick 103 fun kind => kind),
    .act 1 (Surroundings.tick 104 fun kind => kind)]

theorem note_lost :
    pendingOf "run" (runFrom Machine.step
      (@Machine.initial (writersSystem graphAdapter) graphWorld) race).world =
      [entry remark] ∧
    entriesOf graphAdapter "run" (returned (Machine.initial graphWorld) race) =
      [entry note, entry remark] ∧
    ¬∀ (adapter : LangGraphCheckpointerAdapter) (runId : String) (world : World)
      (labels : List (writersSystem adapter).Label),
      (pendingOf runId (runFrom Machine.step
          (@Machine.initial (writersSystem adapter) world) labels).world).Perm
        (pendingOf runId world ++ entriesOf adapter runId
          (returned (Machine.initial world) labels)) := by
  have left : pendingOf "run" (runFrom Machine.step
      (@Machine.initial (writersSystem graphAdapter) graphWorld) race).world =
      [entry remark] := by
    decide
  have both : entriesOf graphAdapter "run"
      (returned (Machine.initial graphWorld) race) =
      [entry note, entry remark] := by
    decide
  refine ⟨left, both, ?_⟩
  intro kept
  have lengths := (kept graphAdapter "run" graphWorld race).length_eq
  rw [left, both, List.length_append] at lengths
  simp at lengths

end PendingWrites

end AgentLedger
