import AgentLedger.Connections.History

namespace AgentLedger

open Foundation Connections

/-! What a state version that is returned stands for.  The version is read
before the write lock is taken, so another connection may have moved the run in
between; the guarded UPDATE then finds no row, and the call goes on. -/

/-- The run's row after a guarded UPDATE that asks for `expected`. -/
def RunRow.guarded (expected : Int) (change : RunRow → RunRow)
    (row : RunRow) : RunRow :=
  if row.stateVersion = expected then change row else row

/-- What the one transaction of `commit_state_patch` has done. -/
structure CommitArgs.Committed (args : CommitArgs) (version : Int)
    (before after : Store) : Prop where
  next : version = args.baseVersion + 1
  run : ∃ row, before.run? args.runId = some row ∧
    args.baseVersion ≤ row.stateVersion ∧
    after.run? args.runId = some (row.guarded args.baseVersion
      (RunRow.commit (mergePatch row.state (.obj args.patch)) version))
  step : ∃ row, before.step? args.stepId = some row ∧
    after.step? args.stepId = some (row.complete version args.checkpointId) ∧
    after.events = ((before.append (stateCommitted args row version)).append
      (stepCompleted args row version)).events

/-- What the one transaction of `apply_system_state_patch` has done. -/
def SystemPatched (runId : String) (patch : Fields) (reason : String)
    (version : Int) (before after : Store) : Prop :=
  ∃ row, before.run? runId = some row ∧
    version ≤ row.stateVersion + 1 ∧
    after.run? runId = some (row.guarded (version - 1)
      (RunRow.patch (mergePatch row.state (.obj patch)) version)) ∧
    after.events = (before.append
      (systemStatePatchApplied runId row patch reason version)).events

/-- The journal of a call whose only COMMIT has done this. -/
def Once (done : Store → Store → Prop) (journal : List (Store × Store)) :
    Prop :=
  ∃ before after, journal = [(before, after)] ∧ done before after

@[reducible] def patching : storeService.Contract where
  invariant := fun _ => True
  extra := fun _ before after => before.db.Persists after.db
  extra_refl := persists_idle
  extra_trans := persists_twice
  extra_of_db := persists_of_db
  admits := fun _ _ _ _ => True
  owes := fun _ _ _ _ => True
  ends := fun thread call result world =>
    match call, result with
    | .commitStatePatch args, .ok version =>
        Once (args.Committed version) (world.journal thread)
    | .applySystemStatePatch runId patch reason, .ok version =>
        Once (SystemPatched runId patch reason version) (world.journal thread)
    | _, _ => True

/-- A contract that asks nothing of a command, and relies on no more than that
nobody loses what is committed. -/
structure Lenient (K : storeService.Contract) : Prop where
  extra : ∀ thread before after,
    K.extra thread before after ↔ before.db.Persists after.db
  owes : ∀ thread call cmd world, K.owes thread call cmd world

section Threads

variable {K : storeService.Contract} {thread : Tid} {call : Call}
  {world later : Connections sqlite}

theorem Lenient.within (lenient : Lenient K) : K.Within Store.Persists :=
  fun thread before after => (lenient.extra thread before after).mp

theorem Lenient.select (lenient : Lenient K) {request : Query}
    {next : request.Answer → StoreM call.Result}
    (unbegun : Service.Unbegun thread world)
    (answered : ∀ later, Service.Unbegun thread later →
      world.db.Persists later.db →
      K.Safe thread call (next (Store.query request later.db)) later) :
    K.Safe thread call (.call (.query request) next) world :=
  unbegun.query lenient.within (fun _ _ => lenient.owes _ _ _ _) answered

theorem Lenient.failed (lenient : Lenient K) (error : PyError)
    (unbegun : Service.Unbegun thread world)
    (fails : ∀ world, K.ends thread call (.error error) world) :
    K.Safe thread call (Sql.withConn (.raise error)) world := by
  apply unbegun.rollback lenient.within fun _ _ => lenient.owes _ _ _ _
  intro later _ _ final _ _
  exact fails final

theorem Lenient.validated (lenient : Lenient K)
    {next : StepRow → StoreM call.Result}
    {stepId leaseToken : String} (unbegun : Service.Unbegun thread world)
    (fails : ∀ error world, K.ends thread call (.error error) world)
    (validated : ∀ step later (early : Store),
      early.step? stepId = some step →
      Service.Unbegun thread later → early.Persists later.db →
      K.Safe thread call (Sql.withConn (next step)) later) :
    K.Safe thread call
      (Sql.withConn (validateLease stepId leaseToken >>= next)) world := by
  apply lenient.select unbegun
  intro later here _
  cases found : Store.query (.step stepId) later.db with
  | none =>
      exact lenient.failed (.keyError ("step not found: " ++ stepId)) here
        (fails _)
  | some step =>
      change K.Safe thread call (Sql.withConn ((if _ then _ else _) >>=
        next)) later
      split
      case isTrue => exact lenient.failed _ here (fails _)
      case isFalse =>
          cases step.leaseUntil with
          | none => exact validated step later later.db found here (.refl _)
          | some leaseUntil =>
              apply here.ask lenient.within fun _ _ => lenient.owes _ _ _ _
              intro now final here persists
              change K.Safe thread call (Sql.withConn
                ((if _ then _ else _) >>= next)) final
              split
              case isTrue => exact lenient.failed _ here (fails _)
              case isFalse =>
                  exact validated step final later.db found here persists

/-! #### Under the write lock -/

variable {base : Connections sqlite} {writer : Writer sqlite}

theorem Lenient.append (lenient : Lenient K) {args : EventArgs}
    {next : Nat → StoreM call.Result}
    (rest : ∀ statements, K.InTransaction thread call base
      (Sql.withConn (next (Store.maxSeq writer.work args.runId + 1)))
      ⟨thread, Store.append writer.work args, statements⟩) :
    K.InTransaction thread call base
      (Sql.withConn (appendEventInTx args >>= next)) writer := by
  refine ⟨fun _ _ => lenient.owes _ _ _ _, fun _ _ => lenient.owes _ _ _ _,
    fun _ => ?_⟩
  have accepted := Store.write_event writer.work args
  change K.InTransaction thread call base (Sql.withConn
    ((insertOrRaise (Store.write (.insertEvent (args.row
        (Store.maxSeq writer.work args.runId + 1))) writer.work).1 >>=
      fun _ => _) >>= next))
    ⟨thread, (Store.write (.insertEvent (args.row
      (Store.maxSeq writer.work args.runId + 1))) writer.work).2, _⟩
  rw [accepted]
  exact rest _

theorem Lenient.done (lenient : Lenient K) {value : call.Result}
    (unbegun : base.journal thread = [])
    (persists : Store.Persists base.db writer.work)
    (keeps : K.invariant base.db → K.invariant writer.work)
    (ends : ∀ world : Connections sqlite,
      world.journal thread = [(base.db, writer.work)] →
      K.ends thread call (.ok value) world) :
    K.InTransaction thread call base (Sql.withConn (.done value))
      writer := by
  intro world opened holds
  have view := Service.Contract.view_open opened
  have committed : (world.commit thread).journal thread =
      [(base.db, writer.work)] := by
    simp [Connections.commit, opened.found, opened.owner, opened.journal,
      opened.db, unbegun]
  refine ⟨lenient.owes _ _ _ _, fun _ => ⟨⟨?_, fun other different =>
    ⟨frame_commit different world, ?_⟩⟩, ?_⟩⟩
  · change K.invariant (world.commit thread).db
    rw [commit_db, view]
    rw [opened.db] at holds
    exact keeps holds
  · apply (lenient.extra _ _ _).mpr
    rw [commit_db, view, opened.db]
    exact persists
  · intro later relied _
    exact ends later (relied.1.journal.trans committed)

theorem Store.append_events {store other : Store}
    (same : other.events = store.events) (args : EventArgs) :
    (other.append args).events = (store.append args).events := by
  simp only [Store.append, Store.maxSeq, same]

theorem Store.persists_append (store : Store) (args : EventArgs) :
    store.Persists (store.append args) :=
  { Store.Persists.refl store with events := List.prefix_append _ _ }

/-- The row under the lock takes the patch that was merged into the row read
before it, if they have the same version. -/
theorem RunRow.Succeeded.guarded {row held : RunRow}
    (succeeded : row.Succeeded held) (change : Json → RunRow → RunRow) :
    (if held.stateVersion = row.stateVersion then change row.state held
      else held) =
      held.guarded row.stateVersion (change held.state) := by
  unfold RunRow.guarded
  split
  case isTrue same => rw [succeeded.names same]
  case isFalse => rfl

theorem StepRow.SameStep.session {row held : StepRow}
    (same : row.SameStep held) : held.sessionId = row.sessionId := by
  have created : held.created.sessionId = row.created.sessionId :=
    congrArg StepRow.sessionId same
  exact created

/-- What `commit_state_patch` publishes for the rows it has read. -/
def CommitArgs.publish (args : CommitArgs) (row : RunRow) (step : StepRow)
    (store : Store) : Store :=
  let version := row.stateVersion + 1
  (((store.after (.commitRun args.runId args.baseVersion
      (mergePatch row.state (.obj args.patch)) version)).after
    (.completeStep args.stepId version args.checkpointId)).append
      (stateCommitted args step version)).append
        (stepCompleted args step version)

theorem CommitArgs.persists_publish (args : CommitArgs) {row : RunRow}
    (step : StepRow) (store : Store)
    (current : row.stateVersion = args.baseVersion) :
    store.Persists (args.publish row step store) := by
  let commitRun : Write := .commitRun args.runId args.baseVersion
    (mergePatch row.state (.obj args.patch)) (row.stateVersion + 1)
  let completeStep : Write :=
    .completeStep args.stepId (row.stateVersion + 1) args.checkpointId
  have advances : commitRun.Advances := by
    change args.baseVersion < row.stateVersion + 1
    omega
  have ran : store.Persists (store.after commitRun) :=
    store.persists_write advances
  have stepped : (store.after commitRun).Persists
      ((store.after commitRun).after completeStep) := by
    have nothing : completeStep.Advances := trivial
    exact Store.persists_write _ nothing
  exact (ran.trans stepped).trans
    ((Store.persists_append _ _).trans (Store.persists_append _ _))

theorem CommitArgs.committed_publish (args : CommitArgs) {row held : RunRow}
    {step taken : StepRow} {store : Store}
    (current : row.stateVersion = args.baseVersion)
    (foundRun : store.run? args.runId = some held)
    (succeeded : row.Succeeded held)
    (foundStep : store.step? args.stepId = some taken)
    (same : step.SameStep taken) :
    args.Committed (row.stateVersion + 1) store
      (args.publish row step store) where
  next := by rw [current]
  run := by
    refine ⟨held, foundRun, current ▸ succeeded.grows, ?_⟩
    have written := succeeded.guarded fun state =>
      RunRow.commit (mergePatch state (.obj args.patch))
        (row.stateVersion + 1)
    rw [← current, ← written]
    simp [CommitArgs.publish, foundRun, current]
  step := by
    refine ⟨taken, foundStep, ?_, ?_⟩
    · simp [CommitArgs.publish, foundStep]
    · have stateEvent : stateCommitted args step =
          stateCommitted args taken := by
        funext version
        rw [stateCommitted, stateCommitted, same.session]
      have stepEvent : stepCompleted args step =
          stepCompleted args taken := by
        funext version
        rw [stepCompleted, stepCompleted, same.session]
      rw [← stateEvent, ← stepEvent]
      exact Store.append_events (Store.append_events rfl _) _

/-- What `apply_system_state_patch` publishes for the row it has read. -/
def publishPatch (runId : String) (patch : Fields) (reason : String)
    (row : RunRow) (store : Store) : Store :=
  let version := row.stateVersion + 1
  (store.after (.patchRun runId row.stateVersion
    (mergePatch row.state (.obj patch)) version)).append
      (systemStatePatchApplied runId row patch reason version)

theorem persists_publishPatch (runId : String) (patch : Fields)
    (reason : String) (row : RunRow) (store : Store) :
    store.Persists (publishPatch runId patch reason row store) := by
  let patchRun : Write := .patchRun runId row.stateVersion
    (mergePatch row.state (.obj patch)) (row.stateVersion + 1)
  have advances : patchRun.Advances := by
    change row.stateVersion < row.stateVersion + 1
    omega
  have patched : store.Persists (store.after patchRun) :=
    Store.persists_write _ advances
  exact patched.trans (Store.persists_append _ _)

theorem systemPatched_publishPatch (runId : String) (patch : Fields)
    (reason : String) {row held : RunRow} {store : Store}
    (found : store.run? runId = some held) (succeeded : row.Succeeded held) :
    SystemPatched runId patch reason (row.stateVersion + 1) store
      (publishPatch runId patch reason row store) := by
  refine ⟨held, found, ?_, ?_, ?_⟩
  · have grows := succeeded.grows
    omega
  · have written := succeeded.guarded fun state =>
      RunRow.patch (mergePatch state (.obj patch)) (row.stateVersion + 1)
    rw [Int.add_sub_cancel, ← written]
    simp [publishPatch, found]
  · have sameEvent : systemStatePatchApplied runId row =
        systemStatePatchApplied runId held := by
      funext patch reason version
      rw [systemStatePatchApplied, systemStatePatchApplied,
        succeeded.session]
    rw [← sameEvent]
    exact Store.append_events rfl _

theorem Lenient.commitStatePatch (lenient : Lenient K) (args : CommitArgs)
    (fails : ∀ error world,
      K.ends thread (.commitStatePatch args) (.error error) world)
    (publishes : ∀ base row step,
      args.Committed (row.stateVersion + 1) base (args.publish row step base) →
      (K.invariant base → K.invariant (args.publish row step base)) ∧
        ∀ world : Connections sqlite,
          world.journal thread = [(base, args.publish row step base)] →
          K.ends thread (.commitStatePatch args) (.ok (row.stateVersion + 1))
            world)
    (unbegun : Service.Unbegun thread world) :
    K.Safe thread (.commitStatePatch args) (commitStatePatch args) world := by
  apply unbegun.ask lenient.within fun _ _ => lenient.owes _ _ _ _
  intro now later here _
  apply lenient.validated here fails
  intro step later early foundStep here stepKept
  apply lenient.select here
  intro middle here runKept
  cases foundRun : Store.query (.run args.runId) middle.db with
  | none => exact lenient.failed _ here (fails _)
  | some row =>
      change K.Safe thread _ (Sql.withConn (if _ then _ else _)) middle
      split
      case isTrue => exact lenient.failed _ here (fails _)
      case isFalse same =>
          have current : row.stateVersion = args.baseVersion :=
            Decidable.not_not.mp same
          apply Service.Contract.safe_write here.free
          intro base relied _
          refine ⟨lenient.owes _ _ _ _, fun _ =>
            ⟨fun _ _ => lenient.owes _ _ _ _, fun _ => ?_⟩⟩
          refine lenient.append fun _ => lenient.append fun _ => ?_
          have kept : middle.db.Persists base.db :=
            lenient.within _ _ _ relied.2
          obtain ⟨held, foundHeld, succeeded⟩ :=
            kept.runs args.runId row foundRun
          obtain ⟨taken, foundTaken, sameStep⟩ :=
            (stepKept.trans (runKept.trans kept)).steps args.stepId step
              foundStep
          have committed := args.committed_publish current foundHeld succeeded
            foundTaken sameStep
          obtain ⟨keeps, ends⟩ := publishes base.db row step committed
          exact lenient.done (here.relied relied.1).journal
            (args.persists_publish step base.db current) keeps ends

theorem Lenient.applySystemStatePatch (lenient : Lenient K) (runId : String)
    (patch : Fields) (reason : String)
    (fails : ∀ error world,
      K.ends thread (.applySystemStatePatch runId patch reason) (.error error)
        world)
    (publishes : ∀ base row,
      SystemPatched runId patch reason (row.stateVersion + 1) base
        (publishPatch runId patch reason row base) →
      (K.invariant base →
          K.invariant (publishPatch runId patch reason row base)) ∧
        ∀ world : Connections sqlite,
          world.journal thread =
            [(base, publishPatch runId patch reason row base)] →
          K.ends thread (.applySystemStatePatch runId patch reason)
            (.ok (row.stateVersion + 1)) world)
    (unbegun : Service.Unbegun thread world) :
    K.Safe thread (.applySystemStatePatch runId patch reason)
      (applySystemStatePatch runId patch reason) world := by
  apply unbegun.ask lenient.within fun _ _ => lenient.owes _ _ _ _
  intro now later here _
  apply lenient.select here
  intro middle here _
  cases found : Store.query (.run runId) middle.db with
  | none => exact lenient.failed _ here (fails _)
  | some row =>
      apply Service.Contract.safe_write here.free
      intro base relied _
      refine ⟨lenient.owes _ _ _ _, fun _ => ?_⟩
      refine lenient.append fun _ => ?_
      have kept : middle.db.Persists base.db := lenient.within _ _ _ relied.2
      obtain ⟨held, foundHeld, succeeded⟩ := kept.runs runId row found
      have patched := systemPatched_publishPatch runId patch reason foundHeld
        succeeded
      obtain ⟨keeps, ends⟩ := publishes base.db row patched
      exact lenient.done (here.relied relied.1).journal
        (persists_publishPatch runId patch reason row base.db) keeps ends

theorem lenient_patching : Lenient patching :=
  ⟨fun _ _ _ => Iff.rfl, fun _ _ _ _ => trivial⟩

theorem patching_others (ends : ∀ result world,
      patching.ends thread call result world)
    (free : ¬ Holds thread world) :
    patching.Safe thread call call.body world := by
  refine @Service.Contract.safe_of_uses _ _ patching thread call _
    (fun base work _ => Store.Persists base work) (fun _ _ => .refl _) ?_ ?_
    (fun _ _ => trivial) ends _ call.body_uses world ?_
  · intro base work _ statement _ related may
    exact related.trans
      (Store.persists_write work (Call.advances_of_issues may))
  · intro later writer _ found own related _
    refine ⟨trivial, fun other different =>
      ⟨frame_commit different later, ?_⟩⟩
    change Store.Persists later.db (later.commit thread).db
    rw [commit_db, view_of_held found own]
    exact related
  · intro writer found own
    exact absurd ⟨writer, found, own⟩ free

end Threads

theorem patching_sound : patching.contract.Sound := by
  apply Service.Contract.sound
  intro thread call world _ free journal
  have unbegun : Service.Unbegun thread world := ⟨free, journal⟩
  cases call with
  | commitStatePatch args =>
      refine lenient_patching.commitStatePatch args (fun _ _ => trivial) ?_
        unbegun
      intro base row step committed
      exact ⟨fun _ => trivial, fun _ journal => ⟨base, _, journal, committed⟩⟩
  | applySystemStatePatch runId patch reason =>
      refine lenient_patching.applySystemStatePatch runId patch reason
        (fun _ _ => trivial) ?_ unbegun
      intro base row patched
      exact ⟨fun _ => trivial, fun _ journal => ⟨base, _, journal, patched⟩⟩
  | _ => exact patching_others (fun _ _ => trivial) free

/-- However the operations of several connections interleave: a call of
`commit_state_patch` or of `apply_system_state_patch` that has returned a version
has made one COMMIT.  If the run had moved under it, its row kept the state of
the other connection, and the events tell of a version that it never had. -/
theorem patched_once (store : Store) (clock : Int)
    (labels : List storeService.machine.Label) (thread : Tid) :
    let config := runFrom Machine.step
      (Machine.initial (@opened sqlite store clock)) labels
    (∀ args version, config.threads thread =
        some ⟨.commitStatePatch args, .done version⟩ →
      Once (args.Committed version) (config.world.journal thread)) ∧
    ∀ runId patch reason version, config.threads thread =
        some ⟨.applySystemStatePatch runId patch reason, .done version⟩ →
      Once (SystemPatched runId patch reason version)
        (config.world.journal thread) := by
  intro config
  have good : patching.contract.Good config :=
    Service.Contract.good_run patching_sound (fun _ _ _ _ => trivial) trivial
      clock labels
  constructor
  · intro args version found
    exact good.returned patching_sound found
  · intro runId patch reason version found
    exact good.returned patching_sound found

def notePatch (name : String) : Call :=
  .applySystemStatePatch "run-1" [(name, .int 1)] "note"

/-- Both connections read version 0; the second one commits first. -/
def racedPatch : List storeService.machine.Label :=
  let acts (thread : Tid) (count : Nat) :
      List storeService.machine.Label :=
    List.replicate count (.act thread ⟨0, "", 0⟩)
  [.spawn 0 (notePatch "late"), .spawn 1 (notePatch "early")] ++
    acts 0 2 ++ acts 1 6 ++ acts 0 4

/-- Both calls return version 1, and the state has one of the patches. -/
theorem raced_patch_lost :
    let config := runFrom Machine.step
      (Machine.initial (@opened sqlite startedRun 0)) racedPatch
    Once (SystemPatched "run-1" [("late", .int 1)] "note" 1)
        (config.world.journal 0) ∧
      Once (SystemPatched "run-1" [("early", .int 1)] "note" 1)
        (config.world.journal 1) ∧
      (Store.run? config.world.db "run-1").map RunRow.state =
        some (.obj [("early", .int 1)]) := by
  refine ⟨?_, ?_, rfl⟩
  · exact (patched_once startedRun 0 racedPatch 0).2 "run-1" _ "note" 1 rfl
  · exact (patched_once startedRun 0 racedPatch 1).2 "run-1" _ "note" 1 rfl

end AgentLedger
