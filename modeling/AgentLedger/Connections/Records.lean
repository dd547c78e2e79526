import AgentLedger.Connections.Footprints

namespace AgentLedger

open Foundation Connections

/-! Every lease is on record: the log tells of the claim that gave it.  Claim
and event are two statements, so this is a matter of whole transactions. -/

theorem StepRow.SameStep.runId {row held : StepRow}
    (same : row.SameStep held) : held.runId = row.runId := by
  have created : held.created.runId = row.created.runId :=
    congrArg StepRow.runId same
  exact created

theorem StepRow.SameStep.stepId {row held : StepRow}
    (same : row.SameStep held) : held.stepId = row.stepId := by
  have created : held.created.stepId = row.created.stepId :=
    congrArg StepRow.stepId same
  exact created

/-- The event of `claim_step` for this lease of the step. -/
structure EventRow.Claims (event : EventRow) (row : StepRow)
    (token : String) : Prop where
  type : event.type = .stepClaimed
  run : event.runId = row.runId
  step : event.stepId = some row.stepId
  payload : ∃ (leaseUntil : Int) (workerId : String),
    event.payloadRef = .inline (.obj
      [("attempt", .int row.attempt),
        ("lease_token", .str token),
        ("lease_until", .int leaseUntil),
        ("worker_id", .str workerId)])

theorem EventRow.Claims.ages {event : EventRow} {row later : StepRow}
    {token : String} (claims : event.Claims row token)
    (same : row.SameStep later) (attempt : later.attempt = row.attempt) :
    event.Claims later token where
  type := claims.type
  run := by rw [same.runId, claims.run]
  step := by rw [same.stepId, claims.step]
  payload := by
    rw [attempt]
    exact claims.payload

/-- What `claim_step` appends for the row it has read. -/
def StepRow.claimedArgs (row : StepRow) (workerId leaseToken : String)
    (leaseUntil : Int) : EventArgs :=
  { runId := row.runId
    sessionId := some row.sessionId
    stepId := some row.stepId
    type := .stepClaimed
    payload := .obj
      [("attempt", .int (row.attempt + 1)),
        ("lease_token", .str leaseToken),
        ("lease_until", .int leaseUntil),
        ("worker_id", .str workerId)] }

namespace Store

def LeasesRecorded (store : Store) : Prop :=
  ∀ stepId row token, store.step? stepId = some row →
    row.activeLease = some token →
    ∃ event ∈ store.events, event.Claims row token

namespace LeasesRecorded

variable {base work : Store}

theorem changed {call : Call} (recorded : base.LeasesRecorded)
    (unclaimed : call.claims = false) (persists : base.Persists work)
    (changes : call.Changes base work) : work.LeasesRecorded := by
  intro stepId row token found leased
  cases before : base.step? stepId with
  | none =>
      have new := (changes.steps.added stepId row before found).2.2.2
      rw [new] at leased
      cases leased
  | some early =>
      obtain ⟨later, present, kept⟩ :=
        changes.steps.persists stepId early before
      have same : later = row := Option.some.inj (present.symm.trans found)
      obtain ⟨again, foundAgain, sameStep⟩ :=
        persists.steps stepId early before
      have sameAgain : again = row :=
        Option.some.inj (foundAgain.symm.trans found)
      rw [same] at kept
      rw [sameAgain] at sameStep
      obtain ⟨attempt, lease⟩ := kept.held unclaimed
      obtain ⟨event, member, claims⟩ :=
        recorded stepId early token before (lease token leased)
      exact ⟨event, persists.events.subset member,
        claims.ages sameStep attempt⟩

variable {row held : StepRow} {workerId leaseToken : String}
  {leaseUntil : Int} {attempt : Nat}

theorem refused (recorded : base.LeasesRecorded)
    (found : base.step? row.stepId = some held)
    (busy : held.status.claimable = false) :
    (base.after (.claimStep row.stepId workerId leaseToken leaseUntil
      attempt)).LeasesRecorded := by
  intro stepId later token foundLater leased
  rw [Store.step?_claimStep] at foundLater
  have same : base.step? stepId = some later := by
    split at foundLater
    case isTrue own =>
        subst own
        rw [found] at foundLater ⊢
        simpa [busy] using foundLater
    case isFalse => exact foundLater
  exact recorded stepId later token same leased

theorem claimed (recorded : base.LeasesRecorded)
    (found : base.step? row.stepId = some held) (same : row.SameStep held)
    (claimable : held.status.claimable = true) :
    (((base.after (.claimStep row.stepId workerId leaseToken leaseUntil
        (row.attempt + 1))).after (.setRunStatus row.runId .running)).append
      (row.claimedArgs workerId leaseToken leaseUntil)).LeasesRecorded := by
  intro stepId later token foundLater leased
  rw [Store.step?_append, Store.step?_setRunStatus,
    Store.step?_claimStep] at foundLater
  split at foundLater
  case isTrue own =>
      subst own
      rw [found, Option.map_some, if_pos claimable] at foundLater
      cases foundLater
      cases leased
      refine ⟨_, List.mem_append_right _ (List.mem_singleton_self _), ?_⟩
      exact ⟨rfl, same.runId.symm, congrArg some same.stepId.symm, leaseUntil,
        workerId, rfl⟩
  case isFalse =>
      obtain ⟨event, member, claims⟩ :=
        recorded stepId later token foundLater leased
      exact ⟨event, List.mem_append_left _ member, claims⟩

end LeasesRecorded

end Store

@[reducible] def recording : storeService.Contract where
  invariant := Store.LeasesRecorded
  extra := fun _ before after => before.db.Persists after.db
  extra_refl := persists_idle
  extra_trans := persists_twice
  extra_of_db := persists_of_db
  admits := fun _ _ _ _ => True
  owes := fun _ _ _ _ => True
  ends := fun _ _ _ _ => True

section Threads

variable {thread : Tid} {call : Call} {world base : Connections sqlite}

theorem recording_select {request : Query}
    {next : request.Answer → StoreM call.Result}
    (free : ¬ Holds thread world)
    (answered : ∀ later, ¬ Holds thread later →
      recording.Safe thread call (next (Store.query request later.db)) later) :
    recording.Safe thread call (.call (.query request) next) world := by
  apply Service.Contract.safe_query free
  intro later relied _ stillFree
  have seen : ¬ Holds thread { later with
      sight := Function.update later.sight thread
        (some ⟨request, Store.query request later.db⟩) } := stillFree
  exact ⟨trivial, answered _ seen⟩

theorem recording_commit {value : Bool} {next : Bool → StoreM call.Result}
    {writer : Writer sqlite} (persists : Store.Persists base.db writer.work)
    (recorded : Store.LeasesRecorded writer.work)
    (rest : ∀ later, ¬ Holds thread later →
      recording.Safe thread call (next value) later) :
    recording.InTransaction thread call base
      (Sql.withConn (.done value) >>= next) writer := by
  intro world opened _
  have view := Service.Contract.view_open opened
  refine ⟨trivial, fun _ => ⟨⟨?_, fun other different =>
    ⟨frame_commit different world, ?_⟩⟩, ?_⟩⟩
  · change Store.LeasesRecorded (world.commit thread).db
    rw [commit_db, view]
    exact recorded
  · change Store.Persists world.db (world.commit thread).db
    rw [commit_db, view, opened.db]
    exact persists
  · exact rest _ (not_holds_commit thread world)

/-- The row was read before the lock was taken, from `early`. -/
theorem recording_claimRow (workerId leaseToken : String) (leaseUntil : Int)
    {row : StepRow} {early : Store} {next : Bool → StoreM call.Result}
    (free : ¬ Holds thread world)
    (found : early.step? row.stepId = some row)
    (kept : early.Persists world.db)
    (rest : ∀ claimed later, ¬ Holds thread later →
      recording.Safe thread call (next claimed) later) :
    recording.Safe thread call
      (claimRow workerId leaseToken leaseUntil row >>= next) world := by
  apply Service.Contract.safe_write free
  intro base relied recorded
  refine ⟨trivial, fun _ => ?_⟩
  obtain ⟨held, foundHeld, same⟩ :=
    (kept.trans relied.2).steps _ _ found
  let claim : Write := .claimStep row.stepId workerId leaseToken leaseUntil
    (row.attempt + 1)
  have counted := Store.count_claimStep base.db row.stepId workerId leaseToken
    leaseUntil (row.attempt + 1)
  have foundBase : Store.step? base.db row.stepId = some held := foundHeld
  rw [foundBase, Option.any_some] at counted
  have updated : Store.Persists base.db (Store.after base.db claim) :=
    Store.persists_write _ trivial
  change recording.InTransaction thread call base
    (Sql.withConn (if (Store.write claim base.db).1 ≠ 1 then .done false else
      .call (.write (.setRunStatus row.runId .running)) fun _ =>
        appendEventInTx (row.claimedArgs workerId leaseToken leaseUntil) >>=
          fun _ => .done true) >>= next)
    ⟨thread, Store.after base.db claim, _⟩
  split
  case isTrue late =>
      have busy : held.status.claimable = false := by
        cases claimable : held.status.claimable with
        | false => rfl
        | true =>
            rw [claimable] at counted
            exact absurd counted late
      apply recording_commit updated
      · exact Store.LeasesRecorded.refused recorded foundBase busy
      · exact rest false
  case isFalse taken =>
      have claimable : held.status.claimable = true := by
        cases claimable : held.status.claimable with
        | true => rfl
        | false =>
            rw [claimable] at counted
            exact absurd (fun same => by cases counted.symm.trans same) taken
      refine ⟨fun _ _ => trivial, fun _ => ?_⟩
      let work := (Store.after base.db claim).after
        (.setRunStatus row.runId .running)
      let args := row.claimedArgs workerId leaseToken leaseUntil
      refine ⟨fun _ _ => trivial, fun _ _ => trivial, fun _ => ?_⟩
      have accepted := Store.write_event work args
      change recording.InTransaction thread call base (Sql.withConn
        ((insertOrRaise (Store.write (.insertEvent (args.row
            (Store.maxSeq work args.runId + 1))) work).1 >>= fun _ => _) >>=
          fun _ => .done true) >>= next)
        ⟨thread, (Store.write (.insertEvent (args.row
          (Store.maxSeq work args.runId + 1))) work).2, _⟩
      rw [accepted]
      have started : (Store.after base.db claim).Persists work := by
        have nothing : (Write.setRunStatus row.runId .running).Advances :=
          trivial
        exact Store.persists_write _ nothing
      have appended : Store.Persists base.db (work.append args) :=
        (updated.trans started).trans (Store.persists_append _ _)
      apply recording_commit appended
      · exact Store.LeasesRecorded.claimed recorded foundBase same claimable
      · exact rest true

theorem recording_claimLoop (workerId : String) (runId wanted : Option String)
    (leaseSeconds : Int) (tries : Nat) (free : ¬ Holds thread world) :
    recording.Safe thread (.claimStep workerId runId leaseSeconds)
      (claimLoop workerId wanted leaseSeconds tries) world := by
  induction tries generalizing world with
  | zero => exact Service.Contract.safe_done fun _ _ => trivial
  | succ tries ih =>
      apply Service.Contract.safe_ask
      intro later relied _
      refine ⟨trivial, fun input now env _ => ?_⟩
      have here : ¬ Holds thread { later with env := env } :=
        relied.1.unheld free
      apply Service.Contract.safe_ask
      intro midst relied _
      refine ⟨trivial, fun input tie env _ => ?_⟩
      have here : ¬ Holds thread { midst with env := env } :=
        relied.1.unheld here
      apply recording_select here
      intro final free
      cases chosen : Store.query (.claimable wanted tie) final.db with
      | none => exact Service.Contract.safe_done fun _ _ => trivial
      | some row =>
          have found := (Store.claimable_found chosen).1
          apply Service.Contract.safe_ask
          intro last relied _
          refine ⟨trivial, fun input leaseToken env _ => ?_⟩
          have here : ¬ Holds thread { last with env := env } :=
            relied.1.unheld free
          apply recording_claimRow workerId leaseToken _ here found relied.2
          intro claimed world free
          cases claimed with
          | true => exact Service.Contract.safe_done fun _ _ => trivial
          | false => exact ih free

end Threads

theorem lenient_recording : Lenient recording :=
  ⟨fun _ _ _ => Iff.rfl, fun _ _ _ _ => trivial⟩

theorem recording_sound : recording.contract.Sound := by
  apply Service.Contract.sound
  intro thread call world _ free _
  cases call with
  | claimStep workerId runId leaseSeconds =>
      exact recording_claimLoop workerId runId _ leaseSeconds 64 free
  | _ =>
      refine lenient_recording.others (fun _ _ => trivial) ?_ free
      intro base work persists changes recorded
      exact recorded.changed rfl persists changes

/-- However the statements of several connections interleave, and whichever of
them die: for every lease that a step is worked on under, the log has the event
of its claim, with its token and its attempt. -/
theorem leases_on_record {store : Store} (recorded : store.LeasesRecorded)
    (clock : Int) (labels : List storeService.machine.Label) :
    (ran store clock labels).world.db.LeasesRecorded :=
  (Service.Contract.good_run recording_sound (fun _ _ _ _ => trivial) recorded
    clock labels).invariant

theorem startedRun_leasesRecorded : startedRun.LeasesRecorded := by
  intro stepId row token found leased
  have idle : ∀ row ∈ startedRun.steps.rows, row.activeLease = none := by
    decide
  rw [idle row (Table.get?_eq_some_iff.mp found).1] at leased
  cases leased

/-- The second claim is on record under its own lease. -/
theorem claimed_again_recorded :
    let later := (ran startedRun 0 (claimedFirst ++ claimedAgain)).world.db
    later.LeasesRecorded ∧
      (Store.step? later "step-1").bind StepRow.activeLease =
        some "lease-2" :=
  ⟨leases_on_record startedRun_leasesRecorded 0 _, rfl⟩

end AgentLedger
