import AgentLedger.Connections.Footprints

namespace AgentLedger

open Foundation Connections

/-! Every state version is on record: for each version that a run has had, the
log has the event of the operation that committed it. -/

structure EventRow.Names (event : EventRow) (runId : String)
    (version : Int) : Prop where
  type : event.type = .stateCommitted ∨ event.type = .systemStatePatchApplied
  run : event.runId = runId
  version : event.stateVersion = some version

namespace Store

def VersionsRecorded (store : Store) : Prop :=
  ∀ runId row, store.run? runId = some row →
    ∀ version, 0 < version → version ≤ row.stateVersion →
      ∃ event ∈ store.events, event.Names runId version

namespace VersionsRecorded

variable {base work : Store}

theorem changed {call : Call} (recorded : base.VersionsRecorded)
    (keeps : call.patches = false) (persists : base.Persists work)
    (changes : call.Changes base work) : work.VersionsRecorded := by
  intro runId row found version above below
  cases before : base.run? runId with
  | none =>
      have new := (changes.runs.added runId row before found).2
      omega
  | some early =>
      obtain ⟨later, present, kept⟩ := changes.runs.persists runId early before
      have same : later = row := Option.some.inj (present.symm.trans found)
      rw [same] at kept
      have current := (kept.state keeps).2
      obtain ⟨event, member, names⟩ :=
        recorded runId early before version above (current ▸ below)
      exact ⟨event, persists.events.subset member, names⟩

theorem advanced {runId : String} {next : Int} {event : EventRow}
    (recorded : base.VersionsRecorded) (grown : base.events <+: work.events)
    (member : event ∈ work.events) (names : event.Names runId next)
    (moved : ∀ other later, work.run? other = some later →
      ∃ early, base.run? other = some early ∧
        (later.stateVersion = early.stateVersion ∨
          other = runId ∧ later.stateVersion = next ∧
            next = early.stateVersion + 1)) : work.VersionsRecorded := by
  intro other later found version above below
  obtain ⟨early, before, same | ⟨own, now, steps⟩⟩ := moved other later found
  · obtain ⟨held, present, told⟩ :=
      recorded other early before version above (same ▸ below)
    exact ⟨held, grown.subset present, told⟩
  · by_cases old : version ≤ early.stateVersion
    · obtain ⟨held, present, told⟩ :=
        recorded other early before version above old
      exact ⟨held, grown.subset present, told⟩
    · have last : version = next := by omega
      subst own
      rw [last]
      exact ⟨event, member, names⟩

theorem published (recorded : base.VersionsRecorded) (args : CommitArgs)
    {row : RunRow} {step : StepRow}
    (committed : args.Committed (row.stateVersion + 1) base
      (args.publish row step base)) :
    (args.publish row step base).VersionsRecorded := by
  have current : row.stateVersion = args.baseVersion := by
    have next := committed.next
    omega
  have grown := (args.persists_publish step base current).events
  refine recorded.advanced grown
    (List.mem_append_left _
      (List.mem_append_right _ (List.mem_singleton_self _)))
    ⟨.inl rfl, rfl, rfl⟩ ?_
  intro other later found
  simp only [CommitArgs.publish, Store.run?_append, Store.run?_completeStep,
    Store.run?_commitRun] at found
  split at found
  case isTrue own =>
      obtain ⟨early, before, rfl⟩ := Option.map_eq_some_iff.mp found
      refine ⟨early, before, ?_⟩
      split
      case isTrue same =>
          exact .inr ⟨own, rfl, by rw [same, current]⟩
      case isFalse => exact .inl rfl
  case isFalse => exact ⟨later, found, .inl rfl⟩

theorem patchPublished (recorded : base.VersionsRecorded) (runId : String)
    (patch : Fields) (reason : String) (row : RunRow) :
    (publishPatch runId patch reason row base).VersionsRecorded := by
  have grown := (persists_publishPatch runId patch reason row base).events
  refine recorded.advanced grown
    (List.mem_append_right _ (List.mem_singleton_self _))
    ⟨.inr rfl, rfl, rfl⟩ ?_
  intro other later found
  simp only [publishPatch, Store.run?_append, Store.run?_patchRun] at found
  split at found
  case isTrue own =>
      obtain ⟨early, before, rfl⟩ := Option.map_eq_some_iff.mp found
      refine ⟨early, before, ?_⟩
      split
      case isTrue same => exact .inr ⟨own, rfl, by rw [same]⟩
      case isFalse => exact .inl rfl
  case isFalse => exact ⟨later, found, .inl rfl⟩

end VersionsRecorded

end Store

@[reducible] def versioned : storeService.Contract where
  invariant := Store.VersionsRecorded
  extra := fun _ before after => before.db.Persists after.db
  extra_refl := persists_idle
  extra_trans := persists_twice
  extra_of_db := persists_of_db
  admits := fun _ _ _ _ => True
  owes := fun _ _ _ _ => True
  ends := fun _ _ _ _ => True

theorem lenient_versioned : Lenient versioned :=
  ⟨fun _ _ _ => Iff.rfl, fun _ _ _ _ => trivial⟩

theorem versioned_sound : versioned.contract.Sound := by
  apply Service.Contract.sound
  intro thread call world _ free journal
  have unbegun : Service.Unbegun thread world := ⟨free, journal⟩
  cases call with
  | commitStatePatch args =>
      refine lenient_versioned.commitStatePatch args (fun _ _ => trivial) ?_
        unbegun
      intro base row step committed
      exact ⟨fun recorded => recorded.published args committed,
        fun _ _ => trivial⟩
  | applySystemStatePatch runId patch reason =>
      refine lenient_versioned.applySystemStatePatch runId patch reason
        (fun _ _ => trivial) ?_ unbegun
      intro base row _
      exact ⟨fun recorded => recorded.patchPublished runId patch reason row,
        fun _ _ => trivial⟩
  | _ =>
      refine lenient_versioned.others (fun _ _ => trivial) ?_ free
      intro base work persists changes recorded
      exact recorded.changed rfl persists changes

/-- However the statements of several connections interleave, and whichever of
them die: no version of a run is missing from the log. -/
theorem versions_on_record {store : Store} (recorded : store.VersionsRecorded)
    (clock : Int) (labels : List storeService.machine.Label) :
    (ran store clock labels).world.db.VersionsRecorded :=
  (Service.Contract.good_run versioned_sound (fun _ _ _ _ => trivial) recorded
    clock labels).invariant

theorem startedRun_versionsRecorded : startedRun.VersionsRecorded := by
  intro runId row found version above below
  have fresh : ∀ row ∈ startedRun.runs.rows, row.stateVersion = 0 := by
    decide
  have zero := fresh row (Table.get?_eq_some_iff.mp found).1
  omega

/-- Also where two connections have read the same version. -/
theorem raced_patch_recorded :
    let later := (ran startedRun 0 racedPatch).world.db
    later.VersionsRecorded ∧
      (Store.run? later "run-1").map RunRow.stateVersion = some 1 :=
  ⟨versions_on_record startedRun_versionsRecorded 0 _, rfl⟩

end AgentLedger
