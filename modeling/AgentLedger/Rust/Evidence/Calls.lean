import AgentLedger.Rust.Evidence.Projection

namespace AgentLedger.Rust

open Foundation

/-! The calls on one store, in any order. -/

namespace EvidenceDatabase

variable {serde : SerdeJson} {hash : String → String} {limit : Nat}
  {db : EvidenceDatabase}

/-! ### Pruning -/

/-- A kept event has its turn kept. -/
private theorem step_of_kept {cutoff : Int} {row : EventRow} {stepId : String}
    (kept : db.prunes cutoff row = false) (named : row.stepId = some stepId)
    (held : (db.steps.get? stepId).isSome) :
    ((db.steps.deleteWhere (db.removable cutoff)).get? stepId).isSome := by
  obtain ⟨step, member, same⟩ := Table.isSome_get?_iff.mp held
  refine Table.isSome_get?_iff.mpr ⟨step, Table.mem_deleteWhere.mpr
    ⟨member, ?_⟩, same⟩
  rw [prunes, named] at kept
  cases removed : db.removable cutoff step with
  | false => rfl
  | true =>
      have listed : step ∈ db.removableSteps cutoff :=
        List.mem_filter.mpr ⟨member, removed⟩
      have none_named := List.any_eq_false.mp kept step listed
      exact absurd (by simpa using same) none_named

theorem Sound.pruned (sound : Sound serde hash limit db) (cutoff : Int)
    (metadata : String → Option String) :
    Sound serde hash limit (db.pruned cutoff metadata) := by
  obtain ⟨sessionOf, ownerOf, owned⟩ := sound.owned
  have events : ∀ row ∈ (db.pruned cutoff metadata).events.rows,
      row ∈ db.events.rows ∧ db.prunes cutoff row = false :=
    fun row member => Table.mem_deleteWhere.mp member
  refine ⟨⟨sound.queueing.ordered, sound.queueing.below, ?_,
    sound.queueing.accepted⟩, ⟨?_, ?_, ?_⟩, sessionOf, ownerOf, ?_⟩
  · intro row member
    have absent := sound.queueing.unprojected row member
    rw [Table.get?_eq_none_iff] at absent ⊢
    exact fun stored held => absent stored (events stored held).1
  · exact fun row member => sound.projecting.accepted row (events row member).1
  · exact fun row member => sound.projecting.positive row (events row member).1
  · exact sound.projecting.numbered.sublist List.filter_sublist
  · constructor
    · exact owned.run
    · exact owned.queue
    · exact owned.queueStep
    · exact fun step member => owned.step step (Table.mem_deleteWhere.mp member).1
    · exact fun row member => owned.event row (events row member).1
    · intro row member stepId named
      obtain ⟨old, kept⟩ := events row member
      obtain ⟨own, there⟩ := owned.eventStep row old stepId named
      exact ⟨own, step_of_kept kept named there⟩

/-- A call prunes behind some cutoff, or leaves the store as it is. -/
theorem prune_cases {keepDays removed : Nat} {after : EvidenceDatabase}
    (pruned : db.pruneToActiveEventDays keepDays = .ok (removed, after)) :
    after = db ∨ ∃ cutoff metadata,
      (removedByRun (db.removableSteps cutoff)).foldlM recordRemoved
        (Function.update db.evidenceBundleMetadata retentionCutoffKey
          (some (toString cutoff))) = .ok metadata ∧
      after = db.pruned cutoff metadata := by
  unfold pruneToActiveEventDays at pruned
  obtain ⟨_, _, pruned⟩ := bind_eq_ok.mp pruned
  split at pruned
  · cases pruned
    exact .inl rfl
  · obtain ⟨metadata, recorded, made⟩ := bind_eq_ok.mp pruned
    cases made
    exact .inr ⟨_, metadata, recorded, rfl⟩

end EvidenceDatabase

/-! ### Sequences of calls -/

inductive EvidenceCall
  | enqueue (event : EvidenceEventInput)
  | projectBatch (limit : Nat)
  | pruneToActiveEventDays (keepDays : Nat)

section Calls

variable (serde : SerdeJson) (hash : String → String)

/-- A call that fails is rolled back. -/
def EvidenceCall.next : EvidenceCall → EvidenceDatabase → EvidenceDatabase
  | .enqueue event, db => (db.enqueue serde event).2
  | .projectBatch limit, db =>
      match db.projectBatch serde hash limit with
      | .ok (_, after) => after
      | .error _ => db
  | .pruneToActiveEventDays keepDays, db =>
      match db.pruneToActiveEventDays keepDays with
      | .ok (_, after) => after
      | .error _ => db

variable {serde} {hash} {limit : Nat} {db : EvidenceDatabase}

namespace EvidenceDatabase

theorem projectBatch_of_limit (sound : Sound serde hash limit db) {count : Nat}
    (positive : 0 < count) (fits : count < 2 ^ 63) :
    db.projectBatch serde hash count =
      (db.evidenceIngestQueue.rows.take count).foldlM
        (projectEvent serde hash) ({}, db) := by
  rw [projectBatch, ensure, if_pos (decide_eq_true positive), ensure,
    if_pos (decide_eq_true fits), queued_eq_take sound]
  rfl

/-- A batch does nothing, or what its events do one after the other. -/
theorem projectBatch_cases (sound : Sound serde hash limit db) (count : Nat) :
    (∃ error, db.projectBatch serde hash count = .error error) ∨
      db.projectBatch serde hash count =
        (db.evidenceIngestQueue.rows.take count).foldlM
          (projectEvent serde hash) ({}, db) := by
  by_cases positive : 0 < count
  · by_cases fits : count < 2 ^ 63
    · exact .inr (projectBatch_of_limit sound positive fits)
    · rw [projectBatch]
      refine .inl ⟨⟨"out of range integral type conversion attempted"⟩, ?_⟩
      rw [ensure, if_pos (decide_eq_true positive), ensure,
        if_neg (by simpa using fits)]
      rfl
  · refine .inl ⟨⟨"projection limit must be positive"⟩, ?_⟩
    rw [projectBatch, ensure, if_neg (by simpa using positive)]
    rfl

theorem Sound.next (lawful : serde.Lawful limit)
    (sound : Sound serde hash limit db) (call : EvidenceCall) :
    Sound serde hash limit (call.next serde hash db) := by
  cases call with
  | enqueue event => exact sound.enqueue event
  | projectBatch count =>
      rw [EvidenceCall.next]
      rcases projectBatch_cases sound count with ⟨error, failed⟩ | ran
      · rw [failed]
        exact sound
      · obtain ⟨final, ends, kept, _⟩ := batch_induction lawful
          (motive := fun _ _ _ => True) (fun _ _ _ => trivial)
          (fun _ _ _ _ _ _ _ _ _ _ _ _ _ _ _ _ => trivial)
          (fun _ _ _ _ _ _ _ _ _ _ _ _ _ _ => trivial) count {} sound
        rw [ran, ends]
        exact kept
  | pruneToActiveEventDays keepDays =>
      rw [EvidenceCall.next]
      cases pruned : db.pruneToActiveEventDays keepDays with
      | error error => exact sound
      | ok outcome =>
          obtain ⟨removed, after⟩ := outcome
          rcases prune_cases pruned with rfl | ⟨cutoff, metadata, _, rfl⟩
          · exact sound
          · exact sound.pruned cutoff metadata

/-- Every store that calls lead to is sound. -/
theorem sound_of_calls (lawful : serde.Lawful limit)
    (calls : List EvidenceCall) :
    Sound serde hash limit (runFrom (EvidenceCall.next serde hash) .empty
      calls) :=
  @runFrom_invariant _ _ _ (Sound serde hash limit)
    (fun _ call sound => Sound.next lawful sound call) .empty calls sound_empty

end EvidenceDatabase

end Calls

end AgentLedger.Rust
