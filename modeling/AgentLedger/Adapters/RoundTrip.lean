import AgentLedger.Adapters.LangGraph
import AgentLedger.MergePatch
import AgentLedger.Runtime.System

namespace AgentLedger

open Foundation

/-! What `get_tuple` reads back of what `put` and `put_writes` have written, one
call after the other. -/

/-- Both methods write, each with one patch of the run's state. -/
inductive Checkpointing
  | put (args : PutArgs)
  | putWrites (args : WritesArgs)

namespace Checkpointing

open LangGraphCheckpointerAdapter

variable (adapter : LangGraphCheckpointerAdapter)

def config : Checkpointing → Fields
  | .put args => args.config
  | .putWrites args => args.config

def body : Checkpointing → RuntimeM Unit
  | .put args => do
      let _ ← adapter.put args
      return ()
  | .putWrites args => adapter.putWrites args

/-- The call with nothing else in between. -/
def perform (operation : Checkpointing × Moment) (world : World) : World :=
  (world.alone operation.2 (operation.1.body adapter)).2

def idOf (checkpoint : Fields) (moment : Moment) : String :=
  match (given checkpoint "id").orElse fun _ =>
      given checkpoint "checkpoint_id" with
  | some id => adapter.text id
  | none => moment.id "lgckpt"

/-- The patch of the run's state that the call amounts to. -/
def patch (moment : Moment) (state : Fields) :
    Checkpointing → Except PyError Fields
  | .put args => .ok
      [("langgraph_checkpoint",
          .obj (record args (idOf adapter args.checkpoint moment))),
        ("langgraph_pending_writes", .arr [])]
  | .putWrites args => (pendingWrites state).map fun pending =>
      writesPatch (pending ++ [entry args])

/-- The arguments are JSON values. -/
def Canonical : Checkpointing → Prop
  | .put args =>
      Json.CanonicalFields args.config ∧
      Json.CanonicalFields args.checkpoint ∧
      Json.CanonicalFields (args.metadata.getD []) ∧
      Json.CanonicalFields (args.newVersions.getD [])
  | .putWrites args =>
      Json.CanonicalFields args.config ∧ Json.CanonicalItems args.writes

/-- The runs that the call leaves. -/
def runsAfter (moment : Moment) (operation : Checkpointing) (store : Store) :
    String → Option RunRow :=
  match adapter.runIdFromConfig operation.config with
  | .error _ => store.run?
  | .ok runId =>
      match store.run? runId with
      | none => store.run?
      | some row =>
          match operation.patch adapter moment row.state.fields with
          | .error _ => store.run?
          | .ok patch => store.runsWith runId (RunRow.patch
              (mergePatch row.state (.obj patch)) (row.stateVersion + 1))

variable {adapter} {world : World} {moment : Moment}

theorem alone_checkpointId (checkpoint : Fields) :
    world.alone moment (adapter.checkpointId checkpoint) =
      (.ok (idOf adapter checkpoint moment), world) := by
  unfold checkpointId idOf
  generalize ((given checkpoint "id").orElse fun _ =>
    given checkpoint "checkpoint_id") = named
  cases named <;> rfl

theorem alone_finalState (runId : String) :
    (world.alone moment (finalState runId)).1 =
        (match world.store.run? runId with
        | some row => .ok row.state.fields
        | none => .error (.keyError ("run not found: " ++ runId))) ∧
      (world.alone moment (finalState runId)).2.store = world.store := by
  have loaded := @performed_loadState world.store moment runId
  unfold finalState
  rw [World.alone_bind, World.alone_store]
  simp only [World.perform, loaded]
  cases world.store.run? runId with
  | none => exact ⟨rfl, rfl⟩
  | some row => exact ⟨rfl, rfl⟩

theorem alone_patch {runId reason : String} {patch : Fields} :
    (world.alone moment (store (.applySystemStatePatch runId patch
      reason))).2.store.run? =
      match world.store.run? runId with
      | none => world.store.run?
      | some row => world.store.runsWith runId (RunRow.patch
          (mergePatch row.state (.obj patch)) (row.stateVersion + 1)) := by
  rw [World.alone_store]
  cases found : world.store.run? runId with
  | none =>
      obtain ⟨error, raised⟩ := @perform_applySystemStatePatch_missing
        world.store moment runId found patch reason
      simp only [World.perform, Call.perform, Call.body, raised]
  | some row =>
      exact (performed_applySystemStatePatch found patch reason).2.1

theorem alone_discard {α β : Type} (program : RuntimeM α) (value : β) :
    (world.alone moment (program >>= fun _ => .done value)).2 =
      (world.alone moment program).2 := by
  rw [World.alone_bind]
  cases (world.alone moment program) with
  | mk result after => cases result <;> rfl

/-- Each of the two methods patches the state of its run, or does nothing. -/
theorem run?_perform (operation : Checkpointing) :
    (perform adapter (operation, moment) world).store.run? =
      runsAfter adapter moment operation world.store := by
  cases operation with
  | put args =>
      simp only [perform, body, runsAfter, config, patch]
      rw [Program.pure_eq, alone_discard]
      unfold LangGraphCheckpointerAdapter.put
      rw [World.alone_bind, World.alone_orRaise]
      cases adapter.runIdFromConfig args.config with
      | error problem => rfl
      | ok runId =>
          simp only
          rw [World.alone_bind, alone_checkpointId]
          simp only [Program.pure_eq]
          rw [alone_discard, alone_patch]
  | putWrites args =>
      simp only [perform, body, runsAfter, config, patch]
      unfold LangGraphCheckpointerAdapter.putWrites
      rw [World.alone_bind, World.alone_orRaise]
      cases adapter.runIdFromConfig args.config with
      | error problem => rfl
      | ok runId =>
          have read := @alone_finalState world moment runId
          simp only
          rw [World.alone_bind]
          cases loaded : world.alone moment (finalState runId) with
          | mk result after =>
              rw [loaded] at read
              obtain ⟨answer, same⟩ := read
              simp only at answer same
              subst answer
              cases found : world.store.run? runId with
              | none => exact congrArg Store.run? same
              | some row =>
                  simp only
                  rw [World.alone_bind, World.alone_orRaise]
                  cases pending : pendingWrites row.state.fields with
                  | error problem => exact congrArg Store.run? same
                  | ok held =>
                      simp only [Program.pure_eq]
                      rw [alone_discard, alone_patch, same, found]
                      rfl

/-! ### What the run's state holds -/

/-- The state of the run, as the methods read it. -/
def stateOf (runId : String) (world : World) : Fields :=
  ((world.store.run? runId).map fun row => row.state.fields).getD []

/-- What the checkpoint record of the run has under a key. -/
def held (runId key : String) (world : World) : Json :=
  (Fields.get? ((Fields.get? (stateOf runId world)
    "langgraph_checkpoint").getD (.obj [])).fields key).getD (.obj [])

/-- A run with this state. -/
def HasState (runId : String) (state : Json) (world : World) : Prop :=
  ∃ row, world.store.run? runId = some row ∧ row.state = state

theorem HasState.stateOf {runId : String} {state : Json}
    (has : HasState runId state world) : stateOf runId world = state.fields := by
  obtain ⟨row, found, rfl⟩ := has
  simp [Checkpointing.stateOf, found]

theorem HasState.perform {runId : String} {state : Json} {patch : Fields}
    {operation : Checkpointing} (has : HasState runId state world)
    (own : adapter.runIdFromConfig operation.config = .ok runId)
    (patches : operation.patch adapter moment state.fields = .ok patch) :
    HasState runId (mergePatch state (.obj patch))
      (perform adapter (operation, moment) world) := by
  obtain ⟨row, found, rfl⟩ := has
  refine ⟨RunRow.patch (mergePatch row.state (.obj patch))
    (row.stateVersion + 1) row, ?_, rfl⟩
  rw [run?_perform, runsAfter]
  simp only [own, found, patches, Store.runsWith, if_pos, Option.map_some]

/-- The states are JSON values, whatever the methods do. -/
def Plain (world : World) : Prop :=
  ∀ runId row, world.store.run? runId = some row → row.state.Canonical

private theorem above_nil (key : String) : Fields.Above key [] := by
  intro field member
  cases member

private theorem canonical_record {args : PutArgs} {id : String}
    (canonical : Canonical (.put args)) :
    Json.CanonicalFields (record args id) := by
  obtain ⟨config, checkpoint, metadata, versions⟩ := canonical
  have configurable : Json.CanonicalFields (configurable args.config).fields := by
    apply canonical_fields
    exact canonical_getD config
  have withId : Json.CanonicalFields (Fields.set args.checkpoint "id"
      (.str id)) :=
    checkpoint.set trivial
  have named : Json.CanonicalFields (withCheckpointId args.config id) :=
    config.set (configurable.set trivial)
  refine ⟨?_, withId, ?_, named, ?_, metadata,
    above_nil _, versions, trivial⟩
  · apply Fields.above_of_keys ["config", "metadata", "new_versions"] rfl
    decide
  · apply Fields.above_of_keys ["metadata", "new_versions"] rfl
    decide
  · apply Fields.above_of_keys ["new_versions"] rfl
    decide

theorem canonicalItems_append {first second : List Json} :
    Json.CanonicalItems (first ++ second) ↔
      Json.CanonicalItems first ∧ Json.CanonicalItems second := by
  induction first with
  | nil => simp [Json.CanonicalItems]
  | cons item rest ih =>
      simp [Json.CanonicalItems, ih, and_assoc]

private theorem canonicalItems_strings {α : Type} (text : α → String)
    (items : List α) :
    Json.CanonicalItems (items.map fun item => .str (text item)) := by
  induction items with
  | nil => trivial
  | cons item rest ih => exact ⟨trivial, ih⟩

private theorem canonical_pending {state : Fields} {pending : List Json}
    (canonical : Json.CanonicalFields state)
    (read : pendingWrites state = .ok pending) :
    Json.CanonicalItems pending := by
  unfold pendingWrites at read
  have own : ((Fields.get? state "langgraph_pending_writes").getD
      (.arr [])).Canonical := by
    cases found : Fields.get? state "langgraph_pending_writes" with
    | none => trivial
    | some value => exact canonical.value (Fields.mem_of_get? found)
  cases value : (Fields.get? state "langgraph_pending_writes").getD
      (.arr []) with
  | arr items =>
      rw [value] at read own
      cases read
      exact own
  | str text =>
      rw [value] at read
      cases read
      exact canonicalItems_strings String.singleton text.toList
  | obj fields =>
      rw [value] at read
      cases read
      exact canonicalItems_strings Prod.fst fields
  | _ =>
      rw [value] at read
      cases read

private theorem canonical_patch {operation : Checkpointing} {state patch : Fields}
    (canonical : operation.Canonical) (plain : Json.CanonicalFields state)
    (patches : operation.patch adapter moment state = .ok patch) :
    Json.CanonicalFields patch := by
  cases operation with
  | put args =>
      cases patches
      refine ⟨?_, canonical_record canonical, above_nil _, trivial, trivial⟩
      apply Fields.above_of_keys ["langgraph_pending_writes"] rfl
      decide
  | putWrites args =>
      simp only [Checkpointing.patch] at patches
      cases read : pendingWrites state with
      | error problem =>
          rw [read] at patches
          cases patches
      | ok pending =>
          rw [read] at patches
          cases patches
          have own : Json.Canonical (entry args) := by
            refine ⟨?_, canonical.1, ?_, trivial, ?_, trivial, above_nil _,
              canonical.2, trivial⟩
            · apply Fields.above_of_keys ["task_id", "task_path", "writes"] rfl
              decide
            · apply Fields.above_of_keys ["task_path", "writes"] rfl
              decide
            · apply Fields.above_of_keys ["writes"] rfl
              decide
          exact ⟨above_nil _, canonicalItems_append.mpr
            ⟨canonical_pending plain read, own, trivial⟩, trivial⟩

theorem Plain.perform {operation : Checkpointing × Moment}
    (plain : Plain world) (canonical : operation.1.Canonical) :
    Plain (perform adapter operation world) := by
  obtain ⟨operation, moment⟩ := operation
  unfold Plain
  rw [run?_perform, runsAfter]
  cases adapter.runIdFromConfig operation.config with
  | error problem => exact plain
  | ok named =>
      cases known : world.store.run? named with
      | none =>
          simp only [known]
          exact plain
      | some old =>
          have before := plain named old known
          simp only [known]
          cases patches : operation.patch adapter moment old.state.fields with
          | error problem => exact plain
          | ok patch =>
              intro runId row found
              rcases (Store.runsWith_eq_some _).mp found with
                ⟨rfl, earlier, again, rfl⟩ | ⟨_, other⟩
              · apply canonical_mergePatch _ _ before
                exact canonical_patch canonical (canonical_fields before) patches
              · exact plain runId row other

/-! ### The last `put` and the writes after it -/

/-- The state from which `get_tuple` reads, after a `put` of the record over
what was held and after writes of the entries. -/
structure Recorded (held : Json) (record : Fields) (entries : List Json)
    (state : Json) : Prop where
  checkpoint : Fields.get? state.fields "langgraph_checkpoint" =
    some (mergePatch held (.obj record))
  pending : Fields.get? state.fields "langgraph_pending_writes" =
    some (.arr entries)

theorem recorded_put (state : Json) (record : Fields) :
    Recorded ((Fields.get? state.fields "langgraph_checkpoint").getD (.obj []))
      record []
      (mergePatch state (.obj [("langgraph_checkpoint", .obj record),
        ("langgraph_pending_writes", .arr [])])) := by
  constructor
  · rw [mergePatch, Json.fields, get?_mergeFields _ (by simp)]
    rfl
  · rw [mergePatch, Json.fields, get?_mergeFields _ (by simp)]
    rfl

theorem Recorded.write {held state : Json} {record : Fields}
    {entries : List Json} (recorded : Recorded held record entries state)
    (more : List Json) :
    Recorded held record more
      (mergePatch state (.obj (writesPatch more))) := by
  constructor
  · rw [mergePatch, Json.fields, writesPatch, get?_mergeFields _ (by simp)]
    exact recorded.checkpoint
  · rw [mergePatch, Json.fields, writesPatch, get?_mergeFields _ (by simp)]
    rfl

theorem recorded_writes {runId : String} {held : Json} {record : Fields}
    (writes : List (WritesArgs × Moment))
    (own : ∀ each ∈ writes, adapter.runIdFromConfig each.1.config = .ok runId) :
    ∀ {world : World} {state : Json} {entries : List Json},
      HasState runId state world → Recorded held record entries state →
      ∃ later, HasState runId later (runFrom (Checkpointing.perform adapter)
          world (writes.map fun each => (.putWrites each.1, each.2))) ∧
        Recorded held record
          (entries ++ writes.map fun each => entry each.1) later := by
  induction writes with
  | nil =>
      intro world state entries has recorded
      refine ⟨state, has, ?_⟩
      rw [List.map_nil, List.append_nil]
      exact recorded
  | cons each rest ih =>
      intro world state entries has recorded
      have read : pendingWrites state.fields = .ok entries := by
        rw [pendingWrites, recorded.pending]
        rfl
      have patches : (putWrites each.1).patch adapter each.2 state.fields =
          .ok (writesPatch (entries ++ [entry each.1])) := by
        simp only [patch, read]
        rfl
      have next := has.perform (own each (List.mem_cons_self ..)) patches
      obtain ⟨later, reached, final⟩ := ih
        (fun other listed => own other (List.mem_cons_of_mem _ listed)) next
        (recorded.write _)
      refine ⟨later, reached, ?_⟩
      rw [List.append_assoc] at final
      exact final

/-- `get_tuple` returns this checkpoint, this metadata and these writes. -/
def ReadsBack (adapter : LangGraphCheckpointerAdapter) (config : Fields)
    (asked : Moment) (checkpoint metadata : Fields) (entries : List Json)
    (world : World) : Prop :=
  ∃ tuple, (world.alone asked (adapter.getTuple config)).1 =
      .ok (some tuple) ∧
    tuple.checkpoint = .obj checkpoint ∧ tuple.metadata = .obj metadata ∧
    tuple.pendingWrites = .arr entries

private theorem merged_record {held : Json} {args : PutArgs} {id : String} :
    Fields.get? (mergeFields held.fields (record args id)) "checkpoint" =
      some (mergePatch ((Fields.get? held.fields "checkpoint").getD (.obj []))
        (.obj (withId args.checkpoint id))) ∧
    Fields.get? (mergeFields held.fields (record args id)) "metadata" =
      some (mergePatch ((Fields.get? held.fields "metadata").getD (.obj []))
        (.obj (args.metadata.getD []))) := by
  have distinct : ((record args id).map Prod.fst).Nodup := by
    change ["checkpoint", "config", "metadata", "new_versions"].Nodup
    decide
  constructor
  · rw [get?_mergeFields _ distinct]
    rfl
  · rw [get?_mergeFields _ distinct]
    rfl

theorem alone_getTuple {runId : String} {held state : Json} {args : PutArgs}
    {id : String} {entries : List Json} {config : Fields} {asked : Moment}
    (has : HasState runId state world)
    (recorded : Recorded held (record args id) entries state)
    (own : adapter.runIdFromConfig config = .ok runId) :
    (world.alone asked (adapter.getTuple config)).1 = .ok (some (tuple config
      (mergeFields held.fields (record args id)) state.fields)) := by
  obtain ⟨row, found, rfl⟩ := has
  have read := @alone_finalState world asked runId
  unfold LangGraphCheckpointerAdapter.getTuple
  rw [World.alone_bind, World.alone_orRaise, own]
  simp only
  rw [World.alone_bind]
  cases loaded : world.alone asked (finalState runId) with
  | mk result after =>
      rw [loaded, found] at read
      obtain ⟨answer, _⟩ := read
      simp only at answer
      subst answer
      have normal : normalized config (mergePatch held
          (.obj (record args id))) =
          .ok (mergeFields held.fields (record args id)) := by
        have present := (@merged_record held args id).1
        simp [normalized, mergePatch, holdsCheckpoint, present]
      simp only [recorded.checkpoint, mergePatch]
      simp only [mergePatch] at normal
      rw [World.alone_bind, World.alone_orRaise, normal]
      rfl

theorem readsBack_iff {runId : String} {held state : Json} {args : PutArgs}
    {id : String} {entries : List Json} {config : Fields} {asked : Moment}
    (has : HasState runId state world) (plain : held.Canonical)
    (canonical : Canonical (.put args))
    (recorded : Recorded held (record args id) entries state)
    (own : adapter.runIdFromConfig config = .ok runId) :
    ReadsBack adapter config asked (withId args.checkpoint id)
        (args.metadata.getD []) entries world ↔
      Overwrites ((Fields.get? held.fields "checkpoint").getD (.obj []))
        (.obj (withId args.checkpoint id)) ∧
      Overwrites ((Fields.get? held.fields "metadata").getD (.obj []))
        (.obj (args.metadata.getD [])) := by
  have inner (key : String) :
      ((Fields.get? held.fields key).getD (.obj [])).Canonical :=
    canonical_getD (canonical_fields plain)
  have named : Json.Canonical (.obj (withId args.checkpoint id)) := by
    have checkpoint := canonical.2.1
    exact checkpoint.set trivial
  have described : Json.Canonical (.obj (args.metadata.getD [])) :=
    canonical.2.2.1
  rw [← mergePatch_eq_iff _ _ (inner _) named,
    ← mergePatch_eq_iff _ _ (inner _) described]
  unfold ReadsBack
  rw [alone_getTuple has recorded own]
  have merged := @merged_record held args id
  constructor
  · rintro ⟨answer, returned, checkpoint, metadata, _⟩
    cases returned
    simp only [tuple, merged.1, merged.2, Option.getD_some] at checkpoint metadata
    exact ⟨checkpoint, metadata⟩
  · rintro ⟨checkpoint, metadata⟩
    refine ⟨_, rfl, ?_, ?_, ?_⟩
    · simp only [tuple, merged.1, Option.getD_some]
      exact checkpoint
    · simp only [tuple, merged.2, Option.getD_some]
      exact metadata
    · simp only [tuple, recorded.pending, Option.getD_some]

theorem run_kept {runId : String} {row : RunRow}
    (found : world.store.run? runId = some row)
    (operation : Checkpointing × Moment) :
    ∃ later, (perform adapter operation world).store.run? runId =
      some later := by
  obtain ⟨operation, moment⟩ := operation
  rw [run?_perform, runsAfter]
  cases adapter.runIdFromConfig operation.config with
  | error problem => exact ⟨row, found⟩
  | ok named =>
      cases known : world.store.run? named with
      | none =>
          simp only [known]
          exact ⟨row, found⟩
      | some old =>
          simp only [known]
          cases operation.patch adapter moment old.state.fields with
          | error problem => exact ⟨row, found⟩
          | ok patch =>
              simp only [Store.runsWith, found]
              split
              · exact ⟨_, rfl⟩
              · exact ⟨row, rfl⟩

/-- After any history of the run: the last `put` and the writes after it are
read back exactly when the last record overwrites the one that was held. -/
theorem round_trip_iff {runId : String} {row : RunRow}
    (found : world.store.run? runId = some row) (plain : Plain world)
    (before : List (Checkpointing × Moment))
    (arguments : ∀ operation ∈ before, operation.1.Canonical)
    (last : PutArgs) (moment : Moment) (canonical : Canonical (.put last))
    (named : adapter.runIdFromConfig last.config = .ok runId)
    (writes : List (WritesArgs × Moment))
    (own : ∀ each ∈ writes, adapter.runIdFromConfig each.1.config = .ok runId)
    (config : Fields) (asked : Moment)
    (getter : adapter.runIdFromConfig config = .ok runId) :
    ReadsBack adapter config asked
        (withId last.checkpoint (idOf adapter last.checkpoint moment))
        (last.metadata.getD []) (writes.map fun each => entry each.1)
        (runFrom (perform adapter) world (before ++ (.put last, moment) ::
          writes.map fun each => (.putWrites each.1, each.2))) ↔
      Overwrites
        (held runId "checkpoint" (runFrom (perform adapter) world before))
        (.obj (withId last.checkpoint
          (idOf adapter last.checkpoint moment))) ∧
      Overwrites
        (held runId "metadata" (runFrom (perform adapter) world before))
        (.obj (last.metadata.getD [])) := by
  have history : Plain (runFrom (perform adapter) world before) ∧
      ∃ reached, (runFrom (perform adapter) world before).store.run? runId =
        some reached := by
    clear named own getter canonical
    induction before generalizing world row with
    | nil => exact ⟨plain, row, found⟩
    | cons operation rest ih =>
        obtain ⟨later, kept⟩ := @run_kept adapter world runId row found
          operation
        exact ih kept
          (plain.perform (arguments operation (List.mem_cons_self ..)))
          fun other listed => arguments other (List.mem_cons_of_mem _ listed)
  rw [runFrom_append, runFrom_cons]
  revert history
  generalize runFrom (perform adapter) world before = reached
  rintro ⟨values, row, here⟩
  have has : HasState runId row.state reached := ⟨row, here, rfl⟩
  have put := @HasState.perform adapter reached moment runId row.state _ (.put last)
    has named rfl
  have recorded := recorded_put row.state
    (record last (idOf adapter last.checkpoint moment))
  obtain ⟨later, written, final⟩ := recorded_writes writes own put recorded
  rw [List.nil_append] at final
  have stored : ((Fields.get? row.state.fields
      "langgraph_checkpoint").getD (.obj [])).Canonical :=
    canonical_getD (canonical_fields (values runId row here))
  rw [readsBack_iff written stored canonical final getter]
  simp only [held, has.stateOf]

/-! ### Two checkpoints of one run -/

def graphAdapter : LangGraphCheckpointerAdapter := ⟨fun _ => ""⟩

/-- A run named `run`, just created. -/
def graphWorld : World :=
  { World.opened with
    store := ((Call.createRun none none none).perform ⟨100, fun kind => kind, 0⟩
      Store.empty).2 }

def graphConfig : Fields :=
  [("configurable", .obj [("agentledger_run_id", .str "run")])]

def draft : PutArgs where
  config := graphConfig
  checkpoint := [("draft", .int 1), ("id", .str "first")]
  metadata := some [("source", .str "input")]

def final : PutArgs where
  config := graphConfig
  checkpoint := [("answer", .int 2), ("id", .str "second")]

def note : WritesArgs where
  config := graphConfig
  writes := [.str "noted"]
  taskId := "task"

private theorem graph_found :
    ∃ row, graphWorld.store.run? "run" = some row ∧ row.state = .obj [] :=
  ⟨_, rfl, rfl⟩

private theorem graph_plain : Plain graphWorld := by
  intro runId row found
  have listed : row ∈ graphWorld.store.runs.rows := (Table.get?_some found).1
  have only : graphWorld.store.runs.rows.map RunRow.state = [.obj []] := by
    decide
  have state : row.state ∈ graphWorld.store.runs.rows.map RunRow.state :=
    List.mem_map_of_mem listed
  rw [only] at state
  rw [List.eq_of_mem_singleton state]
  trivial

private theorem draft_canonical : Canonical (.put draft) := by
  refine ⟨⟨above_nil _, ⟨above_nil _, trivial, trivial⟩, trivial⟩,
    ⟨?_, trivial, above_nil _, trivial, trivial⟩,
    ⟨above_nil _, trivial, trivial⟩, trivial⟩
  apply Fields.above_of_keys ["id"] rfl
  decide

theorem draft_read_back :
    ReadsBack graphAdapter graphConfig ⟨104, fun kind => kind, 0⟩ draft.checkpoint
      [("source", .str "input")] [entry note]
      (runFrom (perform graphAdapter) graphWorld
        [(.put draft, ⟨102, fun kind => kind, 0⟩),
          (.putWrites note, ⟨103, fun kind => kind, 0⟩)]) := by
  obtain ⟨row, found, _⟩ := graph_found
  apply (@round_trip_iff graphAdapter graphWorld "run" row found graph_plain []
    nofun draft ⟨102, fun kind => kind, 0⟩ draft_canonical rfl
    [(note, ⟨103, fun kind => kind, 0⟩)] (by simp; rfl) graphConfig
    ⟨104, fun kind => kind, 0⟩ rfl).mpr
  constructor
  · exact ⟨nofun, nofun, trivial, nofun, trivial, trivial⟩
  · exact ⟨nofun, nofun, trivial, trivial⟩

/-- The second checkpoint comes back with a key of the first, and with the
metadata of the first. -/
theorem draft_read_back_with_final :
    ((runFrom (perform graphAdapter) graphWorld
        [(.put draft, ⟨102, fun kind => kind, 0⟩),
          (.put final, ⟨103, fun kind => kind, 0⟩)]).alone ⟨104, fun kind => kind, 0⟩
      (graphAdapter.getTuple graphConfig)).1.map
        (Option.map fun tuple => (tuple.checkpoint, tuple.metadata)) =
      .ok (some (.obj [("answer", .int 2), ("draft", .int 1),
        ("id", .str "second")], .obj [("source", .str "input")])) ∧
    ¬ReadsBack graphAdapter graphConfig ⟨104, fun kind => kind, 0⟩ final.checkpoint
      [] [] (runFrom (perform graphAdapter) graphWorld
        [(.put draft, ⟨102, fun kind => kind, 0⟩),
          (.put final, ⟨103, fun kind => kind, 0⟩)]) := by
  have read : ((runFrom (perform graphAdapter) graphWorld
        [(.put draft, ⟨102, fun kind => kind, 0⟩),
          (.put final, ⟨103, fun kind => kind, 0⟩)]).alone ⟨104, fun kind => kind, 0⟩
      (graphAdapter.getTuple graphConfig)).1.map
        (Option.map fun tuple => (tuple.checkpoint, tuple.metadata)) =
      .ok (some (.obj [("answer", .int 2), ("draft", .int 1),
        ("id", .str "second")], .obj [("source", .str "input")])) := by
    decide
  refine ⟨read, ?_⟩
  rintro ⟨tuple, returned, checkpoint, metadata, _⟩
  rw [returned] at read
  simp only [Except.map, Option.map_some, checkpoint, metadata] at read
  exact absurd read (by decide)

end Checkpointing

end AgentLedger
