import AgentLedger.Foundation.TransactionContract
import AgentLedger.Reconstruction
import AgentLedger.Store.Issues

namespace AgentLedger

open Foundation Connections

/-! The numbers of the events when connections interleave statement by
statement. -/

namespace Store

/-- The events of every run are numbered from one, in the order in which they
were committed. -/
def Dense (store : Store) : Prop :=
  ∀ runId, (store.log runId).map EventRow.seq =
    List.range' 1 (store.log runId).length

theorem dense_empty : Store.empty.Dense := fun _ => rfl

theorem foldr_max_range (count least : Nat) :
    (List.range' 1 count).foldr max least = max count least := by
  induction count generalizing least with
  | zero => simp
  | succ count ih =>
      rw [List.range'_1_concat, List.foldr_append, List.foldr_cons,
        List.foldr_nil, ih]
      omega

theorem Dense.maxSeq {store : Store} (dense : store.Dense) (runId : String) :
    store.maxSeq runId = (store.log runId).length := by
  have numbers := foldr_max_range (store.log runId).length 0
  rw [← dense runId] at numbers
  exact numbers.trans (Nat.max_zero _)

/-- An INSERT is refused exactly if its number is taken. -/
theorem Dense.accepts {store : Store} (dense : store.Dense) {row : EventRow}
    (positive : 1 ≤ row.seq) :
    (store.write (.insertEvent row)).1 = true ↔
      store.maxSeq row.runId < row.seq := by
  have taken : (store.events.any fun event =>
      event.runId = row.runId && event.seq = row.seq) = true ↔
        row.seq ∈ (store.log row.runId).map EventRow.seq := by
    simp only [List.any_eq_true, Bool.and_eq_true, decide_eq_true_eq,
      List.mem_map, Store.log, List.mem_filter]
    constructor
    · rintro ⟨event, member, own, same⟩
      exact ⟨event, ⟨member, own⟩, same⟩
    · rintro ⟨event, ⟨member, own⟩, same⟩
      exact ⟨event, member, own, same⟩
  rw [dense row.runId, List.mem_range'_1, ← dense.maxSeq] at taken
  simp only [write]
  split
  case isTrue found =>
      have below := (taken.mp found).2
      simp only [Bool.false_eq_true, false_iff]
      omega
  case isFalse free =>
      simp only [true_iff]
      by_contra above
      exact free (taken.mpr ⟨positive, by omega⟩)

theorem write_insertEvent (store : Store) (row : EventRow) :
    ((store.write (.insertEvent row)).1 = false ∧
      (store.after (.insertEvent row)).events = store.events) ∨
    (store.write (.insertEvent row)).1 = true ∧
      (store.after (.insertEvent row)).events = store.events ++ [row] := by
  simp only [after, write]
  split
  · exact .inl ⟨rfl, rfl⟩
  · exact .inr ⟨rfl, rfl⟩

theorem Dense.same {store later : Store} (dense : store.Dense)
    (same : later.events = store.events) :
    later.Dense ∧ ∀ runId, store.maxSeq runId ≤ later.maxSeq runId := by
  refine ⟨fun runId => ?_, fun runId => ?_⟩
  · rw [Store.log, same]
    exact dense runId
  · rw [Store.maxSeq, Store.maxSeq, same]

/-- An event whose number is no more than the next one is refused, or has the
next one. -/
theorem Dense.after {store : Store} (dense : store.Dense) {statement : Write}
    (numbered : ∀ row, statement = .insertEvent row →
      1 ≤ row.seq ∧ row.seq ≤ store.maxSeq row.runId + 1) :
    (store.after statement).Dense ∧
      ∀ runId, store.maxSeq runId ≤ (store.after statement).maxSeq runId := by
  cases statement with
  | insertEvent row =>
      obtain ⟨positive, next⟩ := numbered row rfl
      rcases write_insertEvent store row with ⟨_, same⟩ | ⟨accepted, grown⟩
      · exact dense.same same
      · have fresh := (dense.accepts positive).mp accepted
        have number : row.seq = (store.log row.runId).length + 1 := by
          rw [dense.maxSeq] at fresh next
          omega
        have log (runId : String) : (store.after (.insertEvent row)).log runId =
            store.log runId ++ if row.runId = runId then [row] else [] := by
          simp only [Store.log, grown, List.filter_append, List.filter_cons,
            List.filter_nil, decide_eq_true_eq]
        have dense_ : (store.after (.insertEvent row)).Dense := by
          intro runId
          rw [log]
          split
          case isTrue own =>
              subst own
              rw [List.map_append, dense row.runId, List.length_append,
                List.map_singleton, List.length_singleton, number,
                List.range'_1_concat, Nat.add_comm 1]
          case isFalse =>
              rw [List.append_nil]
              exact dense runId
        refine ⟨dense_, fun runId => ?_⟩
        rw [dense.maxSeq, dense_.maxSeq, log, List.length_append]
        omega
  | _ => exact dense.same (events_after rfl store)

end Store

/-! ### What a connection knows of the number it has read -/

/-- The connection has read the next number of the run: in its transaction, or
before it, when others may have appended since. -/
structure Knows (thread : Tid) (world : Connections sqlite) (runId : String)
    (seq : Nat) : Prop where
  positive : 1 ≤ seq
  below : seq ≤ (world.view thread).maxSeq runId + 1
  held : Holds thread world → seq = (world.view thread).maxSeq runId + 1
  seen : ¬ Holds thread world →
    world.sight thread = some ⟨.nextSeq runId, seq⟩

/-- What a connection in the middle of a call has done and read. -/
structure Numbering (thread : Tid) (call : Call) (rest : StoreM call.Result)
    (world : Connections sqlite) : Prop where
  reads : ∃ read, IssuingFrom call.Issues read rest ∧
    ∀ runId seq, read = some (runId, seq) → Knows thread world runId seq
  work : ∀ writer, world.writer = some writer → writer.owner = thread →
    writer.work.Dense ∧
      ∀ runId, world.db.maxSeq runId ≤ writer.work.maxSeq runId

def Grows (before after : Store) : Prop :=
  ∀ runId, before.maxSeq runId ≤ after.maxSeq runId

/-- Nobody takes numbers back, and an event that is inserted has a number that
was read. -/
@[reducible] def numberedEvents : storeService.Contract where
  invariant := Store.Dense
  extra := fun _ before after => Grows before.db after.db
  extra_refl := fun _ _ _ => le_refl _
  extra_trans := fun _ _ _ _ _ _ early late runId =>
    le_trans (early runId) (late runId)
  extra_of_db := by
    intro _ _ _ _ same runId
    rw [same]
  admits := fun _ _ _ _ => True
  owes := fun thread _ cmd world => ∀ row, cmd = .write (.insertEvent row) →
    (world.view thread).Dense ∧ Knows thread world row.runId row.seq
  ends := fun _ _ _ _ => True

section Threads

variable {thread : Tid} {world later : Connections sqlite}

theorem view_relied (framed : Frame thread world later)
    (grows : Grows world.db later.db) :
    Grows (world.view thread) (later.view thread) := by
  intro runId
  by_cases held : Holds thread world
  · obtain ⟨writer, found, own⟩ := held
    obtain ⟨kept, _⟩ := framed.held writer found own
    simp [view, found, kept, own]
  · rw [view_of_free held, view_of_free (framed.unheld held)]
    exact grows runId

theorem Knows.relied {runId : String} {seq : Nat}
    (knows : Knows thread world runId seq) (framed : Frame thread world later)
    (grows : Grows world.db later.db) : Knows thread later runId seq where
  positive := knows.positive
  below := by
    have above := view_relied framed grows runId
    have below := knows.below
    omega
  held := by
    intro holds
    by_cases held : Holds thread world
    · obtain ⟨writer, found, own⟩ := held
      obtain ⟨kept, _⟩ := framed.held writer found own
      have known := knows.held ⟨writer, found, own⟩
      simpa [view, found, kept, own] using known
    · exact absurd holds (framed.unheld held)
  seen := by
    intro free
    have before : ¬ Holds thread world := by
      rintro ⟨writer, found, own⟩
      exact free ⟨writer, (framed.held writer found own).1, own⟩
    rw [framed.sight]
    exact knows.seen before

theorem Numbering.relied {call : Call} {rest : StoreM call.Result}
    (numbering : Numbering thread call rest world)
    (framed : Frame thread world later) (grows : Grows world.db later.db) :
    Numbering thread call rest later where
  reads := by
    obtain ⟨read, issuing, knows⟩ := numbering.reads
    exact ⟨read, issuing, fun runId seq same =>
      (knows runId seq same).relied framed grows⟩
  work := by
    intro writer found own
    by_cases held : Holds thread world
    · obtain ⟨earlier, foundEarlier, ownEarlier⟩ := held
      obtain ⟨kept, same⟩ := framed.held earlier foundEarlier ownEarlier
      rw [found] at kept
      cases kept
      rw [same]
      exact numbering.work writer foundEarlier ownEarlier
    · exact absurd ⟨writer, found, own⟩ (framed.unheld held)

theorem Numbering.view {call : Call} {rest : StoreM call.Result}
    (numbering : Numbering thread call rest world) (dense : world.db.Dense) :
    (world.view thread).Dense ∧ Grows world.db (world.view thread) := by
  by_cases held : Holds thread world
  · obtain ⟨writer, found, own⟩ := held
    rw [view_of_held found own]
    exact numbering.work writer found own
  · rw [view_of_free held]
    exact ⟨dense, fun _ => le_refl _⟩

private theorem Numbering.unread {call : Call} {rest : StoreM call.Result}
    (issuing : Issuing call.Issues rest)
    (work : ∀ writer, later.writer = some writer → writer.owner = thread →
      writer.work.Dense ∧ Grows later.db writer.work) :
    Numbering thread call rest later :=
  ⟨⟨none, issuing, fun _ _ same => by cases same⟩, work⟩

theorem Numbering.acts {call : Call} {cmd : sqlite.Command}
    {next : cmd.Reply → StoreM call.Result} (dense : world.db.Dense)
    (numbering : Numbering thread call (.call cmd next) world) :
    numberedEvents.contract.owes thread call cmd world ∧
      ∀ input reply after,
        storeService.machine.act thread cmd input world =
          some (reply, after) →
        numberedEvents.contract.Guarantees thread world after ∧
          Numbering thread call (next reply) after := by
  obtain ⟨read, issuing, knows⟩ := numbering.reads
  constructor
  · intro row same
    cases same
    exact ⟨(numbering.view dense).1, knows row.runId row.seq issuing.1.2⟩
  · intro input reply after acted
    have framed : ∀ other, other ≠ thread → Frame other world after :=
      fun _ different => frame_act different acted
    cases cmd with
    | query request =>
        have answered : reply = Store.query request (world.view thread) := by
          cases acted
          rfl
        have moved : after = (world.query thread request).2 := by
          cases acted
          rfl
        obtain ⟨db, writer⟩ := @query_leaves _ thread world request
        rw [← moved] at db writer
        refine ⟨Service.Contract.guarantees_of_db dense db framed,
          ⟨⟨_, issuing.2 _, ?_⟩, ?_⟩⟩
        · intro runId seq same
          cases request with
          | nextSeq asked =>
              obtain ⟨rfl, rfl⟩ := Prod.mk.inj (Option.some.inj same)
              have view : after.view thread = world.view thread := by
                rw [Connections.view, db, writer, Connections.view]
              rw [answered]
              refine ⟨Nat.le_add_left _ _, by rw [view]; exact le_refl _,
                fun _ => by rw [view]; rfl, fun free => ?_⟩
              have before : ¬ Holds thread world := by
                rwa [Holds, writer] at free
              rw [moved, query_seen before, view_of_free before]
          | _ => cases same
        · rw [db, writer]
          exact numbering.work
    | write statement =>
        obtain ⟨_, db, _, statements, writer⟩ := write_works acted
        obtain ⟨denseView, grown⟩ := numbering.view dense
        refine ⟨Service.Contract.guarantees_of_db dense db framed,
          .unread (issuing.2 _) ?_⟩
        intro mine found _
        rw [writer] at found
        cases found
        rw [db]
        have numbered : ∀ row, statement = .insertEvent row →
            1 ≤ row.seq ∧
              row.seq ≤ (world.view thread).maxSeq row.runId + 1 := by
          intro row same
          subst same
          have known := knows row.runId row.seq issuing.1.2
          exact ⟨known.positive, known.below⟩
        obtain ⟨denseWork, more⟩ := denseView.after numbered
        exact ⟨denseWork, fun runId => le_trans (grown runId) (more runId)⟩
    | ask about =>
        simp only [Connections.act, Option.map_eq_some_iff] at acted
        obtain ⟨⟨told, env⟩, _, same⟩ := acted
        cases same
        exact ⟨Service.Contract.guarantees_of_db dense rfl framed,
          .unread (issuing.2 _) numbering.work⟩
    | commit =>
        cases acted
        obtain ⟨denseView, grown⟩ := numbering.view dense
        rw [← commit_db] at denseView grown
        refine ⟨⟨denseView, fun other different =>
          ⟨framed other different, grown⟩⟩, .unread (issuing.2 _) ?_⟩
        intro writer found own
        exact absurd ⟨writer, found, own⟩ (not_holds_commit thread world)
    | rollback =>
        cases acted
        refine ⟨Service.Contract.guarantees_of_db dense rfl framed,
          .unread (issuing.2 _) ?_⟩
        intro writer found own
        exact absurd ⟨writer, found, own⟩ (not_holds_rollback thread world)

end Threads

theorem numberedEvents_sound : numberedEvents.contract.Sound := by
  apply Service.Contract.sound
  intro thread call world dense free _
  refine @Machine.Contract.Safe.of_known _ numberedEvents.contract thread call
    (Numbering thread call)
    (fun _ _ _ relied _ known => known.relied relied.1 relied.2)
    (fun _ _ _ => trivial) (fun _ _ _ => trivial) ?_ _ world ?_
  · intro cmd next world dense known
    obtain ⟨owed, acts⟩ := known.acts dense
    exact ⟨owed, fun input _ => acts input⟩
  · refine ⟨⟨none, call.body_issuing, fun _ _ same => by cases same⟩, ?_⟩
    intro writer found own
    exact absurd ⟨writer, found, own⟩ free

/-! ### Whole runs -/

abbrev Connected := storeService.machine.Config

/-- The event that a connection is about to append. -/
def Appends (config : Connected) (thread : Tid) (row : EventRow) : Prop :=
  ∃ call next, config.threads thread =
    some ⟨call, .call (.write (.insertEvent row)) next⟩

/-- No INSERT of an event is refused, so no operation fails at one. -/
def Appended (config : Connected) : storeService.machine.Label → Prop
  | .act thread _ => ∀ row, Appends config thread row →
      ∀ accepted after,
        config.world.write thread (Write.insertEvent row) =
        some (accepted, after) → accepted = true
  | _ => True

/-- Where a transaction begins with the INSERT of an event, nobody has
committed an event of its run since the connection read the next number. -/
def Unraced (config : Connected) : storeService.machine.Label → Prop
  | .act thread _ => ∀ row, Appends config thread row →
      config.world.writer = none → config.world.sight thread =
        some ⟨.nextSeq row.runId, config.world.db.maxSeq row.runId + 1⟩
  | _ => True

theorem appended_iff_unraced {config : Connected}
    (good : numberedEvents.contract.Good config)
    (label : storeService.machine.Label) :
    Appended config label ↔ Unraced config label := by
  cases label with
  | act thread input =>
      constructor
      · intro appended row appends unlocked
        obtain ⟨call, next, found⟩ := appends
        obtain ⟨dense, knows⟩ := good.owes numberedEvents_sound found row rfl
        have free : ¬ Holds thread config.world := by
          rintro ⟨writer, locked, _⟩
          rw [unlocked] at locked
          cases locked
        rw [view_of_free free] at dense
        have accepted := appended row ⟨call, next, found⟩
          (config.world.db.write (.insertEvent row)).1 _ (by
            simp only [Connections.write, unlocked]
            rfl)
        have fresh := (dense.accepts knows.positive).mp accepted
        have below := knows.below
        rw [view_of_free free] at below
        rw [knows.seen free, Nat.le_antisymm below fresh]
      · intro unraced row appends accepted after written
        obtain ⟨call, next, found⟩ := appends
        obtain ⟨dense, knows⟩ := good.owes numberedEvents_sound found row rfl
        obtain ⟨counted, _⟩ := write_works written
        rw [counted]
        refine (dense.accepts knows.positive).mpr ?_
        by_cases held : Holds thread config.world
        · have next := knows.held held
          omega
        · have unlocked := (write_goes written).resolve_right held
          have seen := unraced row ⟨call, next, found⟩ unlocked
          rw [knows.seen held] at seen
          have same : row.seq = Store.maxSeq config.world.db row.runId + 1 :=
            eq_of_heq (Sigma.mk.inj (Option.some.inj seen)).2
          rw [view_of_free held]
          omega
  | _ => exact Iff.rfl

/-- However the operations of several connections interleave, the events of
every run are numbered without gaps in commit order; and no INSERT of an event
is refused exactly in the runs in which none is raced. -/
theorem unrefused_iff_unraced {store : Store} (dense : store.Dense)
    (clock : Int) (labels : List storeService.machine.Label) :
    Always Machine.step (fun config : Connected => config.world.db.Dense)
        (Machine.initial (opened store clock)) labels ∧
      (Each Machine.step Appended (Machine.initial (opened store clock))
          labels ↔
        Each Machine.step Unraced (Machine.initial (opened store clock))
          labels) := by
  have good : numberedEvents.contract.Good
      (Machine.initial (opened store clock)) :=
    Machine.Contract.good_initial dense
  have admitted (config : Connected) (label : storeService.machine.Label) :
      numberedEvents.contract.Admitted config label := by
    cases label with
    | spawn thread call => trivial
    | act thread input =>
        simp only [Machine.Contract.Admitted]
        split <;> trivial
    | crash thread => trivial
  have kept (config : Connected) (label : storeService.machine.Label)
      (good : numberedEvents.contract.Good config) :
      numberedEvents.contract.Good (Machine.step label config) :=
    good.step numberedEvents_sound config label (admitted config label)
  constructor
  · have always := @Each.always _ _ Machine.step (fun _ _ => True) _
      (fun config label good _ => kept config label good) _ labels good
      (each_trivial _ labels)
    exact always.mono fun config good => good.invariant
  · exact Each.congr numberedEvents.contract.Good
      (fun config label good _ => kept config label good)
      (fun config label good => appended_iff_unraced good label) good

/-- What the operation of a connection has failed with. -/
def failure (config : Connected) (thread : Tid) : Option PyError :=
  match config.threads thread with
  | some ⟨_, .raise error⟩ => some error
  | _ => none

def startedRun : Store :=
  Store.next (.createRun none none none, ⟨0, fun kind => kind ++ "-1", 0⟩)
    .empty

def raceStart : Connected := Machine.initial (@opened sqlite startedRun 0)

/-- Both connections read the number three; the second one appends first. -/
def racedAppend : List storeService.machine.Label :=
  let event : Call := .appendEvent "agent_note"
    { runId := "run-1", type := .reported "agent_note", payload := .obj [] }
  let act (thread : Tid) : storeService.machine.Label := .act thread ⟨0, "", 0⟩
  [.spawn 0 event, .spawn 1 event, act 0, act 1, act 1, act 1, act 0, act 0]

theorem unrefused_of_empty :
    Always Machine.step (fun config : Connected => config.world.db.Dense)
        (Machine.initial (opened Store.empty 0)) racedAppend ∧
      (Each Machine.step Appended (Machine.initial (opened Store.empty 0))
          racedAppend ↔
        Each Machine.step Unraced (Machine.initial (opened Store.empty 0))
          racedAppend) :=
  unrefused_iff_unraced Store.dense_empty 0 racedAppend

/-- The first operation fails, and its event is lost. -/
theorem raced_append_fails :
    ¬ Each Machine.step Appended raceStart racedAppend ∧
      failure (runFrom Machine.step raceStart racedAppend) 0 =
        some .integrityError ∧
      (Store.log (runFrom Machine.step raceStart racedAppend).world.db
        "run-1").length = 3 := by
  refine ⟨fun each => ?_, by decide, by decide⟩
  have insert := each.2.2.2.2.2.2.1 _ ⟨_, _, rfl⟩ _ _ rfl
  revert insert
  decide

end AgentLedger
