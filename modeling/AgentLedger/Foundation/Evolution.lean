import AgentLedger.Foundation.Table
import AgentLedger.Foundation.TransactionContract

namespace Foundation

open Connections

/-! How committed states change.  Where every statement that a call may issue
is in a reflexive and transitive relation of the call, so is each of its
COMMITs, however the connections interleave; where all calls share one relation,
the committed states of any two moments of a run are in it. -/

/-- Only a COMMIT is entered into the journal. -/
theorem Connections.act_journal {E : Engine} {thread : Tid} {cmd : E.Command}
    {input : E.Input} {world after : Connections E} {reply : cmd.Reply}
    (acted : Connections.act thread cmd input world = some (reply, after))
    (other : cmd ≠ .commit) : after.journal = world.journal := by
  cases cmd with
  | query request =>
      cases acted
      split <;> rfl
  | write statement =>
      change world.write thread statement = some (reply, after) at acted
      unfold Connections.write at acted
      split at acted
      case _ =>
          cases acted
          rfl
      case _ =>
          split at acted
          case isTrue =>
              cases acted
              rfl
          case isFalse => cases acted
  | ask about =>
      simp only [Connections.act, Option.map_eq_some_iff] at acted
      obtain ⟨told, _, same⟩ := acted
      cases same
      rfl
  | commit => exact absurd rfl other
  | rollback =>
      cases acted
      rfl

namespace Service

variable {E : Engine}

section Admitting

variable {S : Service E} {K : S.Contract}

/-- Where a contract admits every command, no step needs a reason. -/
theorem Contract.good_step (sound : K.contract.Sound)
    (admits : ∀ thread call cmd world, K.admits thread call cmd world)
    {config : S.machine.Config} (label : S.machine.Label)
    (good : K.contract.Good config) :
    K.contract.Good (Machine.step label config) := by
  apply good.step sound
  cases label with
  | spawn thread call => trivial
  | act thread input =>
      simp only [Machine.Contract.Admitted]
      split
      · exact admits _ _ _ _
      · trivial
  | crash thread => trivial

theorem Contract.good_run (sound : K.contract.Sound)
    (admits : ∀ thread call cmd world, K.admits thread call cmd world)
    {db : E.State} (begins : K.invariant db) (env : E.Env)
    (labels : List S.machine.Label) :
    K.contract.Good (runFrom Machine.step (Machine.initial (opened db env))
      labels) :=
  runFrom_invariant (fun _ label good => good_step sound admits label good)
    labels (Machine.Contract.good_initial begins)

end Admitting

structure Footprints (S : Service E) where
  issues : S.Call → E.Write → Prop
  issued : ∀ call, (S.body call).Uses (Sql.Writes (issues call))
  changes : S.Call → E.State → E.State → Prop
  refl : ∀ call state, changes call state state
  trans : ∀ call first second third, changes call first second →
    changes call second third → changes call first third
  written : ∀ call statement state, issues call statement →
    changes call state (E.write statement state).2

namespace Footprints

variable {S : Service E} (F : S.Footprints)

@[reducible] def contract : S.Contract where
  invariant := fun _ => True
  extra := fun _ _ _ => True
  extra_refl := fun _ _ => trivial
  extra_trans := fun _ _ _ _ _ _ _ _ => trivial
  extra_of_db := fun _ _ _ _ _ => trivial
  admits := fun _ _ _ _ => True
  owes := fun thread call _ world =>
    F.changes call world.db (world.view thread)
  ends := fun _ _ _ _ => True

/-- A connection in the middle of a call, and what it has made of the state. -/
structure Within (thread : Tid) (call : S.Call)
    (rest : Sql E S.Error (S.Result call)) (world : Connections E) : Prop where
  uses : rest.Uses (Sql.Writes (F.issues call))
  changed : F.changes call world.db (world.view thread)

variable {F} {thread : Tid} {call : S.Call} {world later : Connections E}

theorem changed_relied (framed : Frame thread world later)
    (changed : F.changes call world.db (world.view thread)) :
    F.changes call later.db (later.view thread) := by
  by_cases held : Holds thread world
  · obtain ⟨writer, found, own⟩ := held
    obtain ⟨kept, same⟩ := framed.held writer found own
    rw [view_of_held kept own, same]
    rwa [view_of_held found own] at changed
  · rw [view_of_free (framed.unheld held)]
    exact F.refl _ _

theorem Within.acts {cmd : E.Command}
    {next : cmd.Reply → Sql E S.Error (S.Result call)}
    (within : F.Within thread call (.call cmd next) world) {input : E.Input}
    {reply : cmd.Reply}
    (acted : S.machine.act thread cmd input world = some (reply, later)) :
    F.Within thread call (next reply) later := by
  refine ⟨within.uses.2 reply, ?_⟩
  have changed := within.changed
  cases cmd with
  | query request =>
      have moved : later = (world.query thread request).2 := by
        cases acted
        rfl
      obtain ⟨db, writer⟩ := @query_leaves _ thread world request
      rw [← moved] at db writer
      rw [db, Connections.view, db, writer]
      exact changed
  | write statement =>
      obtain ⟨_, db, _, statements, writer⟩ := write_works acted
      rw [db, view_of_held writer rfl]
      exact F.trans _ _ _ _ changed (F.written _ _ _ within.uses.1)
  | ask about =>
      simp only [Connections.act, Option.map_eq_some_iff] at acted
      obtain ⟨told, _, same⟩ := acted
      cases same
      exact changed
  | commit =>
      cases acted
      rw [view_of_free (not_holds_commit thread world)]
      exact F.refl _ _
  | rollback =>
      cases acted
      rw [view_of_free (not_holds_rollback thread world)]
      exact F.refl _ _

theorem sound : F.contract.contract.Sound := by
  apply Contract.sound
  intro thread call world _ free _
  refine @Machine.Contract.Safe.of_known _ F.contract.contract thread call
    (F.Within thread call) ?_ (fun _ _ _ => trivial) (fun _ _ _ => trivial) ?_
    _ world ?_
  · intro rest world later relied _ within
    exact ⟨within.uses, changed_relied relied.1 within.changed⟩
  · intro cmd next world _ within
    refine ⟨within.changed, fun input _ reply after acted => ⟨⟨trivial, ?_⟩,
      within.acts acted⟩⟩
    exact fun other different => ⟨frame_act different acted, trivial⟩
  · refine ⟨F.issued call, ?_⟩
    rw [view_of_free free]
    exact F.refl _ _

theorem good_step (config : S.machine.Config) (label : S.machine.Label)
    (good : F.contract.contract.Good config) :
    F.contract.contract.Good (Machine.step label config) :=
  Contract.good_step sound (fun _ _ _ _ => trivial) label good

theorem good_run (db : E.State) (env : E.Env) (labels : List S.machine.Label) :
    F.contract.contract.Good (runFrom Machine.step
      (Machine.initial (opened db env)) labels) :=
  Contract.good_run sound (fun _ _ _ _ => trivial) trivial env labels

/-- A step that changes the committed state is the COMMIT of a call, and within
what the call may change. -/
theorem step {config : S.machine.Config}
    (good : F.contract.contract.Good config) (label : S.machine.Label) :
    (Machine.step label config).world.db = config.world.db ∨
      ∃ call next, config.threads label.thread =
          some ⟨call, .call .commit next⟩ ∧
        F.changes call config.world.db (Machine.step label config).world.db := by
  have moves := Machine.step_moves config label
  generalize (Machine.step label config).world = after at moves
  cases moves with
  | still => exact .inl rfl
  | began => exact .inl rfl
  | lost => exact .inl rfl
  | @acted thread input call cmd next reply _ running acts =>
      have owed := good.owes sound running
      cases cmd with
      | query request =>
          cases acts
          exact .inl (query_leaves request).1
      | write statement => exact .inl (write_works acts).2.1
      | ask about =>
          simp only [Connections.act, Option.map_eq_some_iff] at acts
          obtain ⟨told, _, same⟩ := acts
          cases same
          exact .inl rfl
      | commit =>
          cases acts
          refine .inr ⟨call, next, running, ?_⟩
          rw [commit_db]
          exact owed
      | rollback =>
          cases acts
          exact .inl rfl

end Footprints

structure Evolution (S : Service E) where
  issues : S.Call → E.Write → Prop
  issued : ∀ call, (S.body call).Uses (Sql.Writes (issues call))
  evolves : E.State → E.State → Prop
  refl : ∀ state, evolves state state
  trans : ∀ first second third, evolves first second →
    evolves second third → evolves first third
  written : ∀ call statement state, issues call statement →
    evolves state (E.write statement state).2

namespace Evolution

variable {S : Service E} (V : S.Evolution)

@[reducible] def footprints : S.Footprints where
  issues := V.issues
  issued := V.issued
  changes := fun _ => V.evolves
  refl := fun _ => V.refl
  trans := fun _ => V.trans
  written := V.written

variable {V}

/-- A later moment of a run evolves from an earlier one. -/
theorem between (db : E.State) (env : E.Env)
    (before later : List S.machine.Label) :
    V.evolves
      (runFrom Machine.step (Machine.initial (opened db env)) before).world.db
      (runFrom Machine.step (Machine.initial (opened db env))
        (before ++ later)).world.db := by
  have good := @Footprints.good_run _ _ V.footprints db env before
  rw [runFrom_append]
  generalize runFrom Machine.step (Machine.initial (opened db env)) before =
    config at good
  induction later generalizing config with
  | nil => exact V.refl _
  | cons label rest ih =>
      have evolved : V.evolves config.world.db
          (Machine.step label config).world.db := by
        rcases Footprints.step good label with same | ⟨_, _, _, changed⟩
        · rw [same]
          exact V.refl _
        · exact changed
      exact V.trans _ _ _ evolved
        (ih _ (Footprints.good_step config label good))

end Evolution

/-! #### A call that has not begun its transaction -/

/-- The connection has no transaction open, and has committed none. -/
structure Unbegun (thread : Tid) (world : Connections E) : Prop where
  free : ¬ Holds thread world
  journal : world.journal thread = []

variable {S : Service E}

/-- What a connection relies on keeps the committed state in the relation. -/
def Contract.Within (K : S.Contract) (evolves : E.State → E.State → Prop) :
    Prop :=
  ∀ thread before after, K.extra thread before after →
    evolves before.db after.db

section Unbegun

variable {K : S.Contract} {evolves : E.State → E.State → Prop} {thread : Tid}
  {call : S.Call} {world later : Connections E}

theorem Unbegun.relied (unbegun : Unbegun thread world)
    (framed : Frame thread world later) : Unbegun thread later :=
  ⟨framed.unheld unbegun.free, framed.journal.trans unbegun.journal⟩

theorem Unbegun.query (within : K.Within evolves)
    (unbegun : Unbegun thread world) {request : E.Query}
    {next : E.Answer request → Sql E S.Error (S.Result call)}
    (owes : ∀ later, Unbegun thread later →
      K.owes thread call (.query request) later)
    (answered : ∀ later, Unbegun thread later → evolves world.db later.db →
      K.Safe thread call (next (E.query request later.db)) later) :
    K.Safe thread call (.call (.query request) next) world := by
  apply Contract.safe_query unbegun.free
  intro later relied _ free
  have here := unbegun.relied relied.1
  have seen : Unbegun thread { later with
      sight := Function.update later.sight thread
        (some ⟨request, E.query request later.db⟩) } :=
    ⟨free, here.journal⟩
  exact ⟨owes later here, answered _ seen (within thread _ later relied.2)⟩

theorem Unbegun.ask (within : K.Within evolves)
    (unbegun : Unbegun thread world) {about : E.Ask}
    {next : E.Told about → Sql E S.Error (S.Result call)}
    (owes : ∀ later, Unbegun thread later →
      K.owes thread call (.ask about) later)
    (told : ∀ reply later, Unbegun thread later → evolves world.db later.db →
      K.Safe thread call (next reply) later) :
    K.Safe thread call (.call (.ask about) next) world := by
  apply Contract.safe_ask
  intro later relied _
  have here := unbegun.relied relied.1
  refine ⟨owes later here, fun input reply env _ => ?_⟩
  exact told reply _ ⟨here.free, here.journal⟩ (within thread _ later relied.2)

theorem Unbegun.rollback (within : K.Within evolves)
    (unbegun : Unbegun thread world)
    {next : Unit → Sql E S.Error (S.Result call)}
    (owes : ∀ later, Unbegun thread later →
      K.owes thread call .rollback later)
    (undone : ∀ later, Unbegun thread later → evolves world.db later.db →
      K.Safe thread call (next ()) later) :
    K.Safe thread call (.call .rollback next) world := by
  intro later relied holds
  have here := unbegun.relied relied.1
  refine ⟨owes later here, ?_⟩
  rintro _ _ _ after ⟨⟩
  refine ⟨Contract.guarantees_of_db holds rfl fun other different =>
    frame_rollback different later, ?_⟩
  exact undone _ ⟨not_holds_rollback thread later, here.journal⟩
    (within thread _ later relied.2)

end Unbegun

end Service

/-! ### Tables -/

namespace Table

variable {Row Key : Type} {key : Row → Key} [DecidableEq Key]
  {related : Row → Row → Prop}

/-- No row is lost, and each is related to what it has become. -/
def Persists (related : Row → Row → Prop) (before after : Table key) : Prop :=
  ∀ wanted row, before.get? wanted = some row →
    ∃ later, after.get? wanted = some later ∧ related row later

theorem persists_refl (refl : ∀ row, related row row) (table : Table key) :
    Persists related table table :=
  fun _ row found => ⟨row, found, refl row⟩

theorem Persists.trans {first second third : Table key}
    (trans : ∀ {early middle late}, related early middle →
      related middle late → related early late)
    (early : Persists related first second)
    (late : Persists related second third) :
    Persists related first third := by
  intro wanted row found
  obtain ⟨middle, foundMiddle, relatedMiddle⟩ := early wanted row found
  obtain ⟨final, foundFinal, relatedFinal⟩ := late wanted middle foundMiddle
  exact ⟨final, foundFinal, trans relatedMiddle relatedFinal⟩

theorem persists_insert (refl : ∀ row, related row row)
    {table after : Table key} {row : Row}
    (inserted : table.insert? row = some after) :
    Persists related table after := by
  intro wanted held found
  have absent := (insert?_eq_some_iff.mp inserted).1
  refine ⟨held, ?_, refl held⟩
  rw [get?_of_insert? inserted, if_neg, found]
  rintro rfl
  rw [absent] at found
  cases found

theorem persists_updateWhere (refl : ∀ row, related row row)
    (table : Table key) {selected : Row → Bool} {change : Row → Row}
    (keeps : ∀ row, key (change row) = key row)
    (changed : ∀ row, selected row = true → related row (change row)) :
    Persists related table (table.updateWhere selected change keeps) := by
  intro wanted row found
  refine ⟨if selected row then change row else row, ?_, ?_⟩
  · rw [get?_updateWhere, found, Option.map_some]
  · split
    case isTrue chosen => exact changed row chosen
    case isFalse => exact refl row

/-- Every row is kept in this sense, and those that are new are of this kind. -/
structure Changes (kept : Row → Row → Prop) (fresh : Row → Prop)
    (before after : Table key) : Prop where
  persists : Persists kept before after
  added : ∀ wanted row, before.get? wanted = none →
    after.get? wanted = some row → fresh row

namespace Changes

variable {kept : Row → Row → Prop} {fresh : Row → Prop}

theorem refl (refl : ∀ row, kept row row) (table : Table key) :
    Changes kept fresh table table where
  persists := persists_refl refl table
  added := by
    intro wanted row absent present
    rw [absent] at present
    cases present

theorem trans {first second third : Table key}
    (compose : ∀ {early middle late}, kept early middle →
      kept middle late → kept early late)
    (ages : ∀ {row later}, fresh row → kept row later → fresh later)
    (early : Changes kept fresh first second)
    (late : Changes kept fresh second third) :
    Changes kept fresh first third where
  persists := early.persists.trans compose late.persists
  added := by
    intro wanted row absent present
    cases middle : second.get? wanted with
    | none => exact late.added wanted row middle present
    | some held =>
        obtain ⟨final, found, related⟩ := late.persists wanted held middle
        rw [present] at found
        cases found
        exact ages (early.added wanted held absent middle) related

theorem insert (refl : ∀ row, kept row row) {table after : Table key}
    {row : Row} (inserted : table.insert? row = some after)
    (new : fresh row) : Changes kept fresh table after where
  persists := persists_insert refl inserted
  added := by
    intro wanted held absent present
    rw [get?_of_insert? inserted] at present
    split at present
    case isTrue =>
        cases present
        exact new
    case isFalse =>
        rw [absent] at present
        cases present

theorem updateWhere (refl : ∀ row, kept row row) (table : Table key)
    {selected : Row → Bool} {change : Row → Row}
    (keeps : ∀ row, key (change row) = key row)
    (changed : ∀ row, selected row = true → kept row (change row)) :
    Changes kept fresh table (table.updateWhere selected change keeps) where
  persists := persists_updateWhere refl table keeps changed
  added := by
    intro wanted row absent present
    rw [get?_updateWhere, absent] at present
    cases present

end Changes

end Table

end Foundation
