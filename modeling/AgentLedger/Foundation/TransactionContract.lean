import AgentLedger.Foundation.Transaction

namespace Foundation

open Connections

/-! Rely/guarantee contracts for calls that are transactions' programs. -/

structure Service (E : Engine) where
  Call : Type
  Result : Call → Type
  Error : Type
  body : (call : Call) → Sql E Error (Result call)

namespace Service

variable {E : Engine} (S : Service E)

@[reducible] def machine : Machine where
  Call := S.Call
  Result := S.Result
  Cmd := E.Command
  Reply := Engine.Command.Reply
  Error := S.Error
  World := Connections E
  Input := E.Input
  body := S.body
  start := fun thread _ world => world.begin thread
  act := Connections.act
  crash := fun thread world => world.rollback thread

/-- A contract over the committed state.  `extra` is what a connection relies
on besides its frame; it may only fail at a step that changes the state. -/
structure Contract where
  invariant : E.State → Prop
  extra : Tid → Connections E → Connections E → Prop
  extra_refl : ∀ thread world, extra thread world world
  extra_trans : ∀ thread first second third,
    Frame thread first second → Frame thread second third →
    extra thread first second → extra thread second third →
    extra thread first third
  extra_of_db : ∀ thread before after, Frame thread before after →
    after.db = before.db → extra thread before after
  admits : Tid → S.Call → E.Command → Connections E → Prop
  owes : Tid → S.Call → E.Command → Connections E → Prop
  ends : Tid → (call : S.Call) → Except S.Error (S.Result call) →
    Connections E → Prop

namespace Contract

variable {S} (K : S.Contract)

def contract : S.machine.Contract where
  invariant := fun world => K.invariant world.db
  rely := fun thread before after =>
    Frame thread before after ∧ K.extra thread before after
  admitsCall := fun _ _ _ => True
  admits := fun thread call cmd _ world => K.admits thread call cmd world
  owes := K.owes
  ends := K.ends

abbrev Safe (thread : Tid) (call : S.Call) (rest : Sql E S.Error (S.Result call))
    (world : Connections E) : Prop :=
  K.contract.Safe thread call rest world

variable {K}

theorem rely_refl (thread : Tid) (world : Connections E) :
    K.contract.rely thread world world :=
  ⟨Frame.refl _ _, K.extra_refl _ _⟩

theorem rely_trans {thread : Tid} {first second third : Connections E}
    (early : K.contract.rely thread first second)
    (late : K.contract.rely thread second third) :
    K.contract.rely thread first third :=
  ⟨early.1.trans late.1,
    K.extra_trans _ _ _ _ early.1 late.1 early.2 late.2⟩

/-- An action that leaves the committed state alone owes nothing more. -/
theorem guarantees_of_db {thread : Tid} {before after : Connections E}
    (holds : K.invariant before.db) (same : after.db = before.db)
    (framed : ∀ other, other ≠ thread → Frame other before after) :
    K.contract.Guarantees thread before after := by
  refine ⟨?_, fun other different => ⟨framed other different, ?_⟩⟩
  · change K.invariant after.db
    rw [same]
    exact holds
  · exact K.extra_of_db _ _ _ (framed other different) same

private theorem frame_others {thread : Tid} {cmd : E.Command}
    {input : E.Input} {world after : Connections E} {reply : cmd.Reply}
    (acted : S.machine.act thread cmd input world = some (reply, after)) :
    ∀ other, other ≠ thread → Frame other world after :=
  fun _ different => frame_act different acted

theorem sound
    (bodies : ∀ thread call world, K.invariant world.db →
      ¬ Holds thread world → world.journal thread = [] →
      K.Safe thread call (S.body call) world) : K.contract.Sound where
  rely_refl := rely_refl
  rely_trans := fun _ _ _ _ => rely_trans
  start := by
    intro thread call world holds _
    refine ⟨guarantees_of_db holds rfl fun other different =>
      frame_begin different world, ?_⟩
    refine bodies thread call (world.begin thread) holds ?_ ?_
    · exact not_holds_rollback thread world
    · exact Function.update_self _ _ _
  crash := fun thread world holds =>
    guarantees_of_db holds rfl fun other different =>
      frame_rollback different world

/-! #### Outside a transaction -/

theorem safe_query {thread : Tid} {call : S.Call} {request : E.Query}
    {next : E.Answer request → Sql E S.Error (S.Result call)}
    {world : Connections E} (free : ¬ Holds thread world)
    (safe : ∀ later, K.contract.rely thread world later →
      K.invariant later.db → ¬ Holds thread later →
      K.owes thread call (.query request) later ∧
        K.Safe thread call (next (E.query request later.db))
          { later with
            sight := Function.update later.sight thread
              (some ⟨request, E.query request later.db⟩) }) :
    K.Safe thread call (.call (.query request) next) world := by
  intro later relied holds
  have stillFree := relied.1.unheld free
  obtain ⟨owed, continued⟩ := safe later relied holds stillFree
  refine ⟨owed, ?_⟩
  rintro _ _ _ after ⟨⟩
  have unopened : (later.writer.any fun writer =>
      decide (writer.owner = thread)) = false := by
    rw [Option.any_eq_false]
    intro writer found
    simpa using fun own => stillFree ⟨writer, found, own⟩
  have seen : later.view thread = later.db := by
    unfold view
    split
    · rename_i writer found
      rw [if_neg fun own => stillFree ⟨writer, found, own⟩]
    · rfl
  refine ⟨guarantees_of_db holds ?_ fun other different =>
    frame_query different request later, ?_⟩
  · simp [unopened]
  · simpa [Connections.query, unopened, seen] using continued

theorem safe_ask {thread : Tid} {call : S.Call} {about : E.Ask}
    {next : E.Told about → Sql E S.Error (S.Result call)}
    {world : Connections E}
    (safe : ∀ later, K.contract.rely thread world later →
      K.invariant later.db → K.owes thread call (.ask about) later ∧
        ∀ input told env, E.tell about input later.env = some (told, env) →
          K.Safe thread call (next told) { later with env := env }) :
    K.Safe thread call (.call (.ask about) next) world := by
  intro later relied holds
  obtain ⟨owed, continued⟩ := safe later relied holds
  refine ⟨owed, fun input _ told after acted => ?_⟩
  have framed := frame_others acted
  simp only [Connections.act, Option.map_eq_some_iff] at acted
  obtain ⟨⟨answer, env⟩, answered, same⟩ := acted
  cases same
  exact ⟨guarantees_of_db holds rfl framed, continued input _ _ answered⟩

theorem safe_done {thread : Tid} {call : S.Call} {value : S.Result call}
    {world : Connections E}
    (ends : ∀ later, K.contract.rely thread world later →
      K.ends thread call (.ok value) later) :
    K.Safe thread call (.done value) world :=
  fun later relied _ => ends later relied

theorem safe_raise {thread : Tid} {call : S.Call} {error : S.Error}
    {world : Connections E}
    (ends : ∀ later, K.contract.rely thread world later →
      K.ends thread call (.error error) later) :
    K.Safe thread call (.raise error) world :=
  fun later relied _ => ends later relied

/-! #### Inside a transaction

Between its first write and COMMIT a connection sees nothing of the others, so
the rest of the transaction can be evaluated on the working copy. -/

/-- The transaction opened over `base` has come to `writer`. -/
structure Open (thread : Tid) (base : Connections E) (writer : Writer E)
    (world : Connections E) : Prop where
  found : world.writer = some writer
  owner : writer.owner = thread
  db : world.db = base.db
  journal : world.journal thread = base.journal thread
  sight : world.sight thread = base.sight thread
  env : base.env ≤ world.env

theorem Open.relied {thread : Tid} {base world later : Connections E}
    {writer : Writer E} (opened : Open thread base writer world)
    (framed : Frame thread world later) :
    Open thread base writer later := by
  obtain ⟨held, same⟩ := framed.held writer opened.found opened.owner
  exact ⟨held, opened.owner, same.trans opened.db,
    framed.journal.trans opened.journal, framed.sight.trans opened.sight,
    le_trans opened.env framed.env⟩

variable (K)

def InTransaction (thread : Tid) (call : S.Call) (base : Connections E) :
    Sql E S.Error (S.Result call) → Writer E → Prop
  | .done _, _ => False
  | .raise _, _ => False
  | .call (.query request) next, writer =>
      (∀ world, Open thread base writer world →
        K.owes thread call (.query request) world) ∧
      InTransaction thread call base (next (E.query request writer.work))
        writer
  | .call (.write statement) next, writer =>
      (∀ world, Open thread base writer world →
        K.owes thread call (.write statement) world) ∧
      ((∃ world, Open thread base writer world ∧
          K.admits thread call (.write statement) world) →
        InTransaction thread call base
          (next (E.write statement writer.work).1)
          ⟨thread, (E.write statement writer.work).2,
            statement :: writer.statements⟩)
  | .call (.ask _) _, _ => False
  | .call .commit next, writer =>
      ∀ world, Open thread base writer world → K.invariant world.db →
        K.owes thread call .commit world ∧
        (K.admits thread call .commit world →
          K.contract.Guarantees thread world (world.commit thread) ∧
          K.Safe thread call (next ()) (world.commit thread))
  | .call .rollback next, writer =>
      ∀ world, Open thread base writer world → K.invariant world.db →
        K.owes thread call .rollback world ∧
          K.Safe thread call (next ()) (world.rollback thread)

variable {K}

theorem view_open {thread : Tid} {base world : Connections E}
    {writer : Writer E} (opened : Open thread base writer world) :
    world.view thread = writer.work := by
  simp [view, opened.found, opened.owner]

/-- What the evaluated transaction meets, the interleaved one does. -/
theorem InTransaction.safe {thread : Tid} {call : S.Call}
    {base : Connections E} {rest : Sql E S.Error (S.Result call)}
    {writer : Writer E} (inside : K.InTransaction thread call base rest writer)
    {world : Connections E} (opened : Open thread base writer world) :
    K.Safe thread call rest world := by
  induction rest generalizing writer world with
  | done value => exact inside.elim
  | raise error => exact inside.elim
  | call cmd next ih =>
      intro later relied holds
      have here := opened.relied relied.1
      have mine : (later.writer.any fun candidate =>
          decide (candidate.owner = thread)) = true := by
        simp [here.found, here.owner]
      cases cmd with
      | query request =>
          refine ⟨inside.1 later here, ?_⟩
          rintro _ _ _ after ⟨⟩
          refine ⟨guarantees_of_db holds ?_ fun other different =>
            frame_query different request later, ?_⟩
          · simp [mine]
          · have safe := ih _ inside.2 here
            simpa [Connections.query, mine, view_open here] using safe
      | write statement =>
          refine ⟨inside.1 later here, fun _ admitted reply after acted => ?_⟩
          have framed := frame_others acted
          simp only [Connections.act, Connections.write, here.found,
            here.owner, if_true, Option.some.injEq, Prod.mk.injEq] at acted
          obtain ⟨rfl, rfl⟩ := acted
          refine ⟨guarantees_of_db holds rfl framed, ?_⟩
          refine ih _ (inside.2 ⟨later, here, admitted⟩) ?_
          exact ⟨rfl, rfl, here.db, here.journal, here.sight, here.env⟩
      | ask about => exact inside.elim
      | commit =>
          obtain ⟨owed, committed⟩ := inside later here holds
          refine ⟨owed, ?_⟩
          rintro _ admitted _ after ⟨⟩
          exact committed admitted
      | rollback =>
          obtain ⟨owed, undone⟩ := inside later here holds
          refine ⟨owed, ?_⟩
          rintro _ _ _ after ⟨⟩
          exact ⟨guarantees_of_db holds rfl fun other different =>
            frame_rollback different later, undone⟩

theorem safe_write {thread : Tid} {call : S.Call} {statement : E.Write}
    {next : E.Count statement → Sql E S.Error (S.Result call)}
    {world : Connections E} (free : ¬ Holds thread world)
    (safe : ∀ later, K.contract.rely thread world later →
      K.invariant later.db → K.owes thread call (.write statement) later ∧
        (K.admits thread call (.write statement) later →
          K.InTransaction thread call later
            (next (E.write statement later.db).1)
            ⟨thread, (E.write statement later.db).2, [statement]⟩)) :
    K.Safe thread call (.call (.write statement) next) world := by
  intro later relied holds
  obtain ⟨owed, inside⟩ := safe later relied holds
  refine ⟨owed, fun _ admitted reply after acted => ?_⟩
  have framed := frame_others acted
  simp only [Connections.act, Connections.write] at acted
  split at acted
  case _ unlocked =>
      cases acted
      refine ⟨guarantees_of_db holds rfl framed, ?_⟩
      exact (inside admitted).safe ⟨rfl, rfl, rfl, rfl, rfl, le_refl _⟩
  case _ writer locked =>
      split at acted
      case isTrue own =>
          exact absurd ⟨writer, locked, own⟩ (relied.1.unheld free)
      case isFalse => cases acted

/-! #### Calls known only by the statements they issue -/

/-- If every statement a call may issue keeps `kept` between the committed
state and the working copy, and `kept` is enough at COMMIT, the call is safe
whatever its program does with the answers. -/
theorem safe_of_uses {thread : Tid} {call : S.Call}
    {allowed : E.Command → Prop}
    {kept : E.State → E.State → List E.Write → Prop}
    (start : ∀ base, K.invariant base → kept base base [])
    (write : ∀ base work statements statement, K.invariant base →
      kept base work statements → allowed (.write statement) →
      kept base (E.write statement work).2 (statement :: statements))
    (commit : ∀ world writer, K.invariant world.db →
      world.writer = some writer → writer.owner = thread →
      kept world.db writer.work writer.statements →
      K.admits thread call .commit world →
      K.contract.Guarantees thread world (world.commit thread))
    (owes : ∀ cmd world, K.owes thread call cmd world)
    (ends : ∀ result world, K.ends thread call result world)
    {rest : Sql E S.Error (S.Result call)} (uses : rest.Uses allowed)
    {world : Connections E}
    (own : ∀ writer, world.writer = some writer → writer.owner = thread →
      kept world.db writer.work writer.statements) :
    K.Safe thread call rest world := by
  induction rest generalizing world with
  | done value => exact fun later _ _ => ends _ later
  | raise error => exact fun later _ _ => ends _ later
  | call cmd next ih =>
      intro later relied holds
      have ownLater : ∀ writer, later.writer = some writer →
          writer.owner = thread →
          kept later.db writer.work writer.statements := by
        intro writer found mine
        by_cases held : Holds thread world
        · obtain ⟨earlier, foundEarlier, mineEarlier⟩ := held
          obtain ⟨same, db⟩ :=
            relied.1.held earlier foundEarlier mineEarlier
          have equal : earlier = writer :=
            Option.some.inj (same.symm.trans found)
          subst equal
          rw [db]
          exact own earlier foundEarlier mine
        · exact absurd ⟨writer, found, mine⟩ (relied.1.unheld held)
      refine ⟨owes cmd later, fun input admitted reply after acted => ?_⟩
      have framed := frame_others acted
      cases cmd with
      | query request =>
          cases acted
          have same : (later.query thread request).2.db = later.db := by
            unfold Connections.query
            simp only
            split <;> rfl
          have writer : (later.query thread request).2.writer =
              later.writer := by
            unfold Connections.query
            simp only
            split <;> rfl
          refine ⟨guarantees_of_db holds same framed, ih _ (uses.2 _) ?_⟩
          intro candidate found mine
          change kept (later.query thread request).2.db _ _
          rw [same]
          exact ownLater candidate (writer ▸ found) mine
      | write statement =>
          simp only [Connections.act, Connections.write] at acted
          split at acted
          case _ unlocked =>
              cases acted
              refine ⟨guarantees_of_db holds rfl framed, ih _ (uses.2 _) ?_⟩
              rintro writer ⟨⟩ _
              exact write _ _ _ _ holds (start _ holds) uses.1
          case _ writer locked =>
              split at acted
              case isTrue mine =>
                  cases acted
                  refine ⟨guarantees_of_db holds rfl framed,
                    ih _ (uses.2 _) ?_⟩
                  rintro writer' ⟨⟩ _
                  exact write _ _ _ _ holds (ownLater writer locked mine)
                    uses.1
              case isFalse => cases acted
      | ask about =>
          simp only [Connections.act, Option.map_eq_some_iff] at acted
          obtain ⟨⟨told, env⟩, _, same⟩ := acted
          cases same
          exact ⟨guarantees_of_db holds rfl framed,
            ih _ (uses.2 _) ownLater⟩
      | commit =>
          cases acted
          refine ⟨?_, ih _ (uses.2 _) ?_⟩
          · cases found : later.writer with
            | none =>
                refine guarantees_of_db holds ?_ framed
                simp [Connections.commit, found]
            | some writer =>
                by_cases mine : writer.owner = thread
                · exact commit later writer holds found mine
                    (ownLater writer found mine) admitted
                · refine guarantees_of_db holds ?_ framed
                  simp [Connections.commit, found, mine]
          · intro writer found mine
            exact absurd ⟨writer, found, mine⟩ (not_holds_commit thread later)
      | rollback =>
          cases acted
          refine ⟨guarantees_of_db holds rfl framed, ih _ (uses.2 _) ?_⟩
          intro writer found mine
          exact absurd ⟨writer, found, mine⟩ (not_holds_rollback thread later)

end Contract

end Service

end Foundation
