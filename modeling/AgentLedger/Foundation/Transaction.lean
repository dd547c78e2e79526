import AgentLedger.Foundation.Machine
import Mathlib.Order.Basic

namespace Foundation

/-! A transactional engine with one writer.  A connection reads the committed
state until its first write; that write takes the lock and opens a working
copy, which the connection alone reads and writes until COMMIT or ROLLBACK. -/

structure Engine where
  State : Type
  Query : Type
  Answer : Query → Type
  query : (request : Query) → State → Answer request
  Write : Type
  Count : Write → Type
  write : (statement : Write) → State → Count statement × State
  Ask : Type
  Told : Ask → Type
  Env : Type
  Input : Type
  [order : Preorder Env]
  /-- What is outside the database answers, and only moves forward. -/
  tell : (about : Ask) → Input → Env → Option (Told about × Env)
  tell_le : ∀ {about input env told later},
    tell about input env = some (told, later) → env ≤ later

namespace Engine

variable (E : Engine)

instance : Preorder E.Env := E.order

inductive Command
  | query (request : E.Query)
  | write (statement : E.Write)
  | ask (about : E.Ask)
  | commit
  | rollback

variable {E}

@[reducible] def Command.Reply : E.Command → Type
  | .query request => E.Answer request
  | .write statement => E.Count statement
  | .ask about => E.Told about
  | .commit => Unit
  | .rollback => Unit

end Engine

abbrev Sql (E : Engine) (ε α : Type) :=
  Program E.Command Engine.Command.Reply ε α

namespace Sql

variable {E : Engine} {ε α : Type}

/-- `with connection:` commits on normal exit and rolls back on an error. -/
def withConn : Sql E ε α → Sql E ε α
  | .done value => .call .commit fun _ => .done value
  | .raise error => .call .rollback fun _ => .raise error
  | .call cmd next => .call cmd fun reply => withConn (next reply)

@[simp] theorem withConn_done (value : α) :
    (withConn (.done value) : Sql E ε α) =
      .call .commit fun _ => .done value := rfl

@[simp] theorem withConn_raise (error : ε) :
    (withConn (.raise error) : Sql E ε α) =
      .call .rollback fun _ => .raise error := rfl

@[simp] theorem withConn_call (cmd : E.Command)
    (next : cmd.Reply → Sql E ε α) :
    withConn (.call cmd next) =
      .call cmd fun reply => withConn (next reply) := rfl

/-- The program alone on its connection: the result and the committed state. -/
def exec (tell : (about : E.Ask) → E.Told about) :
    Sql E ε α → E.State → Option E.State → Except ε α × E.State
  | .done value, db, _ => (.ok value, db)
  | .raise error, db, _ => (.error error, db)
  | .call (.query request) next, db, work =>
      exec tell (next (E.query request (work.getD db))) db work
  | .call (.write statement) next, db, work =>
      exec tell (next (E.write statement (work.getD db)).1) db
        (some (E.write statement (work.getD db)).2)
  | .call (.ask about) next, db, work =>
      exec tell (next (tell about)) db work
  | .call .commit next, db, work => exec tell (next ()) (work.getD db) none
  | .call .rollback next, db, _ => exec tell (next ()) db none

variable {tell : (about : E.Ask) → E.Told about}

@[simp] theorem exec_done (value : α) (db : E.State) (work : Option E.State) :
    exec tell (.done value : Sql E ε α) db work = (.ok value, db) := rfl

@[simp] theorem exec_raise (error : ε) (db : E.State)
    (work : Option E.State) :
    exec tell (.raise error : Sql E ε α) db work = (.error error, db) := rfl

@[simp] theorem exec_commit (next : Unit → Sql E ε α) (db : E.State)
    (work : Option E.State) :
    exec tell (.call .commit next) db work =
      exec tell (next ()) (work.getD db) none := rfl

/-- A transaction leaves no working copy to what follows it. -/
theorem exec_withConn_bind {β : Type} (program : Sql E ε α)
    (next : α → Sql E ε β) (db : E.State) (work : Option E.State) :
    exec tell (withConn program >>= next) db work =
      match exec tell (withConn program) db work with
      | (.ok value, after) => exec tell (next value) after none
      | (.error error, after) => (.error error, after) := by
  induction program generalizing db work with
  | done value => rfl
  | raise error => rfl
  | call cmd rest ih =>
      cases cmd with
      | query request => exact ih _ db work
      | write statement => exact ih _ db _
      | ask about => exact ih _ db work
      | commit => exact ih _ _ none
      | rollback => exact ih _ db none

/-- The commands whose statements are allowed. -/
def Writes (allowed : E.Write → Prop) (cmd : E.Command) : Prop :=
  match cmd with
  | .write statement => allowed statement
  | _ => True

/-- The program writes nothing and ends no transaction. -/
def Reads (program : Sql E ε α) : Prop :=
  program.Uses fun cmd =>
    match cmd with
    | .query _ => True
    | .ask _ => True
    | _ => False

theorem exec_reads {program : Sql E ε α} (reads : Reads program)
    (db : E.State) (work : Option E.State) :
    (exec tell program db work).2 = db := by
  induction program with
  | done value => rfl
  | raise error => rfl
  | call cmd rest ih =>
      cases cmd with
      | query request => exact ih _ (reads.2 _)
      | write statement => exact reads.1.elim
      | ask about => exact ih _ (reads.2 _)
      | commit => exact reads.1.elim
      | rollback => exact reads.1.elim

/-- Reading last does not change what a transaction left. -/
theorem exec_withConn_bind_reads {β : Type} (program : Sql E ε α)
    {next : α → Sql E ε β} (reads : ∀ value, Reads (next value))
    (db : E.State) (work : Option E.State) :
    (exec tell (withConn program >>= next) db work).2 =
      (exec tell (withConn program) db work).2 := by
  rw [exec_withConn_bind]
  rcases exec tell (withConn program) db work with ⟨result, after⟩
  cases result with
  | ok value => exact exec_reads (reads value) after none
  | error error => rfl

/-- Reading first changes neither what is committed nor the working copy. -/
theorem exec_reads_bind {β : Type} {program : Sql E ε α}
    (reads : Reads program) (next : α → Sql E ε β) (db : E.State)
    (work : Option E.State) :
    exec tell (program >>= next) db work =
      match (exec tell program db work).1 with
      | .ok value => exec tell (next value) db work
      | .error error => (.error error, db) := by
  induction program with
  | done value => rfl
  | raise error => rfl
  | call cmd rest ih =>
      cases cmd with
      | query request => exact ih _ (reads.2 _)
      | write statement => exact reads.1.elim
      | ask about => exact ih _ (reads.2 _)
      | commit => exact reads.1.elim
      | rollback => exact reads.1.elim

theorem exec_withConn_reads_bind {β : Type} {program : Sql E ε α}
    (reads : Reads program) (next : α → Sql E ε β) (db : E.State)
    (work : Option E.State) :
    exec tell (withConn (program >>= next)) db work =
      match (exec tell program db work).1 with
      | .ok value => exec tell (withConn (next value)) db work
      | .error error => (.error error, db) := by
  induction program with
  | done value => rfl
  | raise error => rfl
  | call cmd rest ih =>
      cases cmd with
      | query request => exact ih _ (reads.2 _)
      | write statement => exact reads.1.elim
      | ask about => exact ih _ (reads.2 _)
      | commit => exact reads.1.elim
      | rollback => exact reads.1.elim

@[simp] theorem exec_rollback (next : Unit → Sql E ε α) (db : E.State)
    (work : Option E.State) :
    exec tell (.call .rollback next) db work =
      exec tell (next ()) db none := rfl

end Sql

/-! ### Connections interleaved statement by statement -/

/-- The connection that holds the write lock, its working copy and the
statements it has issued since the lock was taken, latest first. -/
structure Writer (E : Engine) where
  owner : Tid
  work : E.State
  statements : List E.Write

/-- `journal` keeps, for the call a connection is in, the committed states
before and after each of its COMMITs; `sight` what the connection last read
outside a transaction.  Neither is seen by a program. -/
structure Connections (E : Engine) where
  db : E.State
  env : E.Env
  writer : Option (Writer E)
  journal : Tid → List (E.State × E.State)
  sight : Tid → Option (Sigma E.Answer)

namespace Connections

variable {E : Engine}

def opened (db : E.State) (env : E.Env) : Connections E :=
  { db := db
    env := env
    writer := none
    journal := fun _ => []
    sight := fun _ => none }

def Holds (thread : Tid) (world : Connections E) : Prop :=
  ∃ writer, world.writer = some writer ∧ writer.owner = thread

/-- What a connection sees: its own working copy, or the committed state. -/
def view (thread : Tid) (world : Connections E) : E.State :=
  match world.writer with
  | some writer => if writer.owner = thread then writer.work else world.db
  | none => world.db

def query (thread : Tid) (request : E.Query) (world : Connections E) :
    E.Answer request × Connections E :=
  (E.query request (world.view thread),
    if world.writer.any fun writer => writer.owner = thread then world
    else
      { world with
        sight := Function.update world.sight thread
          (some ⟨request, E.query request world.db⟩) })

def write (thread : Tid) (statement : E.Write) (world : Connections E) :
    Option (E.Count statement × Connections E) :=
  match world.writer with
  | none =>
      let (count, work) := E.write statement world.db
      some (count, { world with writer := some ⟨thread, work, [statement]⟩ })
  | some writer =>
      if writer.owner = thread then
        let (count, work) := E.write statement writer.work
        some (count,
          { world with
            writer := some ⟨thread, work, statement :: writer.statements⟩ })
      else none

def commit (thread : Tid) (world : Connections E) : Connections E :=
  match world.writer with
  | none => { world with sight := Function.update world.sight thread none }
  | some writer =>
      if writer.owner = thread then
        { world with
          db := writer.work
          writer := none
          journal := Function.update world.journal thread
            (world.journal thread ++ [(world.db, writer.work)])
          sight := Function.update world.sight thread none }
      else { world with sight := Function.update world.sight thread none }

def rollback (thread : Tid) (world : Connections E) : Connections E :=
  { world with
    writer := world.writer.filter fun writer => writer.owner ≠ thread
    sight := Function.update world.sight thread none }

def begin (thread : Tid) (world : Connections E) : Connections E :=
  { world.rollback thread with
    journal := Function.update world.journal thread [] }

def act (thread : Tid) : (cmd : E.Command) → E.Input → Connections E →
    Option (cmd.Reply × Connections E)
  | .query request, _, world => some (world.query thread request)
  | .write statement, _, world => world.write thread statement
  | .ask about, input, world =>
      (E.tell about input world.env).map fun told =>
        (told.1, { world with env := told.2 })
  | .commit, _, world => some ((), world.commit thread)
  | .rollback, _, world => some ((), world.rollback thread)

/-- What every action of the others leaves a connection: its open transaction
with the state it is based on, its journal and its sight. -/
structure Frame (thread : Tid) (before after : Connections E) : Prop where
  held : ∀ writer, before.writer = some writer → writer.owner = thread →
    after.writer = some writer ∧ after.db = before.db
  unheld : ¬ Holds thread before → ¬ Holds thread after
  journal : after.journal thread = before.journal thread
  sight : after.sight thread = before.sight thread
  env : before.env ≤ after.env

theorem Frame.refl (thread : Tid) (world : Connections E) :
    Frame thread world world :=
  ⟨fun _ found _ => ⟨found, rfl⟩, id, rfl, rfl, le_refl _⟩

theorem Frame.trans {thread : Tid} {first second third : Connections E}
    (early : Frame thread first second) (late : Frame thread second third) :
    Frame thread first third where
  held := by
    intro writer found own
    obtain ⟨middle, same⟩ := early.held writer found own
    obtain ⟨final, same'⟩ := late.held writer middle own
    exact ⟨final, same'.trans same⟩
  unheld := fun free => late.unheld (early.unheld free)
  journal := late.journal.trans early.journal
  sight := late.sight.trans early.sight
  env := le_trans early.env late.env

theorem frame_query {thread other : Tid} (different : other ≠ thread)
    (request : E.Query) (world : Connections E) :
    Frame other world (world.query thread request).2 := by
  have seen (sight : Option (Sigma E.Answer)) : Frame other world
      { world with sight := Function.update world.sight thread sight } :=
    ⟨fun _ found _ => ⟨found, rfl⟩, id, rfl,
      Function.update_of_ne different _ _, le_refl _⟩
  unfold Connections.query
  simp only
  split
  · exact Frame.refl _ _
  · exact seen _

theorem frame_write {thread other : Tid} (different : other ≠ thread)
    {statement : E.Write} {world after : Connections E}
    {count : E.Count statement}
    (written : world.write thread statement = some (count, after)) :
    Frame other world after := by
  unfold Connections.write at written
  split at written
  case _ free =>
      cases written
      refine ⟨fun writer found _ => ?_, fun _ => ?_, rfl, rfl, le_refl _⟩
      · rw [free] at found
        cases found
      · rintro ⟨writer, found, own⟩
        cases found
        exact different own.symm
  case _ writer taken =>
      split at written
      case isTrue own =>
          cases written
          refine ⟨fun other' found own' => ?_, fun _ => ?_, rfl, rfl,
            le_refl _⟩
          · rw [taken] at found
            cases found
            exact absurd (own'.symm.trans own) different
          · rintro ⟨writer', found, own'⟩
            cases found
            exact different own'.symm
      case isFalse => cases written

theorem frame_commit {thread other : Tid} (different : other ≠ thread)
    (world : Connections E) : Frame other world (world.commit thread) := by
  have unseen : Frame other world
      { world with sight := Function.update world.sight thread none } :=
    ⟨fun _ found _ => ⟨found, rfl⟩, id, rfl,
      Function.update_of_ne different _ _, le_refl _⟩
  unfold Connections.commit
  split
  · exact unseen
  · rename_i writer taken
    split
    · rename_i own
      refine ⟨fun writer' found own' => ?_, fun _ => ?_,
        Function.update_of_ne different _ _,
        Function.update_of_ne different _ _, le_refl _⟩
      · rw [taken] at found
        cases found
        exact absurd (own'.symm.trans own) different
      · rintro ⟨writer', found, _⟩
        cases found
    · exact unseen

theorem frame_rollback {thread other : Tid} (different : other ≠ thread)
    (world : Connections E) : Frame other world (world.rollback thread) := by
  refine ⟨fun writer found own => ⟨?_, rfl⟩, fun free => ?_, rfl,
    Function.update_of_ne different _ _, le_refl _⟩
  · have kept : writer.owner ≠ thread := own ▸ different
    simp [rollback, found, kept]
  · rintro ⟨writer, found, own⟩
    exact free ⟨writer, (Option.filter_eq_some_iff.mp found).1, own⟩

theorem frame_begin {thread other : Tid} (different : other ≠ thread)
    (world : Connections E) : Frame other world (world.begin thread) := by
  have rolled := frame_rollback different world
  exact ⟨rolled.held, rolled.unheld, Function.update_of_ne different _ _,
    rolled.sight, rolled.env⟩

theorem frame_act {thread other : Tid} (different : other ≠ thread)
    {cmd : E.Command} {input : E.Input} {world after : Connections E}
    {reply : cmd.Reply}
    (acted : act thread cmd input world = some (reply, after)) :
    Frame other world after := by
  cases cmd with
  | query request =>
      cases acted
      exact frame_query different request world
  | write statement => exact frame_write different acted
  | ask about =>
      simp only [act, Option.map_eq_some_iff] at acted
      obtain ⟨⟨told, later⟩, answered, same⟩ := acted
      cases same
      exact ⟨fun _ found _ => ⟨found, rfl⟩, id, rfl, rfl,
        E.tell_le answered⟩
  | commit =>
      cases acted
      exact frame_commit different world
  | rollback =>
      cases acted
      exact frame_rollback different world

theorem not_holds_rollback (thread : Tid) (world : Connections E) :
    ¬ Holds thread (world.rollback thread) := by
  rintro ⟨writer, found, own⟩
  have kept := (Option.filter_eq_some_iff.mp found).2
  simp [own] at kept

theorem not_holds_commit (thread : Tid) (world : Connections E) :
    ¬ Holds thread (world.commit thread) := by
  rintro ⟨writer, found, own⟩
  unfold Connections.commit at found
  split at found
  · rename_i unlocked
    simp [unlocked] at found
  · rename_i holder locked
    split at found
    · cases found
    · rename_i other
      simp only [locked, Option.some.injEq] at found
      exact other (found ▸ own)

section View

variable {thread : Tid} {world : Connections E}

theorem view_of_free (free : ¬ Holds thread world) :
    world.view thread = world.db := by
  unfold view
  split
  · rename_i writer found
    rw [if_neg fun own => free ⟨writer, found, own⟩]
  · rfl

theorem view_of_held {writer : Writer E} (found : world.writer = some writer)
    (own : writer.owner = thread) : world.view thread = writer.work := by
  simp [view, found, own]

/-- A read leaves everything but the sight. -/
theorem query_leaves (request : E.Query) :
    (world.query thread request).2.db = world.db ∧
      (world.query thread request).2.writer = world.writer := by
  unfold Connections.query
  simp only
  split <;> exact ⟨rfl, rfl⟩

theorem query_seen (free : ¬ Holds thread world) (request : E.Query) :
    (world.query thread request).2.sight thread =
      some ⟨request, E.query request world.db⟩ := by
  have unopened : (world.writer.any fun writer =>
      decide (writer.owner = thread)) = false := by
    rw [Option.any_eq_false]
    intro writer found
    simpa using fun own => free ⟨writer, found, own⟩
  simp [Connections.query, unopened]

/-- A write goes to the working copy of its connection, if it goes through. -/
theorem write_works {statement : E.Write} {count : E.Count statement}
    {after : Connections E}
    (written : world.write thread statement = some (count, after)) :
    count = (E.write statement (world.view thread)).1 ∧
      after.db = world.db ∧ after.sight = world.sight ∧
      ∃ statements, after.writer = some
        ⟨thread, (E.write statement (world.view thread)).2, statements⟩ := by
  unfold Connections.write at written
  split at written
  case _ free =>
      cases written
      refine ⟨?_, rfl, rfl, [statement], ?_⟩ <;> simp [view, free]
  case _ writer taken =>
      split at written
      case isTrue own =>
          cases written
          refine ⟨?_, rfl, rfl, statement :: writer.statements, ?_⟩ <;>
            simp [view, taken, own]
      case isFalse => cases written

/-- A write that goes through found the lock free, or had it. -/
theorem write_goes {statement : E.Write} {count : E.Count statement}
    {after : Connections E}
    (written : world.write thread statement = some (count, after)) :
    world.writer = none ∨ Holds thread world := by
  unfold Connections.write at written
  split at written
  case _ free => exact .inl free
  case _ writer taken =>
      split at written
      case isTrue own => exact .inr ⟨writer, taken, own⟩
      case isFalse => cases written

/-- COMMIT publishes the working copy. -/
theorem commit_db (world : Connections E) :
    (world.commit thread).db = world.view thread := by
  cases found : world.writer with
  | none => simp [Connections.commit, view, found]
  | some writer =>
      by_cases own : writer.owner = thread
      · simp [Connections.commit, view, found, own]
      · simp [Connections.commit, view, found, own]

end View

end Connections

end Foundation
