import Mathlib.Data.List.Induction
import AgentLedger.Runtime.System
import AgentLedger.Store.Ledger

namespace AgentLedger

open Foundation

/-! Who is at a key of the tool ledger, and what has become of it.  Nothing but
its status guards a row: `update_ledger` writes whatever it is given. -/

/-! ### What a run has done with a key -/

/-- The key has been executed, and not been resolved as without effect
since. -/
def spent (key : String) (history : List KeyEvent) : Bool :=
  history.foldl (fun known event =>
    match event with
    | .executed other => known || decide (other = key)
    | .resolvedNoEffect other => known && !decide (other = key)) false

/-- Between two executions under one key an operator has resolved it as without
effect. -/
def AtMostOnce (history : List KeyEvent) : Prop :=
  ∀ before between after key,
    history = before ++ .executed key :: (between ++ .executed key :: after) →
    KeyEvent.resolvedNoEffect key ∈ between

section History

variable {key other : String} {history : List KeyEvent}

@[simp] theorem spent_executed :
    spent key (history ++ [.executed other]) =
      (spent key history || decide (other = key)) := by
  simp [spent]

@[simp] theorem spent_resolved :
    spent key (history ++ [.resolvedNoEffect other]) =
      (spent key history && !decide (other = key)) := by
  simp [spent]

private theorem spent_of_executed {before later : List KeyEvent}
    (unresolved : KeyEvent.resolvedNoEffect key ∉ later) :
    spent key (before ++ .executed key :: later) = true := by
  induction later using List.reverseRecOn with
  | nil => simp
  | append_singleton rest event ih =>
      rw [List.mem_append, not_or] at unresolved
      have known := ih unresolved.1
      have whole : before ++ .executed key :: (rest ++ [event]) =
          (before ++ .executed key :: rest) ++ [event] := by simp
      rw [whole]
      cases event with
      | executed other => rw [spent_executed, known, Bool.true_or]
      | resolvedNoEffect other =>
          have different : other ≠ key := by
            intro same
            apply unresolved.2
            rw [same]
            exact List.mem_singleton_self _
          rw [spent_resolved, known, decide_eq_false different]
          rfl

theorem AtMostOnce.append {event : KeyEvent} (once : AtMostOnce history)
    (fresh : ∀ key, event = .executed key → spent key history = false) :
    AtMostOnce (history ++ [event]) := by
  intro before between after key split
  cases after using List.reverseRecOn with
  | nil =>
      have whole : history ++ [event] =
          (before ++ .executed key :: between) ++ [.executed key] := by
        rw [split]
        simp
      obtain ⟨earlier, last⟩ := List.append_inj' whole rfl
      by_contra unresolved
      have known : spent key (before ++ .executed key :: between) = true :=
        spent_of_executed unresolved
      rw [← earlier, fresh key (List.cons.inj last).1] at known
      cases known
  | append_singleton rest last =>
      have whole : history ++ [event] =
          (before ++ .executed key :: (between ++ .executed key :: rest)) ++
            [last] := by
        rw [split]
        simp
      exact once before between rest key (List.append_inj' whole rfl).1

end History

/-! ### Threads and keys -/

namespace LedgerUpdate

/-- A caller of the gateway closes what it has begun. -/
def closes (update : LedgerUpdate) : Task → Bool
  | .callTool _ _ _ => match update.status with
    | .succeeded | .pendingVerification => true
    | _ => false
  | _ => false

/-- Whoever begins finds the row as `reserve_ledger` lets callers pass. -/
def undisputed (update : LedgerUpdate) (task : Task) (store : Store) : Bool :=
  update.closes task || (store.ledgerRow? update.idempotencyKey).all fun row =>
    row.status.vacant

end LedgerUpdate

/-- Taken over by a caller of the gateway, or settled by it. -/
def LedgerStatus.taken : LedgerStatus → Bool
  | .running | .succeeded => true
  | _ => false

theorem LedgerStatus.not_vacant_of_taken {status : LedgerStatus}
    (taken : status.taken = true) : status.vacant = false := by
  cases status with
  | running => rfl
  | succeeded => rfl
  | _ => cases taken

/-- The part of an activity that the others cannot touch. -/
def Activity.duty (activity : Activity) : Task × Option String :=
  (activity.task, activity.engaged)

namespace World

/-- The key that the thread is engaged with. -/
def engagedOf (world : World) (thread : Tid) : Option String :=
  (world.activities thread).bind Activity.engaged

end World

/-- The thread is at its task, and engaged with the key. -/
def Duty (thread : Tid) (task : Task) (engaged : Option String)
    (world : World) : Prop :=
  (world.activities thread).map Activity.duty = some (task, engaged)

/-- The thread is engaged with the key, whose row stands at `status`. -/
structure Engaged (thread : Tid) (task : Task) (key : String)
    (status : LedgerStatus) (used : Bool) (world : World) : Prop where
  duty : Duty thread task (some key) world
  row : ∃ row, world.store.ledgerRow? key = some row ∧ row.status = status
  history : spent key world.history = used

/-- A key has one caller at most, and a key that is spent is not vacant. -/
structure Owned (world : World) : Prop where
  held : ∀ thread key, world.engagedOf thread = some key →
    ∃ row, world.store.ledgerRow? key = some row ∧ row.status.taken = true
  alone : ∀ first second key, world.engagedOf first = some key →
    world.engagedOf second = some key → first = second
  spent : ∀ key, spent key world.history = true →
    ∃ row, world.store.ledgerRow? key = some row ∧ row.status.vacant = false
  once : AtMostOnce world.history

/-- What a thread can count on while the others act. -/
structure LeavesKey (thread : Tid) (before after : World) : Prop where
  duty : (after.activities thread).map Activity.duty =
    (before.activities thread).map Activity.duty
  entry : ∀ key, before.engagedOf thread = some key →
    after.store.ledgerRow? key = before.store.ledgerRow? key
  history : ∀ key, before.engagedOf thread = some key →
    AgentLedger.spent key after.history = AgentLedger.spent key before.history
  present : ∀ key, (before.store.ledgerRow? key).isSome = true →
    (after.store.ledgerRow? key).isSome = true

section Duties

variable {thread other : Tid} {task : Task} {engaged : Option String}
  {world before after : World}

theorem engagedOf_of_duties
    (same : (after.activities thread).map Activity.duty =
      (before.activities thread).map Activity.duty) :
    after.engagedOf thread = before.engagedOf thread := by
  have view (world : World) : world.engagedOf thread =
      ((world.activities thread).map Activity.duty).bind Prod.snd := by
    rw [World.engagedOf, Option.bind_map]
    rfl
  rw [view, view, same]

theorem Duty.engagedOf (duty : Duty thread task engaged world) :
    world.engagedOf thread = engaged := by
  obtain ⟨activity, found, same⟩ := Option.map_eq_some_iff.mp duty
  rw [World.engagedOf, found]
  exact congrArg Prod.snd same

theorem Duty.congr (duty : Duty thread task engaged before)
    (same : (after.activities thread).map Activity.duty =
      (before.activities thread).map Activity.duty) :
    Duty thread task engaged after :=
  Eq.trans same duty

theorem LeavesKey.refl : LeavesKey thread world world :=
  ⟨rfl, fun _ _ => rfl, fun _ _ => rfl, fun _ present => present⟩

theorem LeavesKey.trans {first second third : World}
    (early : LeavesKey thread first second)
    (late : LeavesKey thread second third) :
    LeavesKey thread first third := by
  have engaged := engagedOf_of_duties early.duty
  constructor
  · exact late.duty.trans early.duty
  · intro key at_
    exact (late.entry key (engaged.trans at_)).trans (early.entry key at_)
  · intro key at_
    exact (late.history key (engaged.trans at_)).trans (early.history key at_)
  · intro key present
    exact late.present key (early.present key present)

theorem Engaged.leaves {key : String} {status : LedgerStatus} {used : Bool}
    (fact : Engaged thread task key status used before)
    (leaves : LeavesKey thread before after) :
    Engaged thread task key status used after := by
  have engaged := fact.duty.engagedOf
  constructor
  · exact fact.duty.congr leaves.duty
  · rw [leaves.entry key engaged]
    exact fact.row
  · rw [leaves.history key engaged]
    exact fact.history

/-- An operation moves the duty of its own thread only. -/
theorem duty_perform_other (different : other ≠ thread) (call : Call)
    (moment : Moment) :
    ((world.perform thread call moment).2.activities other).map
        Activity.duty = (world.activities other).map Activity.duty := by
  rw [World.perform_other different, Option.map_map]
  rfl

theorem duty_perform_own (duty : Duty thread task engaged world) (call : Call)
    (moment : Moment) :
    Duty thread task
      (({ task := task, engaged := engaged } : Activity).engagedAfter call)
      (world.perform thread call moment).2 := by
  obtain ⟨activity, found, same⟩ := Option.map_eq_some_iff.mp duty
  cases same
  rw [Duty, World.perform_own, found]
  rfl

end Duties

/-! ### The contract -/

/-- Callers take over rows that nobody else has come to.  On a `reliable` store
no operation of a caller fails once its row has succeeded. -/
@[reducible] def taking (bridge : ExecutionEvidenceBridge) (reliable : Prop) :
    Machine.Contract (runtimeSystem bridge) where
  invariant := Owned
  rely := LeavesKey
  admitsCall _ _ _ := True
  admits thread task cmd input world :=
    (∀ update, cmd = .store (.updateLedger update) → input.fault = none →
      update.undisputed task world.store = true) ∧
    (reliable → ∀ key row, world.engagedOf thread = some key →
      world.store.ledgerRow? key = some row → row.status = .succeeded →
      input.fault = none)
  owes thread task cmd world :=
    ∀ update, cmd = .store (.updateLedger update) →
      update.closes task = true →
      world.engagedOf thread = some update.idempotencyKey ∧
        (reliable → ∀ row,
          world.store.ledgerRow? update.idempotencyKey = some row →
          row.status = .running)
  ends _ _ _ _ := True

variable {bridge : ExecutionEvidenceBridge} {reliable : Prop}

/-- Nothing that a key depends on has changed. -/
structure Spares (before after : World) : Prop where
  duty : ∀ thread, (after.activities thread).map Activity.duty =
    (before.activities thread).map Activity.duty
  entry : ∀ key row, before.store.ledgerRow? key = some row →
    after.store.ledgerRow? key = some row
  history : after.history = before.history

/-- The thread has changed one key, with which nobody else is engaged. -/
structure Touches (thread : Tid) (key : String) (before after : World) :
    Prop where
  duty : ∀ other, other ≠ thread →
    (after.activities other).map Activity.duty =
      (before.activities other).map Activity.duty
  entry : ∀ other, other ≠ key →
    after.store.ledgerRow? other = before.store.ledgerRow? other
  row : ∃ row, after.store.ledgerRow? key = some row ∧
    (after.engagedOf thread = some key → row.status.taken = true) ∧
    (spent key after.history = true → row.status.vacant = false)
  engaged : ∀ other, other ≠ key → after.engagedOf thread = some other →
    before.engagedOf thread = some other
  apart : ∀ other, other ≠ thread → before.engagedOf other ≠ some key
  history : ∀ other, other ≠ key →
    spent other after.history = spent other before.history
  once : AtMostOnce after.history

section Guarantees

variable {thread : Tid} {before after : World}

theorem Spares.refl (world : World) : Spares world world :=
  ⟨fun _ => rfl, fun _ _ found => found, rfl⟩

theorem Spares.leaves (owned : Owned before) (spares : Spares before after)
    (thread : Tid) : LeavesKey thread before after := by
  constructor
  · exact spares.duty thread
  · intro key at_
    obtain ⟨row, found, _⟩ := owned.held thread key at_
    rw [found]
    exact spares.entry key row found
  · intro key _
    rw [spares.history]
  · intro key present
    obtain ⟨row, found⟩ := Option.isSome_iff_exists.mp present
    rw [spares.entry key row found]
    rfl

theorem Spares.owned (owned : Owned before) (spares : Spares before after) :
    Owned after := by
  have engaged (thread : Tid) := engagedOf_of_duties (spares.duty thread)
  constructor
  · intro thread key at_
    rw [engaged] at at_
    obtain ⟨row, found, taken⟩ := owned.held thread key at_
    exact ⟨row, spares.entry key row found, taken⟩
  · intro first second key firstAt secondAt
    rw [engaged] at firstAt secondAt
    exact owned.alone first second key firstAt secondAt
  · intro key known
    rw [spares.history] at known
    obtain ⟨row, found, filled⟩ := owned.spent key known
    exact ⟨row, spares.entry key row found, filled⟩
  · rw [spares.history]
    exact owned.once

theorem Spares.guarantees (owned : Owned before)
    (spares : Spares before after) :
    (taking bridge reliable).Guarantees thread before after :=
  ⟨spares.owned owned, fun other _ => spares.leaves owned other⟩

theorem Touches.guarantees {key : String} (owned : Owned before)
    (touches : Touches thread key before after) :
    (taking bridge reliable).Guarantees thread before after := by
  have engaged (other : Tid) (different : other ≠ thread) :=
    engagedOf_of_duties (touches.duty other different)
  obtain ⟨row, found, taken, filled⟩ := touches.row
  have elsewhere (other : Tid) (wanted : String)
      (at_ : after.engagedOf other = some wanted) (far : wanted ≠ key) :
      before.engagedOf other = some wanted := by
    by_cases same : other = thread
    · subst same
      exact touches.engaged wanted far at_
    · exact (engaged other same).symm.trans at_
  have mine (other : Tid) (at_ : after.engagedOf other = some key) :
      other = thread := by
    by_contra different
    rw [engaged other different] at at_
    exact touches.apart other different at_
  refine ⟨⟨?_, ?_, ?_, touches.once⟩, ?_⟩
  · intro other wanted at_
    by_cases same : wanted = key
    · subst same
      have own := mine other at_
      subst own
      exact ⟨row, found, taken at_⟩
    · rw [touches.entry wanted same]
      exact owned.held other wanted (elsewhere other wanted at_ same)
  · intro first second wanted firstAt secondAt
    by_cases same : wanted = key
    · subst same
      exact (mine first firstAt).trans (mine second secondAt).symm
    · exact owned.alone first second wanted
        (elsewhere first wanted firstAt same)
        (elsewhere second wanted secondAt same)
  · intro wanted known
    by_cases same : wanted = key
    · subst same
      exact ⟨row, found, filled known⟩
    · rw [touches.history wanted same] at known
      rw [touches.entry wanted same]
      exact owned.spent wanted known
  · intro other different
    have far (wanted : String) (at_ : before.engagedOf other = some wanted) :
        wanted ≠ key := by
      intro same
      exact touches.apart other different (same ▸ at_)
    constructor
    · exact touches.duty other different
    · intro wanted at_
      exact touches.entry wanted (far wanted at_)
    · intro wanted at_
      exact touches.history wanted (far wanted at_)
    · intro wanted present
      by_cases same : wanted = key
      · rw [same, found]
        rfl
      · rw [touches.entry wanted same]
        exact present

end Guarantees

/-! ### Command by command -/

/-- The command is of no concern to any key. -/
def Bystands : Command → Prop
  | .store call => call.ledgerUpdate = none
  | .invoke invocation => invocation.spec.managedSideEffect = false
  | .sandboxed invocation _ => invocation.spec.managedSideEffect = false
  | _ => True

section Commands

variable {thread : Tid} {task : Task} {before after : World}

private theorem duty_of_bystands {call : Call} (bystands : call.ledgerUpdate = none)
    (moment : Moment) (other : Tid) :
    ((before.perform thread call moment).2.activities other).map
        Activity.duty = (before.activities other).map Activity.duty := by
  by_cases same : other = thread
  · subst same
    rw [World.perform_own, Option.map_map]
    congr 1
    funext activity
    have engaged : activity.engagedAfter call = activity.engaged := by
      unfold Activity.engagedAfter
      cases call with
      | updateLedger update => cases bystands
      | _ => split <;> simp_all
    exact Prod.ext rfl engaged
  · exact duty_perform_other same call moment

theorem entry_of_bystands {call : Call}
    (bystands : call.ledgerUpdate = none) {moment : Moment} {key : String}
    {row : LedgerRow} (found : before.store.ledgerRow? key = some row) :
    (call.perform moment before.store).2.ledgerRow? key = some row := by
  cases call with
  | reserveLedger args =>
      cases held : before.store.ledgerRow? args.idempotencyKey with
      | some existing =>
          rw [Store.perform_reserveLedger_found held]
          exact found
      | none =>
          have different : key ≠ args.idempotencyKey := by
            intro same
            rw [same, held] at found
            cases found
          rw [(Store.perform_reserveLedger_fresh held).2,
            Function.update_of_ne different]
          exact found
  | updateLedger update => cases bystands
  | resolveLedger runId update resolvedBy reason => cases bystands
  | _ =>
      rw [Store.ledgerRow?_of_other rfl]
      exact found

private theorem resolutions_of_bystands {call : Call}
    (bystands : call.ledgerUpdate = none)
    (result : Except PyError call.Result) : call.resolutions result = [] := by
  cases call with
  | resolveLedger runId update resolvedBy reason => cases bystands
  | _ => rfl

theorem spares_of_bystands {cmd : Command} {input : Surroundings}
    {reply : cmd.Reply} (bystands : Bystands cmd)
    (acted : World.act thread cmd input before = some (reply, after)) :
    Spares before after := by
  have invoked (invocation : Invocation)
      (unmanaged : invocation.spec.managedSideEffect = false) :
      Spares before (before.invoke thread invocation) := by
    constructor
    · intro other
      by_cases same : other = thread
      · subst same
        rw [World.invoke_own, Option.map_map]
        rfl
      · rw [World.invoke_other same]
    · intro key row found
      exact found
    · simp [World.invoke, unmanaged]
  cases cmd with
  | store call =>
      rcases World.act_store acted with ⟨_, _, _, same⟩ | ⟨_, _, same⟩
      · rw [same]
        exact .refl before
      · rw [same]
        constructor
        · exact duty_of_bystands bystands input.moment
        · intro key row found
          exact entry_of_bystands bystands found
        · simp only [World.perform]
          rw [resolutions_of_bystands bystands, List.append_nil]
  | invoke invocation =>
      cases acted
      exact invoked invocation bystands
  | sandboxed invocation policy =>
      cases acted
      exact invoked invocation bystands
  | agent ctx state =>
      cases acted
      exact .refl before
  | newId kind =>
      cases acted
      exact .refl before
  | putJson digest value =>
      simp only [World.act] at acted
      split at acted
      · cases acted
        exact ⟨fun _ => rfl, fun _ _ found => found, rfl⟩
      · cases acted
        exact ⟨fun _ => rfl, fun _ _ found => found, rfl⟩
  | getJson ref =>
      simp only [World.act] at acted
      split at acted
      · cases acted
        exact .refl before
      · cases acted
        exact .refl before

theorem keeps_of_bystands {fact : World → Prop}
    (stable : ∀ before after, LeavesKey thread before after → fact before →
      fact after) {cmd : Command} (bystands : Bystands cmd) :
    (taking bridge reliable).Keeps thread task fact cmd := by
  intro world owned holds
  constructor
  · intro update same
    rw [same] at bystands
    cases bystands
  · intro input _ reply after acted
    have spares := spares_of_bystands bystands acted
    exact ⟨spares.guarantees owned,
      stable world after (spares.leaves owned thread) holds⟩

theorem entry_update {update : LedgerUpdate} {moment : Moment}
    {row : LedgerRow}
    (found : before.store.ledgerRow? update.idempotencyKey = some row) :
    (before.perform thread (.updateLedger update) moment).2.store.ledgerRow? =
      Function.update before.store.ledgerRow? update.idempotencyKey
        (some (update.apply row)) := by
  have written := before.store.ledgerRow?_updateLedger update
  rwa [found, Option.map_some] at written

theorem row_update {update : LedgerUpdate} {moment : Moment}
    {row : LedgerRow}
    (found : before.store.ledgerRow? update.idempotencyKey = some row) :
    ∃ later, (before.perform thread (.updateLedger update)
        moment).2.store.ledgerRow? update.idempotencyKey = some later ∧
      later.status = update.status := by
  refine ⟨update.apply row, ?_, rfl⟩
  rw [entry_update found, Function.update_self]

theorem history_update (update : LedgerUpdate) (moment : Moment) :
    (before.perform thread (.updateLedger update) moment).2.history =
      before.history :=
  List.append_nil before.history

theorem touches_of_update {update : LedgerUpdate} {moment : Moment}
    {row : LedgerRow} (owned : Owned before)
    (found : before.store.ledgerRow? update.idempotencyKey = some row)
    (apart : ∀ other, other ≠ thread →
      before.engagedOf other ≠ some update.idempotencyKey)
    (taken : (before.perform thread (.updateLedger update) moment).2.engagedOf
      thread = some update.idempotencyKey → update.status.taken = true)
    (engaged : ∀ key, key ≠ update.idempotencyKey →
      (before.perform thread (.updateLedger update) moment).2.engagedOf
        thread = some key → before.engagedOf thread = some key)
    (filled : spent update.idempotencyKey before.history = true →
      update.status.vacant = false) :
    Touches thread update.idempotencyKey before
      (before.perform thread (.updateLedger update) moment).2 := by
  have entries := @entry_update thread before update moment row found
  have history := @history_update thread before update moment
  constructor
  · intro other different
    exact duty_perform_other different _ _
  · intro other different
    rw [entries, Function.update_of_ne different]
  · refine ⟨update.apply row, ?_, taken, ?_⟩
    · rw [entries, Function.update_self]
    · rw [history]
      exact filled
  · exact engaged
  · exact apart
  · intro other _
    rw [history]
  · rw [history]
    exact owned.once

/-- A row that is vacant is nobody's, and its key is not spent. -/
theorem unowned_of_vacant {key : String} {row : LedgerRow}
    (owned : Owned before) (found : before.store.ledgerRow? key = some row)
    (vacant : row.status.vacant = true) :
    (∀ other, before.engagedOf other ≠ some key) ∧
      spent key before.history = false := by
  constructor
  · intro other at_
    obtain ⟨present, here, taken⟩ := owned.held other key at_
    rw [found] at here
    cases here
    rw [LedgerStatus.not_vacant_of_taken taken] at vacant
    cases vacant
  · by_contra known
    obtain ⟨present, here, filled⟩ :=
      owned.spent key (Bool.not_eq_false _ ▸ known)
    rw [found] at here
    cases here
    rw [vacant] at filled
    cases filled

/-- The task is none of the gateway's. -/
def Task.Outside (task : Task) : Prop :=
  ∀ ctx toolName args, task ≠ .callTool ctx toolName args

private theorem engagedAfter_outside (outside : task.Outside)
    (engaged : Option String) (call : Call) :
    (({ task := task, engaged := engaged } : Activity).engagedAfter call) =
      engaged := by
  cases task with
  | callTool ctx toolName args => exact absurd rfl (outside ctx toolName args)
  | _ => rfl

private theorem undisputed_outside {update : LedgerUpdate}
    (outside : task.Outside)
    (undisputed : update.undisputed task before.store = true) :
    (before.store.ledgerRow? update.idempotencyKey).all
      (fun row => row.status.vacant) = true := by
  have begins : update.closes task = false := by
    cases task with
    | callTool ctx toolName args =>
        exact absurd rfl (outside ctx toolName args)
    | _ => rfl
  rwa [LedgerUpdate.undisputed, begins, Bool.false_or] at undisputed

variable (outside : task.Outside) (duty : Duty thread task none before)
  {moment : Moment}

include outside duty

private theorem idle_after (call : Call) :
    Duty thread task none (before.perform thread call moment).2 := by
  have after := duty_perform_own duty call moment
  rwa [engagedAfter_outside outside] at after

variable (owned : Owned before)

include owned

private theorem guarantees_update {update : LedgerUpdate}
    (undisputed : update.undisputed task before.store = true) :
    (taking bridge reliable).Guarantees thread before
      (before.perform thread (.updateLedger update) moment).2 := by
  have idle := @idle_after thread task before outside duty moment
    (.updateLedger update)
  have vacant := undisputed_outside outside undisputed
  cases found : before.store.ledgerRow? update.idempotencyKey with
  | none =>
      apply Spares.guarantees owned
      constructor
      · intro other
        by_cases same : other = thread
        · subst same
          exact Eq.trans idle duty.symm
        · exact duty_perform_other same _ _
      · intro key row present
        have written := before.store.ledgerRow?_updateLedger update
        rw [found, Option.map_none, ← found, Function.update_eq_self] at written
        exact (congrFun written key).trans present
      · exact List.append_nil before.history
  | some row =>
      rw [found] at vacant
      obtain ⟨free, unspent⟩ := unowned_of_vacant owned found vacant
      apply Touches.guarantees owned
      apply touches_of_update owned found
      · intro other _
        exact free other
      · intro at_
        rw [idle.engagedOf] at at_
        cases at_
      · intro key _ at_
        rw [idle.engagedOf] at at_
        cases at_
      · intro known
        rw [unspent] at known
        cases known

private theorem guarantees_resolve {runId resolvedBy reason : String}
    {update : LedgerUpdate} :
    (taking bridge reliable).Guarantees thread before (before.perform thread
      (.resolveLedger runId update resolvedBy reason) moment).2 := by
  have idle := @idle_after thread task before outside duty moment
    (.resolveLedger runId update resolvedBy reason)
  cases resolves : before.store.resolves runId update with
  | false =>
      obtain ⟨error, performed⟩ :=
        @Store.perform_resolveLedger_refused before.store moment runId
          resolvedBy reason update resolves
      apply Spares.guarantees owned
      constructor
      · intro other
        by_cases same : other = thread
        · subst same
          exact Eq.trans idle duty.symm
        · exact duty_perform_other same _ _
      · intro key row present
        simp only [World.perform, performed]
        exact present
      · simp only [World.perform, performed]
        exact List.append_nil before.history
  | true =>
      obtain ⟨row, found, pending, answered, entries⟩ :=
        @Store.perform_resolveLedger before.store moment runId resolvedBy
          reason update resolves
      have history : (before.perform thread (.resolveLedger runId update
          resolvedBy reason) moment).2.history = before.history ++
            if update.status = .failedNoEffect then
              [.resolvedNoEffect update.idempotencyKey]
            else [] := by
        simp only [World.perform, answered, Call.resolutions]
      have settled : update.status = .failedNoEffect ∨
          update.status = .succeeded := by
        simp only [Store.resolves, Bool.and_eq_true, Bool.or_eq_true,
          decide_eq_true_eq] at resolves
        rcases resolves.1 with ⟨succeeded, _⟩ | failed
        · exact .inr succeeded
        · exact .inl failed
      refine Touches.guarantees owned
        (?_ : Touches thread update.idempotencyKey before _)
      constructor
      · intro other different
        exact duty_perform_other different _ _
      · intro other different
        exact (congrFun entries other).trans
          (Function.update_of_ne different _ _)
      · refine ⟨update.apply row, ?_, ?_, ?_⟩
        · exact (congrFun entries _).trans (Function.update_self _ _ _)
        · intro at_
          rw [idle.engagedOf] at at_
          cases at_
        · intro known
          rcases settled with failed | succeeded
          · rw [history, if_pos failed] at known
            simp at known
          · change update.status.vacant = false
            rw [succeeded]
            rfl
      · intro key _ at_
        rw [idle.engagedOf] at at_
        cases at_
      · intro other _ at_
        obtain ⟨present, here, taken⟩ := owned.held other _ at_
        rw [found] at here
        cases here
        rw [pending] at taken
        cases taken
      · intro other different
        rw [history]
        split
        · simp [Ne.symm different]
        · rw [List.append_nil]
      · rw [history]
        split
        · apply owned.once.append
          intro key same
          cases same
        · rw [List.append_nil]
          exact owned.once

end Commands

/-! ### Task by task -/

section Tasks

variable {thread : Tid} {task : Task}

/-- The tool's function is about to run. -/
def Command.invokes : Command → Bool
  | .invoke _ => true
  | .sandboxed _ _ => true
  | _ => false

private theorem keeps_outside (outside : task.Outside) {cmd : Command}
    (idle : cmd.invokes = false) :
    (taking bridge reliable).Keeps thread task (Duty thread task none) cmd := by
  by_cases bystands : Bystands cmd
  · exact keeps_of_bystands
      (fun _ _ leaves duty => duty.congr leaves.duty) bystands
  · intro world owned duty
    constructor
    · intro update _ closes
      cases task with
      | callTool ctx toolName args =>
          exact absurd rfl (outside ctx toolName args)
      | _ => cases closes
    · intro input admitted reply after acted
      cases cmd with
      | store call =>
          rcases World.act_store acted with ⟨_, _, _, same⟩ |
            ⟨faultless, _, same⟩
          · rw [same]
            exact ⟨(Spares.refl world).guarantees owned, duty⟩
          · rw [same]
            refine ⟨?_, idle_after outside duty call⟩
            cases call with
            | updateLedger update =>
                exact guarantees_update outside duty owned
                  (admitted.1 update rfl faultless)
            | resolveLedger runId update resolvedBy reason =>
                exact guarantees_resolve outside duty owned
            | _ => exact absurd rfl bystands
      | invoke invocation => cases idle
      | sandboxed invocation policy => cases idle
      | _ => exact absurd trivial bystands

private theorem uses_outside (outside : task.Outside) :
    (task.body bridge).Uses fun cmd => cmd.invokes = false := by
  cases task with
  | callTool ctx toolName args => exact absurd rfl (outside ctx toolName args)
  | runOnce args => exact uses_runOnce (fun _ _ => rfl) (fun _ _ => rfl) args
  | recordToolExecution turn execution =>
      apply ExecutionEvidenceBridge.uses_recordToolExecution
      · exact ⟨fun _ _ => rfl, fun _ => rfl, fun _ => rfl⟩
      · intro update
        rfl
  | operation call => exact uses_store rfl

theorem safe_outside (outside : task.Outside) {world : World}
    (duty : Duty thread task none world) :
    (taking bridge reliable).Safe thread task (task.body bridge) world := by
  have stable : (taking bridge reliable).Stable thread
      (Duty thread task none) := by
    intro before after leaves _ holds
    exact holds.congr leaves.duty
  apply Machine.Contract.safe_of_uses stable
  · intro _ _ _
    trivial
  · exact (uses_outside outside).mono fun _ => keeps_outside outside
  · exact duty

end Tasks

end AgentLedger
