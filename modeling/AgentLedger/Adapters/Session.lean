import AgentLedger.Runtime.System
import Mathlib.Data.List.AList
import Mathlib.Data.List.Sort

namespace AgentLedger

open Foundation

/-! What an `ExecutionEvidenceBridge` keeps in mind of its sessions and turns,
and the programs that use it.  An exception leaves the bridge with what it had
in mind when it was raised. -/

/-- `_BridgeSession`. -/
structure BridgeSession where
  runId : String
  sessionId : String
  initialStepId : Option String := none

/-- `_ActiveTurn`, with the lease it holds. -/
structure LeasedTurn extends ActiveTurn where
  leaseToken : String
  attempt : Nat

/-- `_sessions` and `_active_turns`. -/
structure Memory where
  sessions : AList fun _ : String => BridgeSession
  activeTurns : AList fun _ : String => LeasedTurn

namespace Memory

def empty : Memory := ⟨∅, ∅⟩

def openSession (sessionId : String) (session : BridgeSession)
    (memory : Memory) : Memory :=
  { memory with sessions := memory.sessions.insert sessionId session }

def startTurn (key : String) (turn : LeasedTurn) (memory : Memory) : Memory :=
  { memory with activeTurns := memory.activeTurns.insert key turn }

def endTurn (key : String) (memory : Memory) : Memory :=
  { memory with activeTurns := memory.activeTurns.erase key }

/-- At most one turn is active. -/
def Lone (memory : Memory) : Prop := memory.activeTurns.entries.length ≤ 1

instance (memory : Memory) : Decidable memory.Lone :=
  inferInstanceAs (Decidable (_ ≤ _))

theorem Lone.same {memory : Memory} (lone : memory.Lone)
    {first second : String} {turn other : LeasedTurn}
    (foundFirst : memory.activeTurns.lookup first = some turn)
    (foundSecond : memory.activeTurns.lookup second = some other) :
    first = second ∧ turn = other := by
  have memberFirst := AList.mem_lookup_iff.mp foundFirst
  have memberSecond := AList.mem_lookup_iff.mp foundSecond
  unfold Lone at lone
  match entries : memory.activeTurns.entries with
  | [] =>
      rw [entries] at memberFirst
      cases memberFirst
  | [entry] =>
      rw [entries, List.mem_singleton] at memberFirst memberSecond
      cases memberFirst.trans memberSecond.symm
      exact ⟨rfl, rfl⟩
  | _ :: _ :: _ =>
      rw [entries] at lone
      simp at lone

/-- The lone turn was active, and is no more. -/
theorem Lone.ended {memory : Memory} (lone : memory.Lone) {key : String}
    {turn : LeasedTurn} (active : memory.activeTurns.lookup key = some turn)
    (other : String) : (memory.endTurn key).activeTurns.lookup other = none := by
  unfold endTurn
  by_cases same : other = key
  · subst same
    exact AList.lookup_erase _ _
  · rw [AList.lookup_erase_ne same]
    cases found : memory.activeTurns.lookup other with
    | none => rfl
    | some left => exact absurd (lone.same found active).1 same

end Memory

/-! ### Programs of a bridge -/

inductive BridgeCommand
  | runtime (cmd : Command)
  /-- `store.steps`: `WHERE run_id=? ORDER BY created_at`. -/
  | steps (runId : String)
  | retrieve
  | remember (change : Memory → Memory)

@[reducible] def BridgeCommand.Reply : BridgeCommand → Type
  | .runtime cmd => cmd.Reply
  | .steps _ => List StepRow
  | .retrieve => Memory
  | .remember _ => Unit

abbrev BridgeM (α : Type) :=
  Program BridgeCommand BridgeCommand.Reply PyError α

namespace BridgeM

def lift {α : Type} : RuntimeM α → BridgeM α
  | .done value => .done value
  | .raise error => .raise error
  | .call cmd next => .call (.runtime cmd) fun reply => lift (next reply)

def steps (runId : String) : BridgeM (List StepRow) :=
  .call (.steps runId) .done

def retrieve : BridgeM Memory := .call .retrieve .done

def remember (change : Memory → Memory) : BridgeM Unit :=
  .call (.remember change) .done

end BridgeM

/-- A bridge over a world that nobody else acts on. -/
structure BridgeState where
  world : World
  memory : Memory

namespace BridgeState

/-- A bridge that has just been set up over the store. -/
def opened (store : Store) : BridgeState :=
  ⟨{ World.opened with store := store }, .empty⟩

def stepsOf (runId : String) (state : BridgeState) : List StepRow :=
  (state.world.store.steps.rows.filter fun row =>
    decide (row.runId = runId)).insertionSort
      fun first second => first.createdAt ≤ second.createdAt

def act (moment : Moment) : (cmd : BridgeCommand) → BridgeState →
    Option (cmd.Reply × BridgeState)
  | .runtime cmd, state =>
      (World.act 0 cmd { moment := moment } state.world).map fun outcome =>
        (outcome.1, { state with world := outcome.2 })
  | .steps runId, state => some (state.stepsOf runId, state)
  | .retrieve, state => some (state.memory, state)
  | .remember change, state =>
      some ((), { state with memory := change state.memory })

/-- The program with nothing else in between. -/
def alone {α : Type} (moment : Moment) :
    BridgeM α → BridgeState → Except PyError α × BridgeState
  | .done value, state => (.ok value, state)
  | .raise error, state => (.error error, state)
  | .call cmd next, state =>
      match act moment cmd state with
      | some (reply, after) => alone moment (next reply) after
      | none => (.error (.runtimeError "no answer"), state)

section Alone

variable {moment : Moment} {state : BridgeState} {α β : Type}

theorem alone_bind (first : BridgeM α) (next : α → BridgeM β) :
    alone moment (first >>= next) state =
      match alone moment first state with
      | (.ok value, after) => alone moment (next value) after
      | (.error error, after) => (.error error, after) := by
  induction first generalizing state with
  | done value => rfl
  | raise error => rfl
  | call cmd rest ih =>
      simp only [Program.bind_call, alone]
      cases act moment cmd state with
      | none => rfl
      | some outcome => exact ih outcome.1

theorem alone_bind_ok {first : BridgeM α} {next : α → BridgeM β} {value : α}
    {after : BridgeState}
    (done : alone moment first state = (.ok value, after)) :
    alone moment (first >>= next) state = alone moment (next value) after := by
  rw [alone_bind, done]

theorem alone_bind_error {first : BridgeM α} {next : α → BridgeM β}
    {error : PyError} {after : BridgeState}
    (raised : alone moment first state = (.error error, after)) :
    alone moment (first >>= next) state = (.error error, after) := by
  rw [alone_bind, raised]

@[simp] theorem alone_recall_bind (next : Memory → BridgeM β) :
    alone moment (BridgeM.retrieve >>= next) state =
      alone moment (next state.memory) state :=
  rfl

@[simp] theorem alone_steps_bind (runId : String)
    (next : List StepRow → BridgeM β) :
    alone moment (BridgeM.steps runId >>= next) state =
      alone moment (next (state.stepsOf runId)) state :=
  rfl

@[simp] theorem alone_remember_bind (change : Memory → Memory)
    (next : Unit → BridgeM β) :
    alone moment (BridgeM.remember change >>= next) state =
      alone moment (next ()) { state with memory := change state.memory } :=
  rfl

theorem alone_lift (program : RuntimeM α) :
    alone moment (BridgeM.lift program) state =
      ((World.alone moment program state.world).1,
        { state with
          world := (World.alone moment program state.world).2 }) := by
  induction program generalizing state with
  | done value => rfl
  | raise error => rfl
  | call cmd next ih =>
      simp only [BridgeM.lift, alone, act, World.alone]
      cases World.act 0 cmd { moment := moment } state.world with
      | none => rfl
      | some outcome => exact ih outcome.1

theorem alone_store (call : Call) :
    ∃ after, alone moment (BridgeM.lift (store call)) state =
        ((call.perform moment state.world.store).1, after) ∧
      after.memory = state.memory ∧
      after.world.store = (call.perform moment state.world.store).2 := by
  refine ⟨{ state with world := (state.world.perform 0 call moment).2 }, ?_,
    rfl, rfl⟩
  rw [alone_lift, World.alone_store]
  rfl

/-- What every operation keeps of the store, a program keeps. -/
theorem kept_alone {kept : Store → Prop}
    (performs : ∀ call store, kept store →
      kept (Call.perform call moment store).2)
    (program : BridgeM α) (holds : kept state.world.store) :
    kept (alone moment program state).2.world.store := by
  induction program generalizing state with
  | done value => exact holds
  | raise error => exact holds
  | call cmd next ih =>
      simp only [alone]
      cases acted : act moment cmd state with
      | none => exact holds
      | some outcome =>
          apply ih
          cases cmd with
          | runtime cmd =>
              simp only [act, Option.map_eq_some_iff] at acted
              obtain ⟨⟨answer, world⟩, performed, same⟩ := acted
              cases same
              rcases World.store_of_act performed with same | ⟨call, _, _, same⟩
              · rw [same]
                exact holds
              · rw [same]
                exact performs call _ holds
          | steps runId =>
              cases acted
              exact holds
          | retrieve =>
              cases acted
              exact holds
          | remember change =>
              cases acted
              exact holds

/-- What the first part arrives at with `fact`, and the second keeps, the
whole arrives at. -/
theorem holds_bind {fact : BridgeState → Prop} {first : BridgeM α}
    {next : α → BridgeM β} (arrived : fact (alone moment first state).2)
    (rest : ∀ value after, alone moment first state = (.ok value, after) →
      fact after → fact (alone moment (next value) after).2) :
    fact (alone moment (first >>= next) state).2 := by
  rw [alone_bind]
  rcases outcome : alone moment first state with ⟨result, after⟩
  rw [outcome] at arrived
  cases result with
  | ok value => exact rest value after outcome arrived
  | error error => exact arrived

end Alone

/-! ### Programs that leave the rows and the memory alone -/

/-- Neither the runs, nor the steps, nor what the bridge has in mind. -/
structure Spares (before after : BridgeState) : Prop where
  rows : before.world.store.SameRows after.world.store
  memory : after.memory = before.memory

theorem Spares.refl (state : BridgeState) : Spares state state :=
  ⟨⟨rfl, rfl⟩, rfl⟩

theorem Spares.of_store {before after : BridgeState}
    (store : after.world.store = before.world.store)
    (memory : after.memory = before.memory) : Spares before after :=
  ⟨⟨congrArg Store.runs store, congrArg Store.steps store⟩, memory⟩

theorem Spares.trans {first second third : BridgeState}
    (one : Spares first second) (two : Spares second third) :
    Spares first third :=
  ⟨⟨two.rows.1.trans one.rows.1, two.rows.2.trans one.rows.2⟩,
    two.memory.trans one.memory⟩

end BridgeState

def Command.quiet : Command → Prop
  | .store call => call.spares = true
  | _ => True

def BridgeCommand.quiet : BridgeCommand → Prop
  | .runtime cmd => cmd.quiet
  | .steps _ => True
  | .retrieve => True
  | .remember _ => False

theorem BridgeM.uses_lift {α : Type} {program : RuntimeM α}
    (uses : program.Uses Command.quiet) :
    (lift program).Uses BridgeCommand.quiet := by
  induction program with
  | done value => trivial
  | raise error => trivial
  | call cmd next ih => exact ⟨uses.1, fun reply => ih reply (uses.2 reply)⟩

theorem ToolGateway.routine_quiet (gateway : ToolGateway) :
    gateway.Routine Command.quiet := by
  constructor
  · intro call isAside
    cases call <;> first | rfl | cases isAside
  · intro value
    trivial
  · intro kind
    trivial

namespace BridgeState

variable {moment : Moment} {state : BridgeState} {α : Type}

theorem spares_of_act {cmd : BridgeCommand} (quiet : cmd.quiet)
    {reply : cmd.Reply} {after : BridgeState}
    (acted : act moment cmd state = some (reply, after)) :
    Spares state after := by
  cases cmd with
  | runtime cmd =>
      simp only [act, Option.map_eq_some_iff] at acted
      obtain ⟨⟨answer, world⟩, performed, same⟩ := acted
      cases same
      rcases World.store_of_act performed with kept | ⟨call, rfl, _, moved⟩
      · exact ⟨⟨congrArg Store.runs kept, congrArg Store.steps kept⟩, rfl⟩
      · obtain ⟨runs, steps⟩ :=
          @sameRows_of_spares state.world.store moment call quiet
        exact ⟨⟨(congrArg Store.runs moved).trans runs,
          (congrArg Store.steps moved).trans steps⟩, rfl⟩
  | steps runId =>
      cases acted
      exact .refl state
  | retrieve =>
      cases acted
      exact .refl state
  | remember change => exact quiet.elim

theorem spares_of_uses {program : BridgeM α}
    (uses : program.Uses BridgeCommand.quiet) :
    Spares state (alone moment program state).2 := by
  induction program generalizing state with
  | done value => exact .refl state
  | raise error => exact .refl state
  | call cmd next ih =>
      simp only [alone]
      cases acted : act moment cmd state with
      | none => exact .refl state
      | some outcome =>
          exact (spares_of_act uses.1 acted).trans
            (ih outcome.1 (uses.2 outcome.1))

end BridgeState

end AgentLedger
