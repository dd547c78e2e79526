import AgentLedger.Foundation.Evaluation
import AgentLedger.Runtime.RunOnce
import AgentLedger.TimeTravel

namespace AgentLedger

open Foundation

/-! `worker.py`: the loop of `LocalWorker` and the service around it. -/

/-- What a worker process does one step at a time. -/
inductive WorkerCommand
  | runtime (cmd : Command)
  | steps (runId : String)
  | events (runId : String)
  /-- `self.stop_requested`, with `self.stop_reason` where it is set. -/
  | stopRequested
  /-- `asyncio.sleep(idle_sleep_seconds)`. -/
  | sleep

@[reducible] def WorkerCommand.Reply : WorkerCommand → Type
  | .runtime cmd => cmd.Reply
  | .steps _ => List StepRow
  | .events _ => List EventRow
  | .stopRequested => Option String
  | .sleep => Unit

abbrev WorkerM (α : Type) :=
  Program WorkerCommand WorkerCommand.Reply PyError α

namespace WorkerM

def runtime {α : Type} (program : RuntimeM α) : WorkerM α :=
  program.through WorkerCommand.runtime fun _ reply => reply

def steps (runId : String) : WorkerM (List StepRow) :=
  .call (.steps runId) .done

def events (runId : String) : WorkerM (List EventRow) :=
  .call (.events runId) .done

def stopRequested : WorkerM (Option String) :=
  .call .stopRequested .done

def sleep : WorkerM Unit :=
  .call .sleep .done

end WorkerM

structure WorkerRunSummary where
  workerId : String
  runId : Option String
  iterations : Int
  attempts : Nat
  succeededAttempts : Nat
  recoveredLeases : Nat
  finalStatus : Option Status
  stoppedReason : String
  deriving DecidableEq

structure WorkerServiceSummary where
  workerId : String
  runId : Option String
  loops : Nat
  attempts : Nat
  succeededAttempts : Nat
  recoveredLeases : Nat
  idlePolls : Nat
  stoppedReason : String
  finalStatus : Option Status
  stopRequested : Bool
  deriving DecidableEq

/-- The fields of `LocalWorker` and of `WorkerService`, without the runtime and
the agent. -/
structure LocalWorker where
  workerId : String := "worker-local"
  agentRole : String := "Agent"
  leaseSeconds : Int := 60
  recoverExpired : Bool := true

/-- `if run_id`: an empty one counts as none. -/
def givenRun (runId : Option String) : Option String :=
  runId.filter fun text => !text.isEmpty

/-- `self._run_status(run_id) if run_id else None`. -/
def finalStatus (runId : Option String) : WorkerM (Option Status) :=
  match givenRun runId with
  | none => return none
  | some runId => do
      let run ← WorkerM.runtime (store (.run runId))
      return some run.status

/-- The variables of `run_until_idle`. -/
structure Progress where
  attempts : Nat := 0
  succeededAttempts : Nat := 0
  recoveredLeases : Nat := 0
  stoppedReason : String := "max_iterations"
  iterations : Int := 0

namespace LocalWorker

def hasClaimableStep (runId : String) : WorkerM Bool := do
  let rows ← WorkerM.steps runId
  return rows.any fun row => row.status.claimable

def hasRecentAttempt (runId : String) (previousAttempts : Nat) :
    WorkerM Bool := do
  let rows ← WorkerM.events runId
  let claimed := rows.countP fun row => decide (row.type.text = "step_claimed")
  return decide (previousAttempts < claimed)

/-- The tests before `run_once`, which a given run may stop at. -/
def stopsBefore (runId : Option String) : WorkerM (Option String) :=
  match givenRun runId with
  | none => return none
  | some runId => do
      let run ← WorkerM.runtime (store (.run runId))
      if run.status.terminal then
        return some "terminal_status"
      else
        let claimable ← hasClaimableStep runId
        return if claimable then none else some "idle"

/-- `not ok and (run_id is None or not self._has_recent_attempt(..))`. -/
def idles (runId : Option String) (attempts : Nat) (ok : Bool) :
    WorkerM Bool :=
  if ok then return false
  else
    match runId with
    | none => return true
    | some runId => do
        let recent ← hasRecentAttempt runId attempts
        return !recent

variable (worker : LocalWorker) (runId : Option String)

def runOnceArgs : RunOnceArgs :=
  { runId := runId
    workerId := worker.workerId
    agentRole := worker.agentRole
    leaseSeconds := worker.leaseSeconds }

def recoverLeases : WorkerM Nat :=
  if worker.recoverExpired then
    WorkerM.runtime (store .recoverExpiredLeases)
  else return 0

/-- One pass of the loop; `true` when it ends in `break`. -/
def iteration (progress : Progress) : WorkerM (Progress × Bool) := do
  let recovered ← worker.recoverLeases
  let progress :=
    { progress with recoveredLeases := progress.recoveredLeases + recovered }
  match ← stopsBefore runId with
  | some reason => return ({ progress with stoppedReason := reason }, true)
  | none =>
      let ok ← WorkerM.runtime (runOnce (worker.runOnceArgs runId))
      let idle ← idles runId progress.attempts ok
      if idle then
        return ({ progress with stoppedReason := "idle" }, true)
      else
        return ({ progress with
          attempts := progress.attempts + 1
          succeededAttempts :=
            progress.succeededAttempts + if ok then 1 else 0 }, false)

/-- The loop with so many passes left. -/
def iterate (maxIterations : Int) : Nat → Progress → WorkerM Progress
  | 0, progress => return { progress with iterations := maxIterations }
  | rest + 1, progress => do
      let (progress, stops) ← worker.iteration runId
        { progress with iterations := maxIterations - rest }
      if stops then return progress
      else iterate maxIterations rest progress

def runUntilIdle (maxIterations : Int) : WorkerM WorkerRunSummary := do
  let progress ← worker.iterate runId maxIterations maxIterations.toNat {}
  let finalStatus ← finalStatus runId
  return {
    workerId := worker.workerId
    runId := runId
    iterations := progress.iterations
    attempts := progress.attempts
    succeededAttempts := progress.succeededAttempts
    recoveredLeases := progress.recoveredLeases
    finalStatus := finalStatus
    stoppedReason :=
      if finalStatus.any Status.terminal then "terminal_status"
      else progress.stoppedReason }

end LocalWorker

structure ServeArgs where
  runId : Option String := none
  maxLoops : Option Int := none
  maxIdlePolls : Option Int := some 1

/-- The variables of `serve`. -/
structure Served where
  attempts : Nat := 0
  succeededAttempts : Nat := 0
  recoveredLeases : Nat := 0
  idlePolls : Nat := 0
  loops : Nat := 0
  stoppedReason : String := "max_loops"

namespace Served

/-- One more pass of the loop, with what its worker did. -/
def add (served : Served) (summary : WorkerRunSummary) : Served :=
  { served with
    loops := served.loops + 1
    attempts := served.attempts + summary.attempts
    succeededAttempts := served.succeededAttempts + summary.succeededAttempts
    recoveredLeases := served.recoveredLeases + summary.recoveredLeases }

end Served

namespace WorkerService

variable (worker : LocalWorker) (args : ServeArgs)

/-- The loop, cut off after so many passes. -/
def loop : Nat → Served → WorkerM (Option Served)
  | 0, _ => return none
  | rest + 1, served =>
      if args.maxLoops.any fun most => decide (most ≤ (served.loops : Int)) then
        return some { served with stoppedReason := "max_loops" }
      else do
        match ← WorkerM.stopRequested with
        | some reason => return some { served with stoppedReason := reason }
        | none =>
            let summary ← worker.runUntilIdle args.runId 1
            let served := served.add summary
            if summary.finalStatus.any Status.terminal then
              return some { served with stoppedReason := "terminal_status" }
            else if summary.attempts = 0 then
              let served := { served with idlePolls := served.idlePolls + 1 }
              if args.maxIdlePolls.any
                  fun most => decide (most ≤ (served.idlePolls : Int)) then
                return some { served with stoppedReason := "idle" }
              else
                WorkerM.sleep
                loop rest served
            else loop rest { served with idlePolls := 0 }

/-- `serve`; no summary when the loop is cut off. -/
def serve (passes : Nat) : WorkerM (Option WorkerServiceSummary) := do
  match ← loop worker args passes {} with
  | none => return none
  | some served =>
      let stop ← WorkerM.stopRequested
      let finalStatus ← finalStatus args.runId
      let requested ← WorkerM.stopRequested
      return some {
        workerId := worker.workerId
        runId := args.runId
        loops := served.loops
        attempts := served.attempts
        succeededAttempts := served.succeededAttempts
        recoveredLeases := served.recoveredLeases
        idlePolls := served.idlePolls
        stoppedReason :=
          match stop with
          | some reason =>
              if served.stoppedReason = "max_loops" then reason
              else served.stoppedReason
          | none => served.stoppedReason
        finalStatus := finalStatus
        stopRequested := requested.isSome }

end WorkerService

/-! ### Where a service runs -/

/-- What happens while a service runs, as far as it bears on its polls.  No
program reads this. -/
inductive Observation
  /-- The expired leases are recovered. -/
  | polled
  /-- `claim_step` hands out a step. -/
  | claimed
  /-- No step can be claimed, when one is looked for. -/
  | nothing
  /-- The agent raises. -/
  | raised
  /-- The events of the run that are read tell of a claim. -/
  | recalled
  /-- The run whose status is read has ended. -/
  | ended
  /-- The run whose status is read goes on. -/
  | opened
  deriving DecidableEq, Repr

/-- The store, and what has happened; `stops` are the reasons under which the
service has found a stop requested. -/
structure Serving where
  store : Store
  seen : List Observation := []
  stops : List String := []

namespace Serving

def see (serving : Serving) (observations : List Observation) : Serving :=
  { serving with seen := serving.seen ++ observations }

end Serving

namespace Store

/-- `steps`: `SELECT * FROM steps WHERE run_id=? ORDER BY created_at`. -/
def stepRows (store : Store) (runId : String) : List StepRow :=
  (store.steps.rows.filter fun row => row.runId = runId).insertionSort
    fun first second => first.createdAt ≤ second.createdAt

/-- `claim_step` would find nothing. -/
def unclaimable (store : Store) (runId : Option String) : Bool :=
  (store.claimableSteps (givenRun runId)).isEmpty

/-- What the status of a run shows. -/
def statusSeen (status : Status) : Observation :=
  if status.terminal then .ended else .opened

def observed (store : Store) : Call → List Observation
  | .recoverExpiredLeases => [.polled]
  | .claimStep _ runId _ =>
      if store.unclaimable runId then [.nothing] else [.claimed]
  | .run runId =>
      ((store.run? runId).map fun run => statusSeen run.status).toList
  | _ => []

/-- The events of the run tell of a claim. -/
def tellsClaim (store : Store) (runId : String) : Bool :=
  (store.log runId).any fun row => decide (row.type.text = "step_claimed")

end Store

namespace Serving

/-- One operation after the other, of whoever it is. -/
def pass (serving : Serving) (operations : List (Call × Moment)) : Serving :=
  { serving with store := runFrom Store.next serving.store operations }

def perform (serving : Serving) (call : Call) (moment : Moment) : Serving :=
  (serving.pass [(call, moment)]).see (serving.store.observed call)

/-- What a command does by itself; of the agent only how it returns. -/
def runtimeStep : Program.Act Serving Command Command.Reply
  | .store call, serving, reply, after =>
      ∃ moment, reply = (call.perform moment serving.store).1 ∧
        after = serving.perform call moment
  | .agent _ _, serving, reply, after =>
      after = serving.see
        (match reply with
          | .ok _ => []
          | .error _ => [.raised])
  | _, serving, _, after => after = serving

def step : Program.Act Serving WorkerCommand WorkerCommand.Reply
  | .runtime cmd, serving, reply, after =>
      runtimeStep cmd serving reply after
  | .steps runId, serving, reply, after =>
      reply = serving.store.stepRows runId ∧
        after = serving.see
          (if serving.store.unclaimable (some runId) then [.nothing] else [])
  | .events runId, serving, reply, after =>
      reply = serving.store.eventsOf runId ∧
        after = serving.see
          (if serving.store.tellsClaim runId then [.recalled] else [])
  | .stopRequested, serving, reply, after =>
      after = { serving with stops := serving.stops ++ reply.toList }
  | .sleep, serving, _, after => after = serving

/-- Before every command, while the agent works and while the service sleeps,
others work on the store as they like. -/
def runtimeAct : Program.Act Serving Command Command.Reply :=
  fun cmd serving reply after =>
    ∃ operations, runtimeStep cmd (serving.pass operations) reply after

def act : Program.Act Serving WorkerCommand WorkerCommand.Reply :=
  fun cmd serving reply after =>
    ∃ operations, step cmd (serving.pass operations) reply after

end Serving

end AgentLedger
