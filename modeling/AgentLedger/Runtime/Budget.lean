import AgentLedger.Foundation.Protocol
import AgentLedger.Runtime.AtMostOnce
import AgentLedger.Runtime.Boundary
import AgentLedger.Store.Issues
import Mathlib.Algebra.Order.Floor.Ring
import Mathlib.Data.Rat.Floor

namespace AgentLedger

open Foundation

/-! The tool budget of a run: what `before_tool_call` reads, and how many times
the functions of the tools are executed. -/

/-! ### Recorded usage -/

/-- The record counts as calls of tools. -/
def CostRow.countsCalls (row : CostRow) : Bool :=
  (row.category == "tool" || row.category == "tool_shadow") &&
    row.unit == "call"

/-- The record that `record_cost` writes. -/
def CostArgs.row (args : CostArgs) (costId : String) : CostRow :=
  { costId := costId
    runId := args.runId
    sessionId := args.sessionId
    stepId := args.stepId
    category := args.category
    name := args.name
    amount := args.amount
    unit := args.unit
    metadata := .obj args.metadata }

def CostArgs.countsCalls (args : CostArgs) : Bool :=
  (args.category == "tool" || args.category == "tool_shadow") &&
    args.unit == "call"

/-- The usage that is recorded for a run. -/
def Store.toolCalls (store : Store) (runId : String) : Rat :=
  sumAmounts ((store.costs.filter fun row => row.runId = runId).filter
    CostRow.countsCalls)

/-- `int(summary["tool_calls"])`. -/
def CostSummary.used (summary : CostSummary) : Int :=
  summary.toolCalls.num.tdiv summary.toolCalls.den

theorem sumAmounts_append (first second : List CostRow) :
    sumAmounts (first ++ second) = sumAmounts first + sumAmounts second := by
  have shift (rows : List CostRow) (total : Rat) :
      rows.foldl (fun total row => total + row.amount) total =
        total + sumAmounts rows := by
    induction rows generalizing total with
    | nil => exact (add_zero total).symm
    | cons row rest ih =>
        have first : sumAmounts (row :: rest) = row.amount + sumAmounts rest :=
          (ih (0 + row.amount)).trans (by rw [zero_add])
        rw [List.foldl_cons, ih, first, add_assoc]
  rw [sumAmounts, List.foldl_append, shift]
  rfl

section Store

variable {store : Store} {moment : Moment}

theorem performed_costSummary (runId : String) :
    ∃ summary, ((Call.costSummary runId).perform moment store) =
        (.ok summary, store) ∧
      summary.toolCalls = store.toolCalls runId := by
  refine ⟨_, rfl, ?_⟩
  rfl

theorem performed_recordCost (args : CostArgs) :
    ∃ costId, ((Call.recordCost args).perform moment store).1 = .ok costId ∧
      ((Call.recordCost args).perform moment store).2.costs =
        store.costs ++ [args.row costId] := by
  refine ⟨moment.id "cost", ?_⟩
  simp [Call.perform, Call.body, AgentLedger.perform, recordCost, newId,
    nowTs, execute, Moment.tell, Sql.exec_withConn_bind, Store.after,
    Store.write, Store.append, CostArgs.row]

theorem costs_of_other {call : Call}
    (other : ∀ args, call ≠ .recordCost args) :
    (call.perform moment store).2.costs = store.costs := by
  apply Call.perform_keeps (fun later => later.costs = store.costs)
  · intro statement state issues _ same
    rw [← same]
    cases statement with
    | insertCost row =>
        obtain ⟨args, recorded⟩ := issues
        exact absurd recorded (other args)
    | insertApproval row =>
        simp only [Store.after, Store.write]
        split
        · rfl
        · split <;> rfl
    | insertStep row =>
        simp only [Store.after, Store.write]
        split
        · split <;> rfl
        · rfl
    | insertRun row | insertEvent row | insertLedger row =>
        simp only [Store.after, Store.write]
        split <;> rfl
    | _ => rfl
  · rfl

/-- The usage that is recorded by one operation. -/
def Call.usage (runId : String) : Call → Rat
  | .recordCost args =>
      if args.runId = runId ∧ args.countsCalls = true then args.amount else 0
  | _ => 0

private theorem usage_row (args : CostArgs) (costId runId : String) :
    sumAmounts (([args.row costId].filter fun row => row.runId = runId).filter
      CostRow.countsCalls) = (Call.recordCost args).usage runId := by
  have counts : (args.row costId).countsCalls = args.countsCalls := rfl
  by_cases own : args.runId = runId
  · have kept : [args.row costId].filter (fun row => row.runId = runId) =
        [args.row costId] := by
      simp [CostArgs.row, own]
    have amount : (args.row costId).amount = args.amount := rfl
    rw [kept]
    cases counted : args.countsCalls with
    | true => simp [counts, counted, Call.usage, own, sumAmounts, amount]
    | false => simp [counts, counted, Call.usage, sumAmounts]
  · have dropped : [args.row costId].filter (fun row => row.runId = runId) =
        [] := by
      simp [CostArgs.row, own]
    simp [dropped, Call.usage, own, sumAmounts]

theorem toolCalls_of_call (call : Call) (runId : String) :
    (call.perform moment store).2.toolCalls runId =
      store.toolCalls runId + call.usage runId := by
  by_cases recorded : ∃ args, call = .recordCost args
  · obtain ⟨args, rfl⟩ := recorded
    obtain ⟨costId, _, costs⟩ := @performed_recordCost store moment args
    rw [Store.toolCalls, costs, List.filter_append, List.filter_append,
      sumAmounts_append, Store.toolCalls]
    rw [usage_row]
  · have unrecorded : call.usage runId = 0 := by
      cases call with
      | recordCost args => exact absurd ⟨args, rfl⟩ recorded
      | _ => rfl
    rw [Store.toolCalls, costs_of_other fun args same => recorded ⟨args, same⟩,
      unrecorded, add_zero, Store.toolCalls]

end Store

/-! ### What a call goes through -/

inductive BudgetPhase
  /-- No call of a tool for the run. -/
  | outside
  | fresh
  /-- Past its check. -/
  | cleared
  | executed
  /-- The usage of its execution is recorded. -/
  | recorded
  deriving DecidableEq

def Command.executesFor (runId : String) (cmd : Command) : Bool :=
  cmd.invocation?.any fun invocation => decide (invocation.ctx.runId = runId)

/-- One call of a tool. -/
def CostArgs.countsCall (args : CostArgs) (runId : String) : Bool :=
  decide (args.runId = runId) && args.countsCalls && decide (args.amount = 1)

def BudgetPhase.next (runId : String) (limit : Int) (phase : BudgetPhase) :
    (cmd : Command) → cmd.Reply → BudgetPhase
  | .store (.costSummary asked), .ok summary =>
      if asked = runId ∧ phase = .fresh ∧ summary.used < limit then .cleared
      else phase
  | .store (.recordCost args), .ok _ =>
      if phase = .executed ∧ args.countsCall runId = true then .recorded
      else phase
  | .invoke invocation, _ =>
      if invocation.ctx.runId = runId then .executed else phase
  | .sandboxed invocation _, _ =>
      if invocation.ctx.runId = runId then .executed else phase
  | _, _ => phase

section Next

variable {runId : String} {limit : Int} {phase : BudgetPhase} {cmd : Command}
  {reply : cmd.Reply}

theorem cleared_of_next
    (cleared : BudgetPhase.next runId limit phase cmd reply = .cleared) :
    (phase = .cleared ∧ cmd.executesFor runId = false) ∨
      phase = .fresh ∧ ∃ summary,
        (⟨cmd, reply⟩ : Sigma Command.Reply) =
          ⟨.store (.costSummary runId), .ok summary⟩ ∧
        summary.used < limit := by
  cases cmd with
  | store call =>
      cases call with
      | costSummary asked =>
          cases reply with
          | error error => exact .inl ⟨cleared, rfl⟩
          | ok summary =>
              simp only [BudgetPhase.next] at cleared
              split at cleared
              case isTrue passes =>
                  obtain ⟨rfl, fresh, within⟩ := passes
                  exact .inr ⟨fresh, summary, rfl, within⟩
              case isFalse => exact .inl ⟨cleared, rfl⟩
      | recordCost args =>
          cases reply with
          | error error => exact .inl ⟨cleared, rfl⟩
          | ok costId =>
              simp only [BudgetPhase.next] at cleared
              split at cleared
              · cases cleared
              · exact .inl ⟨cleared, rfl⟩
      | _ => exact .inl ⟨cleared, rfl⟩
  | invoke invocation =>
      simp only [BudgetPhase.next] at cleared
      split at cleared
      case isTrue => cases cleared
      case isFalse other => exact .inl ⟨cleared, decide_eq_false other⟩
  | sandboxed invocation policy =>
      simp only [BudgetPhase.next] at cleared
      split at cleared
      case isTrue => cases cleared
      case isFalse other => exact .inl ⟨cleared, decide_eq_false other⟩
  | _ => exact .inl ⟨cleared, rfl⟩

theorem recorded_of_next (executed : phase = .executed)
    (recorded : BudgetPhase.next runId limit phase cmd reply = .recorded) :
    ∃ args costId, (⟨cmd, reply⟩ : Sigma Command.Reply) =
        ⟨.store (.recordCost args), .ok costId⟩ ∧
      args.countsCall runId = true := by
  subst executed
  cases cmd with
  | store call =>
      cases call with
      | costSummary asked =>
          cases reply with
          | error error => cases recorded
          | ok summary => simp [BudgetPhase.next] at recorded
      | recordCost args =>
          cases reply with
          | error error => cases recorded
          | ok costId =>
              simp only [BudgetPhase.next] at recorded
              split at recorded
              case isTrue counts => exact ⟨args, costId, rfl, counts.2⟩
              case isFalse => cases recorded
      | _ => cases recorded
  | invoke invocation => simp [BudgetPhase.next] at recorded
  | sandboxed invocation policy => simp [BudgetPhase.next] at recorded
  | _ => cases recorded

end Next

/-- A function is run for the run only past the check, and once. -/
@[reducible] def budgeted (runId : String) (limit : Int) :
    Protocol Command Command.Reply where
  Phase := BudgetPhase
  idle := .outside
  allows := fun phase cmd => cmd.executesFor runId = true → phase = .cleared
  next := BudgetPhase.next runId limit

section Calls

variable {runId : String} {limit : Int}

theorem follows_quiet {α : Type} {program : RuntimeM α} {phase : BudgetPhase}
    (uses : program.Uses fun cmd => cmd.executesFor runId = false) :
    program.Follows (budgeted runId limit) (fun _ _ => True) phase := by
  apply Program.Follows.of_uses
  · apply uses.mono
    intro cmd silent phase _
    refine ⟨fun runs => ?_, fun _ => trivial⟩
    rw [silent] at runs
    cases runs
  · trivial

theorem stays_cleared (call : Call) :
    (budgeted runId limit).Stays (· = .cleared) (.store call) := by
  intro phase cleared
  subst cleared
  refine ⟨fun _ => rfl, fun reply => ?_⟩
  cases call with
  | costSummary asked => cases reply <;> simp [BudgetPhase.next]
  | recordCost args => cases reply <;> simp [BudgetPhase.next]
  | _ => rfl

/-- Before its check a call is in one of these phases. -/
private def Unexecuted (phase : BudgetPhase) : Prop :=
  phase = .fresh ∨ phase = .cleared

private theorem routine_unexecuted (gateway : ToolGateway) :
    gateway.Routine ((budgeted runId limit).Stays Unexecuted) := by
  have stays {cmd : Command} (silent : cmd.executesFor runId = false)
      (moves : ∀ phase reply, Unexecuted phase →
        Unexecuted (BudgetPhase.next runId limit phase cmd reply)) :
      (budgeted runId limit).Stays Unexecuted cmd := by
    intro phase inside
    refine ⟨fun runs => ?_, fun reply => moves phase reply inside⟩
    rw [silent] at runs
    cases runs
  constructor
  · intro call _
    apply stays rfl
    intro phase reply inside
    cases call with
    | costSummary asked =>
        cases reply with
        | error error => exact inside
        | ok summary =>
            simp only [BudgetPhase.next]
            split
            · exact .inr rfl
            · exact inside
    | recordCost args =>
        cases reply with
        | error error => exact inside
        | ok costId =>
            rcases inside with rfl | rfl
            · exact .inl rfl
            · exact .inr rfl
    | _ => exact inside
  · intro value
    exact stays rfl fun _ _ inside => inside
  · intro kind
    exact stays rfl fun _ _ inside => inside

private theorem routine_silent (gateway : ToolGateway) :
    gateway.Routine fun cmd => cmd.executesFor runId = false := by
  constructor
  · intro call _
    rfl
  · intro value
    rfl
  · intro kind
    rfl

variable {gateway : ToolGateway} {request : ToolGateway.Request}

private theorem follows_executeTool :
    (gateway.executeTool request).Follows (budgeted runId limit)
      (fun _ _ => True) .cleared := by
  have raises {phase : BudgetPhase} (reply : Except PyError Json) :
      (orRaise reply).Follows (budgeted runId limit) (fun _ _ => True)
        phase := by
    cases reply <;> trivial
  unfold ToolGateway.executeTool
  simp only
  split
  · exact ⟨fun _ => rfl, raises⟩
  · split
    · trivial
    · rename_i base made
      apply Program.Follows.after (uses_report (stays_cleared _)) rfl
      · intro phase _ cleared
        subst cleared
        refine ⟨fun _ => rfl, fun reply => ?_⟩
        apply follows_quiet
        apply (uses_orRaise reply).bind
        intro result
        apply ((routine_silent gateway).uses_report _ _).bind
        intro _
        split <;> trivial
      · intro _ _ _
        trivial

private theorem follows_attempt :
    (gateway.attempt request).Follows (budgeted runId limit)
      (fun _ _ => True) .cleared := by
  have updates : request.spec.managedSideEffect = true → ∀ update,
      (Command.store (.updateLedger update)).executesFor runId = false :=
    fun _ _ => rfl
  unfold ToolGateway.attempt
  rw [ToolGateway.perform]
  apply Program.Follows.tryCatch
  · apply follows_executeTool.bind
    · intro _ result _
      exact follows_quiet ((routine_silent gateway).uses_conclude updates result)
    · intro _ _ _
      trivial
  · intro _ _ _
    trivial
  · intro _ error _
    exact follows_quiet ((routine_silent gateway).uses_onFailure updates error)

private theorem follows_takeOver :
    (gateway.takeOver request).Follows (budgeted runId limit)
      (fun _ _ => True) .cleared := by
  apply Program.Follows.after (uses_store (stays_cleared _)) rfl
  · intro phase _ cleared
    subst cleared
    exact follows_attempt
  · intro _ _ _
    trivial

private theorem follows_proceed :
    (gateway.proceed request).Follows (budgeted runId limit)
      (fun _ _ => True) .cleared := by
  have gets (ref : String) : (Command.getJson ref).executesFor runId = false :=
    rfl
  have silent := @routine_silent runId gateway
  unfold ToolGateway.proceed
  simp only
  split
  · apply follows_quiet
    apply (silent.uses_shadowResponse gets request).bind
    intro response
    exact (silent.uses_store rfl).bind fun _ => trivial
  · split
    · apply Program.Follows.after (uses_store (stays_cleared _)) rfl
      · intro phase found cleared
        subst cleared
        cases found with
        | none => exact follows_takeOver
        | some existing =>
            simp only
            split
            · exact follows_quiet (silent.uses_replayed gets request existing)
            · trivial
            · trivial
            · trivial
            · exact follows_takeOver
            · exact follows_takeOver
      · intro _ _ _
        trivial
    · exact follows_attempt

private theorem follows_check {α : Type} {rest : RuntimeM α}
    {phase : BudgetPhase} (limited : gateway.limits.maxToolCalls = some limit)
    (early : Unexecuted phase)
    (cleared : rest.Follows (budgeted runId limit) (fun _ _ => True)
      .cleared) :
    (gateway.beforeToolCall runId >>= fun _ => rest).Follows
      (budgeted runId limit) (fun _ _ => True) phase := by
  have passes (reply : Except PyError CostSummary) :
      ((do
        let summary ← orRaise reply
        if summary.toolCalls.num.tdiv summary.toolCalls.den ≥ limit then
          .raise
            { cls := .budgetExceeded
              typeName := "BudgetExceeded"
              message := "tool call budget exceeded: " ++
                toString (summary.toolCalls.num.tdiv summary.toolCalls.den) ++
                  "/" ++ toString limit }
        else return () : RuntimeM Unit) >>= fun _ => rest).Follows
        (budgeted runId limit) (fun _ _ => True)
        (BudgetPhase.next runId limit phase (.store (.costSummary runId))
          reply) := by
    cases reply with
    | error error => trivial
    | ok summary =>
        simp only [orRaise, Program.bind_done]
        split
        case isTrue => trivial
        case isFalse within =>
            have next : BudgetPhase.next runId limit phase
                (.store (.costSummary runId)) (.ok summary) = .cleared := by
              have below : summary.used < limit := not_le.mp within
              rcases early with rfl | rfl <;> simp [BudgetPhase.next, below]
            rw [next]
            exact cleared
  unfold ToolGateway.beforeToolCall
  rw [limited]
  exact ⟨(fun runs => by cases runs), passes⟩

theorem follows_call (limited : gateway.limits.maxToolCalls = some limit)
    {ctx : AgentContext} (own : ctx.runId = runId) (toolName : String)
    (args : Json) : (gateway.call ctx toolName args).Follows
      (budgeted runId limit) (fun _ _ => True) .fresh := by
  have routine := @routine_unexecuted runId limit gateway
  unfold ToolGateway.call
  rw [own]
  apply Program.Follows.after (routine.uses_open ctx toolName args) (.inl rfl)
  · intro phase request early
    apply Program.Follows.after (routine.uses_authorize request) early
    · intro phase _ early
      exact follows_check limited early follows_proceed
    · intro _ _ _
      trivial
  · intro _ _ _
    trivial

/-- The phase in which a task begins. -/
def Task.entry (runId : String) (task : Task) : BudgetPhase :=
  if task.context?.any fun ctx => decide (ctx.runId = runId) then .fresh
  else .outside

theorem follows_task {bridge : ExecutionEvidenceBridge}
    (limited : bridge.gateway.limits.maxToolCalls = some limit) (task : Task) :
    (task.body bridge).Follows (budgeted runId limit) (fun _ _ => True)
      (task.entry runId) := by
  unfold Task.entry
  split
  case isTrue own =>
      cases task with
      | callTool ctx toolName args =>
          exact follows_call limited (of_decide_eq_true own) toolName args
      | runOnce args => cases own
      | recordToolExecution turn execution => cases own
      | operation call => cases own
  case isFalse other =>
      apply follows_quiet
      apply (Task.uses_body task).mono
      intro cmd about
      rw [Command.executesFor, Option.any_eq_false]
      intro invocation runs
      rw [← Bool.not_eq_true]
      intro own
      apply other
      rw [about invocation runs]
      exact own

end Calls

/-! ### Whole runs -/

/-- A configuration with what has been executed and recorded for the run. -/
structure Metered (bridge : ExecutionEvidenceBridge) where
  config : (runtimeSystem bridge).Config
  phases : Tid → BudgetPhase
  executed : Nat
  /-- Executions whose usage their own call has recorded. -/
  recorded : Nat

namespace Metered

variable {bridge : ExecutionEvidenceBridge}

def opened (bridge : ExecutionEvidenceBridge) : Metered bridge :=
  ⟨Machine.initial World.opened, fun _ => .outside, 0, 0⟩

variable (runId : String) (limit : Int)

/-- The step runs a function of a tool for the run. -/
def executes (config : (runtimeSystem bridge).Config) :
    (runtimeSystem bridge).Label → Bool
  | .act thread _ => (nextInvocation config thread).any fun invocation =>
      decide (invocation.ctx.runId = runId)
  | _ => false

def records (before after : Tid → BudgetPhase) :
    (runtimeSystem bridge).Label → Bool
  | .act thread _ =>
      decide (before thread = .executed) && decide (after thread = .recorded)
  | _ => false

def step (label : (runtimeSystem bridge).Label) (metered : Metered bridge) :
    Metered bridge :=
  let phases := @Machine.watch (runtimeSystem bridge) (budgeted runId limit)
    (Task.entry runId) label metered.config metered.phases
  { config := Machine.step label metered.config
    phases := phases
    executed := metered.executed +
      if executes runId metered.config label then 1 else 0
    recorded := metered.recorded +
      if records metered.phases phases label then 1 else 0 }

/-- A call of the run that is past its check may yet execute its tool. -/
def Waiting (metered : Metered bridge) (thread : Tid) : Prop :=
  metered.phases thread = .cleared ∧
    (metered.config.threads thread).any (fun running => !running.ended) = true

instance decidableWaiting (metered : Metered bridge) (thread : Tid) :
    Decidable (metered.Waiting thread) :=
  inferInstanceAs (Decidable (_ ∧ _))

/-- The operation of the store that a thread is about to perform. -/
def nextCall (metered : Metered bridge) (thread : Tid) : Option Call :=
  match metered.config.threads thread with
  | some ⟨_, .call (.store call) _⟩ => some call
  | _ => none

/-- A call of the run makes its check. -/
def Checks (metered : Metered bridge) (thread : Tid) : Prop :=
  metered.phases thread = .fresh ∧
    (metered.nextCall thread).any
      (fun | .costSummary asked => asked = runId | _ => false) = true

instance decidableChecks (metered : Metered bridge) (thread : Tid) :
    Decidable (Checks runId metered thread) :=
  inferInstanceAs (Decidable (_ ∧ _))

/-- Where a call of the run makes its check, every execution for the run is
recorded, and no other call is past its check; and no usage is taken back. -/
def Orderly (metered : Metered bridge) : (runtimeSystem bridge).Label → Prop
  | .act thread _ =>
      (Checks runId metered thread → metered.executed = metered.recorded ∧
        ∀ other, ¬ metered.Waiting other) ∧
      (metered.nextCall thread).all (fun call => 0 ≤ call.usage runId) = true
  | _ => True

/-- The bound, and why the executions that are still to come keep to it. -/
structure Within (runId : String) (most : Nat) (metered : Metered bridge) :
    Prop where
  obeys : @Machine.Obeys (runtimeSystem bridge) (budgeted runId most)
    (fun _ _ _ => True) metered.config metered.phases
  usage : (metered.recorded : Rat) ≤
    metered.config.world.store.toolCalls runId
  bound : metered.executed ≤ most
  room : ∀ thread, metered.Waiting thread → metered.executed < most
  alone : ∀ first second, metered.Waiting first → metered.Waiting second →
    first = second

theorem within_opened (runId : String) (most : Nat) :
    Within runId most (opened bridge) where
  obeys := Machine.obeys_initial _ _
  usage := le_of_eq Nat.cast_zero
  bound := Nat.zero_le _
  room := fun _ waiting => by cases waiting.1
  alone := fun _ _ waiting => by cases waiting.1

/-- Whole units below an amount are below its integral part. -/
theorem used_lt {count most : Nat} {summary : CostSummary}
    (recorded : (count : Rat) ≤ summary.toolCalls)
    (within : summary.used < most) : count < most := by
  have nonneg : 0 ≤ summary.toolCalls := le_trans (Nat.cast_nonneg _) recorded
  have floor : summary.used = ⌊summary.toolCalls⌋ := by
    rw [CostSummary.used, Rat.floor_def',
      Int.tdiv_eq_ediv_of_nonneg (Rat.num_nonneg.mpr nonneg)]
  have below : (count : Int) ≤ ⌊summary.toolCalls⌋ :=
    Int.le_floor.mpr (by exact_mod_cast recorded)
  omega

section Step

variable {runId}

variable {metered : Metered bridge} {thread : Tid} {input : Surroundings}
  {task : Task} {cmd : Command}
  {next : cmd.Reply → RuntimeM task.Result} {reply : cmd.Reply} {after : World}

private theorem usage_of_act {most : Nat}
    (acted : World.act thread cmd input metered.config.world =
      some (reply, after))
    (kept : ∀ args, cmd = .store (.recordCost args) →
      0 ≤ (Call.recordCost args).usage runId) :
    metered.config.world.store.toolCalls runId +
        (if metered.phases thread = .executed ∧ BudgetPhase.next runId most
            (metered.phases thread) cmd reply = .recorded then 1 else 0) ≤
      after.store.toolCalls runId := by
  by_cases records : metered.phases thread = .executed ∧
      BudgetPhase.next runId most (metered.phases thread) cmd reply = .recorded
  · obtain ⟨args, costId, same, counts⟩ := recorded_of_next records.1 records.2
    cases same
    rcases World.act_store acted with ⟨_, _, failed, _⟩ | ⟨_, _, performed⟩
    · cases failed
    · rw [if_pos records, performed]
      simp only [CostArgs.countsCall, Bool.and_eq_true, decide_eq_true_eq]
        at counts
      have usage : (Call.recordCost args).usage runId = 1 := by
        simp [Call.usage, counts]
      exact le_of_eq (by rw [← usage]; exact (toolCalls_of_call _ _).symm)
  · rw [if_neg records, add_zero]
    rcases World.store_of_act acted with same | ⟨call, stores, _, performed⟩
    · rw [same]
    · rw [performed, toolCalls_of_call]
      refine le_add_of_nonneg_right ?_
      cases call with
      | recordCost args => exact kept args stores
      | _ => exact le_refl 0

/-- What the thread that acts makes of the meter. -/
structure Acted (runId : String) (most : Nat) (metered : Metered bridge)
    (thread : Tid) (task : Task) (cmd : Command)
    (next : cmd.Reply → RuntimeM task.Result) (reply : cmd.Reply)
    (world : World) (later : Metered bridge) : Prop where
  found : metered.config.threads thread = some ⟨task, .call cmd next⟩
  config : later.config = ⟨world, Function.update metered.config.threads thread
    (some ⟨task, next reply⟩)⟩
  phases : later.phases = Function.update metered.phases thread
    (BudgetPhase.next runId most (metered.phases thread) cmd reply)
  executed : later.executed =
    metered.executed + if cmd.executesFor runId then 1 else 0
  recorded : later.recorded = metered.recorded +
    if metered.phases thread = .executed ∧ BudgetPhase.next runId most
      (metered.phases thread) cmd reply = .recorded then 1 else 0

variable {most : Nat} {later : Metered bridge}

theorem Acted.waiting_other
    (step : Acted runId most metered thread task cmd next reply after later)
    {other : Tid} (different : other ≠ thread) :
    later.Waiting other ↔ metered.Waiting other := by
  simp only [Waiting, step.config, step.phases,
    Function.update_of_ne different]

theorem Acted.waiting_own
    (step : Acted runId most metered thread task cmd next reply after later)
    (waits : later.Waiting thread) :
    (metered.Waiting thread ∧ cmd.executesFor runId = false) ∨
      metered.phases thread = .fresh ∧ ∃ summary,
        (⟨cmd, reply⟩ : Sigma Command.Reply) =
          ⟨.store (.costSummary runId), .ok summary⟩ ∧
        summary.used < most := by
  have cleared := waits.1
  rw [step.phases, Function.update_self] at cleared
  rcases cleared_of_next cleared with ⟨before, silent⟩ | checked
  · refine .inl ⟨⟨before, ?_⟩, silent⟩
    rw [step.found]
    rfl
  · exact .inr checked

theorem Within.acted (within : Within runId most metered)
    (step : Acted runId most metered thread task cmd next reply after later)
    (acted : World.act thread cmd input metered.config.world =
      some (reply, after))
    (orderly : Orderly runId metered (.act thread input))
    (obeys : @Machine.Obeys (runtimeSystem bridge) (budgeted runId most)
      (fun _ _ _ => True) later.config later.phases) :
    Within runId most later := by
  have waiting : cmd.executesFor runId = true → metered.Waiting thread := by
    intro runs
    refine ⟨(within.obeys thread _ step.found).1 runs, ?_⟩
    rw [step.found]
    rfl
  have checked (summary : CostSummary)
      (same : (⟨cmd, reply⟩ : Sigma Command.Reply) =
        ⟨.store (.costSummary runId), .ok summary⟩)
      (fresh : metered.phases thread = .fresh) (used : summary.used < most) :
      metered.executed < most ∧ ∀ other, ¬ metered.Waiting other := by
    cases same
    obtain ⟨settled, nobody⟩ := orderly.1 ⟨fresh, by
      rw [nextCall, step.found]
      simp⟩
    refine ⟨?_, nobody⟩
    rcases World.act_store acted with ⟨_, _, failed, _⟩ | ⟨_, answered, _⟩
    · cases failed
    · obtain ⟨told, performed, calls⟩ :=
        @performed_costSummary metered.config.world.store input.moment runId
      rw [performed] at answered
      cases answered
      apply used_lt _ used
      rw [calls, settled]
      exact within.usage
  have unexecuted : cmd.executesFor runId = false →
      later.executed = metered.executed := by
    intro silent
    rw [step.executed, silent]
    simp
  constructor
  · exact obeys
  · have grown := @usage_of_act _ runId metered thread input cmd reply after
      most acted (by
        rintro args rfl
        have kept := orderly.2
        rw [nextCall, step.found] at kept
        simpa using kept)
    have before := within.usage
    simp only [step.config, step.recorded]
    push_cast
    split at grown
    case isTrue records =>
        rw [if_pos records]
        linarith
    case isFalse records =>
        rw [if_neg records]
        linarith
  · cases runs : cmd.executesFor runId with
    | true =>
        have room := within.room thread (waiting runs)
        rw [step.executed, runs]
        simp only [if_true]
        omega
    | false =>
        rw [unexecuted runs]
        exact within.bound
  · intro other waits
    by_cases own : other = thread
    · subst own
      rcases step.waiting_own waits with ⟨before, silent⟩ |
        ⟨fresh, summary, same, used⟩
      · rw [unexecuted silent]
        exact within.room other before
      · have silent : cmd.executesFor runId = false := by
          cases same
          rfl
        rw [unexecuted silent]
        exact (checked summary same fresh used).1
    · have before := (step.waiting_other own).mp waits
      cases runs : cmd.executesFor runId with
      | true => exact absurd (within.alone other thread before (waiting runs)) own
      | false =>
          rw [unexecuted runs]
          exact within.room other before
  · have only (other : Tid) (own : other ≠ thread)
        (waits : later.Waiting other) (mine : later.Waiting thread) :
        False := by
      have before := (step.waiting_other own).mp waits
      rcases step.waiting_own mine with ⟨mineBefore, _⟩ |
        ⟨fresh, summary, same, used⟩
      · exact own (within.alone other thread before mineBefore)
      · exact (checked summary same fresh used).2 other before
    intro first second waitsFirst waitsSecond
    by_cases ownFirst : first = thread
    · by_cases ownSecond : second = thread
      · rw [ownFirst, ownSecond]
      · subst ownFirst
        exact (only second ownSecond waitsSecond waitsFirst).elim
    · by_cases ownSecond : second = thread
      · subst ownSecond
        exact (only first ownFirst waitsFirst waitsSecond).elim
      · exact within.alone first second
          ((step.waiting_other ownFirst).mp waitsFirst)
          ((step.waiting_other ownSecond).mp waitsSecond)

theorem Within.unacted (within : Within runId most metered)
    (obeys : @Machine.Obeys (runtimeSystem bridge) (budgeted runId most)
      (fun _ _ _ => True) later.config later.phases)
    (store : later.config.world.store = metered.config.world.store)
    (executed : later.executed = metered.executed)
    (recorded : later.recorded = metered.recorded)
    (waits : ∀ other, later.Waiting other → metered.Waiting other) :
    Within runId most later where
  obeys := obeys
  usage := by
    rw [recorded, store]
    exact within.usage
  bound := by
    rw [executed]
    exact within.bound
  room := by
    intro other waiting
    rw [executed]
    exact within.room other (waits other waiting)
  alone := fun first second waitsFirst waitsSecond =>
    within.alone first second (waits first waitsFirst)
      (waits second waitsSecond)

private theorem answered (thread : Tid) (cmd : Command) (input : Surroundings)
    (world : World) :
    ∃ reply after, World.act thread cmd input world = some (reply, after) := by
  cases cmd with
  | store call | putJson digest value | getJson ref =>
      simp only [World.act]
      cases input.fault <;> exact ⟨_, _, rfl⟩
  | _ => exact ⟨_, _, rfl⟩

private theorem acted_of_step {label : (runtimeSystem bridge).Label}
    (isAct : label = .act thread input)
    (found : metered.config.threads thread = some ⟨task, .call cmd next⟩)
    (acted : World.act thread cmd input metered.config.world =
      some (reply, after)) :
    Acted runId most metered thread task cmd next reply after
      (Metered.step runId most label metered) := by
  subst isAct
  have phases : (Metered.step runId most (.act thread input) metered).phases =
      Function.update metered.phases thread
        (BudgetPhase.next runId most (metered.phases thread) cmd reply) := by
    simp only [Metered.step, Machine.watch, found, acted]
  constructor
  · exact found
  · exact Machine.step_act found acted
  · exact phases
  · have runs : executes runId metered.config (.act thread input) =
        cmd.executesFor runId := by
      simp only [executes, nextInvocation, found]
      rfl
    simp only [Metered.step, runs]
  · have counts : @records bridge metered.phases
        (Metered.step runId most (.act thread input) metered).phases
        (.act thread input) = (decide (metered.phases thread = .executed) &&
          decide (BudgetPhase.next runId most (metered.phases thread) cmd reply
            = .recorded)) := by
      rw [phases]
      simp only [records, Function.update_self]
    have same : (Metered.step runId most (.act thread input) metered).recorded =
        metered.recorded + if @records bridge metered.phases
          (Metered.step runId most (.act thread input) metered).phases
          (.act thread input) then 1 else 0 := rfl
    rw [same, counts]
    simp

private theorem entry_uncleared (call : Task) :
    call.entry runId ≠ .cleared := by
  unfold Task.entry
  split <;> simp

private theorem step_idle {label : (runtimeSystem bridge).Label}
    (config : Machine.step label metered.config = metered.config)
    (phases : @Machine.watch (runtimeSystem bridge) (budgeted runId most)
      (Task.entry runId) label metered.config metered.phases = metered.phases)
    (silent : executes runId metered.config label = false) :
    Metered.step runId most label metered = metered := by
  have unrecorded : @records bridge metered.phases metered.phases label =
      false := by
    cases label with
    | act thread input =>
        cases phase : metered.phases thread <;> simp [records, phase]
    | spawn thread call | crash thread => rfl
  simp only [Metered.step, config, phases, silent, unrecorded]
  rfl

theorem Within.step
    (limited : bridge.gateway.limits.maxToolCalls = some (most : Int))
    (within : Within runId most metered)
    (label : (runtimeSystem bridge).Label)
    (orderly : Orderly runId metered label) :
    Within runId most (Metered.step runId most label metered) := by
  have obeys : @Machine.Obeys (runtimeSystem bridge) (budgeted runId most)
      (fun _ _ _ => True) (Metered.step runId most label metered).config
      (Metered.step runId most label metered).phases :=
    within.obeys.step (follows_task limited) label
  cases label with
  | spawn thread call =>
      cases free : (metered.config.threads thread).all Machine.Thread.ended with
      | false =>
          rw [step_idle (by simp [Machine.step, free])
            (by simp [Machine.watch, free]) rfl]
          exact within
      | true =>
          apply within.unacted obeys
          · simp only [Metered.step, Machine.step, free, if_true]
            rfl
          · rfl
          · rfl
          · rintro other ⟨cleared, running⟩
            simp only [Metered.step, Machine.step, Machine.watch, free, if_true]
              at cleared running
            by_cases own : other = thread
            · subst own
              rw [Function.update_self] at cleared
              exact absurd cleared (entry_uncleared call)
            · rw [Function.update_of_ne own] at cleared running
              exact ⟨cleared, running⟩
  | act thread input =>
      cases found : metered.config.threads thread with
      | none =>
          rw [step_idle (by simp [Machine.step, found])
            (by simp [Machine.watch, found])
            (by simp [executes, nextInvocation, found])]
          exact within
      | some running =>
          obtain ⟨task, rest⟩ := running
          cases rest with
          | done value | raise error =>
              rw [step_idle (by simp [Machine.step, found, Machine.resume])
                (by simp [Machine.watch, found])
                (by simp [executes, nextInvocation, found])]
              exact within
          | call cmd next =>
              obtain ⟨reply, after, acted⟩ :=
                answered thread cmd input metered.config.world
              exact within.acted (acted_of_step rfl found acted) acted orderly
                obeys
  | crash thread =>
      apply within.unacted obeys rfl rfl rfl
      intro other waits
      have own : other ≠ thread := by
        rintro rfl
        have running := waits.2
        simp [Metered.step, Machine.step] at running
      simpa [Metered.step, Machine.step, Machine.watch, Waiting,
        Function.update_of_ne own] using waits

end Step

/-- In a run that is orderly at every step, the tools of a run are executed no
more often than its budget allows. -/
theorem executed_le_limit (bridge : ExecutionEvidenceBridge) (most : Nat)
    (limited : bridge.gateway.limits.maxToolCalls = some (most : Int))
    (runId : String) (labels : List (runtimeSystem bridge).Label)
    (orderly : Each (Metered.step runId most) (Orderly runId) (opened bridge)
      labels) :
    Always (Metered.step runId most) (fun metered => metered.executed ≤ most)
      (opened bridge) labels := by
  have within : Always (Metered.step runId most) (Within runId most)
      (opened bridge) labels :=
    orderly.always
      (fun _ label within keeps => Within.step limited within label keeps)
      (within_opened runId most)
  exact within.mono fun _ within => within.bound

/-! ### Runs of a few threads -/

/-- The step is orderly as far as these threads go. -/
def OrderlyAmong (threads : List Tid) (metered : Metered bridge)
    (label : (runtimeSystem bridge).Label) : Prop :=
  label.thread ∈ threads ∧ match label with
    | .act thread _ =>
        (Checks runId metered thread → metered.executed = metered.recorded ∧
          ∀ other ∈ threads, ¬ metered.Waiting other) ∧
        (metered.nextCall thread).all (fun call => 0 ≤ call.usage runId) = true
    | _ => True

instance decidableOrderlyAmong (threads : List Tid)
    (metered : Metered bridge) : (label : (runtimeSystem bridge).Label) →
      Decidable (OrderlyAmong runId threads metered label)
  | .act _ _ => inferInstanceAs (Decidable (_ ∧ (_ → _) ∧ _))
  | .spawn _ _ => inferInstanceAs (Decidable (_ ∧ True))
  | .crash _ => inferInstanceAs (Decidable (_ ∧ True))

private theorem orderly_from {threads : List Tid} {limit : Int}
    {labels : List (runtimeSystem bridge).Label} {metered : Metered bridge}
    (outside : ∀ other, other ∉ threads → metered.phases other = .outside)
    (among : Each (Metered.step runId limit) (OrderlyAmong runId threads)
      metered labels) :
    Each (Metered.step runId limit) (Orderly runId) metered labels := by
  induction labels generalizing metered with
  | nil => trivial
  | cons label rest ih =>
      obtain ⟨⟨named, here⟩, later⟩ := among
      refine ⟨?_, ih (fun other absent => ?_) later⟩
      · cases label with
        | act thread input =>
            obtain ⟨checks, kept⟩ := here
            refine ⟨fun check => ⟨(checks check).1, fun other waits => ?_⟩,
              kept⟩
            by_cases among : other ∈ threads
            · exact (checks check).2 other among waits
            · have cleared := waits.1
              rw [outside other among] at cleared
              cases cleared
        | spawn thread call | crash thread => trivial
      · have different : other ≠ label.thread := by
          rintro rfl
          exact absent named
        exact (Machine.watch_other _ _ different).trans (outside other absent)

/-- No other thread is ever past a check. -/
theorem orderly_of_among {threads : List Tid} {limit : Int}
    {labels : List (runtimeSystem bridge).Label}
    (among : Each (Metered.step runId limit) (OrderlyAmong runId threads)
      (opened bridge) labels) :
    Each (Metered.step runId limit) (Orderly runId) (opened bridge) labels :=
  orderly_from runId (fun _ _ => rfl) among

/-! ### A budget of one call -/

/-- A tool without effects, of which one call may be made. -/
def lookupGateway : ToolGateway :=
  { chargeGateway with
    registry := fun name =>
      if name = "lookup" then some { name := "lookup" } else none
    limits := { maxToolCalls := some 1 } }

def lookupBridge : ExecutionEvidenceBridge := { gateway := lookupGateway }

/-- The step of a run is claimed. -/
def registered : List (runtimeSystem lookupBridge).Label :=
  [.spawn 0 (.operation (.createRun none none none)),
    .act 0 (Surroundings.tick 0 id),
    .spawn 0 (.operation (.claimStep "worker" none 60)),
    .act 0 (Surroundings.tick 1 id)]

/-- A call of the tool from beginning to end. -/
def looking (thread : Tid) (tool : Except PyError Json) :
    List (runtimeSystem lookupBridge).Label :=
  .spawn thread (.callTool chargeContext "lookup" .null) ::
    List.replicate 10 (.act thread { Surroundings.tick 2 id with tool := tool })

/-- The second call is refused. -/
theorem looked_once : Always (Metered.step "run" 1)
    (fun metered => metered.executed ≤ 1) (opened lookupBridge)
    (registered ++ looking 1 (.ok .null) ++ looking 2 (.ok .null)) :=
  executed_le_limit lookupBridge 1 rfl "run" _
    (@orderly_of_among _ "run" [0, 1, 2] _ _ (by decide +kernel))

/-- A call that fails leaves no record of its execution, and the next one
passes its check. -/
theorem looked_twice : lookupGateway.limits.maxToolCalls = some 1 ∧
    (runFrom (Metered.step "run" 1) (opened lookupBridge)
      (registered ++ looking 1 (.error chargeTimeout) ++
        looking 2 (.error chargeTimeout))).executed = 2 := by
  decide +kernel

end Metered

end AgentLedger
