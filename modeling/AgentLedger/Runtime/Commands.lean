import AgentLedger.Store.Calls

namespace AgentLedger

open Foundation

/-! What a worker does one step at a time: an operation of the store, a run of
the agent's body, an invocation of a tool's function, an access to the blobs. -/

inductive ExecutionMode
  | normal
  | shadow
  deriving DecidableEq, Repr

def ExecutionMode.text : ExecutionMode → String
  | .normal => "normal"
  | .shadow => "shadow"

/-- `AgentContext`, without the services it refers to. -/
structure AgentContext where
  runId : String
  sessionId : String
  stepId : String
  agentRole : String
  leaseToken : String
  attempt : Nat
  stateVersion : Int
  executionMode : ExecutionMode := .normal
  sourceRunId : Option String := none
  deriving DecidableEq

/-- `ToolSpec`, without its function. -/
structure ToolSpec where
  name : String
  version : String := "v1"
  inputSchema : Fields := []
  outputSchema : Fields := []
  sideEffect : String := "none"
  riskLevel : String := "low"
  idempotencyRequired : Bool := false
  approvalRequired : Bool := false
  sandboxRequired : Bool := false
  sandboxExecutor : Option String := none
  sandboxPolicy : Fields := []

/-- `spec.side_effect != "none" or spec.idempotency_required`. -/
def ToolSpec.managedSideEffect (spec : ToolSpec) : Bool :=
  decide (spec.sideEffect ≠ "none") || spec.idempotencyRequired

structure SandboxPolicy where
  toolName : String
  runId : String
  stepId : String
  executor : String := "default"
  isolationLevel : String := "none"
  network : String := "deny"
  filesystem : String := "read-only"
  timeoutSeconds : Int := 30
  envKeys : List String := []
  resourceLimits : Fields := []
  extra : Fields := []

def SandboxPolicy.toDict (policy : SandboxPolicy) : Json :=
  .obj
    [("env_keys", .arr (policy.envKeys.map Json.str)),
      ("executor", .str policy.executor), ("extra", .obj policy.extra),
      ("filesystem", .str policy.filesystem),
      ("isolation_level", .str policy.isolationLevel),
      ("network", .str policy.network),
      ("resource_limits", .obj policy.resourceLimits),
      ("run_id", .str policy.runId), ("step_id", .str policy.stepId),
      ("timeout_seconds", .int policy.timeoutSeconds),
      ("tool_name", .str policy.toolName)]

structure SandboxResult where
  ok : Bool
  output : Json := .null
  errorType : Option String := none
  error : Option String := none
  metadata : Fields := []

def SandboxResult.toDict (result : SandboxResult) : Json :=
  .obj
    [("error", Json.optional result.error),
      ("error_type", Json.optional result.errorType),
      ("metadata", .obj result.metadata), ("ok", .bool result.ok)]

/-- The tool's function is about to run: for whom, and under which key. -/
structure Invocation where
  ctx : AgentContext
  spec : ToolSpec
  idempotencyKey : String
  args : Json

inductive Command
  | store (call : Call)
  /-- `agent(ctx, state)`, awaited; the answer is `ctx.pending_patch`. -/
  | agent (ctx : AgentContext) (state : Json)
  /-- `spec.func(args)`, awaited. -/
  | invoke (invocation : Invocation)
  /-- `sandbox.run_tool(spec.func, args, policy)`. -/
  | sandboxed (invocation : Invocation) (policy : SandboxPolicy)
  /-- The value is kept under its digest. -/
  | putJson (digest : String) (value : Json)
  | getJson (ref : String)
  | newId (kind : String)

@[reducible] def Command.Reply : Command → Type
  | .store call => Except PyError call.Result
  | .agent _ _ => Except PyError Fields
  | .invoke _ => Except PyError Json
  | .sandboxed _ _ => Except PyError SandboxResult
  | .putJson _ _ => Except PyError Unit
  | .getJson _ => Except PyError Json
  | .newId _ => String

abbrev RuntimeM (α : Type) := Program Command Command.Reply PyError α

/-- An exception that the step raised goes on from here. -/
def orRaise {α : Type} : Except PyError α → RuntimeM α
  | .ok value => .done value
  | .error error => .raise error

def store (call : Call) : RuntimeM call.Result :=
  .call (.store call) orRaise

def runAgent (ctx : AgentContext) (state : Json) : RuntimeM Fields :=
  .call (.agent ctx state) orRaise

def invoke (invocation : Invocation) : RuntimeM Json :=
  .call (.invoke invocation) orRaise

def runSandboxed (invocation : Invocation) (policy : SandboxPolicy) :
    RuntimeM SandboxResult :=
  .call (.sandboxed invocation policy) orRaise

def getJson (ref : String) : RuntimeM Json :=
  .call (.getJson ref) orRaise

def Runtime.newId (kind : String) : RuntimeM String :=
  .call (.newId kind) .done

/-- `append_event` under a name of the caller's. -/
def report (name : String) (args : EventArgs) : RuntimeM Unit := do
  let _ ← store (.appendEvent name args)
  return ()

/-! ### Which commands a program uses -/

section Uses

variable {α : Type} {allowed : Command → Prop}

theorem uses_orRaise (result : Except PyError α) :
    (orRaise result).Uses allowed := by
  cases result <;> trivial

theorem uses_store {call : Call} (may : allowed (.store call)) :
    (store call).Uses allowed :=
  ⟨may, uses_orRaise⟩

theorem uses_report {name : String} {args : EventArgs}
    (may : allowed (.store (.appendEvent name args))) :
    (report name args).Uses allowed :=
  (uses_store may).bind fun _ => trivial

end Uses

end AgentLedger
