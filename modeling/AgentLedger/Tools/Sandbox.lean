import AgentLedger.Tools.Gateway

namespace AgentLedger

open Foundation

/-! `sandbox.py`: named executors, what the configuration says of a tool, and
the router between the two. -/

structure SandboxToolRule where
  required : Option Bool := none
  executor : Option String := none
  network : Option String := none
  filesystem : Option String := none
  timeoutSeconds : Option Int := none
  resourceLimits : Fields := []
  extra : Fields := []

/-- `executors` in the order of the dictionary. -/
structure SandboxConfig where
  defaultExecutor : String := "local"
  failClosed : Bool := true
  executors : List (String × Fields) := []
  tools : String → Option SandboxToolRule := fun _ => none

/-- An executor object: one that was handed in, or one the router has made. -/
inductive SandboxExecutor (Injected : Type)
  | injected (executor : Injected)
  | local_
  | disabled (name : String)
  | bubblewrap (name : String) (config : Fields)
  | docker (name : String) (config : Fields)
  | kubernetes (name : String) (config : Fields)
  | e2b (name : String) (config : Fields)
  | firecracker (name : String) (config : Fields)
  | remote (name : String) (config : Fields)

/-- The attribute, which an object that was handed in may lack. -/
def SandboxExecutor.isolationLevel {Injected : Type}
    (level : Injected → Option String) :
    SandboxExecutor Injected → Option String
  | .injected executor => level executor
  | .local_ => some "none"
  | .disabled _ => none
  | .bubblewrap _ _ => some "process"
  | .docker _ _ => some "container"
  | .kubernetes _ _ => some "pod"
  | .e2b _ _ => some "remote-vm"
  | .firecracker _ _ => some "microvm"
  | .remote _ _ => some "remote"

structure SandboxRouter (Injected : Type) where
  config : SandboxConfig
  executors : String → Option (SandboxExecutor Injected)
  /-- `isolation_level` of an object that was handed in. -/
  level : Injected → Option String

namespace SandboxRouter

variable {Injected : Type}

/-- `executors.setdefault(name, executor)`. -/
def setDefault (executors : String → Option (SandboxExecutor Injected))
    (name : String) (executor : SandboxExecutor Injected) :
    String → Option (SandboxExecutor Injected) :=
  Function.update executors name
    ((executors name).orElse fun _ => some executor)

/-- `str(raw.get("type", name)).lower()`; no number, list or dictionary is
shown as one of the names. -/
def kindOf (name : String) (raw : Fields) : String :=
  match Fields.get? raw "type" with
  | none => lower name
  | some (.str text) => lower text
  | some .null => "none"
  | some _ => ""

def configured (name : String) (raw : Fields) : SandboxExecutor Injected :=
  match kindOf name raw with
  | "local" => .local_
  | "none" | "disabled" => .disabled name
  | "bubblewrap" | "bwrap" => .bubblewrap name raw
  | "docker" => .docker name raw
  | "kubernetes" | "k8s" => .kubernetes name raw
  | "e2b" => .e2b name raw
  | "firecracker" => .firecracker name raw
  | _ => .remote name raw

/-- `SandboxRouter(config, executors)`. -/
def create (config : SandboxConfig) (injected : String → Option Injected)
    (level : Injected → Option String) : SandboxRouter Injected :=
  let given := fun name => (injected name).map SandboxExecutor.injected
  let local_ := setDefault given "local" .local_
  let none_ := setDefault local_ "none" (.disabled "none")
  let disabled := setDefault none_ "disabled" (.disabled "disabled")
  { config := config
    executors := config.executors.foldl
      (fun executors entry =>
        setDefault executors entry.1 (configured entry.1 entry.2)) disabled
    level := level }

variable (router : SandboxRouter Injected)

/-- `{**base, **overrides}`. -/
def merged (base overrides : Fields) : Fields :=
  overrides.foldl (fun fields field => Fields.set fields field.1 field.2) base

/-- The executor of the tool's rule, of the tool, or the default one. -/
def executorFor (toolName own : String) : String :=
  let executor := if own = "" ∨ own = "default" then
    router.config.defaultExecutor else own
  match (router.config.tools toolName).bind SandboxToolRule.executor with
  | some name => if name.isEmpty then executor else name
  | none => executor

/-- `base.with_overrides(...)` of what the rule says. -/
def ruled (base : SandboxPolicy) : SandboxPolicy :=
  match router.config.tools base.toolName with
  | none => base
  | some rule =>
      { base with
        network := rule.network.getD base.network
        filesystem := rule.filesystem.getD base.filesystem
        timeoutSeconds := rule.timeoutSeconds.getD base.timeoutSeconds
        resourceLimits := if rule.resourceLimits.isEmpty then
          base.resourceLimits else rule.resourceLimits
        extra := merged base.extra rule.extra }

def policyFor (base : SandboxPolicy) : SandboxPolicy :=
  let name := router.executorFor base.toolName base.executor
  match router.executors name with
  | some executor =>
      { router.ruled base with
        executor := name
        isolationLevel :=
          (executor.isolationLevel router.level).getD "unknown" }
  | none =>
      if router.config.failClosed then
        { router.ruled base with
          executor := name
          isolationLevel := "unavailable" }
      else
        { router.ruled base with
          executor := "local"
          isolationLevel := match router.executors "local" with
            | some executor =>
                (executor.isolationLevel router.level).getD "unknown"
            | none => "unavailable" }

end SandboxRouter

/-! ### The executors at work

What the gateway does, with `sandbox.run_tool` taken apart. -/

inductive RoutedCommand (Injected : Type)
  | direct (cmd : Command)
  /-- `executor.run_tool(func, args, policy)`. -/
  | runIn (executor : SandboxExecutor Injected) (invocation : Invocation)
      (policy : SandboxPolicy)

@[reducible] def RoutedCommand.Reply {Injected : Type} :
    RoutedCommand Injected → Type
  | .direct cmd => cmd.Reply
  | .runIn _ _ _ => Except PyError SandboxResult

abbrev RoutedM (Injected α : Type) :=
  Program (RoutedCommand Injected) RoutedCommand.Reply PyError α

namespace SandboxRouter

variable {Injected : Type} (router : SandboxRouter Injected)

def executorMissing (policy : SandboxPolicy) : SandboxResult :=
  { ok := false
    errorType := some "SandboxExecutorMissing"
    error := some ("sandbox executor '" ++ policy.executor ++
      "' is not configured")
    metadata :=
      [("executor", .str policy.executor), ("policy", policy.toDict)] }

def runTool (invocation : Invocation) (policy : SandboxPolicy) :
    RoutedM Injected (Except PyError SandboxResult) :=
  match router.executors policy.executor with
  | some executor => .call (.runIn executor invocation policy) .done
  | none =>
      if router.config.failClosed then .done (.ok (executorMissing policy))
      else
        match router.executors "local" with
        | some executor => .call (.runIn executor invocation policy) .done
        | none => .done (.error (.keyError "local"))

/-- The program on a gateway whose sandbox is the router. -/
def route {α : Type} : RuntimeM α → RoutedM Injected α
  | .done value => .done value
  | .raise error => .raise error
  | .call (.sandboxed invocation policy) next =>
      router.runTool invocation policy >>= fun result => route (next result)
  | .call cmd next => .call (.direct cmd) fun reply => route (next reply)

end SandboxRouter

/-! ### Containment -/

/-- The executor a tool names for itself. -/
def ToolSpec.executorName (spec : ToolSpec) : String :=
  let own := match Fields.get? spec.sandboxPolicy "executor" with
    | some (.str name) => name
    | _ => "default"
  match spec.sandboxExecutor with
  | some name => if name.isEmpty then own else name
  | none => own

/-- A rule of the configuration requires a sandbox for the tool. -/
def SandboxConfig.requires (config : SandboxConfig) (toolName : String) :
    Bool :=
  (config.tools toolName).any fun rule => decide (rule.required = some true)

/-- The tool's function runs in the executor that is registered under the name
its rule, itself or the default gives; directly only if neither the tool nor
its rule asks for a sandbox. -/
def RoutedCommand.Contained {Injected : Type}
    (router : SandboxRouter Injected) : RoutedCommand Injected → Prop
  | .runIn executor invocation _ =>
      router.executors (router.executorFor invocation.spec.name
        invocation.spec.executorName) = some executor
  | .direct (.invoke invocation) =>
      invocation.spec.sandboxRequired = false ∧
        router.config.requires invocation.spec.name = false
  | .direct (.sandboxed _ _) => False
  | .direct _ => True

/-- What the gateway contributes: a policy that the router has made. -/
def Command.Routed {Injected : Type} (router : SandboxRouter Injected) :
    Command → Prop
  | .sandboxed invocation policy => policy.executor =
      router.executorFor invocation.spec.name invocation.spec.executorName
  | .invoke invocation =>
      invocation.spec.sandboxRequired = false ∧
        router.config.requires invocation.spec.name = false
  | _ => True

theorem ToolGateway.sandboxPolicy_ok {ctx : AgentContext} {spec : ToolSpec}
    {base : SandboxPolicy}
    (made : ToolGateway.sandboxPolicy ctx spec = .ok base) :
    base.toolName = spec.name ∧ base.executor = spec.executorName := by
  unfold ToolGateway.sandboxPolicy at made
  extract_lets raw text timeout at made
  cases timed : timeout with
  | error problem =>
      rw [timed] at made
      cases made
  | ok seconds =>
      rw [timed] at made
      cases made
      exact ⟨rfl, rfl⟩

namespace SandboxRouter

variable {Injected : Type} {router : SandboxRouter Injected}

theorem policyFor_executor (closed : router.config.failClosed = true)
    (base : SandboxPolicy) :
    (router.policyFor base).executor =
      router.executorFor base.toolName base.executor := by
  unfold policyFor
  simp only [closed]
  split <;> rfl

theorem runTool_contained (closed : router.config.failClosed = true)
    {invocation : Invocation} {policy : SandboxPolicy}
    (routed : Command.Routed router (.sandboxed invocation policy)) :
    (router.runTool invocation policy).Uses
      (RoutedCommand.Contained router) := by
  unfold runTool
  split
  · rename_i executor registered
    rw [routed] at registered
    exact ⟨registered, fun _ => trivial⟩
  · rw [if_pos closed]
    trivial

/-- What the gateway does by policies of the router stays contained. -/
theorem route_contained (closed : router.config.failClosed = true) {α : Type}
    {program : RuntimeM α} (uses : program.Uses (Command.Routed router)) :
    (router.route program).Uses (RoutedCommand.Contained router) := by
  induction program with
  | done value => trivial
  | raise error => trivial
  | call cmd next ih =>
      have others := fun reply => ih reply (uses.2 reply)
      cases cmd with
      | sandboxed invocation policy =>
          exact (runTool_contained closed uses.1).bind others
      | invoke invocation => exact ⟨uses.1, others⟩
      | _ => exact ⟨trivial, others⟩

variable {gateway : ToolGateway}

theorem routine_routed : gateway.Routine (Command.Routed router) where
  store := fun _ _ => trivial
  put := fun _ => trivial
  newId := fun _ => trivial

open ToolGateway in
theorem executeTool_routed (closed : router.config.failClosed = true)
    (routes : gateway.policyFor = router.policyFor) {request : Request}
    (asks : router.config.requires request.spec.name = true →
      request.spec.sandboxRequired = true) :
    (gateway.executeTool request).Uses (Command.Routed router) := by
  apply routine_routed.uses_executeTool
  · intro direct
    refine ⟨direct, Bool.eq_false_iff.mpr fun required => ?_⟩
    rw [asks required] at direct
    cases direct
  · intro base made
    obtain ⟨toolName, own⟩ := sandboxPolicy_ok made
    change (gateway.policyFor base).executor = _
    rw [routes, policyFor_executor closed, toolName, own]
    rfl

open ToolGateway in
/-- The same of a whole call, where it holds of every registered tool. -/
theorem call_routed (closed : router.config.failClosed = true)
    (routes : gateway.policyFor = router.policyFor)
    (asks : ∀ name spec, gateway.registry name = some spec →
      router.config.requires spec.name = true → spec.sandboxRequired = true)
    (ctx : AgentContext) (toolName : String) (args : Json) :
    (gateway.call ctx toolName args).Uses (Command.Routed router) := by
  apply (routine_routed.uses_open ctx toolName args).bind_yields
    (gateway.registered_open ctx toolName args)
  intro request registered
  apply (routine_routed.uses_authorize request).bind
  intro _
  apply (routine_routed.uses_beforeToolCall ctx.runId).bind
  intro _
  apply routine_routed.uses_proceed
  · intro ref
    trivial
  · intro update
    trivial
  · exact executeTool_routed closed routes (asks _ _ registered)

end SandboxRouter

/-- The sandboxes are fail-closed, for a tool with or without one, exactly if
the tool asks for a sandbox wherever its rule requires it. -/
theorem sandbox_contained_iff {Injected : Type}
    (router : SandboxRouter Injected)
    (closed : router.config.failClosed = true) (gateway : ToolGateway)
    (routes : gateway.policyFor = router.policyFor)
    (request : ToolGateway.Request) :
    (router.route (gateway.executeTool request)).Uses
        (RoutedCommand.Contained router) ↔
      (router.config.requires request.spec.name = true →
        request.spec.sandboxRequired = true) := by
  constructor
  · intro contained required
    cases asked : request.spec.sandboxRequired with
    | true => rfl
    | false =>
        unfold ToolGateway.executeTool at contained
        simp only [asked] at contained
        have direct := contained.1.2
        rw [show request.invocation.spec = request.spec from rfl,
          required] at direct
        cases direct
  · intro asks
    exact SandboxRouter.route_contained closed
      (SandboxRouter.executeTool_routed closed routes asks)

/-! ### The configuration of `docs/RUNTIME_SPEC.md`

Its rule for `shell.exec`, and a tool of that name with or without
`sandbox_required`. -/

def shellConfig : SandboxConfig :=
  { executors := [("bubblewrap", [("type", .str "bubblewrap")])]
    tools := fun name =>
      if name = "shell.exec" then
        some { required := some true, executor := some "bubblewrap" }
      else none }

def shellRouter : SandboxRouter Empty :=
  .create shellConfig (fun _ => none) nofun

def shellGateway : ToolGateway :=
  { chargeGateway with policyFor := shellRouter.policyFor }

def shellRequest (sandboxRequired : Bool) : ToolGateway.Request :=
  { ctx :=
      { runId := "run"
        sessionId := "session"
        stepId := "step"
        agentRole := "Agent"
        leaseToken := "lease"
        attempt := 1
        stateVersion := 0 }
    spec := { name := "shell.exec", sandboxRequired := sandboxRequired }
    toolName := "shell.exec"
    args := .obj []
    toolCallId := "toolcall"
    requestHash := "hash"
    requestRef := "ref"
    key := "key" }

theorem shell_contained :
    (shellRouter.route (shellGateway.executeTool (shellRequest true))).Uses
      (RoutedCommand.Contained shellRouter) :=
  (sandbox_contained_iff shellRouter rfl shellGateway rfl
    (shellRequest true)).mpr fun _ => rfl

/-- `required: true` does not keep the function out of the worker. -/
theorem shell_direct :
    shellConfig.requires "shell.exec" = true ∧
      ¬ (shellRouter.route
          (shellGateway.executeTool (shellRequest false))).Uses
        (RoutedCommand.Contained shellRouter) := by
  refine ⟨by decide, fun contained => ?_⟩
  have direct : shellConfig.requires "shell.exec" = false := contained.1.2
  exact absurd direct (by decide)

end AgentLedger
