import AgentLedger.Policy
import AgentLedger.Python
import AgentLedger.Runtime.Commands

namespace AgentLedger

open Foundation

/-! `ToolGateway.call`. -/

structure BudgetLimits where
  maxToolCalls : Option Int := none

/-- What a gateway is set up with.  The policy, the schema validation, the
sandbox's `policy_for`, the digest and `str` are those of their own modules. -/
structure ToolGateway where
  registry : String → Option ToolSpec
  evaluate : PolicyRequest → PolicyDecision
  policyVersion : String := "local-v1"
  limits : BudgetLimits := {}
  validateToolSchema : Fields → Json → String → Except PyError Unit
  policyFor : SandboxPolicy → SandboxPolicy := id
  sha256 : Json → String
  /-- Python's `str` of a value that is no string. -/
  str : Json → String

/-- `sha256_json`, of the hex digest. -/
def blobHash (digest : String) : String := "sha256:" ++ digest

def blobRef (digest : String) : String :=
  "blob://sha256/" ++ digest ++ ".json"

namespace ToolGateway

variable (gateway : ToolGateway)

/-- `put_json`: the digest of the value and the reference under which it is
kept. -/
def putJson (value : Json) : RuntimeM (String × String) := do
  let digest := gateway.sha256 value
  let () ← .call (.putJson digest value) orRaise
  return (blobHash digest, blobRef digest)

def getTool (name : String) : RuntimeM ToolSpec :=
  match gateway.registry name with
  | some spec => .done spec
  | none => .raise (.keyError ("tool not registered: " ++ name))

/-- `except ToolValidationError as exc: raise ToolValidationError(...)`. -/
def validate (schema : Fields) (value : Json) (path text : String) :
    RuntimeM Unit :=
  match gateway.validateToolSchema schema value path with
  | .ok _ => .done ()
  | .error error =>
      if error.cls = .toolValidationError then
        .raise { error with message := text ++ ": " ++ error.message }
      else .raise error

def validateInput (spec : ToolSpec) (args : Json) : RuntimeM Unit :=
  gateway.validate spec.inputSchema args "args"
    ("invalid input for tool " ++ spec.name)

def validateOutput (spec : ToolSpec) (result : Json) : RuntimeM Unit :=
  gateway.validate spec.outputSchema result "result"
    ("invalid output for tool " ++ spec.name)

/-- The value as an f-string shows it. -/
def text : Json → String
  | .str value => value
  | value => gateway.str value

/-- `args.get("_logical_operation") if isinstance(args, dict) else None`, where
it is not falsy. -/
def logicalOperation (args : Json) : Option String :=
  (given args.fields "_logical_operation").map gateway.text

def idempotencyKey (ctx : AgentContext) (spec : ToolSpec) (args : Json)
    (requestHash : String) : String :=
  ctx.runId ++ ":" ++ ctx.stepId ++ ":" ++ spec.name ++ ":" ++
    (gateway.logicalOperation args).getD requestHash

def approvalKey (ctx : AgentContext) (spec : ToolSpec)
    (requestHash : String) : String :=
  ctx.runId ++ ":" ++ ctx.stepId ++ ":" ++ spec.name ++ ":" ++ requestHash

/-- `CausalToken(...).to_json()`. -/
def causalToken (ctx : AgentContext) : Json :=
  .obj
    [("attempt", .int ctx.attempt), ("event_seq", .null),
      ("lease_token", .str ctx.leaseToken), ("run_id", .str ctx.runId),
      ("state_version", .int ctx.stateVersion), ("step_id", .str ctx.stepId)]

/-- An event of the step that is being worked on. -/
def event (ctx : AgentContext) (name : String) (payload : Fields) :
    EventArgs :=
  { runId := ctx.runId
    sessionId := some ctx.sessionId
    stepId := some ctx.stepId
    type := .reported name
    payload := .obj payload
    agentRole := some ctx.agentRole
    stateVersion := some ctx.stateVersion
    causalToken := some (causalToken ctx) }

/-- The same with the archived payload it refers to. -/
def eventOf (ctx : AgentContext) (name : String) (payload : Fields)
    (payloadHash payloadRef : Option String) : EventArgs :=
  { event ctx name payload with
    payloadHash := payloadHash
    payloadRef := payloadRef }

def cost (ctx : AgentContext) (category name : String) (metadata : Fields) :
    CostArgs :=
  { runId := ctx.runId
    sessionId := some ctx.sessionId
    stepId := some ctx.stepId
    category := category
    name := name
    amount := 1
    unit := "call"
    metadata := metadata }

def policyRequest (ctx : AgentContext) (spec : ToolSpec) (toolName : String)
    (approvalStatus : Option ApprovalStatus) : PolicyRequest :=
  { stage := "tool"
    subject :=
      [("kind", .str "agent"), ("role", .str ctx.agentRole),
        ("worker_id", .null)]
    action :=
      [("approval_required", .bool spec.approvalRequired),
        ("idempotency_required", .bool spec.idempotencyRequired),
        ("kind", .str "tool"), ("name", .str toolName),
        ("risk_level", .str spec.riskLevel),
        ("sandbox_required", .bool spec.sandboxRequired),
        ("side_effect", .str spec.sideEffect)]
    resource :=
      [("kind", .str "tool"), ("name", .str toolName),
        ("version", .str spec.version)]
    context :=
      [("attempt", .int ctx.attempt), ("run_id", .str ctx.runId),
        ("session_id", .str ctx.sessionId),
        ("state_version", .int ctx.stateVersion),
        ("step_id", .str ctx.stepId)]
    signals :=
      [("approval_required", .bool spec.approvalRequired),
        ("idempotency_required", .bool spec.idempotencyRequired),
        ("managed_side_effect", .bool spec.managedSideEffect),
        ("sandbox_required", .bool spec.sandboxRequired)]
    runtimeState :=
      [("approval_status",
          Json.optional (approvalStatus.map ApprovalStatus.text)),
        ("execution_mode", .str ctx.executionMode.text),
        ("source_run_id", Json.optional ctx.sourceRunId)]
    policyVersion := gateway.policyVersion }

def recordPermission (ctx : AgentContext) (toolName : String)
    (decision : PolicyDecision) : RuntimeM Unit :=
  report "tool_permission_decided" (event ctx "tool_permission_decided"
    [("allowed", .bool decision.allowed), ("decision", decision.toDict),
      ("reason", .str decision.primaryReason), ("tool", .str toolName)])

/-- `BudgetController.before_tool_call`. -/
def beforeToolCall (runId : String) : RuntimeM Unit :=
  match gateway.limits.maxToolCalls with
  | none => .done ()
  | some limit => do
      let summary ← store (.costSummary runId)
      let used := summary.toolCalls.num.tdiv summary.toolCalls.den
      if used ≥ limit then
        .raise
          { cls := .budgetExceeded
            typeName := "BudgetExceeded"
            message := "tool call budget exceeded: " ++ toString used ++ "/" ++
              toString limit }
      else return ()

/-- What a tool call is about, from the beginning of `call` on. -/
structure Request where
  ctx : AgentContext
  spec : ToolSpec
  toolName : String
  args : Json
  toolCallId : String
  requestHash : String
  requestRef : String
  key : String

namespace Request

def approval (request : Request) : String :=
  approvalKey request.ctx request.spec request.requestHash

def invocation (request : Request) : Invocation :=
  ⟨request.ctx, request.spec, request.key, request.args⟩

def ledgerArgs (request : Request) : LedgerArgs :=
  { runId := request.ctx.runId
    sessionId := some request.ctx.sessionId
    stepId := request.ctx.stepId
    toolName := request.toolName
    toolVersion := request.spec.version
    toolCallId := request.toolCallId
    idempotencyKey := request.key
    causalToken := causalToken request.ctx
    requestHash := request.requestHash
    requestRef := request.requestRef }

end Request

/-- The policy decides; without its permission the call ends here. -/
def authorize (request : Request) : RuntimeM Unit := do
  let ctx := request.ctx
  let approved ← store (.approvalForKey request.approval)
  let decision := gateway.evaluate (gateway.policyRequest ctx request.spec
    request.toolName (approved.map ApprovalRow.status))
  match decision.effect with
  | .deny => do
      recordPermission ctx request.toolName decision
      .raise
        { cls := .permissionDenied
          typeName := "PermissionDenied"
          message := decision.primaryReason }
  | .requireApproval => do
      let approval ← store (.requestApproval
        { approvalKey := request.approval
          runId := ctx.runId
          sessionId := some ctx.sessionId
          stepId := ctx.stepId
          toolName := request.toolName
          riskLevel := request.spec.riskLevel
          reason := some decision.primaryReason
          requestHash := request.requestHash
          requestRef := request.requestRef
          requestedBy := some ctx.agentRole })
      recordPermission ctx request.toolName decision
      report "tool_approval_required" (event ctx "tool_approval_required"
        [("approval_id", .str approval.approvalId),
          ("approval_key", .str request.approval),
          ("decision", decision.toDict),
          ("risk_level", .str request.spec.riskLevel),
          ("tool", .str request.toolName)])
      .raise
        { cls := .approvalRequired
          typeName := "ApprovalRequired"
          message := "approval required for tool " ++ request.toolName
          approvalId := some approval.approvalId }
  | .allow => recordPermission ctx request.toolName decision

def blocked (ctx : AgentContext) (payload : Fields) (message : String) :
    RuntimeM Json := do
  report "tool_call_blocked" (event ctx "tool_call_blocked" payload)
  .raise
    { cls := .permissionDenied
      typeName := "PermissionDenied"
      message := message }

/-- `get_json` of a column that may be NULL. -/
def getJsonOf : Option String → RuntimeM Json
  | some ref => getJson ref
  | none => .raise
      { cls := .exception
        typeName := "AttributeError"
        message := "'NoneType' object has no attribute 'startswith'" }

def shadowResponse (request : Request) : RuntimeM Json := do
  let ctx := request.ctx
  let spec := request.spec
  match ctx.sourceRunId.filter fun source => !source.isEmpty with
  | none =>
      blocked ctx
        [("reason", .str "shadow mode has no source_run_id"),
          ("tool", .str spec.name)]
        "shadow mode blocks side effects without source_run_id"
  | some source => do
      match ← store (.findSucceededLedgerResponse source spec.name
          (gateway.logicalOperation request.args) request.requestHash) with
      | none =>
          blocked ctx
            [("reason",
                .str "no archived side-effect response in source run"),
              ("source_run_id", .str source), ("tool", .str spec.name)]
            "shadow mode blocks unmanaged side effect"
      | some existing => do
          let response ← getJsonOf existing.responseRef
          report "tool_call_completed" (eventOf ctx "tool_call_completed"
            [("shadow_replayed_from_run", .str source),
              ("source_ledger_id", .str existing.ledgerId),
              ("tool", .str spec.name)]
            existing.responseHash existing.responseRef)
          return response

def sandboxPolicy (ctx : AgentContext) (spec : ToolSpec) :
    Except PyError SandboxPolicy :=
  let raw := spec.sandboxPolicy
  let text (key default : String) : String :=
    match Fields.get? raw key with
    | some (.str value) => value
    | _ => default
  let timeout :=
    match Fields.get? raw "timeout_seconds" with
    | some value => RetryPolicy.toInt value
    | none => .ok 30
  timeout.map fun timeoutSeconds =>
    { toolName := spec.name
      runId := ctx.runId
      stepId := ctx.stepId
      executor := match spec.sandboxExecutor with
        | some name =>
            if name.isEmpty then text "executor" "default" else name
        | none => text "executor" "default"
      network := text "network" "deny"
      filesystem := text "filesystem" "read-only"
      timeoutSeconds := timeoutSeconds
      resourceLimits := ((Fields.get? raw "resource_limits").getD
        (.obj [])).fields
      extra := raw.filter fun field =>
        !(["executor", "network", "filesystem", "timeout_seconds",
          "resource_limits"].contains field.1) }

def executeTool (request : Request) : RuntimeM Json :=
  let ctx := request.ctx
  if !request.spec.sandboxRequired then invoke request.invocation
  else
    match sandboxPolicy ctx request.spec with
    | .error error => .raise error
    | .ok base => do
        let policy := gateway.policyFor base
        report "sandbox_started" { event ctx "sandbox_started" [] with
          payload := policy.toDict }
        let result ← runSandboxed request.invocation policy
        report "sandbox_completed" { event ctx "sandbox_completed" [] with
          payload := result.toDict }
        if !result.ok then
          .raise (.runtimeError (result.error.getD "sandboxed tool failed"))
        else return result.output

/-- `result.get("external_id") if isinstance(result, dict) else None`, as the
column takes it. -/
def externalId (result : Json) : Except PyError (Option String) :=
  match Fields.get? result.fields "external_id" with
  | none | some .null => .ok none
  | some (.arr _) | some (.obj _) => .error
      { cls := .exception
        typeName := "InterfaceError"
        message := "Error binding parameter: type is not supported" }
  | some value => .ok (some (gateway.text value))

/-- What follows the execution of the tool. -/
def conclude (request : Request) (result : Json) : RuntimeM Json := do
  let ctx := request.ctx
  gateway.validateOutput request.spec result
  let (responseHash, responseRef) ← gateway.putJson result
  if request.spec.managedSideEffect then
    let external ← orRaise (gateway.externalId result)
    store (.updateLedger
      { idempotencyKey := request.key
        status := .succeeded
        externalId := external
        responseHash := some responseHash
        responseRef := some responseRef })
  report "tool_call_completed" (eventOf ctx "tool_call_completed"
    [("idempotency_key", .str request.key), ("tool", .str request.toolName)]
    (some responseHash) (some responseRef))
  let _ ← store (.recordCost (cost ctx "tool" request.toolName
    [("sandbox_executor", Json.optional request.spec.sandboxExecutor),
      ("sandboxed", .bool request.spec.sandboxRequired),
      ("side_effect", .str request.spec.sideEffect)]))
  return result

/-- The body of the `try`. -/
def perform (request : Request) : RuntimeM Json := do
  let result ← gateway.executeTool request
  gateway.conclude request result

/-- `except Exception as exc`. -/
def onFailure (request : Request) (error : PyError) : RuntimeM Json := do
  if request.spec.managedSideEffect then
    store (.updateLedger
      { idempotencyKey := request.key
        status := .pendingVerification
        errorType := some error.typeName })
  report "tool_call_failed" (event request.ctx "tool_call_failed"
    [("error", .str error.repr), ("tool", .str request.toolName)])
  .raise error

def attempt (request : Request) : RuntimeM Json :=
  (gateway.perform request).tryCatch (onFailure request)

def replayed (request : Request) (existing : LedgerRow) : RuntimeM Json := do
  let response ← getJsonOf existing.responseRef
  report "tool_call_completed" (eventOf request.ctx "tool_call_completed"
    [("idempotency_key", .str request.key), ("replayed_from_ledger", .bool true),
      ("tool", .str request.toolName)]
    existing.responseHash existing.responseRef)
  let _ ← store (.recordCost (cost request.ctx "tool" request.toolName
    [("replayed_from_ledger", .bool true)]))
  return response

/-- The row is taken over: nobody else is seen to be at it. -/
def takeOver (request : Request) : RuntimeM Json := do
  store (.updateLedger { idempotencyKey := request.key, status := .running })
  gateway.attempt request

/-- A managed side effect, by the row that holds its key. -/
def callManaged (request : Request) : RuntimeM Json := do
  match ← store (.reserveLedger request.ledgerArgs) with
  | none => gateway.takeOver request
  | some existing =>
      match existing.status with
      | .succeeded => replayed request existing
      | .pendingVerification =>
          .raise (.runtimeError "tool side effect pending verification")
      | .reserved | .running =>
          .raise (.runtimeError "tool side effect already in progress")
      | .failedNoEffect | .compensated => gateway.takeOver request

/-- The first lines of `call`, up to the event it opens with. -/
def open_ (ctx : AgentContext) (toolName : String) (args : Json) :
    RuntimeM Request := do
  let spec ← gateway.getTool toolName
  gateway.validateInput spec args
  let payload : Fields := [("args", args), ("tool", .str toolName)]
  let (requestHash, requestRef) ← gateway.putJson (.obj payload)
  let toolCallId ← Runtime.newId "toolcall"
  report "tool_call_requested" (eventOf ctx "tool_call_requested" payload
    (some requestHash) (some requestRef))
  return {
    ctx := ctx
    spec := spec
    toolName := toolName
    args := args
    toolCallId := toolCallId
    requestHash := requestHash
    requestRef := requestRef
    key := gateway.idempotencyKey ctx spec args requestHash }

def proceed (request : Request) : RuntimeM Json := do
  let ctx := request.ctx
  if ctx.executionMode = .shadow ∧ request.spec.managedSideEffect then
    let response ← gateway.shadowResponse request
    let _ ← store (.recordCost (cost ctx "tool_shadow" request.toolName
      [("side_effect_blocked", .bool true),
        ("source_run_id", Json.optional ctx.sourceRunId)]))
    return response
  else if request.spec.managedSideEffect then gateway.callManaged request
  else gateway.attempt request

def call (ctx : AgentContext) (toolName : String) (args : Json) :
    RuntimeM Json := do
  let request ← gateway.open_ ctx toolName args
  gateway.authorize request
  gateway.beforeToolCall ctx.runId
  gateway.proceed request

/-! ### Which commands the parts of a call use -/

/-- The operations of a call, but for the updates of its row. -/
def aside : Call → Bool
  | .appendEvent _ _ => true
  | .approvalForKey _ => true
  | .requestApproval _ => true
  | .recordCost _ => true
  | .costSummary _ => true
  | .reserveLedger _ => true
  | .findSucceededLedgerResponse _ _ _ _ => true
  | _ => false

/-- What every part of a call may do is allowed. -/
structure Routine (allowed : Command → Prop) : Prop where
  store : ∀ call, aside call = true → allowed (.store call)
  put : ∀ value, allowed (.putJson (gateway.sha256 value) value)
  newId : ∀ kind, allowed (.newId kind)

namespace Routine

variable {gateway} {allowed : Command → Prop}
  (routine : gateway.Routine allowed)

include routine

theorem uses_store {call : Call} (isAside : aside call = true) :
    (AgentLedger.store call).Uses allowed :=
  AgentLedger.uses_store (routine.store call isAside)

theorem uses_report (name : String) (args : EventArgs) :
    (report name args).Uses allowed :=
  AgentLedger.uses_report (routine.store _ rfl)

theorem uses_putJson (value : Json) : (gateway.putJson value).Uses allowed :=
  Program.Uses.bind ⟨routine.put value, uses_orRaise⟩ fun _ => trivial

omit routine in
theorem uses_validate (schema : Fields) (value : Json) (path text : String) :
    (gateway.validate schema value path text).Uses allowed := by
  unfold validate
  split
  · trivial
  · split <;> trivial

theorem uses_open (ctx : AgentContext) (toolName : String) (args : Json) :
    (gateway.open_ ctx toolName args).Uses allowed := by
  have tool : (gateway.getTool toolName).Uses allowed := by
    unfold getTool
    split <;> trivial
  apply tool.bind
  intro spec
  apply (uses_validate _ _ _ _).bind
  intro _
  apply (routine.uses_putJson _).bind
  intro written
  refine Program.Uses.bind ⟨routine.newId _, fun _ => trivial⟩ fun _ => ?_
  exact (routine.uses_report _ _).bind fun _ => trivial

theorem uses_authorize (request : Request) :
    (gateway.authorize request).Uses allowed := by
  apply (routine.uses_store rfl).bind
  intro approved
  simp only
  split
  · exact (routine.uses_report _ _).bind fun _ => trivial
  · apply (routine.uses_store rfl).bind
    intro approval
    apply (routine.uses_report _ _).bind
    intro _
    exact (routine.uses_report _ _).bind fun _ => trivial
  · exact routine.uses_report _ _

theorem uses_beforeToolCall (runId : String) :
    (gateway.beforeToolCall runId).Uses allowed := by
  unfold beforeToolCall
  split
  · trivial
  · apply (routine.uses_store rfl).bind
    intro summary
    simp only
    split <;> trivial

theorem uses_blocked (ctx : AgentContext) (payload : Fields)
    (message : String) : (blocked ctx payload message).Uses allowed :=
  (routine.uses_report _ _).bind fun _ => trivial

theorem uses_executeTool {request : Request}
    (invokes : request.spec.sandboxRequired = false →
      allowed (.invoke request.invocation))
    (sandboxes : ∀ base, sandboxPolicy request.ctx request.spec = .ok base →
      allowed (.sandboxed request.invocation (gateway.policyFor base))) :
    (gateway.executeTool request).Uses allowed := by
  unfold executeTool
  simp only
  split
  · rename_i direct
    exact ⟨invokes (by simpa using direct), uses_orRaise⟩
  · split
    · trivial
    · rename_i base made
      apply (routine.uses_report _ _).bind
      intro _
      refine Program.Uses.bind ⟨sandboxes base made, uses_orRaise⟩
        fun result => ?_
      apply (routine.uses_report _ _).bind
      intro _
      split <;> trivial

section Attempt

variable {request : Request}
  (updates : request.spec.managedSideEffect = true →
    ∀ update, allowed (.store (.updateLedger update)))

include updates

theorem uses_conclude (result : Json) :
    (gateway.conclude request result).Uses allowed := by
  apply (uses_validate _ _ _ _).bind
  intro _
  apply (routine.uses_putJson _).bind
  intro written
  have reports : (do
      report "tool_call_completed" (eventOf request.ctx
        "tool_call_completed" [("idempotency_key", .str request.key),
          ("tool", .str request.toolName)] (some written.1)
          (some written.2))
      let _ ← AgentLedger.store (.recordCost (cost request.ctx "tool"
        request.toolName
        [("sandbox_executor", Json.optional request.spec.sandboxExecutor),
          ("sandboxed", .bool request.spec.sandboxRequired),
          ("side_effect", .str request.spec.sideEffect)]))
      return result : RuntimeM Json).Uses allowed := by
    apply (routine.uses_report _ _).bind
    intro _
    exact (routine.uses_store rfl).bind fun _ => trivial
  simp only
  split
  · rename_i managed
    apply (uses_orRaise _).bind
    intro external
    exact (AgentLedger.uses_store (updates managed _)).bind
      fun _ => reports
  · exact reports

theorem uses_onFailure (error : PyError) :
    (onFailure request error).Uses allowed := by
  unfold onFailure
  split
  · rename_i managed
    apply (AgentLedger.uses_store (updates managed _)).bind
    intro _
    exact (routine.uses_report _ _).bind fun _ => trivial
  · exact (routine.uses_report _ _).bind fun _ => trivial

theorem uses_attempt
    (executes : (gateway.executeTool request).Uses allowed) :
    (gateway.attempt request).Uses allowed := by
  apply Program.Uses.tryCatch
  · rw [perform]
    exact executes.bind (routine.uses_conclude updates)
  · exact routine.uses_onFailure updates

end Attempt

section Replay

variable (gets : ∀ ref, allowed (.getJson ref))

include gets

omit routine in
theorem uses_getJsonOf (ref : Option String) :
    (getJsonOf ref).Uses allowed := by
  cases ref with
  | none => trivial
  | some ref => exact ⟨gets ref, uses_orRaise⟩

theorem uses_replayed (request : Request) (existing : LedgerRow) :
    (replayed request existing).Uses allowed := by
  apply (uses_getJsonOf gets _).bind
  intro response
  apply (routine.uses_report _ _).bind
  intro _
  exact (routine.uses_store rfl).bind fun _ => trivial

theorem uses_shadowResponse (request : Request) :
    (gateway.shadowResponse request).Uses allowed := by
  unfold shadowResponse
  simp only
  split
  · exact routine.uses_blocked _ _ _
  · apply (routine.uses_store rfl).bind
    intro found
    cases found with
    | none => exact routine.uses_blocked _ _ _
    | some existing =>
        apply (uses_getJsonOf gets _).bind
        intro response
        exact (routine.uses_report _ _).bind fun _ => trivial

end Replay

/-- What a call does from its permission on, whatever its tool is. -/
theorem uses_proceed (gets : ∀ ref, allowed (.getJson ref))
    (updates : ∀ update, allowed (.store (.updateLedger update)))
    {request : Request}
    (executes : (gateway.executeTool request).Uses allowed) :
    (gateway.proceed request).Uses allowed := by
  have attempts := routine.uses_attempt (fun _ => updates) executes
  have takesOver : (gateway.takeOver request).Uses allowed :=
    (AgentLedger.uses_store (updates _)).bind fun _ => attempts
  unfold proceed
  simp only
  split
  · apply (routine.uses_shadowResponse gets request).bind
    intro response
    exact (routine.uses_store rfl).bind fun _ => trivial
  · split
    · apply (routine.uses_store rfl).bind
      intro found
      cases found with
      | none => exact takesOver
      | some existing =>
          simp only
          split
          · exact routine.uses_replayed gets request existing
          · trivial
          · trivial
          · trivial
          · exact takesOver
          · exact takesOver
    · exact attempts

end Routine

theorem yields_open (ctx : AgentContext) (toolName : String) (args : Json) :
    (gateway.open_ ctx toolName args).Yields fun request =>
      request.ctx = ctx := by
  unfold open_
  apply Program.Yields.bind
  intro spec
  apply Program.Yields.bind
  intro _
  apply Program.Yields.bind
  intro written
  apply Program.Yields.bind
  intro toolCallId
  apply Program.Yields.bind
  intro _
  rfl

theorem registered_open (ctx : AgentContext) (toolName : String)
    (args : Json) :
    (gateway.open_ ctx toolName args).Yields fun request =>
      gateway.registry toolName = some request.spec := by
  unfold open_ getTool
  cases found : gateway.registry toolName with
  | none => trivial
  | some spec =>
      rw [Program.bind_done]
      apply Program.Yields.bind
      intro _
      apply Program.Yields.bind
      intro written
      apply Program.Yields.bind
      intro toolCallId
      apply Program.Yields.bind
      intro _
      rfl

end ToolGateway

/-! ### A gateway to compute with

One tool with an external side effect, under the default policy. -/

def chargeTool : ToolSpec :=
  { name := "charge", sideEffect := "external" }

def chargeArgs : Json := .obj [("_logical_operation", .str "order-1")]

def chargeDecision : PolicyDecision :=
  let allowed := "default allow for low/medium risk in local runtime"
  let tier := "action tier inferred as L4"
  { effect := .allow
    actionTier := "L4"
    riskLevel := "low"
    controls := [{ kind := "audit", reason := "runtime decision must be recorded" }]
    reasons := [allowed, tier]
    findings :=
      [{ id := "default_allow_low_medium"
         severity := "info"
         source := "role_capability"
         message := allowed
         evidence :=
           [("allowed", .bool true), ("controls", .arr []),
             ("decision_effect", .str "allow"),
             ("matched_rule", .str "default_allow_low_medium"),
             ("risk_level", .str "low"), ("role", .str "Agent"),
             ("tool", .str "charge")] },
        { id := "action_tier_inferred"
          severity := "info"
          source := "action_boundary"
          message := tier
          evidence := [("action_tier", .str "L4")] }]
    subjectScope := some "Agent" }

/-- The digests are those of the request and of the result
`{"external_id": "charge-1"}`. -/
def chargeGateway : ToolGateway :=
  { registry := fun name => if name = "charge" then some chargeTool else none
    evaluate := fun _ => chargeDecision
    validateToolSchema := fun _ _ _ => .ok ()
    sha256 := fun value =>
      if value = .obj [("args", chargeArgs), ("tool", .str "charge")] then
        "9d42d0cdab6a92d75963ec95572d7540989c7f1dfe97a50882c639d34626e18f"
      else
        "915391113351f53e6805ba520fc94ad1f35e95e5f3ef6b75c774aa8fb2167403"
    str := fun _ => "" }

end AgentLedger
