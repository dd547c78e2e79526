import AgentLedger.Adapters.ModelEvidence
import AgentLedger.Foundation.Emission

namespace AgentLedger

open Foundation

/-! The three ways in which a step records what it asked of a model, and what
they leave in the events of a run. -/

/-- `float(value)`, and what a column of texts makes of a value. -/
structure PyValues where
  float : Json → Except PyError Rat
  column : Json → Except PyError String

namespace ModelEvidence

variable (values : PyValues) (gateway : ToolGateway) (limits : ModelLimits)

/-- `value.get(key, default)` of a value that need not be a dict. -/
def getIn (value : Json) (key : String) (default : Json) :
    Except PyError Json :=
  match value with
  | .obj fields => .ok ((Fields.get? fields key).getD default)
  | _ => .error
      { cls := .exception
        typeName := "AttributeError"
        message := "object has no attribute 'get'" }

/-- The answer that `call_model` makes up. -/
def mockResponse (request : Fields) (usageHint : Json) : Fields :=
  [("content", (Fields.get? request "mock_response").getD (.str "")),
    ("provider", (Fields.get? request "provider").getD (.str "mock")),
    ("usage", if truthy usageHint then usageHint
      else .obj [("total_tokens", .int 0)])]

def usageHint (request : Fields) : Json :=
  (Fields.get? request "mock_usage").getD (.obj [])

/-- A cost of `call_model`, under the name of the provider. -/
def callCost (ctx : AgentContext) (response : Fields) (amount : Rat)
    (unit : String) : RuntimeM Unit := do
  let name ← orRaise (values.column (getOrNone response "provider"))
  let _ ← store (.recordCost
    { runId := ctx.runId
      sessionId := some ctx.sessionId
      stepId := some ctx.stepId
      category := "model"
      name := name
      amount := amount
      unit := unit
      metadata := [("usage", getOrNone response "usage")] })
  return ()

/-- What `call_model` records after its events. -/
def callCosts (ctx : AgentContext) (request response : Fields) :
    RuntimeM Unit := do
  let given ← orRaise
    (getIn (getOrNone response "usage") "total_tokens" (.int 0))
  let totalTokens ← orRaise (countOf given)
  if totalTokens ≠ 0 then
    callCost values ctx response totalTokens "token"
  let cost := (Fields.get? request "mock_cost_usd").getD (.float 0)
  let costUsd ← orRaise (if truthy cost then values.float cost else .ok 0)
  if costUsd ≠ 0 then
    callCost values ctx response costUsd "usd"
    afterCostRecorded gateway limits ctx.runId

/-- `call_model`. -/
def callModel (ctx : AgentContext) (request : Fields) : RuntimeM Fields := do
  let hint := usageHint request
  let given ← orRaise (getIn hint "total_tokens"
    ((Fields.get? request "estimated_tokens").getD (.int 0)))
  let estimatedTokens ← orRaise (countOf given)
  beforeModelCall gateway limits ctx.runId estimatedTokens
  let asked ← gateway.putJson (.obj request)
  report "model_call_requested" (ctx.evidence "model_call_requested"
    [("request_ref", .str asked.2)] asked)
  let response := mockResponse request hint
  let answered ← gateway.putJson (.obj response)
  report "model_call_completed" (ctx.evidence "model_call_completed"
    [("response_ref", .str answered.2)] answered)
  callCosts values gateway limits ctx request response
  return response

end ModelEvidence

/-! ### Operations -/

/-- A call of `call_model`, `record_model_call` or `record_model_failure`. -/
inductive ModelOperation
  | called (request : Fields)
  | recorded (record : ModelCallRecord)
  | failed (record : ModelFailureRecord)

/-- Where `put_json` keeps a value, with its hash. -/
def ToolGateway.kept (gateway : ToolGateway) (value : Json) :
    String × String :=
  (blobHash (gateway.sha256 value), blobRef (gateway.sha256 value))

namespace ModelOperation

variable (values : PyValues) (gateway : ToolGateway) (limits : ModelLimits)

def program (ctx : AgentContext) : ModelOperation → RuntimeM Unit
  | .called request => do
      let _ ← ModelEvidence.callModel values gateway limits ctx request
      return ()
  | .recorded record => do
      let _ ← ModelEvidence.recordModelCall gateway limits ctx record
      return ()
  | .failed record => do
      let _ ← ModelEvidence.recordModelFailure gateway limits ctx record
      return ()

/-- What the operation archives of its request, if it does. -/
def request : ModelOperation → Option Json
  | .called request => some (.obj request)
  | .recorded record => some (.obj (requestPayload record.provider record.model
      record.request record.metadata))
  | .failed record => record.request.map fun request =>
      .obj (requestPayload record.provider record.model request
        record.metadata)

/-- What it archives of its outcome. -/
def outcome : ModelOperation → Fields
  | .called request => ModelEvidence.mockResponse request
      (ModelEvidence.usageHint request)
  | .recorded record =>
      let asked := gateway.kept (.obj (requestPayload record.provider
        record.model record.request record.metadata))
      record.responsePayload (some asked.2) (some asked.1)
  | .failed record =>
      let asked := record.request.map fun request =>
        gateway.kept (.obj (requestPayload record.provider record.model
          request record.metadata))
      record.failurePayload (asked.map Prod.snd) (asked.map Prod.fst)

/-- The events of an operation, when nothing stops it. -/
def events (ctx : AgentContext) : ModelOperation → List EventArgs
  | .called request =>
      let operation := ModelOperation.called request
      let asked := gateway.kept (.obj request)
      let answered := gateway.kept (.obj (operation.outcome gateway))
      [ctx.evidence "model_call_requested" [("request_ref", .str asked.2)]
          asked,
        ctx.evidence "model_call_completed" [("response_ref", .str answered.2)]
          answered]
  | .recorded record =>
      let operation := ModelOperation.recorded record
      let asked := gateway.kept (.obj (requestPayload record.provider
        record.model record.request record.metadata))
      let answered := gateway.kept (.obj (operation.outcome gateway))
      [ctx.evidence "model_call_requested"
          [("model", .str record.model), ("provider", .str record.provider),
            ("request_ref", .str asked.2)] asked,
        ctx.evidence "model_call_completed"
          [("model", .str record.model), ("provider", .str record.provider),
            ("request_ref", .str asked.2), ("response_ref", .str answered.2),
            ("total_usd", .float record.totalUsd),
            ("usage", .obj record.usage)] answered]
  | .failed record =>
      let operation := ModelOperation.failed record
      let outcome := operation.outcome gateway
      [ctx.evidence "model_call_failed" outcome (gateway.kept (.obj outcome))]

end ModelOperation

/-- The events that the answers to commands show to be appended. -/
def appended : (cmd : Command) → cmd.Reply → List EventArgs
  | .store (.appendEvent name args), .ok _ =>
      [{ args with type := .reported name }]
  | _, _ => []

/-! ### What the operations append -/

section Appended

variable {values : PyValues} {gateway : ToolGateway} {limits : ModelLimits}
  {α : Type} {sent : List EventArgs}

theorem emits_putJson {value : Json} {next : String × String → RuntimeM α}
    (emits : (gateway.putJson value >>= next).Emits appended sent) :
    sent = [] ∨ (next (gateway.kept value)).Emits appended sent := by
  rcases emits with none | ⟨reply, rest, emits, rfl⟩
  · exact .inl none
  · cases reply with
    | ok done => exact .inr emits
    | error error => exact .inl emits

theorem emits_putRequest {record : ModelFailureRecord}
    {next : Option (String × String) → RuntimeM α}
    (emits : (ModelEvidence.putRequest gateway record >>= next).Emits appended
      sent) :
    sent = [] ∨ (next (record.request.map fun request =>
      gateway.kept (.obj (requestPayload record.provider record.model request
        record.metadata)))).Emits appended sent := by
  unfold ModelEvidence.putRequest at emits
  cases given : record.request with
  | none =>
      rw [given] at emits
      exact .inr emits
  | some request =>
      simp only [given, Program.bind_assoc] at emits
      exact emits_putJson emits

theorem emits_report {name : String} {args : EventArgs}
    {next : Unit → RuntimeM α}
    (emits : (report name args >>= next).Emits appended sent) :
    sent = [] ∨ ∃ rest, (next ()).Emits appended rest ∧
      sent = { args with type := .reported name } :: rest := by
  rcases emits with none | ⟨reply, rest, emits, rfl⟩
  · exact .inl none
  · cases reply with
    | ok seq => exact .inr ⟨rest, emits, rfl⟩
    | error error => exact .inl emits

theorem silent_store {call : Call}
    (other : ∀ name args, call ≠ .appendEvent name args) :
    (store call).Uses (Program.Silent appended) := by
  apply uses_store
  intro reply
  cases call with
  | appendEvent name args => exact absurd rfl (other name args)
  | _ => cases reply <;> rfl

theorem silent_afterCostRecorded (runId : String) :
    (ModelEvidence.afterCostRecorded gateway limits runId).Uses
      (Program.Silent appended) := by
  unfold ModelEvidence.afterCostRecorded
  split
  · trivial
  · apply (silent_store (by simp)).bind
    intro summary
    split <;> trivial

theorem silent_beforeModelCall (runId : String) (estimatedTokens : Int) :
    (ModelEvidence.beforeModelCall gateway limits runId estimatedTokens).Uses
      (Program.Silent appended) := by
  apply Program.Uses.bind
  · unfold ModelEvidence.tokensLeft
    split
    · trivial
    · apply (silent_store (by simp)).bind
      intro summary
      simp only
      split <;> trivial
  · intro _
    exact silent_afterCostRecorded runId

theorem silent_recordModelCost (ctx : AgentContext) (provider model : String)
    (usage : Fields) (totalUsd : Rat) :
    (ModelEvidence.recordModelCost gateway limits ctx provider model usage
      totalUsd).Uses (Program.Silent appended) := by
  have charged : (do
      if totalUsd ≠ 0 then
        let _ ← store (.recordCost
          (ctx.modelCost provider model usage totalUsd "usd"))
        ModelEvidence.afterCostRecorded gateway limits ctx.runId :
        RuntimeM Unit).Uses (Program.Silent appended) := by
    split
    · apply (silent_store (by simp)).bind
      intro _
      exact silent_afterCostRecorded _
    · trivial
  unfold ModelEvidence.recordModelCost
  apply (uses_orRaise _).bind
  intro totalTokens
  simp only
  split
  · apply (silent_store (by simp)).bind
    intro _
    exact charged
  · exact charged

theorem silent_callCost (ctx : AgentContext) (response : Fields) (amount : Rat)
    (unit : String) :
    (ModelEvidence.callCost values ctx response amount unit).Uses
      (Program.Silent appended) := by
  apply (uses_orRaise _).bind
  intro name
  apply (silent_store (by simp)).bind
  intro _
  trivial

theorem silent_callCosts (ctx : AgentContext) (request response : Fields) :
    (ModelEvidence.callCosts values gateway limits ctx request response).Uses
      (Program.Silent appended) := by
  have charged : (do
      let cost := (Fields.get? request "mock_cost_usd").getD (.float 0)
      let costUsd ← orRaise (if truthy cost then values.float cost else .ok 0)
      if costUsd ≠ 0 then
        ModelEvidence.callCost values ctx response costUsd "usd"
        ModelEvidence.afterCostRecorded gateway limits ctx.runId :
        RuntimeM Unit).Uses (Program.Silent appended) := by
    apply (uses_orRaise _).bind
    intro costUsd
    split
    · apply (silent_callCost ctx response _ _).bind
      intro _
      exact silent_afterCostRecorded _
    · trivial
  unfold ModelEvidence.callCosts
  apply (uses_orRaise _).bind
  intro given
  apply (uses_orRaise _).bind
  intro totalTokens
  simp only
  split
  · apply (silent_callCost ctx response _ _).bind
    intro _
    exact charged
  · exact charged

theorem prefix_of_nil {events : List EventArgs} (none : sent = []) :
    sent <+: events := none ▸ List.nil_prefix

/-- What follows the last event appends nothing. -/
theorem prefix_of_last {name : String} {args : EventArgs}
    {after : RuntimeM Unit} {next : Unit → RuntimeM α}
    (silent : after.Uses (Program.Silent appended))
    (ends : ∀ value, (next value).Uses (Program.Silent appended))
    (emits : (report name args >>= fun _ => after >>= next).Emits appended
      sent) :
    sent <+: [{ args with type := .reported name }] := by
  rcases emits_report emits with none | ⟨rest, later, rfl⟩
  · exact prefix_of_nil none
  · rcases later.after_silent silent with rfl | ⟨value, last⟩
    · exact List.prefix_rfl
    · obtain rfl := (ends value).emits_nil last
      exact List.prefix_rfl

/-- An operation appends its events in order, and at most these. -/
theorem ModelOperation.prefix_events (values : PyValues) {ctx : AgentContext}
    (operation : ModelOperation)
    (emits : (operation.program values gateway limits ctx).Emits appended
      sent) :
    sent <+: operation.events gateway ctx := by
  cases operation with
  | called request =>
      simp only [program, ModelEvidence.callModel, Program.bind_assoc] at emits
      rcases emits.after_silent (uses_orRaise _) with none | ⟨given, emits⟩
      · exact prefix_of_nil none
      rcases emits.after_silent (uses_orRaise _) with none | ⟨tokens, emits⟩
      · exact prefix_of_nil none
      rcases emits.after_silent (silent_beforeModelCall _ _) with
        none | ⟨_, emits⟩
      · exact prefix_of_nil none
      rcases emits_putJson emits with none | emits
      · exact prefix_of_nil none
      rcases emits_report emits with none | ⟨rest, later, rfl⟩
      · exact prefix_of_nil none
      refine (List.prefix_cons_inj _).mpr ?_
      rcases emits_putJson later with none | last
      · exact prefix_of_nil none
      refine prefix_of_last ?_ ?_ last
      · exact silent_callCosts ctx request _
      · intro _
        trivial
  | recorded record =>
      simp only [program, ModelEvidence.recordModelCall, Program.bind_assoc]
        at emits
      rcases emits.after_silent (uses_orRaise _) with none | ⟨tokens, emits⟩
      · exact prefix_of_nil none
      rcases emits.after_silent (silent_beforeModelCall _ _) with
        none | ⟨_, emits⟩
      · exact prefix_of_nil none
      rcases emits_putJson emits with none | emits
      · exact prefix_of_nil none
      rcases emits_report emits with none | ⟨rest, later, rfl⟩
      · exact prefix_of_nil none
      refine (List.prefix_cons_inj _).mpr ?_
      rcases emits_putJson later with none | last
      · exact prefix_of_nil none
      refine prefix_of_last ?_ ?_ last
      · exact silent_recordModelCost ctx _ _ _ _
      · intro _
        trivial
  | failed record =>
      simp only [program, ModelEvidence.recordModelFailure, Program.bind_assoc]
        at emits
      rcases emits_putRequest emits with none | emits
      · exact prefix_of_nil none
      rcases emits_putJson emits with none | last
      · exact prefix_of_nil none
      refine prefix_of_last ?_ ?_ last
      · exact silent_recordModelCost ctx _ _ _ _
      · intro _
        trivial

end Appended

end AgentLedger
