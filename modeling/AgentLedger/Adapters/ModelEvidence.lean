import AgentLedger.Tools.Bridge

namespace AgentLedger

open Foundation

/-! What `AgentContext` records of the model calls of another runtime, and of
the tool calls that its models propose. -/

/-- `BudgetLimits`, as far as model calls are held to them. -/
structure ModelLimits where
  maxModelTokens : Option Int := none
  maxTotalUsd : Option Rat := none

structure ModelCallRecord where
  provider : String
  model : String
  request : Fields := []
  response : Fields := []
  usage : Fields := []
  totalUsd : Rat := 0
  metadata : Fields := []

structure ModelFailureRecord where
  provider : String
  model : String
  errorType : String
  message : String
  retryable : Option Bool := none
  request : Option Fields := none
  usage : Fields := []
  totalUsd : Rat := 0
  metadata : Fields := []

structure ToolCallProposal where
  toolName : String
  arguments : Fields := []
  provider : Option String := none
  model : Option String := none
  modelCallRef : Option String := none
  confidence : Option Rat := none
  reason : Option String := none
  metadata : Fields := []

def modelEvidenceSchemaVersion : String := "agentledger.model.evidence.v1"

/-- `request_payload`, the same for a call and for a failure. -/
def requestPayload (provider model : String) (request metadata : Fields) :
    Fields :=
  [("metadata", .obj metadata), ("model", .str model),
    ("provider", .str provider), ("request", .obj request),
    ("schema_version", .str modelEvidenceSchemaVersion)]

def ModelCallRecord.responsePayload (record : ModelCallRecord)
    (requestRef requestHash : Option String) : Fields :=
  compact
    [("metadata", some (.obj record.metadata)),
      ("model", some (.str record.model)),
      ("provider", some (.str record.provider)),
      ("request_hash", requestHash.map Json.str),
      ("request_ref", requestRef.map Json.str),
      ("response", some (.obj record.response)),
      ("schema_version", some (.str modelEvidenceSchemaVersion)),
      ("total_usd", some (.float record.totalUsd)),
      ("usage", some (.obj record.usage))]

def ModelFailureRecord.failurePayload (record : ModelFailureRecord)
    (requestRef requestHash : Option String) : Fields :=
  compact
    [("error", some (.str record.message)),
      ("error_type", some (.str record.errorType)),
      ("metadata", some (.obj record.metadata)),
      ("model", some (.str record.model)),
      ("provider", some (.str record.provider)),
      ("request_hash", requestHash.map Json.str),
      ("request_ref", requestRef.map Json.str),
      ("retryable", record.retryable.map Json.bool),
      ("schema_version", some (.str modelEvidenceSchemaVersion)),
      ("total_usd", some (.float record.totalUsd)),
      ("usage", some (.obj record.usage))]

def ToolCallProposal.toPayload (proposal : ToolCallProposal) : Fields :=
  compact
    [("args", some (.obj proposal.arguments)),
      ("confidence", proposal.confidence.map Json.float),
      ("metadata", some (.obj proposal.metadata)),
      ("model", proposal.model.map Json.str),
      ("model_call_ref", proposal.modelCallRef.map Json.str),
      ("provider", proposal.provider.map Json.str),
      ("reason", proposal.reason.map Json.str),
      ("schema_version", some (.str modelEvidenceSchemaVersion)),
      ("tool", some (.str proposal.toolName))]

/-- `int(value or 0)`. -/
def countOf (value : Json) : Except PyError Int :=
  if truthy value then RetryPolicy.toInt value else .ok 0

/-- The value under the first of the keys that is there, or 0. -/
def firstOf (usage : Fields) (keys : List String) : Json :=
  (keys.findSome? (Fields.get? usage)).getD (.int 0)

def usageTotalTokens (usage : Fields) : Except PyError Int :=
  let total := ["total_tokens", "totalTokens", "tokens"].findSome? fun key =>
    (Fields.get? usage key).filter fun value => decide (value ≠ .null)
  match total with
  | some value => countOf value
  | none => do
      let input ← countOf
        (firstOf usage ["input_tokens", "prompt_tokens", "inputTokens"])
      let output ← countOf
        (firstOf usage ["output_tokens", "completion_tokens", "outputTokens"])
      return input + output

namespace AgentContext

/-- An event of the step, with the archived payload it refers to. -/
def evidence (ctx : AgentContext) (name : String) (payload : Fields)
    (written : String × String) : EventArgs :=
  { runId := ctx.runId
    sessionId := some ctx.sessionId
    stepId := some ctx.stepId
    type := .reported name
    payload := .obj payload
    agentRole := some ctx.agentRole
    stateVersion := some ctx.stateVersion
    payloadHash := some written.1
    payloadRef := some written.2 }

def modelCost (ctx : AgentContext) (provider model : String) (usage : Fields)
    (amount : Rat) (unit : String) : CostArgs :=
  { runId := ctx.runId
    sessionId := some ctx.sessionId
    stepId := some ctx.stepId
    category := "model"
    name := model
    amount := amount
    unit := unit
    metadata :=
      [("model", .str model), ("provider", .str provider),
        ("usage", .obj usage)] }

end AgentContext

/-- The operations that evidence is recorded by. -/
def Call.recording : Call → Bool
  | .appendEvent _ _ => true
  | .run _ => true
  | .recordCost _ => true
  | .costSummary _ => true
  | .createArtifact _ => true
  | _ => false

/-- What every record of evidence may do is allowed. -/
structure ToolGateway.Records (gateway : ToolGateway)
    (allowed : Command → Prop) : Prop where
  store : ∀ call, call.recording = true → allowed (.store call)
  put : ∀ value, allowed (.putJson (gateway.sha256 value) value)

namespace ToolGateway.Records

variable {gateway : ToolGateway} {allowed : Command → Prop}
  (records : gateway.Records allowed)

include records

theorem uses_store {call : Call} (recording : call.recording = true) :
    (AgentLedger.store call).Uses allowed :=
  AgentLedger.uses_store (records.store call recording)

theorem uses_report (name : String) (args : EventArgs) :
    (report name args).Uses allowed :=
  AgentLedger.uses_report (records.store _ rfl)

theorem uses_putJson (value : Json) : (gateway.putJson value).Uses allowed :=
  Program.Uses.bind ⟨records.put value, uses_orRaise⟩ fun _ => trivial

end ToolGateway.Records

namespace ModelEvidence

variable (gateway : ToolGateway) (limits : ModelLimits)

def budgetExceeded {α : Type} (message : String) : RuntimeM α :=
  .raise
    { cls := .budgetExceeded
      typeName := "BudgetExceeded"
      message := message }

/-- `BudgetController.after_cost_recorded`, and the end of
`before_model_call`. -/
def afterCostRecorded (runId : String) : RuntimeM Unit :=
  match limits.maxTotalUsd with
  | none => .done ()
  | some limit => do
      let summary ← store (.costSummary runId)
      if summary.totalUsd > limit then
        budgetExceeded ("cost budget exceeded: " ++
          gateway.str (.float summary.totalUsd) ++ "/" ++
          gateway.str (.float limit) ++ " USD")
      else return ()

/-- The first check of `BudgetController.before_model_call`. -/
def tokensLeft (runId : String) (estimatedTokens : Int) : RuntimeM Unit :=
  match limits.maxModelTokens with
  | none => .done ()
  | some limit => do
      let summary ← store (.costSummary runId)
      let used := summary.modelTokens.num.tdiv summary.modelTokens.den
      if used + max estimatedTokens 0 > limit then
        budgetExceeded ("model token budget exceeded: " ++ toString used ++
          "+" ++ toString estimatedTokens ++ "/" ++ toString limit)
      else return ()

def beforeModelCall (runId : String) (estimatedTokens : Int) :
    RuntimeM Unit := do
  tokensLeft limits runId estimatedTokens
  afterCostRecorded gateway limits runId

/-- `_record_model_cost`. -/
def recordModelCost (ctx : AgentContext) (provider model : String)
    (usage : Fields) (totalUsd : Rat) : RuntimeM Unit := do
  let totalTokens ← orRaise (usageTotalTokens usage)
  if totalTokens ≠ 0 then
    let _ ← store (.recordCost
      (ctx.modelCost provider model usage totalTokens "token"))
  if totalUsd ≠ 0 then
    let _ ← store (.recordCost
      (ctx.modelCost provider model usage totalUsd "usd"))
    afterCostRecorded gateway limits ctx.runId

/-- `record_model_call`; the answer is where request and response are kept. -/
def recordModelCall (ctx : AgentContext) (record : ModelCallRecord) :
    RuntimeM ((String × String) × String × String) := do
  let estimatedTokens ← orRaise (usageTotalTokens record.usage)
  beforeModelCall gateway limits ctx.runId estimatedTokens
  let request ← gateway.putJson (.obj (requestPayload record.provider
    record.model record.request record.metadata))
  report "model_call_requested" (ctx.evidence "model_call_requested"
    [("model", .str record.model), ("provider", .str record.provider),
      ("request_ref", .str request.2)] request)
  let response ← gateway.putJson
    (.obj (record.responsePayload (some request.2) (some request.1)))
  report "model_call_completed" (ctx.evidence "model_call_completed"
    [("model", .str record.model), ("provider", .str record.provider),
      ("request_ref", .str request.2), ("response_ref", .str response.2),
      ("total_usd", .float record.totalUsd), ("usage", .obj record.usage)]
    response)
  recordModelCost gateway limits ctx record.provider record.model record.usage
    record.totalUsd
  return (request, response)

/-- `put_json` of the request of a failed call, if it has one. -/
def putRequest (record : ModelFailureRecord) :
    RuntimeM (Option (String × String)) :=
  match record.request with
  | none => .done none
  | some request => do
      let written ← gateway.putJson (.obj (requestPayload record.provider
        record.model request record.metadata))
      return some written

def recordModelFailure (ctx : AgentContext) (record : ModelFailureRecord) :
    RuntimeM (Option (String × String) × String × String) := do
  let request ← putRequest gateway record
  let payload := record.failurePayload (request.map Prod.snd)
    (request.map Prod.fst)
  let failure ← gateway.putJson (.obj payload)
  report "model_call_failed" (ctx.evidence "model_call_failed" payload failure)
  recordModelCost gateway limits ctx record.provider record.model record.usage
    record.totalUsd
  return (request, failure)

/-- `record_tool_call_proposal`; the answer is the reference of the payload. -/
def recordToolCallProposal (ctx : AgentContext) (proposal : ToolCallProposal) :
    RuntimeM String := do
  let payload := proposal.toPayload
  let written ← gateway.putJson (.obj payload)
  report "tool_call_proposed"
    (ctx.evidence "tool_call_proposed" payload written)
  return written.2

/-! ### Which commands the records use -/

section Uses

variable {gateway limits} {allowed : Command → Prop}
  (records : gateway.Records allowed)

include records

theorem uses_afterCostRecorded (runId : String) :
    (afterCostRecorded gateway limits runId).Uses allowed := by
  unfold afterCostRecorded
  split
  · trivial
  · apply (records.uses_store rfl).bind
    intro summary
    split <;> trivial

theorem uses_tokensLeft (runId : String) (estimatedTokens : Int) :
    (tokensLeft limits runId estimatedTokens).Uses allowed := by
  unfold tokensLeft
  split
  · trivial
  · apply (records.uses_store rfl).bind
    intro summary
    simp only
    split <;> trivial

theorem uses_recordModelCost (ctx : AgentContext) (provider model : String)
    (usage : Fields) (totalUsd : Rat) :
    (recordModelCost gateway limits ctx provider model usage totalUsd).Uses
      allowed := by
  have charged : (do
      if totalUsd ≠ 0 then
        let _ ← store (.recordCost
          (ctx.modelCost provider model usage totalUsd "usd"))
        afterCostRecorded gateway limits ctx.runId :
        RuntimeM Unit).Uses allowed := by
    split
    · apply (records.uses_store rfl).bind
      intro _
      exact uses_afterCostRecorded records _
    · trivial
  unfold recordModelCost
  apply (uses_orRaise _).bind
  intro totalTokens
  simp only
  split
  · apply (records.uses_store rfl).bind
    intro _
    exact charged
  · exact charged

theorem uses_recordModelCall (ctx : AgentContext) (record : ModelCallRecord) :
    (recordModelCall gateway limits ctx record).Uses allowed := by
  apply (uses_orRaise _).bind
  intro estimatedTokens
  apply Program.Uses.bind
  · apply (uses_tokensLeft records _ _).bind
    intro _
    exact uses_afterCostRecorded records _
  · intro _
    apply (records.uses_putJson _).bind
    intro request
    apply (records.uses_report _ _).bind
    intro _
    apply (records.uses_putJson _).bind
    intro response
    apply (records.uses_report _ _).bind
    intro _
    apply (uses_recordModelCost records _ _ _ _ _).bind
    intro _
    trivial

theorem uses_recordModelFailure (ctx : AgentContext)
    (record : ModelFailureRecord) :
    (recordModelFailure gateway limits ctx record).Uses allowed := by
  have put : (putRequest gateway record).Uses allowed := by
    unfold putRequest
    split
    · trivial
    · apply (records.uses_putJson _).bind
      intro written
      trivial
  apply put.bind
  intro request
  apply (records.uses_putJson _).bind
  intro failure
  apply (records.uses_report _ _).bind
  intro _
  apply (uses_recordModelCost records _ _ _ _ _).bind
  intro _
  trivial

theorem uses_recordToolCallProposal (ctx : AgentContext)
    (proposal : ToolCallProposal) :
    (recordToolCallProposal gateway ctx proposal).Uses allowed := by
  apply (records.uses_putJson _).bind
  intro written
  apply (records.uses_report _ _).bind
  intro _
  trivial

end Uses

end ModelEvidence

end AgentLedger
