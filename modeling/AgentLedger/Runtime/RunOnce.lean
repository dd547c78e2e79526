import AgentLedger.Runtime.Commands

namespace AgentLedger

open Foundation

/-! `Runtime.run_once` and the classification of failures. -/

structure FailureClassification where
  errorType : String
  message : String
  retryable : Bool
  category : String
  deriving DecidableEq

def classifyException (error : PyError) : FailureClassification :=
  match error.cls with
  | .nonRetryableAgentError =>
      ⟨error.typeName, error.message, false, "non_retryable_agent_error"⟩
  | .retryableAgentError =>
      ⟨error.typeName, error.message, true, "retryable_agent_error"⟩
  | .timeoutError => ⟨error.typeName, error.message, true, "timeout"⟩
  | _ => ⟨error.typeName, error.message, false, "unhandled_exception"⟩

/-- The workers hand `run_id` on, which may be `None`. -/
structure RunOnceArgs where
  runId : Option String
  workerId : String := "worker-local"
  agentRole : String := "Agent"
  executionMode : ExecutionMode := .normal
  sourceRunId : Option String := none
  leaseSeconds : Int := 60

def RunOnceArgs.context (args : RunOnceArgs) (claim : StepClaim)
    (sessionId : String) (stateVersion : Int) : AgentContext :=
  { runId := claim.runId
    sessionId := sessionId
    stepId := claim.stepId
    agentRole := args.agentRole
    leaseToken := claim.leaseToken
    attempt := claim.attempt
    stateVersion := stateVersion
    executionMode := args.executionMode
    sourceRunId := args.sourceRunId }

def agentStarted (args : RunOnceArgs) (ctx : AgentContext) : EventArgs :=
  { runId := ctx.runId
    sessionId := some ctx.sessionId
    stepId := some ctx.stepId
    type := .reported "agent_started"
    payload := .obj
      [("agent_role", .str args.agentRole), ("attempt", .int ctx.attempt),
        ("execution_mode", .str args.executionMode.text),
        ("source_run_id", Json.optional args.sourceRunId)]
    agentRole := some args.agentRole
    stateVersion := some ctx.stateVersion }

/-- The body of the `try`. -/
def runBody (ctx : AgentContext) (state : Json) : RuntimeM Bool := do
  let pendingPatch ← runAgent ctx state
  let _ ← store (.commitStatePatch
    { runId := ctx.runId
      stepId := ctx.stepId
      leaseToken := ctx.leaseToken
      baseVersion := ctx.stateVersion
      patch := pendingPatch
      checkpointId := some ("ckpt:" ++ ctx.runId ++ ":" ++ ctx.stepId ++ ":" ++
        toString ctx.attempt) })
  return true

/-- The `except` clauses, in order. -/
def onException (ctx : AgentContext) (error : PyError) : RuntimeM Bool :=
  match error.cls with
  | .approvalRequired => do
      let _ ← store (.markWaitingHuman ctx.runId ctx.stepId error.message
        error.approvalId)
      return false
  | .simulatedCrash => do
      let _ ← store (.markRetry ctx.runId ctx.stepId
        ("SimulatedCrash: " ++ error.message) "SimulatedCrash")
      return false
  | .retryableAgentError => do
      let _ ← store (.markRetry ctx.runId ctx.stepId error.message
        error.typeName)
      return false
  | _ =>
      let failure := classifyException error
      if failure.retryable then do
        let _ ← store (.markRetry ctx.runId ctx.stepId failure.message
          failure.errorType)
        return false
      else do
        let _ ← store (.markFailed ctx.runId ctx.stepId error.repr
          error.typeName)
        .raise error

/-- `run_once` with a claim in hand. -/
def runClaimed (args : RunOnceArgs) (claim : StepClaim) : RuntimeM Bool := do
  let (state, stateVersion, sessionId) ← store (.loadState claim.runId)
  let ctx := args.context claim sessionId stateVersion
  report "agent_started" (agentStarted args ctx)
  (runBody ctx state).tryCatch (onException ctx)

def runOnce (args : RunOnceArgs) : RuntimeM Bool := do
  match ← store (.claimStep args.workerId args.runId args.leaseSeconds) with
  | none => return false
  | some claim => runClaimed args claim

end AgentLedger
