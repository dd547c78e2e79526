import AgentLedger.Python
import AgentLedger.Runtime.Commands
import Mathlib.Data.List.Infix

namespace AgentLedger

open Foundation

/-! `LangGraphCheckpointerAdapter`. -/

structure PutArgs where
  config : Fields
  checkpoint : Fields
  metadata : Option Fields := none
  newVersions : Option Fields := none

structure WritesArgs where
  config : Fields
  writes : List Json
  taskId : String
  taskPath : String := ""

/-- What `get_tuple` returns; `None` is `null`. -/
structure CheckpointTuple where
  config : Json
  checkpoint : Json
  metadata : Json
  parentConfig : Json
  pendingWrites : Json

structure LangGraphCheckpointerAdapter where
  /-- Python's `str` of a value that is no string. -/
  str : Json → String

def attributeError (message : String) : PyError :=
  { cls := .exception, typeName := "AttributeError", message := message }

namespace LangGraphCheckpointerAdapter

variable (adapter : LangGraphCheckpointerAdapter)

def text : Json → String
  | .str value => value
  | value => adapter.str value

/-- `config.get("configurable", {})`. -/
def configurable (config : Fields) : Json :=
  (Fields.get? config "configurable").getD (.obj [])

/-- `_run_id_from_config`. -/
def runIdFromConfig (config : Fields) : Except PyError String :=
  match configurable config with
  | .obj fields =>
      match (given fields "agentledger_run_id").orElse fun _ =>
          given fields "run_id" with
      | some runId => .ok (adapter.text runId)
      | none => .error (.valueError ("LangGraph config must include " ++
          "configurable.agentledger_run_id or configurable.run_id"))
  | _ => .error (attributeError "object has no attribute 'get'")

/-- `_with_checkpoint_id`, of a config that names a run. -/
def withCheckpointId (config : Fields) (checkpointId : String) : Fields :=
  Fields.set config "configurable" (.obj (Fields.set
    (configurable config).fields "checkpoint_id" (.str checkpointId)))

/-- `{**checkpoint, "id": checkpoint_id}`. -/
def withId (checkpoint : Fields) (checkpointId : String) : Fields :=
  Fields.set checkpoint "id" (.str checkpointId)

def record (args : PutArgs) (checkpointId : String) : Fields :=
  [("checkpoint", .obj (withId args.checkpoint checkpointId)),
    ("config", .obj (withCheckpointId args.config checkpointId)),
    ("metadata", .obj (args.metadata.getD [])),
    ("new_versions", .obj (args.newVersions.getD []))]

/-- `str(checkpoint.get("id") or checkpoint.get("checkpoint_id") or
new_id("lgckpt"))`. -/
def checkpointId (checkpoint : Fields) : RuntimeM String :=
  match (given checkpoint "id").orElse fun _ =>
      given checkpoint "checkpoint_id" with
  | some id => .done (adapter.text id)
  | none => Runtime.newId "lgckpt"

def put (args : PutArgs) : RuntimeM Fields := do
  let runId ← orRaise (adapter.runIdFromConfig args.config)
  let checkpointId ← adapter.checkpointId args.checkpoint
  let _ ← store (.applySystemStatePatch runId
    [("langgraph_checkpoint", .obj (record args checkpointId)),
      ("langgraph_pending_writes", .arr [])] "langgraph checkpoint put")
  return withCheckpointId args.config checkpointId

/-- `final_state`. -/
def finalState (runId : String) : RuntimeM Fields := do
  let (state, _, _) ← store (.loadState runId)
  return state.fields

/-- `"checkpoint" in record`. -/
def holdsCheckpoint : Json → Except PyError Bool
  | .obj fields => .ok (Fields.get? fields "checkpoint").isSome
  | .arr items => .ok (decide (.str "checkpoint" ∈ items))
  | .str text => .ok (decide ("checkpoint".toList <:+: text.toList))
  | _ => .error (.typeError "argument is not iterable")

/-- The record under the keys of one that `put` has written. -/
def normalized (config : Fields) (record : Json) : Except PyError Fields :=
  match holdsCheckpoint record, record with
  | .error error, _ => .error error
  | .ok true, .obj fields => .ok fields
  | .ok true, _ => .error (attributeError "object has no attribute 'get'")
  | .ok false, record => .ok
      [("checkpoint", record), ("config", .obj config), ("metadata", .obj [])]

def tuple (config record state : Fields) : CheckpointTuple :=
  { config := (Fields.get? record "config").getD (.obj config)
    checkpoint := (Fields.get? record "checkpoint").getD .null
    metadata := (Fields.get? record "metadata").getD (.obj [])
    parentConfig := (Fields.get? record "parent_config").getD .null
    pendingWrites :=
      (Fields.get? state "langgraph_pending_writes").getD (.arr []) }

def getTuple (config : Fields) : RuntimeM (Option CheckpointTuple) := do
  let runId ← orRaise (adapter.runIdFromConfig config)
  let state ← finalState runId
  match Fields.get? state "langgraph_checkpoint" with
  | none | some .null => return none
  | some record => do
      let fields ← orRaise (normalized config record)
      return some (tuple config fields state)

/-- What `put_writes` appends. -/
def entry (args : WritesArgs) : Json :=
  .obj
    [("config", .obj args.config), ("task_id", .str args.taskId),
      ("task_path", .str args.taskPath), ("writes", .arr args.writes)]

/-- `list(state.get("langgraph_pending_writes", []))`. -/
def pendingWrites (state : Fields) : Except PyError (List Json) :=
  iterate ((Fields.get? state "langgraph_pending_writes").getD (.arr []))

def writesPatch (pending : List Json) : Fields :=
  [("langgraph_pending_writes", .arr pending)]

def putWrites (args : WritesArgs) : RuntimeM Unit := do
  let runId ← orRaise (adapter.runIdFromConfig args.config)
  let state ← finalState runId
  let pending ← orRaise (pendingWrites state)
  let _ ← store (.applySystemStatePatch runId
    (writesPatch (pending ++ [entry args])) "langgraph pending writes")
  return ()

end LangGraphCheckpointerAdapter

end AgentLedger
