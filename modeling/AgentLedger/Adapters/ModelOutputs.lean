import AgentLedger.EvidenceDiff
import AgentLedger.Failure.ModelRefs
import AgentLedger.Foundation.JsonNormal
import AgentLedger.TimeTravel
import Mathlib.Data.List.Forall2

namespace AgentLedger

open Foundation

/-! What a comparison of two runs sees of the answers of their models. -/

/-- The row of an event in a bundle, with its payload decoded. -/
def exportedEvent (column : Json → String) (blobs : Blobs) (event : EventRow) :
    Except PyError Fields := do
  let payload ← decodePayload blobs event.payloadRef
  return [("agent_role", Json.optional event.agentRole),
    ("causal_token", event.causalToken.getD .null), ("payload", payload),
    ("payload_hash", Json.optional event.payloadHash),
    ("payload_ref", match event.payloadRef with
      | .inline payload => .str (column payload)
      | .blob ref => .str ref),
    ("run_id", .str event.runId), ("seq", .int event.seq),
    ("session_id", Json.optional event.sessionId),
    ("state_version", (event.stateVersion.map Json.int).getD .null),
    ("step_id", Json.optional event.stepId), ("type", .str event.type.text)]

/-- The payloads of the answers among the rows of events. -/
def answersOf (rows : List Fields) : List Json :=
  (rows.filter fun event =>
    pyEq (getOrNone event "type") (.str "model_call_completed")).map
      fun event => getOrNone event "payload"

namespace ModelOperation

variable (gateway : ToolGateway)

/-- What the model answered. -/
def response : ModelOperation → Json
  | .called request => .obj (ModelEvidence.mockResponse request
      (ModelEvidence.usageHint request))
  | .recorded record => .obj record.response
  | .failed _ => .null

/-- The content of an answer; only `call_model` archives one. -/
def content : ModelOperation → Json
  | .called request => (Fields.get? request "mock_response").getD (.str "")
  | _ => .null

def provider : ModelOperation → Json
  | .called request => (Fields.get? request "provider").getD (.str "mock")
  | .recorded record => .str record.provider
  | .failed record => .str record.provider

def usage : ModelOperation → Json
  | .called request =>
      let hint := ModelEvidence.usageHint request
      if truthy hint then hint else .obj [("total_tokens", .int 0)]
  | .recorded record => .obj record.usage
  | .failed record => .obj record.usage

/-- `==` takes what the comparison sees of two answers for one. -/
structure Alike (first second : ModelOperation) : Prop where
  content : pyEq first.content second.content = true
  provider : pyEq first.provider second.provider = true
  usage : pyEq first.usage second.usage = true

theorem fingerprint_outcome {operation : ModelOperation}
    (called : operation.isFailed = false) :
    fingerprint ["content", "provider", "usage"] (operation.outcome gateway) =
      .obj [("content", operation.content), ("provider", operation.provider),
        ("usage", operation.usage)] := by
  cases operation with
  | called request => rfl
  | recorded record => rfl
  | failed record => cases called

end ModelOperation

/-- The answers of models in the bundle are those of the calls, in order. -/
structure EvidenceBundle.Records (bundle : EvidenceBundle)
    (gateway : ToolGateway) (calls : List ModelOperation) : Prop where
  called : ∀ call ∈ calls, call.isFailed = false
  answers : answersOf (getRows bundle.data "events") =
    calls.map fun call => .obj (call.outcome gateway)

/-! ### Bundles of logs -/

def ModelAttempt.answered? (attempt : ModelAttempt) : Bool :=
  !attempt.operation.isFailed && attempt.sent.length = 2

section Logs

variable {values : PyValues} {gateway : ToolGateway} {limits : ModelLimits}
  {attempts : List ModelAttempt} {events : List EventRow}
  {column : Json → String} {blobs : Blobs} {rows : List Fields}

theorem answersOf_append (first second : List Fields) :
    answersOf (first ++ second) = answersOf first ++ answersOf second := by
  rw [answersOf, List.filter_append, List.map_append]
  rfl

theorem answersOf_exported {event : EventRow} {row : Fields}
    (exported : exportedEvent column blobs event = .ok row) :
    ∃ payload, decodePayload blobs event.payloadRef = .ok payload ∧
      answersOf [row] =
        if event.type.text = "model_call_completed" then [payload] else [] := by
  unfold exportedEvent at exported
  cases decoded : decodePayload blobs event.payloadRef with
  | error error =>
      rw [decoded] at exported
      cases exported
  | ok payload =>
      rw [decoded] at exported
      cases exported
      refine ⟨payload, rfl, ?_⟩
      by_cases typed : event.type.text = "model_call_completed" <;>
        simp [answersOf, getOrNone, Fields.get?, pyEq, typed]

theorem mapM_append_singleton {event : EventRow}
    (exported : (events ++ [event]).mapM (exportedEvent column blobs) =
      .ok rows) :
    ∃ first row, events.mapM (exportedEvent column blobs) = .ok first ∧
      exportedEvent column blobs event = .ok row ∧ rows = first ++ [row] := by
  rw [List.mapM_append] at exported
  cases before : events.mapM (exportedEvent column blobs) with
  | error error =>
      rw [before] at exported
      cases exported
  | ok first =>
      rw [before] at exported
      cases last : exportedEvent column blobs event with
      | error error =>
          simp [last, bind, Except.bind] at exported
      | ok row =>
          simp only [last, bind, Except.bind, List.mapM_cons, List.mapM_nil, pure,
            Except.pure, Except.ok.injEq] at exported
          exact ⟨first, row, rfl, rfl, exported.symm⟩

theorem answersOf_archived {ctx : AgentContext} {name : String}
    {payload : Fields} {written : String × String} {seq : Nat} {row : Fields}
    (exported : exportedEvent column blobs
      (archivedEvent ctx name payload written seq) = .ok row)
    (other : name ≠ "model_call_completed") : answersOf [row] = [] := by
  obtain ⟨_, _, answers⟩ := answersOf_exported exported
  rwa [if_neg (by exact other)] at answers

theorem answers_of_logged
    (logged : Logged values gateway limits attempts events)
    (kept : ∀ attempt ∈ attempts, blobs (attempt.outcomeRef gateway) =
      .ok (.obj (attempt.operation.outcome gateway)))
    (exported : events.mapM (exportedEvent column blobs) = .ok rows) :
    ∃ calls : List ModelOperation, calls.Perm ((attempts.filter ModelAttempt.answered?).map
        ModelAttempt.operation) ∧
      answersOf rows = calls.map fun call => .obj (call.outcome gateway) := by
  induction logged generalizing rows with
  | nil =>
      cases exported
      exact ⟨[], .refl _, rfl⟩
  | other logged event foreign ih =>
      obtain ⟨first, row, before, last, rfl⟩ := mapM_append_singleton exported
      obtain ⟨calls, same, answers⟩ := ih kept before
      obtain ⟨_, _, own⟩ := answersOf_exported last
      have unlike : event.type.text ≠ "model_call_completed" := by
        intro typed
        rw [typed] at foreign
        exact foreign (by decide)
      rw [if_neg unlike] at own
      exact ⟨calls, same, by rw [answersOf_append, own, answers,
        List.append_nil]⟩
  | @starts attempts events logged ctx named operation args seq emits ih =>
      obtain ⟨first, row, before, last, rfl⟩ := mapM_append_singleton exported
      obtain ⟨calls, same, answers⟩ := ih (fun attempt member =>
        kept attempt (List.mem_append_left _ member)) before
      have begins := operation.prefix_events values emits
      have own : answersOf [row] = [] := by
        cases kind : operation.isFailed with
        | false =>
            obtain ⟨asked, _, _, _, all⟩ :=
              ModelOperation.events_called kind gateway ctx
            rw [all, List.cons_prefix_cons] at begins
            obtain ⟨rfl, _⟩ := begins
            exact answersOf_archived last (by decide)
        | true =>
            obtain ⟨_, all⟩ := ModelOperation.events_failed kind gateway ctx
            rw [all, List.cons_prefix_cons] at begins
            obtain ⟨rfl, _⟩ := begins
            exact answersOf_archived last (by decide)
      refine ⟨calls, ?_, by rw [answersOf_append, own, answers,
        List.append_nil]⟩
      rw [List.filter_append, List.filter_cons_of_neg (by
        simp [ModelAttempt.answered?]), List.filter_nil, List.append_nil]
      exact same
  | @continues earlier later attempt events logged last args seq emits ih =>
      obtain ⟨first, row, before, own, rfl⟩ := mapM_append_singleton exported
      have archived := kept (attempt.extended args) (by simp)
      obtain ⟨calls, same, answers⟩ := ih (fun other member => by
        rcases List.mem_append.mp member with early | late
        · exact kept other (List.mem_append_left _ early)
        · rcases List.mem_cons.mp late with rfl | late
          · exact archived
          · exact kept other (List.mem_append_right _
              (List.mem_cons_of_mem _ late))) before
      have sent := (@reads_of_logged asciiTexts _ _ _ _ _ logged).sent attempt
        (by simp)
      obtain ⟨called, once, payload, rfl⟩ := ModelAttempt.answer sent emits
      obtain ⟨answer, decoded, own⟩ := answersOf_exported own
      have value : answer = .obj (attempt.operation.outcome gateway) :=
        Except.ok.inj (decoded.symm.trans archived)
      refine ⟨calls ++ [attempt.operation], ?_, ?_⟩
      · rw [List.filter_append, List.filter_cons_of_neg (by
          simp [ModelAttempt.answered?, once]), List.map_append] at same
        rw [List.filter_append, List.filter_cons_of_pos (by
          simp [ModelAttempt.answered?, ModelAttempt.extended, called, once]),
          List.map_append, List.map_cons]
        exact (List.perm_append_singleton _ _).trans
          ((List.Perm.cons _ same).trans List.perm_middle.symm)
      · rw [answersOf_append, own, answers, value, List.map_append]
        rfl

/-- A bundle of a log, whose blobs are those that were put there, records the
calls that were answered, in the order of the answers. -/
theorem records_of_logged {bundle : EvidenceBundle}
    (logged : Logged values gateway limits attempts events)
    (kept : ∀ attempt ∈ attempts, blobs (attempt.outcomeRef gateway) =
      .ok (.obj (attempt.operation.outcome gateway)))
    (exported : events.mapM (exportedEvent column blobs) = .ok rows)
    (own : getRows bundle.data "events" = rows) :
    ∃ calls : List ModelOperation, calls.Perm ((attempts.filter
        ModelAttempt.answered?).map ModelAttempt.operation) ∧
      bundle.Records gateway calls := by
  obtain ⟨calls, same, answers⟩ := answers_of_logged logged kept exported
  refine ⟨calls, same, ?_, own ▸ answers⟩
  intro call member
  obtain ⟨attempt, among, rfl⟩ := List.mem_map.mp (same.mem_iff.mp member)
  have answered := (List.mem_filter.mp among).2
  simp only [ModelAttempt.answered?, Bool.and_eq_true, Bool.not_eq_true']
    at answered
  exact answered.1

end Logs

/-! ### The comparison -/

/-- No place is changed exactly when `==` takes the values at every place for
one, as long as none of them is `None`. -/
theorem diffSequence_unchanged_iff_forall₂ {left right : List Json}
    (some : ∀ value ∈ left ++ right, loosen value ≠ .null) :
    (diffSequence left right).changedCount = 0 ↔
      List.Forall₂ (fun first second => pyEq first second = true) left
        right := by
  rw [diffSequence_unchanged_iff]
  induction left generalizing right with
  | nil =>
      cases right with
      | nil => simp [Blurred]
      | cons value rest =>
          refine iff_of_false ?_ (fun pairs => by cases pairs)
          intro blurred
          exact some value (by simp) (blurred 0).symm
  | cons first lefts ih =>
      cases right with
      | nil =>
          refine iff_of_false ?_ (fun pairs => by cases pairs)
          intro blurred
          exact some first (by simp) (blurred 0)
      | cons second rights =>
          rw [List.forall₂_cons, ← ih (fun value member => some value (by
            simp only [List.mem_append, List.mem_cons] at member ⊢
            tauto)), pyEq_iff]
          constructor
          · intro blurred
            exact ⟨blurred 0, fun index => blurred (index + 1)⟩
          · rintro ⟨same, rest⟩ index
            cases index with
            | zero => exact same
            | succ index => exact rest index

section Comparison

variable {gateway other : ToolGateway} {bundle : EvidenceBundle}
  {calls others : List ModelOperation}

/-- What `_model_outputs` keeps of a payload. -/
def payloadOutput : Json → Json
  | .obj payload => fingerprint ["content", "provider", "usage"] payload
  | payload => .obj [("payload", payload)]

theorem EvidenceBundle.Records.outputs (records : bundle.Records gateway calls) :
    bundle.modelOutputs = calls.map fun call =>
      .obj [("content", call.content), ("provider", call.provider),
        ("usage", call.usage)] := by
  have shown : bundle.modelOutputs =
      (answersOf (getRows bundle.data "events")).map payloadOutput := by
    rw [answersOf, List.map_map]
    rfl
  rw [shown, records.answers, List.map_map]
  apply List.map_congr_left
  intro call member
  exact ModelOperation.fingerprint_outcome gateway (records.called call member)

theorem pyEq_output {first second : ModelOperation} :
    pyEq
        (.obj [("content", first.content), ("provider", first.provider),
          ("usage", first.usage)])
        (.obj [("content", second.content), ("provider", second.provider),
          ("usage", second.usage)]) = true ↔
      first.Alike second := by
  simp only [pyEq, pyEqFields, BEq.rfl, Bool.true_and, Bool.and_true,
    Bool.and_eq_true]
  exact ⟨fun same => ⟨same.1, same.2.1, same.2.2⟩,
    fun same => ⟨same.content, same.provider, same.usage⟩⟩

/-- A difference in the answers of two runs is reported exactly where the runs
also differ in what is compared: the number of calls, or some call's provider,
usage or, of `call_model`, content.  Answers are the same where their JSON is;
what is compared is so by `==`, to which `1` and `True` are the same. -/
theorem model_outputs_changed_iff {left right : EvidenceBundle}
    (first : left.Records gateway calls)
    (second : right.Records other others) :
    (calls.map ModelOperation.response ≠ others.map ModelOperation.response →
        .modelOutputs ∈
          (DivergenceReporter.compare left right).changedDimensions) ↔
      (calls.map ModelOperation.response =
          others.map ModelOperation.response ∨
        ¬ List.Forall₂ ModelOperation.Alike calls others) := by
  have reported : .modelOutputs ∈
      (DivergenceReporter.compare left right).changedDimensions ↔
        ¬ List.Forall₂ ModelOperation.Alike calls others := by
    rw [Dimension.mem_changedDimensions]
    simp only [Dimension.diff, DimensionDiff.changed, decide_eq_true_eq,
      ne_eq, first.outputs, second.outputs]
    rw [diffSequence_unchanged_iff_forall₂, List.forall₂_map_left_iff,
      List.forall₂_map_right_iff]
    · simp only [pyEq_output]
    · intro value member
      rcases List.mem_append.mp member with one | one <;>
        obtain ⟨call, _, rfl⟩ := List.mem_map.mp one <;> simp [loosen]
  rw [reported]
  tauto

end Comparison

/-- A call that another runtime made, with its answer. -/
def answering (answer : String) : ModelOperation :=
  .recorded
    { provider := "openai"
      model := "gpt"
      response := [("text", .str answer)] }

theorem canonical_answering (answer : String) :
    Json.CanonicalFields ((answering answer).outcome modelGateway) := by
  apply Json.canonicalFields_of_ascending
  · change (["metadata", "model", "provider", "request_hash", "request_ref",
      "response", "schema_version", "total_usd", "usage"].Pairwise
        fun first second : String => first < second)
    decide
  · simp [answering, ModelOperation.outcome, ModelCallRecord.responsePayload,
      compact, Json.Canonical, Json.CanonicalFields, Fields.Above]

/-- A call of `call_model`, with its answer. -/
def prompted (answer : String) : ModelOperation :=
  .called [("mock_response", .str answer)]

theorem canonical_prompted (answer : String) :
    Json.CanonicalFields ((prompted answer).outcome modelGateway) := by
  apply Json.canonicalFields_of_ascending
  · change (["content", "provider", "usage"].Pairwise
        fun first second : String => first < second)
    decide
  · simp [prompted, ModelOperation.outcome, ModelEvidence.mockResponse,
      ModelEvidence.usageHint, Fields.get?, truthy, Json.Canonical,
      Json.CanonicalFields, Fields.Above]

/-- The bundle of a run with one call of a model. -/
def calledBundle (operation : ModelOperation)
    (canonical : Json.CanonicalFields (operation.outcome modelGateway)) :
    EvidenceBundle where
  data := [("events", .arr [.obj
    [("payload", .obj (operation.outcome modelGateway)),
      ("type", .str "model_call_completed")]])]
  canonical := by
    refine ⟨nofun, ⟨⟨?_, canonical, nofun, trivial, trivial⟩,
      trivial⟩, trivial⟩
    exact Fields.above_of_keys ["type"] rfl (by decide)
  objects := by
    intro key member
    simp only [List.mem_cons, List.not_mem_nil, or_false] at member
    rcases member with rfl | rfl | rfl <;> rfl
  costs := rfl
  rows := by
    intro key member
    simp only [List.mem_cons, List.not_mem_nil, or_false] at member
    rcases member with rfl | rfl | rfl | rfl | rfl <;> rfl

theorem calledBundle_records {operation : ModelOperation}
    {canonical : Json.CanonicalFields (operation.outcome modelGateway)}
    (called : operation.isFailed = false) :
    (calledBundle operation canonical).Records modelGateway [operation] :=
  ⟨by simp [called], rfl⟩

def answeredBundle (answer : String) : EvidenceBundle :=
  calledBundle (answering answer) (canonical_answering answer)

def promptedBundle (answer : String) : EvidenceBundle :=
  calledBundle (prompted answer) (canonical_prompted answer)

theorem answers_told_apart :
    [prompted "yes"].map ModelOperation.response ≠
        [prompted "no"].map ModelOperation.response ∧
      .modelOutputs ∈ (DivergenceReporter.compare (promptedBundle "yes")
        (promptedBundle "no")).changedDimensions := by
  have differ : [prompted "yes"].map ModelOperation.response ≠
      [prompted "no"].map ModelOperation.response := by
    decide
  refine ⟨differ, ?_⟩
  apply (model_outputs_changed_iff (calledBundle_records rfl)
    (calledBundle_records rfl)).mpr (.inr fun pairs => ?_) differ
  cases pairs with
  | cons alike rest => exact absurd alike.content (by decide)

/-- Another answer of the same model goes unnoticed. -/
theorem other_answer_unnoticed : ∃ left right calls others,
    left.Records modelGateway calls ∧ right.Records modelGateway others ∧
      ¬ (calls.map ModelOperation.response ≠
          others.map ModelOperation.response →
        .modelOutputs ∈
          (DivergenceReporter.compare left right).changedDimensions) := by
  refine ⟨answeredBundle "yes", answeredBundle "no", _, _,
    calledBundle_records rfl, calledBundle_records rfl, fun reported => ?_⟩
  have changed := reported (by decide)
  revert changed
  decide

end AgentLedger
