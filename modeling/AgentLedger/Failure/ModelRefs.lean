import AgentLedger.Adapters.ModelCalls
import AgentLedger.Failure.Envelopes
import Mathlib.Data.List.Perm.Basic

namespace AgentLedger

open Foundation

/-! `_model_evidence_refs`: the calls of models that the events of a run tell
of, and when these are the calls that were made. -/

/-- Its outcome, and where request, response and failure are kept. -/
structure ModelCallRefs where
  status : String
  request : Option String := none
  response : Option String := none
  failure : Option String := none
  deriving DecidableEq

/-- A row for a call; `none` is a key that is not there. -/
structure ModelEvidenceRow where
  modelCallId : String
  refs : ModelCallRefs
  provider : Json
  model : Json
  stepId : Option String
  requestedSeq : Option Nat := none
  completedSeq : Option Nat := none
  failedSeq : Option Nat := none
  errorType : Option Json := none
  retryable : Option Json := none

/-- The rows, and the call that each step waits for. -/
structure ModelEvidenceState where
  rows : List ModelEvidenceRow := []
  pendingByStep : String → Option String := fun _ => none

def modelEventTypes : List String :=
  ["model_call_requested", "model_call_completed", "model_call_failed"]

/-- `_text(event.get("step_id")) or "-"`. -/
def EventRow.stepKey (event : EventRow) : String :=
  (nonEmpty event.stepId).getD "-"

namespace FailureTexts

variable (texts : FailureTexts)

/-- The reference that the payload has under the key, or else that of the
payload itself, in an event of the type. -/
def eventRef (event : EventRow) (key type : String) : Option String :=
  texts.text (orValue (getOrNone event.payload key)
    (if event.type.text = type then
      match event.payloadRef with
      | .inline payload => .str (texts.column payload)
      | .blob ref => .str ref
    else .null))

/-- What the event tells of where things are kept. -/
def eventRefs (event : EventRow) : ModelCallRefs :=
  { status := "requested"
    request := texts.eventRef event "request_ref" "model_call_requested"
    response := texts.eventRef event "response_ref" "model_call_completed"
    failure := texts.eventRef event "failure_ref" "model_call_failed" }

def modelCallId (pending : String → Option String) (event : EventRow) :
    String :=
  let refs := texts.eventRefs event
  let id := refs.request.or
    (if event.type.text = "model_call_completed" then pending event.stepKey
      else none)
  id.getD ((refs.response.or refs.failure).getD
    ("event:" ++ toString event.seq))

def newRow (id : String) (event : EventRow) : ModelEvidenceRow :=
  { modelCallId := id
    refs := texts.eventRefs event
    provider := getOrNone event.payload "provider"
    model := getOrNone event.payload "model"
    stepId := event.stepId }

/-- What an event adds to the row of its call. -/
def filled (event : EventRow) (row : ModelEvidenceRow) : ModelEvidenceRow :=
  let refs := texts.eventRefs event
  let row := { row with
    provider := orValue row.provider (getOrNone event.payload "provider")
    model := orValue row.model (getOrNone event.payload "model")
    stepId := if (nonEmpty row.stepId).isSome then row.stepId else event.stepId
    refs := { row.refs with
      request := refs.request.or row.refs.request
      response := refs.response.or row.refs.response
      failure := refs.failure.or row.refs.failure } }
  if event.type.text = "model_call_requested" then
    { row with requestedSeq := some event.seq }
  else if event.type.text = "model_call_completed" then
    { row with
      completedSeq := some event.seq
      refs := { row.refs with status := "completed" } }
  else if event.type.text = "model_call_failed" then
    { row with
      failedSeq := some event.seq
      refs := { row.refs with status := "failed" }
      errorType := some (getOrNone event.payload "error_type")
      retryable := some (getOrNone event.payload "retryable") }
  else row

/-- The rows with one that is there from now on, if it was not, and changed. -/
def entered (id : String) (event : EventRow) (rows : List ModelEvidenceRow) :
    List ModelEvidenceRow :=
  (if id ∈ rows.map ModelEvidenceRow.modelCallId then rows
    else rows ++ [texts.newRow id event]).map fun row =>
      if row.modelCallId = id then texts.filled event row else row

/-- The loop of `_model_evidence_refs`. -/
def considered (state : ModelEvidenceState) (event : EventRow) :
    ModelEvidenceState :=
  if event.type.text ∉ modelEventTypes then state
  else
    let id := texts.modelCallId state.pendingByStep event
    { rows := texts.entered id event state.rows
      pendingByStep :=
        if event.type.text = "model_call_requested" then
          Function.update state.pendingByStep event.stepKey (some id)
        else if event.type.text = "model_call_completed" then
          Function.update state.pendingByStep event.stepKey none
        else state.pendingByStep }

/-- `_model_evidence_refs`. -/
def modelEvidenceRefs (events : List EventRow) : List ModelEvidenceRow :=
  (events.foldl texts.considered {}).rows

end FailureTexts

/-! ### Logs -/

/-- An operation of a step, with the events that it has appended so far. -/
structure ModelAttempt where
  ctx : AgentContext
  operation : ModelOperation
  sent : List EventArgs

def ModelOperation.isFailed : ModelOperation → Bool
  | .failed _ => true
  | _ => false

namespace ModelAttempt

variable (gateway : ToolGateway) (attempt : ModelAttempt)

def requestRef : Option String :=
  attempt.operation.request.map fun value => (gateway.kept value).2

def outcomeRef : String :=
  (gateway.kept (.obj (attempt.operation.outcome gateway))).2

/-- What the call came to, and where its own request and outcome are kept. -/
def refs : ModelCallRefs :=
  if attempt.operation.isFailed then
    { status := "failed"
      request := attempt.requestRef gateway
      failure := some (attempt.outcomeRef gateway) }
  else if attempt.sent.length = 1 then
    { status := "requested"
      request := attempt.requestRef gateway }
  else
    { status := "completed"
      request := attempt.requestRef gateway
      response := some (attempt.outcomeRef gateway) }

def extended (args : EventArgs) : ModelAttempt :=
  { attempt with sent := attempt.sent ++ [args] }

/-- Where the first thing that is recorded of the attempt is kept. -/
def firstRef : String :=
  if attempt.operation.isFailed then attempt.outcomeRef gateway
  else (attempt.requestRef gateway).getD ""

/-- What `_model_evidence_refs` finds of the call: an event that refers to what
is archived keeps nothing of its own payload. -/
def found : ModelCallRefs :=
  if attempt.operation.isFailed then
    { status := "failed"
      failure := some (attempt.outcomeRef gateway) }
  else attempt.refs gateway

end ModelAttempt

/-- Logs of runs in which every step, one operation after the other, records
calls of models, while other steps do the same and other events are appended.
An operation may be given up anywhere; the ids of steps are never empty. -/
inductive Logged (values : PyValues) (gateway : ToolGateway)
    (limits : ModelLimits) : List ModelAttempt → List EventRow → Prop
  | nil : Logged values gateway limits [] []
  | other {attempts : List ModelAttempt} {events : List EventRow}
      (logged : Logged values gateway limits attempts events)
      (event : EventRow) (foreign : event.type.text ∉ modelEventTypes) :
      Logged values gateway limits attempts (events ++ [event])
  | starts {attempts : List ModelAttempt} {events : List EventRow}
      (logged : Logged values gateway limits attempts events)
      (ctx : AgentContext) (named : ctx.stepId ≠ "")
      (operation : ModelOperation) (args : EventArgs) (seq : Nat)
      (emits : (operation.program values gateway limits ctx).Emits appended
        [args]) :
      Logged values gateway limits (attempts ++ [⟨ctx, operation, [args]⟩])
        (events ++ [args.row seq])
  | continues {before after : List ModelAttempt} {attempt : ModelAttempt}
      {events : List EventRow}
      (logged : Logged values gateway limits (before ++ attempt :: after)
        events)
      (last : ∀ other ∈ after, other.ctx.stepId ≠ attempt.ctx.stepId)
      (args : EventArgs) (seq : Nat)
      (emits : (attempt.operation.program values gateway limits
        attempt.ctx).Emits appended (attempt.sent ++ [args])) :
      Logged values gateway limits
        (before ++ attempt.extended args :: after) (events ++ [args.row seq])

/-! ### The events of attempts -/

theorem blobRef_ne_empty (digest : String) : blobRef digest ≠ "" := by
  intro none
  have letters := congrArg String.toList none
  simp [blobRef] at letters

section Evidence

variable {texts : FailureTexts} {ctx : AgentContext} {payload : Fields}
  {digest : String} {seq : Nat}

/-- An event of a step whose payload is archived. -/
def archivedEvent (ctx : AgentContext) (name : String) (payload : Fields)
    (written : String × String) (seq : Nat) : EventRow :=
  (ctx.evidence name payload written).row seq

variable {written : String × String} {state : ModelEvidenceState}

theorem eventRef_archived {name : String} (given : written.2 ≠ "")
    (key type : String) :
    texts.eventRef (archivedEvent ctx name payload written seq) key type =
      if name = type then some written.2 else none := by
  have typed : (archivedEvent ctx name payload written seq).type.text = name :=
    rfl
  have empty : getOrNone (archivedEvent ctx name payload written seq).payload
      key = .null := rfl
  unfold FailureTexts.eventRef
  rw [typed, empty]
  split
  · exact texts.text_str given
  · rfl

theorem stepKey_archived {name : String} (named : ctx.stepId ≠ "") :
    (archivedEvent ctx name payload written seq).stepKey = ctx.stepId := by
  simp [archivedEvent, AgentContext.evidence, EventArgs.row, EventRow.stepKey,
    nonEmpty, Option.filter, named]

theorem considered_requested (named : ctx.stepId ≠ "")
    (given : written.2 ≠ "") :
    texts.considered state
        (archivedEvent ctx "model_call_requested" payload written seq) =
      { rows := texts.entered written.2 (archivedEvent ctx
          "model_call_requested" payload written seq) state.rows
        pendingByStep := Function.update state.pendingByStep ctx.stepId
          (some written.2) } := by
  have id : texts.modelCallId state.pendingByStep (archivedEvent ctx
      "model_call_requested" payload written seq) = written.2 := by
    simp [FailureTexts.modelCallId, FailureTexts.eventRefs,
      eventRef_archived given]
  rw [FailureTexts.considered, if_neg, id, stepKey_archived named]
  · rfl
  · exact not_not.mpr (by decide : "model_call_requested" ∈ modelEventTypes)

theorem considered_completed {id : String} (named : ctx.stepId ≠ "")
    (given : written.2 ≠ "")
    (waiting : state.pendingByStep ctx.stepId = some id) :
    texts.considered state
        (archivedEvent ctx "model_call_completed" payload written seq) =
      { rows := texts.entered id (archivedEvent ctx
          "model_call_completed" payload written seq) state.rows
        pendingByStep := Function.update state.pendingByStep ctx.stepId
          none } := by
  have own : texts.modelCallId state.pendingByStep (archivedEvent ctx
      "model_call_completed" payload written seq) = id := by
    have typed : (archivedEvent ctx "model_call_completed" payload written
        seq).type.text = "model_call_completed" := rfl
    simp [FailureTexts.modelCallId, FailureTexts.eventRefs, typed,
      eventRef_archived given, stepKey_archived named, waiting]
  rw [FailureTexts.considered, if_neg, own, stepKey_archived named]
  · rfl
  · exact not_not.mpr (by decide : "model_call_completed" ∈ modelEventTypes)

theorem considered_failed (given : written.2 ≠ "") :
    texts.considered state
        (archivedEvent ctx "model_call_failed" payload written seq) =
      { rows := texts.entered written.2 (archivedEvent ctx
          "model_call_failed" payload written seq) state.rows
        pendingByStep := state.pendingByStep } := by
  have id : texts.modelCallId state.pendingByStep (archivedEvent ctx
      "model_call_failed" payload written seq) = written.2 := by
    have typed : (archivedEvent ctx "model_call_failed" payload written
        seq).type.text = "model_call_failed" := rfl
    simp [FailureTexts.modelCallId, FailureTexts.eventRefs, typed,
      eventRef_archived given]
  rw [FailureTexts.considered, if_neg, id]
  · rfl
  · exact not_not.mpr (by decide : "model_call_failed" ∈ modelEventTypes)

end Evidence

/-! ### Rows by id -/

section Entered

variable {texts : FailureTexts} {event : EventRow} {id : String}
  {rows : List ModelEvidenceRow}

theorem modelCallId_filled (row : ModelEvidenceRow) :
    (texts.filled event row).modelCallId = row.modelCallId := by
  unfold FailureTexts.filled
  simp only
  repeat' split
  all_goals rfl

theorem ids_entered :
    (texts.entered id event rows).map ModelEvidenceRow.modelCallId =
      if id ∈ rows.map ModelEvidenceRow.modelCallId then
        rows.map ModelEvidenceRow.modelCallId
      else rows.map ModelEvidenceRow.modelCallId ++ [id] := by
  have kept : ∀ rows : List ModelEvidenceRow, (rows.map fun row =>
      if row.modelCallId = id then texts.filled event row else row).map
        ModelEvidenceRow.modelCallId =
      rows.map ModelEvidenceRow.modelCallId := by
    intro rows
    rw [List.map_map]
    apply List.map_congr_left
    intro row _
    simp only [Function.comp_apply]
    split
    · exact modelCallId_filled row
    · rfl
  unfold FailureTexts.entered
  split
  · exact kept rows
  · rw [kept, List.map_append]
    rfl

theorem entered_new (new : id ∉ rows.map ModelEvidenceRow.modelCallId) :
    texts.entered id event rows =
      rows ++ [texts.filled event (texts.newRow id event)] := by
  have others : ∀ row ∈ rows, row.modelCallId ≠ id := by
    intro row member same
    exact new (List.mem_map.mpr ⟨row, member, same⟩)
  rw [FailureTexts.entered, if_neg new, List.map_append]
  congr 1
  · conv_rhs => rw [← List.map_id rows]
    apply List.map_congr_left
    intro row member
    rw [if_neg (others row member)]
    rfl
  · simp [FailureTexts.newRow]

end Entered

/-! ### What the rows are -/

theorem ModelOperation.events_called {operation : ModelOperation}
    (called : operation.isFailed = false) (gateway : ToolGateway)
    (ctx : AgentContext) :
    ∃ asked first second, operation.request = some asked ∧
      operation.events gateway ctx =
        [ctx.evidence "model_call_requested" first (gateway.kept asked),
          ctx.evidence "model_call_completed" second
            (gateway.kept (.obj (operation.outcome gateway)))] := by
  cases operation with
  | called request => exact ⟨_, _, _, rfl, rfl⟩
  | recorded record => exact ⟨_, _, _, rfl, rfl⟩
  | failed record => cases called

theorem ModelOperation.events_failed {operation : ModelOperation}
    (failed : operation.isFailed = true) (gateway : ToolGateway)
    (ctx : AgentContext) :
    ∃ payload, operation.events gateway ctx =
      [ctx.evidence "model_call_failed" payload
        (gateway.kept (.obj (operation.outcome gateway)))] := by
  cases operation with
  | called request => cases failed
  | recorded record => cases failed
  | failed record => exact ⟨_, rfl⟩

/-- What comes after the first event of an attempt is an answer. -/
theorem ModelAttempt.answer {values : PyValues} {gateway : ToolGateway}
    {limits : ModelLimits} {attempt : ModelAttempt} {args : EventArgs}
    (sent : attempt.sent ≠ [])
    (emits : (attempt.operation.program values gateway limits
      attempt.ctx).Emits appended (attempt.sent ++ [args])) :
    attempt.operation.isFailed = false ∧ attempt.sent.length = 1 ∧
      ∃ payload, args = attempt.ctx.evidence "model_call_completed" payload
        (gateway.kept (.obj (attempt.operation.outcome gateway))) := by
  have begins := attempt.operation.prefix_events values emits
  obtain ⟨first, more, own⟩ := List.exists_cons_of_ne_nil sent
  rw [own, List.cons_append] at begins
  cases kind : attempt.operation.isFailed with
  | false =>
      obtain ⟨asked, payload, answer, given, all⟩ :=
        ModelOperation.events_called kind gateway attempt.ctx
      rw [all, List.cons_prefix_cons] at begins
      cases more with
      | nil =>
          rw [List.nil_append, List.cons_prefix_cons] at begins
          exact ⟨rfl, by rw [own]; rfl, answer, begins.2.1⟩
      | cons next rest =>
          have short := begins.2.length_le
          simp at short
  | true =>
      obtain ⟨payload, all⟩ :=
        ModelOperation.events_failed kind gateway attempt.ctx
      rw [all] at begins
      have short := begins.length_le
      simp at short

theorem kept_ne_empty (gateway : ToolGateway) (value : Json) :
    (gateway.kept value).2 ≠ "" :=
  blobRef_ne_empty _

/-- The last attempt of a step. -/
def lastOf (step : String) (attempts : List ModelAttempt) :
    Option ModelAttempt :=
  (attempts.filter fun attempt => attempt.ctx.stepId = step).getLast?

theorem lastOf_eq {before after : List ModelAttempt} {attempt : ModelAttempt}
    (last : ∀ other ∈ after, other.ctx.stepId ≠ attempt.ctx.stepId) :
    lastOf attempt.ctx.stepId (before ++ attempt :: after) = some attempt := by
  have none : after.filter (fun other =>
      other.ctx.stepId = attempt.ctx.stepId) = [] := by
    simpa using last
  rw [lastOf, List.filter_append, List.filter_cons_of_pos (by simp), none,
    List.getLast?_concat]

theorem lastOf_other {before after : List ModelAttempt}
    {attempt : ModelAttempt} {step : String}
    (other : attempt.ctx.stepId ≠ step) :
    lastOf step (before ++ attempt :: after) = lastOf step (before ++ after) := by
  rw [lastOf, List.filter_append, List.filter_cons_of_neg (by simpa using other),
    ← List.filter_append, lastOf]

def ModelEvidenceRow.keyed (row : ModelEvidenceRow) : String × ModelCallRefs :=
  (row.modelCallId, row.refs)

/-- What the response of the attempt changes. -/
def ModelAttempt.answered (gateway : ToolGateway) (attempt : ModelAttempt)
    (row : String × ModelCallRefs) : String × ModelCallRefs :=
  if row.1 = attempt.firstRef gateway then
    (row.1, { row.2 with
      status := "completed"
      response := some (attempt.outcomeRef gateway) })
  else row

theorem answered_self {gateway : ToolGateway} {attempt : ModelAttempt}
    {args : EventArgs} (called : attempt.operation.isFailed = false)
    (once : attempt.sent.length = 1) :
    attempt.answered gateway (attempt.firstRef gateway,
        attempt.found gateway) =
      ((attempt.extended args).firstRef gateway,
        (attempt.extended args).found gateway) := by
  simp [ModelAttempt.answered, ModelAttempt.found, ModelAttempt.refs,
    ModelAttempt.extended, ModelAttempt.firstRef, ModelAttempt.requestRef,
    ModelAttempt.outcomeRef, called, once]

/-- What is known of the rows of a log. -/
structure Reads (gateway : ToolGateway) (attempts : List ModelAttempt)
    (state : ModelEvidenceState) : Prop where
  named : ∀ attempt ∈ attempts, attempt.ctx.stepId ≠ ""
  sent : ∀ attempt ∈ attempts, attempt.sent ≠ []
  waiting : ∀ step attempt, lastOf step attempts = some attempt →
    attempt.operation.isFailed = false → attempt.sent.length = 1 →
      state.pendingByStep step = some (attempt.firstRef gateway)
  known : ∀ id ∈ state.rows.map ModelEvidenceRow.modelCallId,
    id ∈ attempts.map (ModelAttempt.firstRef gateway)
  distinct : (state.rows.map ModelEvidenceRow.modelCallId).Nodup
  rows : (attempts.map (ModelAttempt.firstRef gateway)).Nodup →
    state.rows.map ModelEvidenceRow.keyed =
      attempts.map fun attempt =>
        (attempt.firstRef gateway, attempt.found gateway)

section Reads

variable {texts : FailureTexts} {gateway : ToolGateway}
  {attempts before after : List ModelAttempt} {attempt : ModelAttempt}
  {state : ModelEvidenceState} {event : EventRow} {id : String}

theorem distinct_entered (distinct :
    (state.rows.map ModelEvidenceRow.modelCallId).Nodup) :
    ((texts.entered id event state.rows).map
      ModelEvidenceRow.modelCallId).Nodup := by
  rw [ids_entered]
  split
  · exact distinct
  · rename_i new
    exact List.nodup_append.mpr ⟨distinct, List.nodup_singleton _,
      fun first among second own same =>
        new (List.mem_singleton.mp own ▸ same ▸ among)⟩

theorem known_entered {ids : List String}
    (known : ∀ id ∈ state.rows.map ModelEvidenceRow.modelCallId, id ∈ ids)
    (own : id ∈ ids) :
    ∀ other ∈ (texts.entered id event state.rows).map
      ModelEvidenceRow.modelCallId, other ∈ ids := by
  intro other member
  rw [ids_entered] at member
  split at member
  · exact known other member
  · rcases List.mem_append.mp member with among | last
    · exact known other among
    · exact List.mem_singleton.mp last ▸ own

theorem Reads.starts (reads : Reads gateway attempts state)
    (named : attempt.ctx.stepId ≠ "") (sent : attempt.sent.length = 1)
    {pending : String → Option String}
    (waits : attempt.operation.isFailed = false →
      pending = Function.update state.pendingByStep attempt.ctx.stepId
        (some (attempt.firstRef gateway)))
    (waited : attempt.operation.isFailed = true →
      pending = state.pendingByStep)
    (own : (texts.filled event
        (texts.newRow (attempt.firstRef gateway) event)).keyed =
      (attempt.firstRef gateway, attempt.found gateway)) :
    Reads gateway (attempts ++ [attempt])
      { rows := texts.entered (attempt.firstRef gateway) event state.rows
        pendingByStep := pending } := by
  have ids : (attempts ++ [attempt]).map (ModelAttempt.firstRef gateway) =
      attempts.map (ModelAttempt.firstRef gateway) ++
        [attempt.firstRef gateway] := List.map_append ..
  constructor
  case named =>
    intro other member
    rcases List.mem_append.mp member with among | last
    · exact reads.named other among
    · exact List.mem_singleton.mp last ▸ named
  case sent =>
    intro other member
    rcases List.mem_append.mp member with among | last
    · exact reads.sent other among
    · rw [List.mem_singleton.mp last]
      exact List.ne_nil_of_length_pos (sent ▸ Nat.one_pos)
  case waiting =>
    intro step other last called once
    by_cases same : attempt.ctx.stepId = step
    · subst same
      rw [@lastOf_eq attempts [] attempt (fun _ none => by cases none)] at last
      obtain rfl := Option.some.inj last
      rw [waits called]
      exact Function.update_self ..
    · rw [lastOf_other same, List.append_nil] at last
      have old := reads.waiting step other last called once
      cases kind : attempt.operation.isFailed with
      | false =>
          rw [waits kind]
          exact (Function.update_of_ne (Ne.symm same) _ _).trans old
      | true =>
          rw [waited kind]
          exact old
  case known =>
    rw [ids]
    apply known_entered
    · exact fun id member => List.mem_append_left _ (reads.known id member)
    · exact List.mem_append_right _ (List.mem_singleton_self _)
  case distinct => exact distinct_entered reads.distinct
  case rows =>
    intro apart
    rw [ids, List.nodup_append] at apart
    have new : attempt.firstRef gateway ∉
        state.rows.map ModelEvidenceRow.modelCallId := by
      intro old
      exact apart.2.2 _ (reads.known _ old) _ (List.mem_singleton_self _) rfl
    rw [entered_new new, List.map_append, List.map_append,
      reads.rows apart.1, List.map_singleton, own]
    rfl

theorem refs_completed {ctx : AgentContext} {payload : Fields}
    {written : String × String} {seq : Nat} (given : written.2 ≠ "")
    (row : ModelEvidenceRow) :
    (texts.filled (archivedEvent ctx "model_call_completed" payload written seq)
      row).refs =
      { row.refs with
        status := "completed"
        response := some written.2 } := by
  have typed : (archivedEvent ctx "model_call_completed" payload written
      seq).type.text = "model_call_completed" := rfl
  simp [FailureTexts.filled, FailureTexts.eventRefs, typed,
    eventRef_archived given]

theorem Reads.continues {args : EventArgs} {payload : Fields} {seq : Nat}
    (reads : Reads gateway (before ++ attempt :: after) state)
    (last : ∀ other ∈ after, other.ctx.stepId ≠ attempt.ctx.stepId)
    (called : attempt.operation.isFailed = false)
    (once : attempt.sent.length = 1) :
    Reads gateway (before ++ attempt.extended args :: after)
      (texts.considered state (archivedEvent attempt.ctx
        "model_call_completed" payload
        (gateway.kept (.obj (attempt.operation.outcome gateway))) seq)) := by
  have own := reads.waiting _ _ (lastOf_eq last) called once
  have named := reads.named attempt (by simp)
  rw [considered_completed named (kept_ne_empty _ _) own]
  have ids : (before ++ attempt.extended args :: after).map
      (ModelAttempt.firstRef gateway) =
        (before ++ attempt :: after).map (ModelAttempt.firstRef gateway) := by
    rw [List.map_append, List.map_cons, List.map_append, List.map_cons]
    rfl
  have members : ∀ other ∈ before ++ attempt.extended args :: after,
      other = attempt.extended args ∨ other ∈ before ++ attempt :: after := by
    intro other member
    simp only [List.mem_append, List.mem_cons] at member ⊢
    tauto
  constructor
  case named =>
    intro other member
    rcases members other member with rfl | old
    · exact named
    · exact reads.named other old
  case sent =>
    intro other member
    rcases members other member with rfl | old
    · simp [ModelAttempt.extended]
    · exact reads.sent other old
  case waiting =>
    intro step other latest kind single
    by_cases same : attempt.ctx.stepId = step
    · subst same
      have updated := @lastOf_eq before after (attempt.extended args) last
      have own : attempt.extended args = other :=
        Option.some.inj (updated.symm.trans latest)
      rw [← own] at single
      simp [ModelAttempt.extended, once] at single
    · have skipped := @lastOf_other before after (attempt.extended args) _ same
      rw [skipped, ← @lastOf_other before after attempt _ same] at latest
      exact (Function.update_of_ne (Ne.symm same) _ _).trans
        (reads.waiting step other latest kind single)
  case known =>
    rw [ids]
    apply known_entered reads.known
    simp
  case distinct => exact distinct_entered reads.distinct
  case rows =>
    intro apart
    rw [ids] at apart
    have rows := reads.rows apart
    have there : attempt.firstRef gateway ∈
        state.rows.map ModelEvidenceRow.modelCallId := by
      have among : attempt.firstRef gateway ∈
          (state.rows.map ModelEvidenceRow.keyed).map Prod.fst := by
        rw [rows]
        simp
      rw [List.map_map] at among
      exact among
    -- Only the row of the call changes.
    have changed : ∀ row : ModelEvidenceRow,
        (if row.modelCallId = attempt.firstRef gateway then
          texts.filled (archivedEvent attempt.ctx "model_call_completed"
            payload (gateway.kept (.obj (attempt.operation.outcome gateway)))
            seq) row else row).keyed =
          attempt.answered gateway row.keyed := by
      intro row
      by_cases same : row.keyed.1 = attempt.firstRef gateway
      · have own : row.modelCallId = attempt.firstRef gateway := same
        rw [if_pos own, ModelAttempt.answered, if_pos same,
          ModelEvidenceRow.keyed, modelCallId_filled,
          refs_completed (kept_ne_empty _ _)]
        rfl
      · have other : row.modelCallId ≠ attempt.firstRef gateway := same
        rw [if_neg other, ModelAttempt.answered, if_neg same]
    rw [FailureTexts.entered, if_pos there, List.map_map]
    simp only [Function.comp_def, changed]
    rw [← Function.comp_def (attempt.answered gateway), ← List.map_map, rows,
      List.map_map]
    rw [List.map_append, List.map_cons, List.nodup_middle, List.nodup_cons,
      ← List.map_append] at apart
    have others : ∀ other ∈ before ++ after,
        attempt.answered gateway (other.firstRef gateway,
          other.found gateway) =
            (other.firstRef gateway, other.found gateway) := by
      intro other member
      rw [ModelAttempt.answered, if_neg]
      exact fun same => apart.1 (List.mem_map.mpr ⟨other, member, same⟩)
    simp only [List.map_append, List.map_cons, Function.comp_apply]
    congr 1
    · apply List.map_congr_left
      exact fun other member => others other (List.mem_append_left _ member)
    · congr 1
      · exact answered_self called once
      · apply List.map_congr_left
        exact fun other member => others other (List.mem_append_right _ member)

theorem keyed_requested {ctx : AgentContext} {payload : Fields}
    {written : String × String} {seq : Nat} (given : written.2 ≠ "") :
    (texts.filled (archivedEvent ctx "model_call_requested" payload written seq)
      (texts.newRow id (archivedEvent ctx "model_call_requested" payload written
        seq))).keyed =
      (id, { status := "requested", request := some written.2 }) := by
  have typed : (archivedEvent ctx "model_call_requested" payload written
      seq).type.text = "model_call_requested" := rfl
  simp [FailureTexts.filled, FailureTexts.newRow, FailureTexts.eventRefs, typed,
    eventRef_archived given, ModelEvidenceRow.keyed]

theorem keyed_failed {ctx : AgentContext} {payload : Fields}
    {written : String × String} {seq : Nat} (given : written.2 ≠ "") :
    (texts.filled (archivedEvent ctx "model_call_failed" payload written seq)
      (texts.newRow id (archivedEvent ctx "model_call_failed" payload written
        seq))).keyed =
      (id, { status := "failed", failure := some written.2 }) := by
  have typed : (archivedEvent ctx "model_call_failed" payload written
      seq).type.text = "model_call_failed" := rfl
  simp [FailureTexts.filled, FailureTexts.newRow, FailureTexts.eventRefs, typed,
    eventRef_archived given, ModelEvidenceRow.keyed]

theorem Reads.starts_called (reads : Reads gateway attempts state)
    (named : attempt.ctx.stepId ≠ "") (sent : attempt.sent.length = 1)
    (called : attempt.operation.isFailed = false) {asked : Json}
    (given : attempt.operation.request = some asked) (payload : Fields)
    (seq : Nat) :
    Reads gateway (attempts ++ [attempt])
      (texts.considered state (archivedEvent attempt.ctx "model_call_requested"
        payload (gateway.kept asked) seq)) := by
  have ref : (gateway.kept asked).2 = attempt.firstRef gateway := by
    simp [ModelAttempt.firstRef, called, ModelAttempt.requestRef, given]
  rw [considered_requested named (kept_ne_empty _ _), ref]
  refine reads.starts named sent (fun _ => rfl) ?_ ?_
  · intro failed
    rw [called] at failed
    cases failed
  · rw [keyed_requested (kept_ne_empty _ _)]
    simp [ModelAttempt.found, ModelAttempt.refs, called, sent,
      ModelAttempt.requestRef, given]

theorem Reads.starts_failed (reads : Reads gateway attempts state)
    (named : attempt.ctx.stepId ≠ "") (sent : attempt.sent.length = 1)
    (failed : attempt.operation.isFailed = true) (payload : Fields)
    (seq : Nat) :
    Reads gateway (attempts ++ [attempt])
      (texts.considered state (archivedEvent attempt.ctx "model_call_failed"
        payload (gateway.kept (.obj (attempt.operation.outcome gateway)))
        seq)) := by
  have ref : (gateway.kept (.obj (attempt.operation.outcome gateway))).2 =
      attempt.firstRef gateway := by
    simp [ModelAttempt.firstRef, failed, ModelAttempt.outcomeRef]
  rw [considered_failed (kept_ne_empty _ _), ref]
  refine reads.starts named sent ?_ (fun _ => rfl) ?_
  · intro called
    rw [failed] at called
    cases called
  · rw [keyed_failed (kept_ne_empty _ _)]
    simp [ModelAttempt.found, failed, ModelAttempt.outcomeRef]

theorem reads_of_logged {values : PyValues} {limits : ModelLimits}
    {events : List EventRow}
    (logged : Logged values gateway limits attempts events) :
    Reads gateway attempts (events.foldl texts.considered {}) := by
  induction logged with
  | nil =>
      constructor
      case waiting => intro step attempt none; cases none
      case rows => intro _; rfl
      all_goals simp
  | other logged event foreign ih =>
      rw [List.foldl_append]
      simp only [List.foldl_cons, List.foldl_nil]
      rw [FailureTexts.considered, if_pos foreign]
      exact ih
  | @starts attempts events logged ctx named operation args seq emits ih =>
      rw [List.foldl_append]
      simp only [List.foldl_cons, List.foldl_nil]
      have begins := operation.prefix_events values emits
      cases kind : operation.isFailed with
      | false =>
          obtain ⟨asked, first, second, given, all⟩ :=
            ModelOperation.events_called kind gateway ctx
          rw [all, List.cons_prefix_cons] at begins
          obtain ⟨rfl, _⟩ := begins
          exact ih.starts_called named rfl kind given first seq
      | true =>
          obtain ⟨payload, all⟩ :=
            ModelOperation.events_failed kind gateway ctx
          rw [all, List.cons_prefix_cons] at begins
          obtain ⟨rfl, _⟩ := begins
          exact ih.starts_failed named rfl kind payload seq
  | @continues before after attempt events logged last args seq emits ih =>
      rw [List.foldl_append]
      simp only [List.foldl_cons, List.foldl_nil]
      obtain ⟨called, once, payload, rfl⟩ :=
        ModelAttempt.answer (ih.sent attempt (by simp)) emits
      exact ih.continues last called once

end Reads

/-- The rows are those of the calls exactly when no two calls begin with the
same record and no failure has archived a request. -/
theorem model_evidence_iff (texts : FailureTexts) {values : PyValues}
    {gateway : ToolGateway} {limits : ModelLimits}
    {attempts : List ModelAttempt} {events : List EventRow}
    (logged : Logged values gateway limits attempts events) :
    ((texts.modelEvidenceRefs events).map ModelEvidenceRow.refs).Perm
        (attempts.map (ModelAttempt.refs gateway)) ↔
      (attempts.map (ModelAttempt.firstRef gateway)).Nodup ∧
        ∀ attempt ∈ attempts, attempt.operation.isFailed = true →
          attempt.operation.request = none := by
  have reads := @reads_of_logged texts gateway attempts values limits events
    logged
  have refs : ∀ rows : List ModelEvidenceRow,
      rows.map ModelEvidenceRow.keyed = attempts.map (fun attempt =>
        (attempt.firstRef gateway, attempt.found gateway)) →
      rows.map ModelEvidenceRow.refs =
        attempts.map (ModelAttempt.found gateway) := by
    intro rows same
    have second := congrArg (List.map Prod.snd) same
    rwa [List.map_map, List.map_map] at second
  constructor
  · intro rows
    have apart : (attempts.map (ModelAttempt.firstRef gateway)).Nodup := by
      have within := reads.distinct.subperm reads.known
      have whole := within.perm_of_length_le (by
        have sizes := rows.length_eq
        simp only [List.length_map] at sizes ⊢
        exact sizes.ge)
      exact whole.nodup_iff.mp reads.distinct
    refine ⟨apart, ?_⟩
    intro attempt member failed
    by_contra archived
    obtain ⟨asked, given⟩ := Option.ne_none_iff_exists'.mp archived
    have found := refs _ (reads.rows apart)
    rw [FailureTexts.modelEvidenceRefs, found] at rows
    obtain ⟨other, _, same⟩ := List.mem_map.mp
      (rows.mem_iff.mpr (List.mem_map_of_mem member))
    have request := congrArg ModelCallRefs.request same
    have failure := congrArg ModelCallRefs.failure same
    cases kind : other.operation.isFailed with
    | true =>
        simp [ModelAttempt.found, ModelAttempt.refs, kind, failed,
          ModelAttempt.requestRef, given] at request
    | false =>
        by_cases once : other.sent.length = 1 <;>
          simp [ModelAttempt.found, ModelAttempt.refs, kind, failed, once]
            at failure
  · rintro ⟨apart, requestless⟩
    have found := refs _ (reads.rows apart)
    rw [FailureTexts.modelEvidenceRefs, found]
    have same : attempts.map (ModelAttempt.found gateway) =
        attempts.map (ModelAttempt.refs gateway) := by
      apply List.map_congr_left
      intro attempt member
      unfold ModelAttempt.found
      split
      · rename_i failed
        simp [ModelAttempt.refs, failed, ModelAttempt.requestRef,
          requestless attempt member failed]
      · rfl
    rw [same]

/-! ### Two steps that ask a model -/

def modelContext (stepId : String) : AgentContext :=
  { runId := "run_0"
    sessionId := "session_0"
    stepId := stepId
    agentRole := "Agent"
    leaseToken := "lease_0"
    attempt := 1
    stateVersion := 0 }

/-- The digests are those of an empty request, of the answer to it, and of the
failure that is recorded below. -/
def modelGateway : ToolGateway :=
  { chargeGateway with
    sha256 := fun value =>
      if value = .obj [] then
        "44136fa355b3678a1146ad16f7e8649e94fb4fc21fe77e8310c060f61caaff8a"
      else if value = .obj (ModelEvidence.mockResponse [] (.obj [])) then
        "601c82f6fa610329748e6cf2a9c5042d0e2f59452f75d7ca84469640120ea9a3"
      else
        "daafadbca8fe9c8f0bd3ee0d968d89f534ad429f371140c09e2856731323c938" }

def modelValues : PyValues :=
  ⟨fun _ => .ok 0, fun _ => .ok "mock"⟩

def modelTimeout : ModelOperation :=
  .failed
    { provider := "openai"
      model := "gpt"
      errorType := "Timeout"
      message := "timed out" }

def requested (stepId : String) : EventArgs :=
  let written := modelGateway.kept (.obj [])
  (modelContext stepId).evidence "model_call_requested"
    [("request_ref", .str written.2)] written

def completed (stepId : String) : EventArgs :=
  let written := modelGateway.kept
    (.obj (ModelEvidence.mockResponse [] (.obj [])))
  (modelContext stepId).evidence "model_call_completed"
    [("response_ref", .str written.2)] written

def timedOutEvent (stepId : String) : EventArgs :=
  let outcome := modelTimeout.outcome modelGateway
  (modelContext stepId).evidence "model_call_failed" outcome
    (modelGateway.kept (.obj outcome))

/-- An empty request in the step, of which this much is recorded. -/
def asking (stepId : String) (sent : List EventArgs) : ModelAttempt :=
  ⟨modelContext stepId, .called [], sent⟩

theorem emits_requested (stepId : String) :
    ((ModelOperation.called []).program modelValues modelGateway {}
      (modelContext stepId)).Emits appended [requested stepId] :=
  .inr ⟨.ok (), _, .inr ⟨.ok 1, [], .inl rfl, rfl⟩, rfl⟩

theorem emits_completed (stepId : String) :
    ((ModelOperation.called []).program modelValues modelGateway {}
      (modelContext stepId)).Emits appended
        ([requested stepId] ++ [completed stepId]) :=
  .inr ⟨.ok (), _, .inr ⟨.ok 1, _, .inr ⟨.ok (), _,
    .inr ⟨.ok 2, [], Program.Emits.cut _, rfl⟩, rfl⟩, rfl⟩, rfl⟩

theorem emits_timedOut (stepId : String) :
    (modelTimeout.program modelValues modelGateway {}
      (modelContext stepId)).Emits appended [timedOutEvent stepId] :=
  .inr ⟨.ok (), _, .inr ⟨.ok 1, [], Program.Emits.cut _, rfl⟩, rfl⟩

theorem logged_apart :
    Logged modelValues modelGateway {}
      [asking "step_a" [requested "step_a", completed "step_a"],
        ⟨modelContext "step_b", modelTimeout, [timedOutEvent "step_b"]⟩]
      [(requested "step_a").row 1, (timedOutEvent "step_b").row 2,
        (completed "step_a").row 3] := by
  have first := Logged.starts (Logged.nil) (modelContext "step_a") (by decide)
    _ _ 1 (emits_requested "step_a")
  have second := first.starts (modelContext "step_b") (by decide) _ _ 2
    (emits_timedOut "step_b")
  exact @Logged.continues _ _ _ [] _ (asking "step_a" [requested "step_a"]) _
    second (by decide) _ 3 (emits_completed "step_a")

theorem logged_twice :
    Logged modelValues modelGateway {}
      [asking "step_a" [requested "step_a", completed "step_a"],
        asking "step_b" [requested "step_b", completed "step_b"]]
      [(requested "step_a").row 1, (completed "step_a").row 2,
        (requested "step_b").row 3, (completed "step_b").row 4] := by
  have first := Logged.starts (Logged.nil) (modelContext "step_a") (by decide)
    _ _ 1 (emits_requested "step_a")
  have second := @Logged.continues _ _ _ [] []
    (asking "step_a" [requested "step_a"]) _ first (by simp) _ 2
    (emits_completed "step_a")
  have third := second.starts (modelContext "step_b") (by decide) _ _ 3
    (emits_requested "step_b")
  exact @Logged.continues _ _ _ [_] [] (asking "step_b" [requested "step_b"]) _
    third (by simp) _ 4 (emits_completed "step_b")

theorem model_evidence_apart :
    ((asciiTexts.modelEvidenceRefs [(requested "step_a").row 1,
        (timedOutEvent "step_b").row 2,
        (completed "step_a").row 3]).map ModelEvidenceRow.refs).Perm
      ([asking "step_a" [requested "step_a", completed "step_a"],
        ⟨modelContext "step_b", modelTimeout, [timedOutEvent "step_b"]⟩].map
          (ModelAttempt.refs modelGateway)) :=
  (model_evidence_iff asciiTexts logged_apart).mpr (by decide)

/-- The two calls are told of as one. -/
theorem model_evidence_merged : ∃ attempts events,
    Logged modelValues modelGateway {} attempts events ∧
      ¬ ((asciiTexts.modelEvidenceRefs events).map ModelEvidenceRow.refs).Perm
        (attempts.map (ModelAttempt.refs modelGateway)) := by
  refine ⟨_, _, logged_twice, fun rows => ?_⟩
  have sizes := rows.length_eq
  revert sizes
  decide

end AgentLedger
