import AgentLedger.Diff
import AgentLedger.JsonUtil
import AgentLedger.Store.Schema
import Mathlib.Data.List.Sort

namespace AgentLedger

open Foundation

/-! `timetravel.py`: the state of a run, rebuilt from its events. -/

/-- `get_json` of the blob store: the value behind a reference, or an error. -/
abbrev Blobs := String → Except PyError Json

def decodePayload (blobs : Blobs) : PayloadRef → Except PyError Json
  | .inline payload => .ok payload
  | .blob ref => blobs ref

namespace Store

/-- The events of a run, in the order they were appended. -/
def log (store : Store) (runId : String) : List EventRow :=
  store.events.filter fun event => event.runId = runId

/-- `events`: `SELECT * FROM events WHERE run_id=? ORDER BY seq`. -/
def eventsOf (store : Store) (runId : String) : List EventRow :=
  (store.log runId).insertionSort fun first second => first.seq ≤ second.seq

end Store

structure TimeTravelFrame where
  seq : Nat
  eventType : EventType
  stepId : Option String
  agentRole : Option String
  stateVersion : Option Int
  stateChanged : Bool
  changedKeys : List String
  patch : Option Json
  stateDiff : Option DictDiff
  stateAfter : Option Json

structure TimeTravelReport where
  runId : String
  atSeq : Option Int
  eventCount : Nat
  timeline : List TimeTravelFrame
  stateAtSeq : Json
  selectedEvent : Option TimeTravelFrame

/-- `value if isinstance(value, dict) else {}`. -/
def objectOrEmpty : Json → Json
  | .obj fields => .obj fields
  | _ => .obj []

def patchForEvent (type : EventType) (payload : Json) : Option Json :=
  match payload with
  | .obj fields =>
      match type with
      | .runCreated =>
          some (objectOrEmpty
            ((Fields.get? fields "initial_state").getD (.obj [])))
      | .stateCommitted | .systemStatePatchApplied =>
          some (objectOrEmpty ((Fields.get? fields "patch").getD .null))
      | _ => none
  | _ => none

/-- The variables of `inspect` that its loop assigns. -/
structure Inspection where
  state : Json := .obj []
  stateAtSeq : Option Json := none
  selectedEvent : Option TimeTravelFrame := none
  timeline : List TimeTravelFrame := []

structure InspectArgs where
  runId : String
  atSeq : Option Int := none
  includeStates : Bool := false
  includeDiffs : Bool := false

def InspectArgs.selects (args : InspectArgs) (row : EventRow) : Bool :=
  args.atSeq.any fun limit => decide ((row.seq : Int) ≤ limit)

/-- The body of the loop over the rows. -/
def inspectRow (blobs : Blobs) (args : InspectArgs) (sofar : Inspection)
    (row : EventRow) : Except PyError Inspection := do
  let payload ← decodePayload blobs row.payloadRef
  let patch := patchForEvent row.type payload
  let state :=
    match patch with
    | some patch => mergePatch sofar.state patch
    | none => sofar.state
  let changes := diffDict sofar.state.fields state.fields
  let frame : TimeTravelFrame :=
    { seq := row.seq
      eventType := row.type
      stepId := row.stepId
      agentRole := row.agentRole
      stateVersion := row.stateVersion
      stateChanged := decide (changes.changedCount > 0)
      changedKeys := changes.changed.map Prod.fst
      patch := patch
      stateDiff := if args.includeDiffs then some changes else none
      stateAfter := if args.includeStates then some state else none }
  let selected := args.selects row
  return {
    state := state
    stateAtSeq := if selected then some state else sofar.stateAtSeq
    selectedEvent := if selected then some frame else sofar.selectedEvent
    timeline := sofar.timeline ++ [frame] }

def inspect (blobs : Blobs) (args : InspectArgs) (store : Store) :
    Except PyError TimeTravelReport := do
  let final ← (store.eventsOf args.runId).foldlM (inspectRow blobs args) {}
  return {
    runId := args.runId
    atSeq := args.atSeq
    eventCount := final.timeline.length
    timeline := final.timeline
    stateAtSeq := match args.atSeq with
      | none => final.state
      | some _ => final.stateAtSeq.getD (.obj [])
    selectedEvent := final.selectedEvent }

/-! ### What `inspect` computes -/

/-- What the event makes of the state. -/
def replayEvent (blobs : Blobs) (state : Json) (event : EventRow) : Json :=
  match decodePayload blobs event.payloadRef with
  | .ok payload =>
      match patchForEvent event.type payload with
      | some patch => mergePatch state patch
      | none => state
  | .error _ => state

def replay (blobs : Blobs) (state : Json) (events : List EventRow) : Json :=
  events.foldl (replayEvent blobs) state

/-- Every payload can be fetched. -/
def Readable (blobs : Blobs) (events : List EventRow) : Prop :=
  ∀ event ∈ events, ∃ payload,
    decodePayload blobs event.payloadRef = .ok payload

/-- The sequence numbers ascend. -/
def Ascending (events : List EventRow) : Prop :=
  events.Pairwise fun first second => first.seq < second.seq

section Inspect

variable {blobs : Blobs} {args : InspectArgs}

theorem inspectRow_of_readable {row : EventRow} {payload : Json}
    (decoded : decodePayload blobs row.payloadRef = .ok payload)
    (sofar : Inspection) :
    ∃ next, inspectRow blobs args sofar row = .ok next ∧
      next.state = replayEvent blobs sofar.state row ∧
      next.stateAtSeq =
        if args.selects row then some next.state else sofar.stateAtSeq := by
  refine ⟨_, by simp only [inspectRow, decoded]; rfl, ?_, rfl⟩
  simp only [replayEvent, decoded]

/-- The state kept is the one after the last row selected. -/
theorem inspectRows {rows : List EventRow} (ascending : Ascending rows)
    (readable : Readable blobs rows) (sofar : Inspection) :
    ∃ final, rows.foldlM (inspectRow blobs args) sofar = .ok final ∧
      final.state = replay blobs sofar.state rows ∧
      final.stateAtSeq =
        if rows.filter args.selects = [] then sofar.stateAtSeq
        else some (replay blobs sofar.state (rows.filter args.selects)) := by
  induction rows generalizing sofar with
  | nil => exact ⟨sofar, rfl, rfl, rfl⟩
  | cons row rest ih =>
      obtain ⟨first, later⟩ := List.pairwise_cons.mp ascending
      obtain ⟨payload, decoded⟩ := readable row List.mem_cons_self
      obtain ⟨next, stepped, state, kept⟩ :=
        @inspectRow_of_readable blobs args row payload decoded sofar
      obtain ⟨final, folded, finalState, finalKept⟩ := ih later
        (fun event member => readable event (List.mem_cons_of_mem _ member))
        next
      refine ⟨final, ?_, ?_, ?_⟩
      · rw [List.foldlM_cons, stepped]
        exact folded
      · rw [finalState, state]
        rfl
      · rw [finalKept, kept, List.filter_cons]
        cases chosen : args.selects row with
        | true =>
            simp only [if_true, List.cons_ne_nil, if_false, replay,
              List.foldl_cons, ← state]
            split
            case isTrue none_later => rw [none_later, List.foldl_nil]
            case isFalse => rfl
        | false =>
            have unselected : rest.filter args.selects = [] := by
              rw [List.filter_eq_nil_iff]
              intro event member
              have after := first event member
              simp only [InspectArgs.selects, Option.any_eq_true,
                decide_eq_true_eq, not_exists, not_and]
              simp only [InspectArgs.selects, Option.any_eq_false,
                decide_eq_false_iff_not] at chosen
              intro limit same below
              have beyond := chosen limit same
              omega
            simp [unselected]

/-- The report shows what the selected events make of nothing. -/
theorem inspect_of_readable {store : Store}
    (ascending : Ascending (store.log args.runId))
    (readable : Readable blobs (store.log args.runId)) :
    ∃ report, inspect blobs args store = .ok report ∧
      report.stateAtSeq = replay blobs (.obj []) ((store.log
        args.runId).filter fun row => args.atSeq.isNone || args.selects row) := by
  have sorted : store.eventsOf args.runId = store.log args.runId :=
    (ascending.imp fun below => le_of_lt below).insertionSort_eq
  obtain ⟨final, folded, state, kept⟩ :=
    @inspectRows blobs args _ ascending readable {}
  refine ⟨_, by simp only [inspect, sorted, folded]; rfl, ?_⟩
  cases at_ : args.atSeq with
  | none =>
      simp only [Option.isNone_none, Bool.true_or, List.filter_true]
      exact state
  | some limit =>
      simp only [Option.isNone_some, Bool.false_or, kept]
      split
      case isTrue unselected =>
          rw [unselected]
          rfl
      case isFalse => rfl

end Inspect

end AgentLedger
