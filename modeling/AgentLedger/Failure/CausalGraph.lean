import AgentLedger.Failure.Envelopes
import AgentLedger.Foundation.Framing
import Mathlib.Data.List.Sort

namespace AgentLedger

open Foundation

/-! `failure.py`: the graph from the failures of a run back to its evidence,
and when no two rows are taken for one. -/

/-- What a node stands for. -/
structure Named where
  kind : String
  value : String
  deriving DecidableEq

structure CausalNode where
  id : String
  kind : String
  attrs : Fields
  deriving DecidableEq

structure CausalEdge where
  source : String
  target : String
  kind : String
  deriving DecidableEq

structure CausalGraph where
  runId : String
  nodes : List CausalNode
  edges : List CausalEdge
  nodeCount : Nat
  edgeCount : Nat
  failureNodeCount : Nat

/-- A call of `add_node` or of `add_edge`. -/
inductive GraphCall
  | node (named : Named) (attrs : Fields)
  | edge (source target : Named) (kind : String)

namespace GraphCall

def node? : GraphCall → Option (Named × Fields)
  | node named attrs => some (named, attrs)
  | edge _ _ _ => none

def edge? : GraphCall → Option (Named × Named × String)
  | node _ _ => none
  | edge source target kind => some (source, target, kind)

end GraphCall

/-- The order in which edges are sorted. -/
def CausalEdge.before (first second : CausalEdge) : Bool :=
  if first.source ≠ second.source then decide (first.source < second.source)
  else if first.target ≠ second.target then
    decide (first.target < second.target)
  else decide (first.kind ≤ second.kind)

/-- An edge from the step that a row names, if it names one. -/
def stepEdge (stepId : String) (target : Named) (kind : String) :
    List GraphCall :=
  if stepId = "" then [] else [.edge ⟨"step", stepId⟩ target kind]

def CostRow.named (record : CostRow) : Named :=
  ⟨"cost", if record.costId = "" then record.category ++ ":" ++ record.name
    else record.costId⟩

namespace FailureTexts

variable (texts : FailureTexts)

/-- `_node_key`. -/
def nodeKey (named : Named) : String :=
  named.kind ++ ":" ++
    texts.slug (if named.value = "" then "unknown" else named.value)

/-- `str` of the value of a reference. -/
def refText : RefValue → String
  | .text value => value
  | .payload (.inline payload) => texts.column payload
  | .payload (.blob ref) => ref

def refNamed (ref : FailureRef) : Named :=
  ⟨ref.kind, texts.refText ref.value⟩

/-- `_merge_refs` of the references of an envelope. -/
def mergeRefs (envelope : FailureEnvelope) : List Named :=
  firsts id ((envelope.causalRefs ++ envelope.evidenceRefs).map texts.refNamed)

def stepCalls (run : Named) (step : StepRow) : List GraphCall :=
  let node : Named := ⟨"step", step.stepId⟩
  [.node node [("status", .str step.status.text),
      ("attempt", .int step.attempt)],
    .edge run node "contains_step"]

def eventCalls (run : Named) (event : EventRow) : List GraphCall :=
  let node : Named := ⟨"event", toString event.seq⟩
  [.node node [("event_type", .str event.type.text),
      ("step_id", Json.optional event.stepId)],
    .edge run node "emitted_event"] ++
    stepEdge (event.stepId.getD "") node "step_emitted_event"

def ledgerCalls (run : Named) (entry : LedgerRow) : List GraphCall :=
  let node : Named := ⟨"tool", entry.toolName⟩
  [.node node [("status", .str entry.status.text)],
    .edge run node "used_tool"] ++
    stepEdge entry.stepId node "step_used_tool"

def approvalCalls (run : Named) (approval : ApprovalRow) : List GraphCall :=
  let node : Named := ⟨"approval", approval.approvalId⟩
  [.node node [("status", .str approval.status.text),
      ("tool_name", .str approval.toolName)],
    .edge run node "requested_approval"] ++
    stepEdge approval.stepId node "step_requested_approval"

def costCalls (run : Named) (record : CostRow) : List GraphCall :=
  [.node record.named [("category", .str record.category),
      ("name", .str record.name), ("amount", .float record.amount),
      ("unit", .str record.unit)],
    .edge run record.named "recorded_cost"] ++
    stepEdge (record.stepId.getD "") record.named "step_recorded_cost"

def envelopeCalls (run : Named) (envelope : FailureEnvelope) :
    List GraphCall :=
  let node : Named := ⟨"failure", envelope.failureId⟩
  [.node node [("category", .str envelope.category),
      ("status", .str envelope.status), ("owner", .str envelope.owner)],
    .edge run node "has_failure"] ++
    (texts.mergeRefs envelope).flatMap fun ref =>
      [.node ref [], .edge ref node "caused_or_evidenced"]

/-- The calls of `from_snapshot`, loop after loop. -/
def graphCalls (snapshot : Snapshot) (envelopes : List FailureEnvelope)
    (costs : List CostRow) : List GraphCall :=
  let run : Named := ⟨"run", snapshot.runId⟩
  .node run [("status", .str snapshot.runStatus)] ::
    (snapshot.steps.flatMap (stepCalls run) ++
      snapshot.events.flatMap (eventCalls run) ++
      snapshot.ledger.flatMap (ledgerCalls run) ++
      snapshot.approvals.flatMap (approvalCalls run) ++
      costs.flatMap (costCalls run) ++
      envelopes.flatMap (texts.envelopeCalls run))

def toNode (call : Named × Fields) : CausalNode :=
  ⟨texts.nodeKey call.1, call.1.kind,
    call.2.filter fun attr => attr.2 ≠ .null⟩

def toEdge (call : Named × Named × String) : CausalEdge :=
  ⟨texts.nodeKey call.1, texts.nodeKey call.2.1, call.2.2⟩

/-- `nodes.setdefault`, and `if edge not in edges`. -/
def graphOf (runId : String) (calls : List GraphCall) : CausalGraph :=
  let nodes := firsts CausalNode.id
    ((calls.filterMap GraphCall.node?).map texts.toNode)
  let edges := firsts id ((calls.filterMap GraphCall.edge?).map texts.toEdge)
  { runId := runId
    nodes := nodes.insertionSort fun first second => first.id ≤ second.id
    edges := edges.insertionSort fun first second => first.before second
    nodeCount := nodes.length
    edgeCount := edges.length
    failureNodeCount := nodes.countP fun node => node.kind = "failure" }

/-- `FailureCausalGraphBuilder.from_snapshot`. -/
def causalGraph (snapshot : Snapshot) (envelopes : List FailureEnvelope)
    (costs : List CostRow) : CausalGraph :=
  texts.graphOf snapshot.runId (texts.graphCalls snapshot envelopes costs)

/-! ### What rows name -/

/-- What each node stands for. -/
def mentions (snapshot : Snapshot) (envelopes : List FailureEnvelope)
    (costs : List CostRow) : List Named :=
  ⟨"run", snapshot.runId⟩ ::
    (snapshot.steps.map (fun step => ⟨"step", step.stepId⟩) ++
      snapshot.events.map (fun event => ⟨"event", toString event.seq⟩) ++
      snapshot.ledger.map (fun entry => ⟨"tool", entry.toolName⟩) ++
      snapshot.approvals.map (fun approval =>
        ⟨"approval", approval.approvalId⟩) ++
      costs.map CostRow.named ++
      envelopes.flatMap fun envelope =>
        ⟨"failure", envelope.failureId⟩ :: texts.mergeRefs envelope)

/-- The steps that rows name as theirs. -/
def ownSteps (snapshot : Snapshot) (costs : List CostRow) : List Named :=
  ((snapshot.events.map (fun event => event.stepId.getD "") ++
    snapshot.ledger.map LedgerRow.stepId ++
    snapshot.approvals.map ApprovalRow.stepId ++
    costs.map (fun record => record.stepId.getD "")).filter
      (· ≠ "")).map (⟨"step", ·⟩)

def names (snapshot : Snapshot) (envelopes : List FailureEnvelope)
    (costs : List CostRow) : List Named :=
  texts.mentions snapshot envelopes costs ++ ownSteps snapshot costs

/-- The rows that fail, with the ids that their envelopes are given. -/
def failing (snapshot : Snapshot) : List (SourceKind × String) :=
  (snapshot.steps.filter StepRow.fails).map (fun row =>
      (.step, (texts.text (.str row.stepId)).getD snapshot.runId)) ++
    (snapshot.ledger.filter LedgerRow.fails).map (fun row =>
      (.toolLedger, ((texts.text (.str row.ledgerId)).or
        ((texts.text (.str row.toolName)).or
          (texts.text (.str row.stepId)))).getD snapshot.runId)) ++
    (snapshot.approvals.filter ApprovalRow.fails).map (fun row =>
      (.approval, ((texts.text (.str row.approvalId)).or
        ((texts.text (.str row.toolName)).or
          (texts.text (.str row.stepId)))).getD snapshot.runId)) ++
    (snapshot.events.filter EventRow.fails).map fun event =>
      (.event, toString event.seq)

/-- What `_failure_id` takes of an id. -/
def part (id : String) : Option String :=
  if id = "" then none else some (texts.slug id)

/-- No row is taken for another: there is an envelope for every one that fails,
a node for every kind and id, and an end of an edge stands for one of them. -/
structure KeepsApart (snapshot : Snapshot) (costs : List CostRow) : Prop where
  envelopes : texts.fromSnapshot snapshot = texts.allEnvelopes snapshot
  ids : ((texts.fromSnapshot snapshot).map FailureEnvelope.failureId).Nodup
  nodes : (texts.causalGraph snapshot (texts.fromSnapshot snapshot)
      costs).nodes.length =
    (texts.mentions snapshot (texts.fromSnapshot snapshot)
      costs).toFinset.card
  edges : ∀ edge ∈ (texts.causalGraph snapshot (texts.fromSnapshot snapshot)
      costs).edges, ∀ id ∈ [edge.source, edge.target],
    ∀ first ∈ texts.names snapshot (texts.fromSnapshot snapshot) costs,
    ∀ second ∈ texts.names snapshot (texts.fromSnapshot snapshot) costs,
      texts.nodeKey first = id → texts.nodeKey second = id → first = second

/-- The slugs tell the ids of each kind apart. -/
structure Distinguished (snapshot : Snapshot) (costs : List CostRow) :
    Prop where
  rows : ((texts.failing snapshot).map fun row =>
    (row.1, texts.part row.2)).Nodup
  names : ∀ first ∈ texts.names snapshot (texts.allEnvelopes snapshot) costs,
    ∀ second ∈ texts.names snapshot (texts.allEnvelopes snapshot) costs,
      first.kind = second.kind →
        texts.slug first.value = texts.slug second.value → first = second

variable {texts} {snapshot : Snapshot} {envelopes : List FailureEnvelope}
  {costs : List CostRow}

/-! ### Envelopes -/

theorem failureId_eq_iff {runId kind sourceId otherId : String}
    (given : kind ≠ "") :
    texts.failureId runId kind sourceId = texts.failureId runId kind otherId ↔
      texts.part sourceId = texts.part otherId := by
  rw [texts.failureId_eq sourceId given, texts.failureId_eq otherId given,
    String.append_right_inj, String.append_right_inj]
  by_cases named : sourceId = "" <;> by_cases other : otherId = "" <;>
    simp [part, named, other]

theorem kind_ne_run {row : SourceKind × String}
    (member : row ∈ texts.failing snapshot) : row.1 ≠ .run := by
  simp only [failing, List.mem_append, List.mem_map] at member
  rcases member with ((⟨_, _, rfl⟩ | ⟨_, _, rfl⟩) | ⟨_, _, rfl⟩) |
    ⟨_, _, rfl⟩ <;> simp

theorem map_failureId_rowEnvelopes (texts : FailureTexts)
    (snapshot : Snapshot) :
    (texts.rowEnvelopes snapshot).map FailureEnvelope.failureId =
      (texts.failing snapshot).map fun row =>
        texts.failureId snapshot.runId row.1.text row.2 := by
  simp only [rowEnvelopes, failing, List.map_append, List.map_map]
  rfl

theorem nodup_failureIds_iff :
    ((texts.allEnvelopes snapshot).map FailureEnvelope.failureId).Nodup ↔
      ((texts.failing snapshot).map fun row =>
        (row.1, texts.part row.2)).Nodup := by
  have named : ∀ kind : SourceKind, kind.text ≠ "" := by
    intro kind
    cases kind <;> decide
  have alike : ∀ first second : SourceKind × String,
      texts.failureId snapshot.runId first.1.text first.2 =
          texts.failureId snapshot.runId second.1.text second.2 ↔
        (first.1, texts.part first.2) = (second.1, texts.part second.2) := by
    rintro ⟨kind, id⟩ ⟨other, otherId⟩
    rw [Prod.mk.injEq]
    constructor
    · intro same
      obtain rfl := kind_of_failureId_eq same
      exact ⟨rfl, (failureId_eq_iff (named kind)).mp same⟩
    · rintro ⟨rfl, parts⟩
      exact (failureId_eq_iff (named kind)).mpr parts
  have rows : ((texts.rowEnvelopes snapshot).map
      FailureEnvelope.failureId).Nodup ↔
        ((texts.failing snapshot).map fun row =>
          (row.1, texts.part row.2)).Nodup := by
    rw [map_failureId_rowEnvelopes, List.Nodup, List.pairwise_map, List.Nodup,
      List.pairwise_map]
    exact List.Pairwise.iff fun first second => not_congr (alike first second)
  rw [← rows]
  simp only [allEnvelopes]
  split
  · rw [List.map_append, List.nodup_append]
    refine ⟨fun distinct => distinct.1, fun distinct => ⟨distinct, ?_, ?_⟩⟩
    · exact List.nodup_singleton _
    · intro id member other last same
      rw [map_failureId_rowEnvelopes] at member
      obtain ⟨row, among, rfl⟩ := List.mem_map.mp member
      rw [List.map_singleton, List.mem_singleton] at last
      rw [last] at same
      exact kind_ne_run among (@kind_of_failureId_eq _ _ _ _ _ .run same)
  · rfl

/-! ### The graph -/

theorem nodes_stepEdge (stepId kind : String) (target : Named) :
    (stepEdge stepId target kind).filterMap GraphCall.node? = [] := by
  unfold stepEdge
  split <;> rfl

theorem nodes_envelopeCalls (run : Named) (envelope : FailureEnvelope) :
    ((texts.envelopeCalls run envelope).filterMap GraphCall.node?).map
        Prod.fst =
      ⟨"failure", envelope.failureId⟩ :: texts.mergeRefs envelope := by
  simp only [envelopeCalls, List.filterMap_append, List.filterMap_cons,
    GraphCall.node?, List.filterMap_nil, List.map_cons,
    List.singleton_append, List.cons.injEq, true_and]
  induction texts.mergeRefs envelope with
  | nil => rfl
  | cons ref rest ih =>
      rw [List.flatMap_cons, List.filterMap_append, List.map_append, ih]
      rfl

theorem nodes_loop {Row : Type} {calls : Row → List GraphCall}
    {named : Row → List Named} (rows : List Row)
    (once : ∀ row, ((calls row).filterMap GraphCall.node?).map Prod.fst =
      named row) :
    ((rows.flatMap calls).filterMap GraphCall.node?).map Prod.fst =
      rows.flatMap named := by
  rw [List.filterMap_flatMap, List.map_flatMap]
  simp only [once]

theorem nodes_named (snapshot : Snapshot) (envelopes : List FailureEnvelope)
    (costs : List CostRow) :
    ((texts.graphCalls snapshot envelopes costs).filterMap
      GraphCall.node?).map Prod.fst =
        texts.mentions snapshot envelopes costs := by
  have steps := @nodes_loop _ (stepCalls ⟨"run", snapshot.runId⟩)
    (fun step => [⟨"step", step.stepId⟩]) snapshot.steps fun _ => rfl
  have events := @nodes_loop _ (eventCalls ⟨"run", snapshot.runId⟩)
    (fun event => [⟨"event", toString event.seq⟩]) snapshot.events
    fun event => by
      rw [eventCalls, List.filterMap_append, nodes_stepEdge]
      rfl
  have ledger := @nodes_loop _ (ledgerCalls ⟨"run", snapshot.runId⟩)
    (fun entry => [⟨"tool", entry.toolName⟩]) snapshot.ledger fun entry => by
      rw [ledgerCalls, List.filterMap_append, nodes_stepEdge]
      rfl
  have approvals := @nodes_loop _ (approvalCalls ⟨"run", snapshot.runId⟩)
    (fun approval => [⟨"approval", approval.approvalId⟩]) snapshot.approvals
    fun approval => by
      rw [approvalCalls, List.filterMap_append, nodes_stepEdge]
      rfl
  have records := @nodes_loop _ (costCalls ⟨"run", snapshot.runId⟩)
    (fun record => [record.named]) costs fun record => by
      rw [costCalls, List.filterMap_append, nodes_stepEdge]
      rfl
  have failures := @nodes_loop _ (texts.envelopeCalls ⟨"run", snapshot.runId⟩)
    (fun envelope =>
      ⟨"failure", envelope.failureId⟩ :: texts.mergeRefs envelope) envelopes
    (nodes_envelopeCalls _)
  simp only [graphCalls, List.filterMap_cons, GraphCall.node?,
    List.filterMap_append, List.map_cons, List.map_append, steps, events,
    ledger, approvals, records, failures]
  simp only [mentions, List.map_eq_flatMap]

theorem length_nodes (snapshot : Snapshot) (envelopes : List FailureEnvelope)
    (costs : List CostRow) :
    (texts.causalGraph snapshot envelopes costs).nodes.length =
      ((texts.mentions snapshot envelopes costs).toFinset.image
        texts.nodeKey).card := by
  simp only [causalGraph, graphOf, List.length_insertionSort, length_firsts]
  congr 1
  ext key
  rw [List.map_map, ← nodes_named]
  simp only [List.mem_toFinset, Finset.mem_image, List.mem_map,
    exists_exists_and_eq_and, Function.comp_apply, toNode]

/-- There is one node for each kind and id exactly when their keys differ. -/
theorem nodes_iff :
    (texts.causalGraph snapshot envelopes costs).nodes.length =
        (texts.mentions snapshot envelopes costs).toFinset.card ↔
      ∀ first ∈ texts.mentions snapshot envelopes costs,
        ∀ second ∈ texts.mentions snapshot envelopes costs,
          texts.nodeKey first = texts.nodeKey second → first = second := by
  rw [length_nodes, Finset.card_image_iff]
  simp only [Set.InjOn, List.coe_toFinset, Set.mem_ofPred_eq]

theorem edge_mem {source target : Named} {kind : String}
    (called : .edge source target kind ∈
      texts.graphCalls snapshot envelopes costs) :
    texts.toEdge (source, target, kind) ∈
      (texts.causalGraph snapshot envelopes costs).edges := by
  simp only [causalGraph, graphOf, List.mem_insertionSort]
  have among : texts.toEdge (source, target, kind) ∈
      (((texts.graphCalls snapshot envelopes costs).filterMap
        GraphCall.edge?).map texts.toEdge).map id := by
    rw [List.map_id]
    exact List.mem_map_of_mem (List.mem_filterMap.mpr ⟨_, called, rfl⟩)
  have kept := mem_map_firsts.mpr among
  rwa [List.map_id] at kept

theorem stepEdge_mem {stepId : String} (given : stepId ≠ "") (target : Named)
    (kind : String) :
    .edge ⟨"step", stepId⟩ target kind ∈ stepEdge stepId target kind := by
  rw [stepEdge, if_neg given]
  exact List.mem_singleton_self _

/-- A step that a row names is the source of an edge. -/
theorem exists_edge {named : Named} (member : named ∈ ownSteps snapshot costs) :
    ∃ edge ∈ (texts.causalGraph snapshot envelopes costs).edges,
      edge.source = texts.nodeKey named := by
  suffices called : ∃ target kind, .edge named target kind ∈
      texts.graphCalls snapshot envelopes costs by
    obtain ⟨target, kind, called⟩ := called
    exact ⟨_, edge_mem called, rfl⟩
  simp only [ownSteps, List.mem_map, List.mem_filter, List.mem_append,
    decide_eq_true_eq] at member
  obtain ⟨stepId, ⟨row, given⟩, rfl⟩ := member
  simp only [graphCalls, List.mem_cons, List.mem_append, List.mem_flatMap,
    eventCalls, ledgerCalls, approvalCalls, costCalls]
  rcases row with ((⟨event, inside, rfl⟩ | ⟨entry, inside, rfl⟩) |
    ⟨approval, inside, rfl⟩) | ⟨record, inside, rfl⟩
  · exact ⟨_, _, .inr (.inl (.inl (.inl (.inl (.inr
      ⟨event, inside, .inr (stepEdge_mem given _ _)⟩)))))⟩
  · exact ⟨_, _, .inr (.inl (.inl (.inl (.inr
      ⟨entry, inside, .inr (stepEdge_mem given _ _)⟩))))⟩
  · exact ⟨_, _, .inr (.inl (.inl (.inr
      ⟨approval, inside, .inr (stepEdge_mem given _ _)⟩)))⟩
  · exact ⟨_, _, .inr (.inl (.inr
      ⟨record, inside, .inr (stepEdge_mem given _ _)⟩))⟩

/-! ### Keys -/

theorem failureRefs_kind {stepId toolName approvalId : Option String}
    {eventSeq : Option Nat} {blobRef : Option RefValue} {ref : FailureRef}
    (member : ref ∈ failureRefs stepId toolName approvalId eventSeq blobRef) :
    ref.kind ∈ ["step", "tool", "approval", "event", "blob"] := by
  obtain ⟨⟨kind, value⟩, among, made⟩ := List.mem_filterMap.mp member
  obtain ⟨_, _, rfl⟩ := Option.map_eq_some_iff.mp made
  have known := List.mem_map_of_mem (f := Prod.fst) among
  exact known

theorem Source.kind_mem {kind : SourceKind} {envelope : FailureEnvelope}
    (source : texts.Source snapshot kind envelope) {ref : FailureRef}
    (member : ref ∈ envelope.causalRefs ++ envelope.evidenceRefs) :
    ref.kind ∈ ["run", "step", "tool", "approval", "event", "blob"] := by
  have refs : ref.kind ∈ ["step", "tool", "approval", "event", "blob"] →
      ref.kind ∈ ["run", "step", "tool", "approval", "event", "blob"] :=
    List.mem_cons_of_mem _
  rw [List.mem_append] at member
  cases source with
  | step row among fails =>
      exact refs (member.elim failureRefs_kind failureRefs_kind)
  | ledger row among fails =>
      exact refs (member.elim failureRefs_kind failureRefs_kind)
  | approval row among fails =>
      exact refs (member.elim failureRefs_kind failureRefs_kind)
  | event event among fails =>
      exact refs (member.elim failureRefs_kind failureRefs_kind)
  | run cancelled =>
      rcases member with own | none
      · rw [List.mem_singleton.mp own]
        exact List.mem_cons_self ..
      · cases none

theorem kind_known {named : Named}
    (member : named ∈ texts.names snapshot (texts.allEnvelopes snapshot)
      costs) :
    named.kind ∈ ["cost", "failure", "run", "step", "tool", "approval",
      "event", "blob"] := by
  simp only [names, mentions, ownSteps, List.mem_append, List.mem_cons,
    List.mem_map, List.mem_flatMap] at member
  rcases member with (rfl | ((((⟨_, _, rfl⟩ | ⟨_, _, rfl⟩) | ⟨_, _, rfl⟩) |
    ⟨_, _, rfl⟩) | ⟨_, _, rfl⟩) | ⟨envelope, among, rfl | merged⟩) |
    ⟨_, _, rfl⟩
  any_goals simp [CostRow.named]
  obtain ⟨ref, inside, rfl⟩ := List.mem_map.mp (mem_of_mem_firsts merged)
  obtain ⟨kind, source⟩ := source_of_mem among
  have known := source.kind_mem inside
  simpa [refNamed] using Or.inr (Or.inr known)

theorem slug_empty : texts.slug "" = "unknown" := by
  simp [slug, stripDashes, squeeze]

theorem slug_unknown : texts.slug "unknown" = "unknown" := by
  simp [slug, alnum, lowered, stripDashes, squeeze]

theorem nodeKey_eq (texts : FailureTexts) (named : Named) :
    texts.nodeKey named = named.kind ++ ":" ++ texts.slug named.value := by
  unfold nodeKey
  split
  · rename_i none
    rw [none, slug_empty, slug_unknown]
  · rfl

theorem nodeKey_eq_iff {first second : Named} (free : ':' ∉ first.kind.toList)
    (other : ':' ∉ second.kind.toList) :
    texts.nodeKey first = texts.nodeKey second ↔
      first.kind = second.kind ∧
        texts.slug first.value = texts.slug second.value := by
  rw [nodeKey_eq, nodeKey_eq]
  constructor
  · intro same
    have letters := congrArg String.toList same
    simp only [String.toList_append, List.append_assoc] at letters
    obtain ⟨kinds, slugs⟩ := split_separator free other letters
    exact ⟨String.toList_inj.mp kinds, String.toList_inj.mp slugs⟩
  · rintro ⟨kinds, slugs⟩
    rw [kinds, slugs]

/-- The rows of a snapshot are kept apart exactly when the slugs of their ids
differ. -/
theorem keeps_apart_iff (texts : FailureTexts) (snapshot : Snapshot)
    (costs : List CostRow) :
    texts.KeepsApart snapshot costs ↔ texts.Distinguished snapshot costs := by
  have keys : (∀ first ∈ texts.names snapshot (texts.allEnvelopes snapshot)
        costs, ∀ second ∈ texts.names snapshot (texts.allEnvelopes snapshot)
        costs, first.kind = second.kind →
          texts.slug first.value = texts.slug second.value → first = second) ↔
      ∀ first ∈ texts.names snapshot (texts.allEnvelopes snapshot) costs,
        ∀ second ∈ texts.names snapshot (texts.allEnvelopes snapshot) costs,
          texts.nodeKey first = texts.nodeKey second → first = second := by
    have free : ∀ kind ∈ ["cost", "failure", "run", "step", "tool",
        "approval", "event", "blob"], ':' ∉ kind.toList := by decide
    refine forall₂_congr fun first among => forall₂_congr fun second other => ?_
    rw [nodeKey_eq_iff (free _ (kind_known among)) (free _ (kind_known other)),
      and_imp]
  constructor
  · intro apart
    have whole := apart.envelopes
    refine ⟨?_, keys.mpr ?_⟩
    · rw [← nodup_failureIds_iff, ← whole]
      exact apart.ids
    · have nodes := nodes_iff.mp apart.nodes
      have edges := apart.edges
      rw [whole] at nodes edges
      intro first among second other same
      -- A step that only its rows name has no node, but it is on an edge.
      rcases List.mem_append.mp among with node | step
      · rcases List.mem_append.mp other with own | step
        · exact nodes first node second own same
        · obtain ⟨edge, called, source⟩ := exists_edge step
          exact edges edge called edge.source (List.mem_cons_self ..)
            first among second other (same.trans source.symm) source.symm
      · obtain ⟨edge, called, source⟩ := exists_edge step
        exact edges edge called edge.source (List.mem_cons_self ..)
          first among second other source.symm (same.symm.trans source.symm)
  · intro told
    have distinct := nodup_failureIds_iff.mpr told.rows
    have whole : texts.fromSnapshot snapshot = texts.allEnvelopes snapshot :=
      firsts_eq_self_iff.mpr distinct
    have apart := keys.mp told.names
    refine ⟨whole, ?_, ?_, ?_⟩
    · rw [whole]
      exact distinct
    · rw [whole, nodes_iff]
      exact fun first among second other => apart first
        (List.mem_append_left _ among) second (List.mem_append_left _ other)
    · rw [whole]
      intro edge called id ends first among second other key same
      exact apart first among second other (key.trans same.symm)

/-- Two failed steps whose ids are slugged alike. -/
def alikeSteps : Snapshot :=
  let step (stepId : String) : StepRow :=
    { stepId := stepId
      runId := "run_0"
      sessionId := "session_0"
      status := .failed
      attempt := 1
      stateVersion := 0
      retryPolicy := {}
      createdAt := 0 }
  { runId := "run_0"
    runStatus := "failed"
    steps := [step "fetch-a", step "Fetch.A"]
    ledger := []
    approvals := []
    events := [] }

theorem alike_steps_merged :
    (alikeSteps.steps.map StepRow.stepId).Nodup ∧
      (alikeSteps.ledger.map LedgerRow.ledgerId).Nodup ∧
      (alikeSteps.approvals.map ApprovalRow.approvalId).Nodup ∧
      (alikeSteps.events.map EventRow.seq).Nodup ∧
      ¬ asciiTexts.KeepsApart alikeSteps [] := by
  refine ⟨by decide, by decide, by decide, by decide, ?_⟩
  intro apart
  have distinct := apart.ids
  rw [apart.envelopes, nodup_failureIds_iff] at distinct
  revert distinct
  decide

end FailureTexts

end AgentLedger
