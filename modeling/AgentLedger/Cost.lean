import AgentLedger.Foundation.Buckets
import AgentLedger.Store.Calls
import AgentLedger.TimeTravel
import Mathlib.Algebra.Ring.Rat

namespace AgentLedger

open Foundation

/-! `cost.py`: the costs of a run by agent, by step, by category and by name. -/

/-- The amounts of one bucket: the three measures, and one under each
`category:unit`. -/
abbrev Totals := List (String × Rat)

def emptyTotals : Totals :=
  [("tool_calls", 0), ("model_tokens", 0), ("total_usd", 0)]

/-- `totals[key] = totals.get(key, 0.0) + amount`. -/
def Totals.add (totals : Totals) (key : String) (amount : Rat) : Totals :=
  Buckets.alter 0 (fun held => held + amount) key totals

def addAmount (category unit : String) (amount : Rat) (totals : Totals) :
    Totals :=
  let totals :=
    if (category == "tool" || category == "tool_shadow") && unit == "call" then
      totals.add "tool_calls" amount
    else totals
  let totals :=
    if category == "model" && unit == "token" then
      totals.add "model_tokens" amount
    else totals
  let totals :=
    if unit == "usd" then totals.add "total_usd" amount else totals
  totals.add (category ++ ":" ++ unit) amount

structure StepBucket where
  agentRole : String
  totals : Totals := emptyTotals

structure CostAttributionReport where
  runId : String
  total : Totals := emptyTotals
  byAgent : List (String × Totals) := []
  byStep : List (String × StepBucket) := []
  byCategory : List (String × Totals) := []
  byName : List (String × Totals) := []

/-- `_step_agent_roles`: of the roles that a step's events name, the last; the
events of the run itself stand under `None`. -/
def stepAgentRoles (events : List EventRow) : List (Option String × String) :=
  events.foldl (fun roles event =>
    match event.agentRole with
    | some role =>
        if role.isEmpty then roles
        else Buckets.alter role (fun _ => role) event.stepId roles
    | none => roles) []

/-- `row["step_id"] or "<run>"`. -/
def stepBucketId (stepId : Option String) : String :=
  match stepId with
  | some text => if text.isEmpty then "<run>" else text
  | none => "<run>"

/-- The body of the loop over the cost records. -/
def attributeCost (stepAgents : List (Option String × String))
    (report : CostAttributionReport) (row : CostRow) : CostAttributionReport :=
  let agentRole := Buckets.get "<unknown>" row.stepId stepAgents
  let add := addAmount row.category row.unit row.amount
  { report with
    total := add report.total
    byAgent := Buckets.alter emptyTotals add agentRole report.byAgent
    byStep := Buckets.alter { agentRole := agentRole }
      (fun bucket => { bucket with totals := add bucket.totals })
      (stepBucketId row.stepId) report.byStep
    byCategory := Buckets.alter emptyTotals add row.category report.byCategory
    byName := Buckets.alter emptyTotals add row.name report.byName }

/-- `CostAttributionReporter.report`. -/
def costReport (store : Store) (runId : String) : CostAttributionReport :=
  (store.query (.costRecords runId)).foldl
    (attributeCost (stepAgentRoles (store.eventsOf runId))) { runId := runId }

/-! ### What a record adds -/

/-- `totals.get(key, 0.0)`. -/
def Totals.amount (key : String) (totals : Totals) : Rat :=
  Buckets.get 0 key totals

@[simp] theorem Totals.amount_add (totals : Totals) (key other : String)
    (amount : Rat) :
    (totals.add key amount).amount other =
      totals.amount other + if other = key then amount else 0 := by
  rw [Totals.amount, Totals.add, Buckets.get_alter]
  split
  · rename_i same
    rw [same, Totals.amount]
  · rw [add_zero, Totals.amount]

@[simp] theorem amount_emptyTotals (key : String) :
    emptyTotals.amount key = 0 := by
  simp [Totals.amount, emptyTotals, Buckets.get]

/-- What a record adds to a bucket under a key. -/
def CostRow.adds (key : String) (row : CostRow) : Rat :=
  (if (row.category == "tool" || row.category == "tool_shadow") &&
      row.unit == "call" then (if key = "tool_calls" then row.amount else 0)
    else 0) +
  (if row.category == "model" && row.unit == "token" then
      (if key = "model_tokens" then row.amount else 0) else 0) +
  (if row.unit == "usd" then (if key = "total_usd" then row.amount else 0)
    else 0) +
  (if key = row.category ++ ":" ++ row.unit then row.amount else 0)

theorem amount_addAmount (row : CostRow) (key : String) (totals : Totals) :
    (addAmount row.category row.unit row.amount totals).amount key =
      totals.amount key + row.adds key := by
  have given (condition : Bool) (name : String) (totals : Totals) :
      (if condition then totals.add name row.amount else totals).amount key =
        totals.amount key +
          if condition then (if key = name then row.amount else 0) else 0 := by
    cases condition with
    | false => simp
    | true => simp
  simp only [addAmount, CostRow.adds, Totals.amount_add, given, add_assoc]

/-! ### The sums of a report -/

/-- What each way to split the costs adds up to under a key. -/
structure CostAttributionReport.Balanced (report : CostAttributionReport)
    (key : String) : Prop where
  byAgent : Buckets.total (Totals.amount key) report.byAgent =
    report.total.amount key
  byStep : Buckets.total (fun bucket => bucket.totals.amount key)
    report.byStep = report.total.amount key
  byCategory : Buckets.total (Totals.amount key) report.byCategory =
    report.total.amount key
  byName : Buckets.total (Totals.amount key) report.byName =
    report.total.amount key

section Report

variable {stepAgents : List (Option String × String)}
  {report : CostAttributionReport} {key : String}

theorem amount_attributeCost (row : CostRow) :
    (attributeCost stepAgents report row).total.amount key =
      report.total.amount key + row.adds key :=
  amount_addAmount row key report.total

theorem CostAttributionReport.Balanced.attribute
    (balanced : report.Balanced key) (row : CostRow) :
    (attributeCost stepAgents report row).Balanced key := by
  have bucket (totals : Totals) := amount_addAmount row key totals
  have empty := amount_emptyTotals key
  constructor <;> rw [amount_attributeCost]
  · rw [← balanced.byAgent]
    exact Buckets.total_alter empty bucket _ _
  · rw [← balanced.byStep]
    apply Buckets.total_alter
    · exact empty
    · exact fun held => bucket held.totals
  · rw [← balanced.byCategory]
    exact Buckets.total_alter empty bucket _ _
  · rw [← balanced.byName]
    exact Buckets.total_alter empty bucket _ _

theorem balanced_empty (runId : String) :
    ({ runId := runId } : CostAttributionReport).Balanced key := by
  constructor <;> exact (amount_emptyTotals key).symm

theorem CostAttributionReport.Balanced.attributes
    (balanced : report.Balanced key) (rows : List CostRow) :
    (rows.foldl (attributeCost stepAgents) report).Balanced key := by
  induction rows generalizing report with
  | nil => exact balanced
  | cons row rest ih => exact ih (balanced.attribute row)

theorem amount_attributes (rows : List CostRow) :
    (rows.foldl (attributeCost stepAgents) report).total.amount key =
      report.total.amount key + (rows.map (CostRow.adds key)).sum := by
  induction rows generalizing report with
  | nil => simp
  | cons row rest ih =>
      rw [List.foldl_cons, ih, amount_attributeCost, List.map_cons,
        List.sum_cons, add_assoc]

end Report

theorem balanced_costReport (store : Store) (runId key : String) :
    (costReport store runId).Balanced key :=
  (balanced_empty runId).attributes _

theorem total_costReport (store : Store) (runId key : String) :
    (costReport store runId).total.amount key =
      ((store.query (.costRecords runId)).map (CostRow.adds key)).sum := by
  rw [costReport, amount_attributes, amount_emptyTotals, zero_add]

/-! ### Against the summary of the store -/

theorem sumAmounts_eq (rows : List CostRow) :
    sumAmounts rows = (rows.map CostRow.amount).sum := by
  rw [sumAmounts, List.sum_eq_foldl, List.foldl_map]

theorem sumAmounts_filter (counts : CostRow → Bool) (rows : List CostRow) :
    sumAmounts (rows.filter counts) =
      (rows.map fun row => if counts row then row.amount else 0).sum := by
  rw [sumAmounts_eq]
  induction rows with
  | nil => rfl
  | cons row rest ih =>
      rw [List.filter_cons, List.map_cons, List.sum_cons, ← ih]
      cases counts row with
      | false => simp
      | true => simp

/-- A measure is no `category:unit`. -/
theorem ne_keyed {measure : String} (plain : ':' ∉ measure.toList)
    (category unit : String) : measure ≠ category ++ ":" ++ unit := by
  intro same
  apply plain
  rw [same]
  simp

theorem CostRow.adds_keyed (row : CostRow) (category unit : String) :
    row.adds (category ++ ":" ++ unit) =
      if category ++ ":" ++ unit = row.category ++ ":" ++ row.unit then
        row.amount
      else 0 := by
  have toolCalls := @ne_keyed "tool_calls" (by decide) category unit
  have modelTokens := @ne_keyed "model_tokens" (by decide) category unit
  have totalUsd := @ne_keyed "total_usd" (by decide) category unit
  simp only [adds, if_neg toolCalls.symm, if_neg modelTokens.symm,
    if_neg totalUsd.symm, ite_self, zero_add]

theorem total_measure (store : Store) (runId : String) {measure : String}
    {counts : CostRow → Bool}
    (adds : ∀ row : CostRow, row.adds measure =
      if counts row then row.amount else 0) :
    (costReport store runId).total.amount measure =
      sumAmounts ((store.query (.costRecords runId)).filter counts) := by
  rw [total_costReport, sumAmounts_filter, List.map_congr_left]
  intro row _
  exact adds row

theorem amount_byCategory (rows : List CostRow) (totals : Totals)
    (key : String) :
    Totals.amount key (rows.foldl (fun totals row =>
        addToCategory totals (row.category ++ ":" ++ row.unit) row.amount)
          totals) =
      totals.amount key + (rows.map fun row =>
        if key = row.category ++ ":" ++ row.unit then row.amount else 0).sum := by
  have adds (key : String) (amount : Rat) (totals : Totals) :
      addToCategory totals key amount = totals.add key amount := by
    induction totals with
    | nil => simp [addToCategory, Totals.add, Buckets.alter]
    | cons entry rest ih =>
        simp only [Totals.add] at ih
        simp only [addToCategory, Totals.add, Buckets.alter, ih]
  induction rows generalizing totals with
  | nil => simp
  | cons row rest ih =>
      rw [List.foldl_cons, ih, adds, Totals.amount_add, List.map_cons,
        List.sum_cons, add_assoc]

/-- The report and the summary count alike, and what a report splits up adds up
to its total: under each measure, and under every other key. -/
theorem costReports_agree (store : Store) (runId : String) (moment : Moment) :
    ∃ summary : CostSummary,
      perform (costSummary runId) moment store = (.ok summary, store) ∧
      (costReport store runId).total.amount "tool_calls" =
        summary.toolCalls ∧
      (costReport store runId).total.amount "model_tokens" =
        summary.modelTokens ∧
      (costReport store runId).total.amount "total_usd" = summary.totalUsd ∧
      (∀ category unit,
        (costReport store runId).total.amount (category ++ ":" ++ unit) =
          Totals.amount (category ++ ":" ++ unit) summary.byCategory) ∧
      ∀ key, (costReport store runId).Balanced key := by
  have toolCalls : ∀ category unit, "tool_calls" ≠ category ++ ":" ++ unit :=
    ne_keyed (by decide)
  have modelTokens : ∀ category unit,
      "model_tokens" ≠ category ++ ":" ++ unit := ne_keyed (by decide)
  have totalUsd : ∀ category unit, "total_usd" ≠ category ++ ":" ++ unit :=
    ne_keyed (by decide)
  refine ⟨_, rfl, ?_, ?_, ?_, ?_, balanced_costReport store runId⟩
  · apply total_measure
    intro row
    simp [CostRow.adds, toolCalls]
  · apply total_measure
    intro row
    simp [CostRow.adds, modelTokens]
  · apply total_measure
    intro row
    simp [CostRow.adds, totalUsd]
  · intro category unit
    rw [total_costReport, amount_byCategory,
      List.map_congr_left fun row _ => row.adds_keyed category unit]
    exact (zero_add _).symm

end AgentLedger
