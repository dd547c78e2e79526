import Mathlib.Data.List.Basic

namespace Foundation

/-! Runs of a labelled transition function.  A run is the list of its labels;
a label that is not enabled leaves the state as it is. -/

section Run

variable {State Label : Type*} (step : Label → State → State)

def runFrom (state : State) : List Label → State
  | [] => state
  | label :: rest => runFrom (step label state) rest

/-- Every step of the run meets `condition` in the state it is taken from. -/
def Each (condition : State → Label → Prop) (state : State) :
    List Label → Prop
  | [] => True
  | label :: rest =>
      condition state label ∧ Each condition (step label state) rest

/-- Every state of the run, the first and the last included, meets `good`. -/
def Always (good : State → Prop) (state : State) : List Label → Prop
  | [] => good state
  | label :: rest => good state ∧ Always good (step label state) rest

instance Each.decidable {condition : State → Label → Prop}
    [decides : ∀ state label, Decidable (condition state label)] :
    (state : State) → (labels : List Label) →
      Decidable (Each step condition state labels)
  | _, [] => isTrue trivial
  | state, label :: rest =>
      match decides state label, decidable (step label state) rest with
      | isTrue met, isTrue later => isTrue ⟨met, later⟩
      | isFalse failed, _ => isFalse fun each => failed each.1
      | _, isFalse failed => isFalse fun each => failed each.2

variable {step}

@[simp] theorem runFrom_nil (state : State) :
    runFrom step state [] = state := rfl

@[simp] theorem runFrom_cons (state : State) (label : Label)
    (rest : List Label) :
    runFrom step state (label :: rest) =
      runFrom step (step label state) rest := rfl

theorem runFrom_append (state : State) (first second : List Label) :
    runFrom step state (first ++ second) =
      runFrom step (runFrom step state first) second := by
  induction first generalizing state with
  | nil => rfl
  | cons label rest ih => exact ih (step label state)

theorem Each.append {condition : State → Label → Prop} {state : State}
    {first second : List Label} :
    Each step condition state (first ++ second) ↔
      Each step condition state first ∧
        Each step condition (runFrom step state first) second := by
  induction first generalizing state with
  | nil => simp [Each]
  | cons label rest ih =>
      simp only [List.cons_append, Each, runFrom_cons, ih, and_assoc]

theorem Each.imp (invariant : State → Prop)
    {first second : State → Label → Prop}
    (preserved : ∀ state label, invariant state →
      invariant (step label state))
    (gives : ∀ state label, invariant state → first state label →
      second state label)
    {state : State} {labels : List Label} (start : invariant state)
    (each : Each step first state labels) :
    Each step second state labels := by
  induction labels generalizing state with
  | nil => trivial
  | cons label rest ih =>
      exact ⟨gives state label start each.1,
        ih (preserved state label start) each.2⟩

/-- The invariant rule: what every admitted step keeps holds at the end. -/
theorem Each.invariant {condition : State → Label → Prop}
    {good : State → Prop}
    (preserved : ∀ state label, good state → condition state label →
      good (step label state))
    {state : State} {labels : List Label} (start : good state)
    (each : Each step condition state labels) :
    good (runFrom step state labels) := by
  induction labels generalizing state with
  | nil => exact start
  | cons label rest ih =>
      exact ih (preserved state label start each.1) each.2

/-- The same for every state of the run. -/
theorem Each.always {condition : State → Label → Prop}
    {good : State → Prop}
    (preserved : ∀ state label, good state → condition state label →
      good (step label state))
    {state : State} {labels : List Label} (start : good state)
    (each : Each step condition state labels) :
    Always step good state labels := by
  induction labels generalizing state with
  | nil => exact start
  | cons label rest ih =>
      exact ⟨start, ih (preserved state label start each.1) each.2⟩

theorem Always.mono {good better : State → Prop}
    (weaker : ∀ state, good state → better state)
    {state : State} {labels : List Label}
    (always : Always step good state labels) :
    Always step better state labels := by
  induction labels generalizing state with
  | nil => exact weaker state always
  | cons label rest ih => exact ⟨weaker state always.1, ih always.2⟩

theorem runFrom_invariant {good : State → Prop}
    (preserved : ∀ state label, good state → good (step label state))
    {state : State} (labels : List Label) (start : good state) :
    good (runFrom step state labels) := by
  induction labels generalizing state with
  | nil => exact start
  | cons label rest ih => exact ih (preserved state label start)

theorem each_iff {condition : State → Label → Prop} {state : State}
    {labels : List Label} :
    Each step condition state labels ↔
      ∀ before label later, labels = before ++ label :: later →
        condition (runFrom step state before) label := by
  induction labels generalizing state with
  | nil => simp [Each]
  | cons head rest ih =>
      simp only [Each, ih]
      constructor
      · intro each before label later split
        cases before with
        | nil =>
            cases split
            exact each.1
        | cons first others =>
            cases split
            exact each.2 others label later rfl
      · intro every
        refine ⟨every [] head rest rfl, fun before label later split => ?_⟩
        exact every (head :: before) label later (by rw [split]; rfl)

/-- Under an invariant that the first condition keeps, two step conditions that
agree wherever it holds are met by the same runs. -/
theorem Each.congr (invariant : State → Prop)
    {first second : State → Label → Prop}
    (preserved : ∀ state label, invariant state → first state label →
      invariant (step label state))
    (agree : ∀ state label, invariant state →
      (first state label ↔ second state label))
    {state : State} {labels : List Label} (start : invariant state) :
    Each step first state labels ↔ Each step second state labels := by
  induction labels generalizing state with
  | nil => exact Iff.rfl
  | cons label rest ih =>
      constructor
      · rintro ⟨met, later⟩
        have next := preserved state label start met
        exact ⟨(agree state label start).mp met, (ih next).mp later⟩
      · rintro ⟨met, later⟩
        have other := (agree state label start).mpr met
        have next := preserved state label start other
        exact ⟨other, (ih next).mpr later⟩

/-- Where one step from a good state ends well exactly when it meets the
condition, a run is good throughout exactly when each of its steps does. -/
theorem always_iff_each (invariant : State → Prop) {good : State → Prop}
    {condition : State → Label → Prop}
    (preserved : ∀ state label, invariant state →
      invariant (step label state))
    (exact : ∀ state label, invariant state → good state →
      (good (step label state) ↔ condition state label))
    {state : State} {labels : List Label} (start : invariant state)
    (begun : good state) :
    Always step good state labels ↔ Each step condition state labels := by
  induction labels generalizing state with
  | nil => exact ⟨fun _ => trivial, fun _ => begun⟩
  | cons label rest ih =>
      have next := preserved state label start
      have stepExact := exact state label start begun
      constructor
      · rintro ⟨_, later⟩
        have arrived : good (step label state) := by
          cases rest with
          | nil => exact later
          | cons _ _ => exact later.1
        exact ⟨stepExact.mp arrived, (ih next arrived).mp later⟩
      · rintro ⟨met, later⟩
        have arrived := stepExact.mpr met
        exact ⟨begun, (ih next arrived).mpr later⟩

/-- Among runs of premised steps: where the condition keeps the invariant, and
a good step from it meets the condition, a run is good throughout exactly when
each of its steps meets the condition. -/
theorem always_iff_premised (invariant : State → Prop) {good : State → Prop}
    {premise condition : State → Label → Prop}
    (sound : ∀ state, invariant state → good state)
    (preserved : ∀ state label, invariant state → premise state label →
      condition state label → invariant (step label state))
    (exact : ∀ state label, invariant state → premise state label →
      good (step label state) → condition state label)
    {state : State} {labels : List Label} (start : invariant state)
    (premised : Each step premise state labels) :
    Always step good state labels ↔ Each step condition state labels := by
  induction labels generalizing state with
  | nil => exact ⟨fun _ => trivial, fun _ => sound state start⟩
  | cons label rest ih =>
      constructor
      · intro always
        have arrived : good (step label state) := by
          cases rest with
          | nil => exact always.2
          | cons _ _ => exact always.2.1
        have met := exact state label start premised.1 arrived
        have next := preserved state label start premised.1 met
        exact ⟨met, (ih next premised.2).mp always.2⟩
      · intro each
        have next := preserved state label start premised.1 each.1
        exact ⟨sound state start, (ih next premised.2).mpr each.2⟩

theorem each_trivial (state : State) (labels : List Label) :
    Each step (fun _ _ => True) state labels := by
  induction labels generalizing state with
  | nil => trivial
  | cons label rest ih => exact ⟨trivial, ih (step label state)⟩

/-- The same among all runs. -/
theorem always_iff_admitted (invariant : State → Prop) {good : State → Prop}
    {condition : State → Label → Prop}
    (sound : ∀ state, invariant state → good state)
    (preserved : ∀ state label, invariant state → condition state label →
      invariant (step label state))
    (exact : ∀ state label, invariant state → good (step label state) →
      condition state label)
    {state : State} {labels : List Label} (start : invariant state) :
    Always step good state labels ↔ Each step condition state labels :=
  always_iff_premised invariant sound
    (fun state label holds _ => preserved state label holds)
    (fun state label holds _ => exact state label holds) start
    (each_trivial state labels)

/-- Facts that every step keeps, once they hold, hold for the rest of the
run. -/
theorem stays_iff_each {Fact : Type*} {holds : Fact → State → Prop}
    {state : State} {labels : List Label} :
    (∀ before later fact, labels = before ++ later →
      holds fact (runFrom step state before) →
      Always step (holds fact) (runFrom step state before) later) ↔
      Each step (fun state label => ∀ fact, holds fact state →
        holds fact (step label state)) state labels := by
  constructor
  · intro stays
    rw [each_iff]
    intro before label later split fact known
    have always := stays before (label :: later) fact split known
    cases later with
    | nil => exact always.2
    | cons next rest => exact always.2.1
  · intro each before later fact split known
    rw [split, Each.append] at each
    have rest := each.2
    clear each split
    generalize runFrom step state before = reached at known rest
    induction later generalizing reached with
    | nil => exact known
    | cons label others ih =>
        exact ⟨known, ih _ (rest.1 fact known) rest.2⟩

theorem Always.last {good : State → Prop} {state : State}
    {labels : List Label} (always : Always step good state labels) :
    good (runFrom step state labels) := by
  induction labels generalizing state with
  | nil => exact always
  | cons label rest ih => exact ih always.2

end Run

end Foundation
