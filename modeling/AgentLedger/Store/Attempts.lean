import AgentLedger.Store.Specs

namespace AgentLedger

open Foundation

/-! The attempts of a step against its retry policy.  A history is followed
together with the number of claims of each step that no approval made. -/

namespace Store

variable (store : Store)

/-- A step that is scheduled for a retry has attempts left. -/
def RetriesLeft : Prop :=
  ∀ stepId row, store.step? stepId = some row →
    row.status = .retryScheduled →
    (row.attempt : Int) < row.retryPolicy.maxAttempts

/-- The operations that give up the lease of a step because it failed. -/
def GivesUp (call : Call) : Prop :=
  call = .recoverExpiredLeases ∨
    (∃ runId stepId error errorType,
      call = .markRetry runId stepId error errorType) ∨
    ∃ runId stepId error errorType,
      call = .markFailed runId stepId error errorType

/-- A step out of attempts whose lease a failure gives up has failed. -/
def FailsWhenExhausted (operation : Call × Moment) : Prop :=
  GivesUp operation.1 → ∀ stepId row later,
    store.step? stepId = some row → row.status = .running →
    row.retryPolicy.maxAttempts ≤ row.attempt →
    (store.next operation).step? stepId = some later →
    later.status ≠ .running → later.status = .failed

/-- No expired lease is recovered on its last attempt. -/
def RecoversInTime (operation : Call × Moment) : Prop :=
  operation.1 = .recoverExpiredLeases → ∀ stepId row,
    store.step? stepId = some row → leaseExpired operation.2.now row = true →
    (row.attempt : Int) < row.retryPolicy.maxAttempts

/-- The step the operation claims for its first attempt or for a retry. -/
def unapprovedClaim (operation : Call × Moment) : Option String :=
  match operation with
  | (.claimStep workerId runId leaseSeconds, moment) =>
      match ((Call.claimStep workerId runId leaseSeconds).perform moment
        store).1 with
      | .ok (some claim) =>
          if (store.step? claim.stepId).any fun row =>
              row.status = .retryScheduled || row.attempt = 0
          then some claim.stepId
          else none
      | _ => none
  | _ => none

end Store

/-- A store and the claims of each step so far, those after an approval
left out. -/
structure Counted where
  store : Store
  claims : String → Nat

namespace Counted

def next (operation : Call × Moment) (counted : Counted) : Counted :=
  { store := counted.store.next operation
    claims := match counted.store.unapprovedClaim operation with
      | some stepId =>
          Function.update counted.claims stepId (counted.claims stepId + 1)
      | none => counted.claims }

def start : Counted := ⟨Store.empty, fun _ => 0⟩

variable (counted : Counted)

/-- No step has been claimed more often than its policy allows; the first
claim is always made. -/
def ClaimsBounded : Prop :=
  ∀ stepId row, counted.store.step? stepId = some row →
    (counted.claims stepId : Int) ≤ max 1 row.retryPolicy.maxAttempts

/-- What the retry policies promise of one operation and the state after. -/
structure KeepsPolicies (operation : Call × Moment) : Prop where
  exhausted : counted.store.FailsWhenExhausted operation
  retries : (counted.next operation).store.RetriesLeft
  claims : (counted.next operation).ClaimsBounded

end Counted

namespace Store

variable {store : Store}

/-- The step is left on its attempt, and is scheduled for a retry only if it
was, has attempts left, or is recovered. -/
def SameAttempt (operation : Call × Moment) (row later : StepRow) : Prop :=
  later.attempt = row.attempt ∧
    (later.status = .retryScheduled → row.status = .retryScheduled ∨
      (row.attempt : Int) < row.retryPolicy.maxAttempts ∨
      (operation.1 = .recoverExpiredLeases ∧
        leaseExpired operation.2.now row = true))

/-- What one operation can do to the attempts of one step. -/
theorem step_cases (operation : Call × Moment) {stepId : String}
    {later : StepRow}
    (present : (store.next operation).step? stepId = some later) :
    (store.step? stepId = none ∧ later.attempt = 0 ∧
      later.status = .pending) ∨
    ∃ row, store.step? stepId = some row ∧
      later.retryPolicy = row.retryPolicy ∧
      (SameAttempt operation row later ∨
        (later.attempt = row.attempt + 1 ∧ later.status = .running)) := by
  obtain ⟨call, moment⟩ := operation
  simp only [Store.next] at present
  have effect := call.effect moment store
  generalize (call.perform moment store).2 = after at effect present
  have same (kept : store.step? stepId = some later) :
      ∃ row, store.step? stepId = some row ∧
        later.retryPolicy = row.retryPolicy ∧
        (SameAttempt (call, moment) row later ∨
          (later.attempt = row.attempt + 1 ∧ later.status = .running)) :=
    ⟨later, kept, rfl, .inl ⟨rfl, .inl⟩⟩
  cases effect with
  | unchanged runs steps => exact .inr (same (steps ▸ present))
  | created newRun newStep freshRun freshStep owned runStatus stepStatus
      unclaimed unleased runs steps =>
      rw [steps, Function.update_apply] at present
      split at present
      case isTrue named =>
          cases present
          exact .inl ⟨named ▸ freshStep, unclaimed, stepStatus⟩
      case isFalse => exact .inr (same present)
  | stepCreated newRun newStep policy foundRun parses named freshStep owned
      stepStatus unclaimed unleased runs steps =>
      rw [steps, Function.update_apply] at present
      split at present
      case isTrue here =>
          cases present
          exact .inl ⟨here ▸ freshStep, unclaimed, stepStatus⟩
      case isFalse => exact .inr (same present)
  | claimed candidate foundStep claimable runs steps =>
      rw [steps, stepsWith_eq_some] at present
      rcases present with ⟨rfl, row, found, rfl⟩ | ⟨_, kept⟩
      · rw [foundStep] at found
        cases found
        exact .inr ⟨candidate, foundStep, rfl, .inr ⟨rfl, rfl⟩⟩
      · exact .inr (same kept)
  | extended lease holds runs steps =>
      rw [steps, stepsWith_eq_some] at present
      rcases present with ⟨rfl, row, found, rfl⟩ | ⟨_, kept⟩
      · exact .inr ⟨row, found, rfl, .inl ⟨rfl, .inl⟩⟩
      · exact .inr (same kept)
  | recovered runs steps =>
      rw [steps, Option.map_eq_some_iff] at present
      obtain ⟨row, found, shape⟩ := present
      split at shape
      case isTrue expired =>
          subst shape
          exact .inr ⟨row, found, rfl,
            .inl ⟨rfl, fun _ => .inr (.inr ⟨rfl, expired⟩)⟩⟩
      case isFalse =>
          subst shape
          exact .inr (same found)
  | cancelled cancelledRun foundRun live runs steps =>
      rw [steps, Option.map_eq_some_iff] at present
      obtain ⟨row, found, shape⟩ := present
      split at shape
      case isTrue =>
          subst shape
          exact .inr ⟨row, found, rfl, .inl ⟨rfl, fun retry => nomatch retry⟩⟩
      case isFalse =>
          subst shape
          exact .inr (same found)
  | released row releases foundStep runs steps =>
      rw [steps, stepsWith_eq_some] at present
      rcases present with ⟨rfl, other, found, rfl⟩ | ⟨_, kept⟩
      · rw [foundStep] at found
        cases found
        refine .inr ⟨row, foundStep, rfl, .inl ⟨rfl, fun retry => ?_⟩⟩
        cases releases with
        | retry _ _ message errorType step present allowed =>
            rw [foundStep] at present
            cases present
            exact .inr (.inl (of_decide_eq_true allowed))
        | _ => cases retry
      · exact .inr (same kept)
  | committed lease committedRun accepts runs steps =>
      rw [steps, stepsWith_eq_some] at present
      rcases present with ⟨rfl, row, found, rfl⟩ | ⟨_, kept⟩
      · exact .inr ⟨row, found, rfl, .inl ⟨rfl, fun retry => nomatch retry⟩⟩
      · exact .inr (same kept)
  | patched patchedRun foundRun runs steps =>
      exact .inr (same (steps ▸ present))

theorem step_kept (operation : Call × Moment) {stepId : String}
    {row : StepRow} (found : store.step? stepId = some row) :
    (store.next operation).step? stepId ≠ none := by
  obtain ⟨call, moment⟩ := operation
  simp only [Store.next]
  have effect := call.effect moment store
  generalize (call.perform moment store).2 = after at effect
  have written {change : StepRow → StepRow} {other : String}
      (steps : after.step? = store.stepsWith other change) :
      after.step? stepId ≠ none := by
    rw [steps, stepsWith]
    split <;> simp [found]
  have mapped {change : StepRow → StepRow}
      (steps : ∀ stepId, after.step? stepId =
        (store.step? stepId).map change) : after.step? stepId ≠ none := by
    rw [steps, found]
    exact Option.some_ne_none _
  have added {new : StepRow} {other : String}
      (steps : after.step? = Function.update store.step? other (some new)) :
      after.step? stepId ≠ none := by
    rw [steps, Function.update_apply]
    split <;> simp [found]
  cases effect with
  | unchanged runs steps => simp [steps, found]
  | created newRun newStep freshRun freshStep owned runStatus stepStatus
      unclaimed unleased runs steps => exact added steps
  | stepCreated newRun newStep policy foundRun parses named freshStep owned
      stepStatus unclaimed unleased runs steps => exact added steps
  | claimed candidate foundStep claimable runs steps => exact written steps
  | extended lease holds runs steps => exact written steps
  | recovered runs steps => exact mapped steps
  | cancelled cancelledRun foundRun live runs steps => exact mapped steps
  | released row releases foundStep runs steps => exact written steps
  | committed lease committedRun accepts runs steps => exact written steps
  | patched patchedRun foundRun runs steps => simp [steps, found]

/-- The claim that is counted takes the step to its next attempt. -/
theorem unapprovedClaim_some {operation : Call × Moment} {stepId : String}
    (claims : store.unapprovedClaim operation = some stepId) :
    ∃ row later, store.step? stepId = some row ∧
      (row.status = .retryScheduled ∨ row.attempt = 0) ∧
      (store.next operation).step? stepId = some later ∧
      later.attempt = row.attempt + 1 := by
  obtain ⟨call, moment⟩ := operation
  cases call with
  | claimStep workerId runId leaseSeconds =>
      simp only [unapprovedClaim] at claims
      split at claims
      case h_1 claim returned =>
          split at claims
          case isTrue chosen =>
              cases claims
              obtain ⟨row, found, _, rfl, steps⟩ := returned_claimStep returned
              have named : (row.claimBy moment leaseSeconds).stepId =
                  row.stepId := rfl
              rw [named, found] at chosen
              have changed := (congrFun steps row.stepId).trans
                ((store.stepsWith_eq_some).mpr (.inl ⟨rfl, row, found, rfl⟩))
              refine ⟨row, _, found, ?_, changed, rfl⟩
              simpa using chosen
          case isFalse => cases claims
      case h_2 => cases claims
  | _ => cases claims

/-- A recovery in time, like every other operation, leaves attempts to what is
scheduled for a retry. -/
theorem RetriesLeft.next (left : store.RetriesLeft)
    {operation : Call × Moment} (inTime : store.RecoversInTime operation) :
    (store.next operation).RetriesLeft := by
  intro stepId later present retry
  rcases step_cases operation present with ⟨_, _, pending⟩ |
    ⟨row, found, policy, moved⟩
  · rw [pending] at retry
    cases retry
  · rcases moved with ⟨attempt, scheduled⟩ | ⟨_, running⟩
    · rw [attempt, policy]
      rcases scheduled retry with already | allowed | ⟨recovers, expired⟩
      · exact left stepId row found already
      · exact allowed
      · exact inTime recovers stepId row found expired
    · rw [running] at retry
      cases retry

theorem failsWhenExhausted_of_inTime {operation : Call × Moment}
    (inTime : store.RecoversInTime operation) :
    store.FailsWhenExhausted operation := by
  obtain ⟨call, moment⟩ := operation
  intro givesUp stepId row later found running exhausted present stopped
  simp only [Store.next] at present
  have effect := call.effect moment store
  generalize (call.perform moment store).2 = after at effect present
  have untouched (kept : store.step? stepId = some later) :
      later.status = .failed := by
    rw [found] at kept
    cases kept
    exact absurd running stopped
  have released {runId chosen : String} {status : Status}
      {error : Option (String × String)} {named : StepRow}
      (releases : Releases store call runId chosen status error)
      (foundStep : store.step? chosen = some named)
      (steps : after.step? =
        store.stepsWith chosen (StepRow.release status error))
      (failure : status = .failed ∨ (status = .retryScheduled ∧
        (named.attempt : Int) < named.retryPolicy.maxAttempts)) :
      later.status = .failed := by
    rw [steps, stepsWith_eq_some] at present
    rcases present with ⟨rfl, before, present, rfl⟩ | ⟨_, kept⟩
    · rw [found] at foundStep
      cases foundStep
      rcases failure with failed | ⟨_, allowed⟩
      · exact failed
      · omega
    · exact untouched kept
  rcases givesUp with recovers | ⟨runId, named, error, type, retries⟩ |
    ⟨runId, named, error, type, fails⟩
  · dsimp only at recovers
    subst recovers
    cases effect with
    | unchanged runs steps => exact untouched (steps ▸ present)
    | recovered runs steps =>
        rw [steps, found, Option.map_some] at present
        split at present
        case isTrue expired =>
            have allowed := inTime rfl stepId row found expired
            omega
        case isFalse =>
            cases present
            exact absurd running stopped
    | released named releases foundStep runs steps => cases releases
  · dsimp only at retries
    subst retries
    cases effect with
    | unchanged runs steps => exact untouched (steps ▸ present)
    | released chosen releases foundStep runs steps =>
        refine released releases foundStep steps ?_
        cases releases with
        | retry _ _ _ _ other same allowed =>
            rw [foundStep] at same
            cases same
            exact .inr ⟨rfl, of_decide_eq_true allowed⟩
        | exhausted => exact .inl rfl
  · dsimp only at fails
    subst fails
    cases effect with
    | unchanged runs steps => exact untouched (steps ▸ present)
    | released chosen releases foundStep runs steps =>
        refine released releases foundStep steps ?_
        cases releases
        exact .inl rfl

/-- A recovery that leaves every retry within its policy was in time. -/
theorem recoversInTime_of_retriesLeft {operation : Call × Moment}
    (left : (store.next operation).RetriesLeft) :
    store.RecoversInTime operation := by
  obtain ⟨call, moment⟩ := operation
  rintro rfl stepId row found expired
  have recovered : (store.next (.recoverExpiredLeases, moment)).step?
      stepId = some (row.release .retryScheduled none) := by
    obtain ⟨_, steps⟩ := @performed_recoverExpiredLeases store moment
    have changed := steps stepId
    rw [found, Option.map_some, if_pos expired] at changed
    exact changed
  have retry := left stepId _ recovered rfl
  exact retry

end Store

namespace Counted

structure Valid (counted : Counted) : Prop where
  retries : counted.store.RetriesLeft
  uncreated : ∀ stepId, counted.store.step? stepId = none →
    counted.claims stepId = 0
  attempts : ∀ stepId row, counted.store.step? stepId = some row →
    counted.claims stepId ≤ row.attempt
  bounded : counted.ClaimsBounded

variable {counted : Counted}

theorem valid_start : start.Valid := by
  refine ⟨?_, fun _ _ => rfl, ?_, ?_⟩
  all_goals
    intro stepId row found
    cases found

theorem claims_next (operation : Call × Moment) (stepId : String) :
    (counted.next operation).claims stepId =
      if counted.store.unapprovedClaim operation = some stepId then
        counted.claims stepId + 1
      else counted.claims stepId := by
  simp only [next]
  cases claims : counted.store.unapprovedClaim operation with
  | none => simp
  | some claimed =>
      by_cases same : claimed = stepId
      · subst same
        simp
      · have other : stepId ≠ claimed := fun equal => same equal.symm
        simp [same, other]

/-- The counts stay below the attempts, and a retry is claimed only while the
policy allows one more. -/
theorem Valid.next (valid : counted.Valid) {operation : Call × Moment}
    (inTime : counted.store.RecoversInTime operation) :
    (counted.next operation).Valid := by
  have row_next {stepId : String} {later : StepRow}
      (present : (counted.next operation).store.step? stepId = some later) :
      (counted.next operation).claims stepId ≤ later.attempt ∧
        ((counted.next operation).claims stepId : Int) ≤
          max 1 later.retryPolicy.maxAttempts := by
    rw [claims_next]
    rcases Store.step_cases operation present with ⟨absent, attempt, _⟩ |
      ⟨row, found, policy, moved⟩
    · have unclaimed : counted.store.unapprovedClaim operation ≠
          some stepId := by
        intro claims
        obtain ⟨row, _, found, _⟩ := Store.unapprovedClaim_some claims
        rw [absent] at found
        cases found
      rw [if_neg unclaimed, valid.uncreated stepId absent]
      exact ⟨Nat.zero_le _, by simp⟩
    · have counts := valid.attempts stepId row found
      have bounded := valid.bounded stepId row found
      rw [policy]
      split
      case isTrue claims =>
          obtain ⟨claimed, after, foundClaimed, unapproved, foundAfter,
            attempt⟩ := Store.unapprovedClaim_some claims
          rw [found] at foundClaimed
          cases foundClaimed
          have same : after = later :=
            Option.some.inj (foundAfter.symm.trans present)
          subst same
          rcases unapproved with retry | first
          · have left := valid.retries stepId row found retry
            omega
          · omega
      case isFalse =>
          rcases moved with ⟨attempt, _⟩ | ⟨attempt, _⟩
          · omega
          · omega
  refine ⟨valid.retries.next inTime, ?_, ?_, ?_⟩
  · intro stepId absent
    have before : counted.store.step? stepId = none := by
      cases found : counted.store.step? stepId with
      | none => rfl
      | some row => exact absurd absent (Store.step_kept operation found)
    have unclaimed : counted.store.unapprovedClaim operation ≠
        some stepId := by
      intro claims
      obtain ⟨row, _, found, _⟩ := Store.unapprovedClaim_some claims
      rw [before] at found
      cases found
    rw [claims_next, if_neg unclaimed]
    exact valid.uncreated stepId before
  · exact fun stepId later present => (row_next present).1
  · exact fun stepId later present => (row_next present).2

end Counted

/-- A history keeps to the retry policies exactly when every recovery finds
the steps it revokes with an attempt left. -/
theorem keepsPolicies_iff (operations : List (Call × Moment)) :
    Each Counted.next Counted.KeepsPolicies Counted.start operations ↔
      Each Counted.next
        (fun counted => counted.store.RecoversInTime) Counted.start
        operations := by
  refine (Each.congr Counted.Valid (fun counted operation valid inTime => ?_)
    (fun counted operation valid => ⟨?_, ?_⟩) Counted.valid_start).symm
  · exact valid.next inTime
  · intro inTime
    have later := valid.next inTime
    exact ⟨Store.failsWhenExhausted_of_inTime inTime, later.retries,
      later.bounded⟩
  · exact fun keeps => Store.recoversInTime_of_retriesLeft keeps.retries

/-- A step with one attempt is claimed, and its worker is never heard of
again. -/
def lastAttempt : List (Call × Moment) :=
  [(.createRun none none (some [("max_attempts", .int 1)]),
      ⟨0, fun kind => kind, 0⟩),
    (.claimStep "worker" none 60, ⟨1, fun kind => kind, 0⟩),
    (.recoverExpiredLeases, ⟨100, fun kind => kind, 0⟩)]

def reclaim : Call × Moment :=
  (.claimStep "other" none 60, ⟨101, fun kind => kind, 0⟩)

theorem reclaimed_after_last_attempt :
    let counted := runFrom Counted.next Counted.start lastAttempt
    ¬ counted.store.RetriesLeft ∧ ¬ (counted.next reclaim).ClaimsBounded := by
  have scheduled : ((runFrom Counted.next Counted.start
      lastAttempt).store.step? "step").map (fun row =>
        (row.status, row.attempt, row.retryPolicy.maxAttempts)) =
          some (.retryScheduled, 1, 1) := by decide
  have claimed : (((runFrom Counted.next Counted.start lastAttempt).next
      reclaim).store.step? "step").map (fun row =>
        row.retryPolicy.maxAttempts) = some 1 := by decide
  have twice : ((runFrom Counted.next Counted.start lastAttempt).next
      reclaim).claims "step" = 2 := by decide
  constructor
  · intro left
    obtain ⟨row, found, shape⟩ := Option.map_eq_some_iff.mp scheduled
    obtain ⟨status, rest⟩ := Prod.mk.inj shape
    obtain ⟨attempt, policy⟩ := Prod.mk.inj rest
    have allowed := left "step" row found status
    omega
  · intro bounded
    obtain ⟨row, found, policy⟩ := Option.map_eq_some_iff.mp claimed
    have most := bounded "step" row found
    omega

end AgentLedger
