import AgentLedger.Connections.Keys
import Mathlib.Data.List.Induction

namespace AgentLedger

open Foundation Connections

/-! What each operation may change, whatever the others do in the meantime. -/

namespace Call

def claims : Call → Bool
  | .claimStep _ _ _ => true
  | _ => false

def patches : Call → Bool
  | .commitStatePatch _ => true
  | .applySystemStatePatch _ _ _ => true
  | _ => false

end Call

/-- The statements of `claim_step`. -/
def Write.ofClaim : Write → Bool
  | .claimStep _ _ _ _ _ => true
  | .setRunStatus _ _ => true
  | .insertEvent _ => true
  | _ => false

/-- The statements of a call, those of `claim_step` told more exactly. -/
def Call.MayIssue (call : Call) (statement : Write) : Prop :=
  call.Issues statement ∧ (call.claims = true → statement.ofClaim = true)

theorem Call.uses_mayIssue (call : Call) :
    call.body.Uses (Sql.Writes call.MayIssue) := by
  cases claims : call.claims with
  | false =>
      refine call.body_uses.mono fun cmd issues => ?_
      cases cmd with
      | write statement =>
          refine ⟨issues, fun claiming => ?_⟩
          rw [claims] at claiming
          cases claiming
      | _ => trivial
  | true =>
      cases call with
      | claimStep workerId runId leaseSeconds =>
          have issuing : Issuing
              (Call.claimStep workerId runId leaseSeconds).MayIssue
              (Call.claimStep workerId runId leaseSeconds).body := by
            refine issuing_claimLoop workerId _ leaseSeconds ?_ ?_ ?_ 64
            · exact fun _ _ _ _ _ =>
                ⟨⟨workerId, runId, leaseSeconds, rfl⟩, fun _ => rfl⟩
            · exact fun _ => ⟨rfl, fun _ => rfl⟩
            · intro row claimed
              refine ⟨?_, fun _ => rfl⟩
              change Call.Reports _ row.type
              rw [claimed]
              exact ⟨workerId, runId, leaseSeconds, rfl⟩
          exact issuing.uses
      | _ => cases claims

/-! ### Rows -/

/-- The lease that a step is worked on under. -/
def StepRow.activeLease (row : StepRow) : Option String :=
  if row.status = .running then row.leaseToken else none

def LedgerRow.updated (row : LedgerRow) (update : LedgerUpdate) : LedgerRow :=
  { row with
    status := update.status
    externalId := update.externalId
    responseHash := update.responseHash
    responseRef := update.responseRef
    errorType := update.errorType }

section Rows

variable (call : Call)

/-- Only the two patching operations touch a state or a version. -/
structure RunKept (row later : RunRow) : Prop where
  spared : call.spares = true → later = row
  state : call.patches = false →
    later.state = row.state ∧ later.stateVersion = row.stateVersion

def NewRun (row : RunRow) : Prop :=
  (∃ sessionId initialState retryPolicy,
    call = .createRun sessionId initialState retryPolicy) ∧
  row.stateVersion = 0

/-- Only a claim gives a lease or counts an attempt, and it finds the step
claimable. -/
structure StepKept (row later : StepRow) : Prop where
  spared : call.spares = true → later = row
  held : call.claims = false → later.attempt = row.attempt ∧
    ∀ token, later.activeLease = some token → row.activeLease = some token
  claimed : call.claims = true → later = row ∨
    row.status.claimable = true ∧ later.status = .running

def NewStep (row : StepRow) : Prop :=
  call.spares = false ∧ call.claims = false ∧ row.attempt = 0 ∧
    row.activeLease = none

/-- The call settles one key, in one way. -/
def LedgerKept (row later : LedgerRow) : Prop :=
  later = row ∨ ∃ update, call.ledgerUpdate = some update ∧
    row.idempotencyKey = update.idempotencyKey ∧ later = row.updated update

def NewLedger (row : LedgerRow) : Prop :=
  (∃ args, call = .reserveLedger args) ∧ row.status = .reserved

/-- The call decides one request, in one way. -/
def ApprovalKept (row later : ApprovalRow) : Prop :=
  later = row ∨ ∃ status, call.decision = some (row.approvalId, status) ∧
    later.status = status ∧ row.SameRequest later

def NewApproval (row : ApprovalRow) : Prop :=
  (∃ args, call = .requestApproval args) ∧ row.status = .pending

end Rows

section Kept

variable {call : Call}

theorem RunKept.refl (row : RunRow) : RunKept call row row :=
  ⟨fun _ => rfl, fun _ => ⟨rfl, rfl⟩⟩

theorem RunKept.trans {first second third : RunRow}
    (early : RunKept call first second) (late : RunKept call second third) :
    RunKept call first third where
  spared := fun spares => (late.spared spares).trans (early.spared spares)
  state := fun keeps =>
    ⟨(late.state keeps).1.trans (early.state keeps).1,
      (late.state keeps).2.trans (early.state keeps).2⟩

theorem RunKept.patched {row later : RunRow} (spares : call.spares = false)
    (patches : call.patches = true) : RunKept call row later where
  spared := fun spared => by
    rw [spares] at spared
    cases spared
  state := fun keeps => by
    rw [patches] at keeps
    cases keeps

theorem NewRun.ages {row later : RunRow} (new : NewRun call row)
    (kept : RunKept call row later) : NewRun call later := by
  obtain ⟨⟨sessionId, initialState, retryPolicy, rfl⟩, version⟩ := new
  exact ⟨⟨_, _, _, rfl⟩, (kept.state rfl).2.trans version⟩

theorem StepKept.refl (row : StepRow) : StepKept call row row :=
  ⟨fun _ => rfl, fun _ => ⟨rfl, fun _ same => same⟩, fun _ => .inl rfl⟩

theorem StepKept.trans {first second third : StepRow}
    (early : StepKept call first second)
    (late : StepKept call second third) : StepKept call first third where
  spared := fun spares => (late.spared spares).trans (early.spared spares)
  held := by
    intro unclaimed
    obtain ⟨attempt, lease⟩ := early.held unclaimed
    obtain ⟨attemptLate, leaseLate⟩ := late.held unclaimed
    exact ⟨attemptLate.trans attempt,
      fun token held => lease token (leaseLate token held)⟩
  claimed := by
    intro claims
    rcases late.claimed claims with same | ⟨free, running⟩
    · rw [same]
      exact early.claimed claims
    · rcases early.claimed claims with same | ⟨_, taken⟩
      · exact .inr ⟨same ▸ free, running⟩
      · rw [taken] at free
        cases free

theorem StepKept.unclaimed {row later : StepRow}
    (spares : call.spares = false) (claims : call.claims = false)
    (attempt : later.attempt = row.attempt)
    (lease : ∀ token,
      later.activeLease = some token → row.activeLease = some token) :
    StepKept call row later where
  spared := fun spared => by
    rw [spares] at spared
    cases spared
  held := fun _ => ⟨attempt, lease⟩
  claimed := fun claimed => by
    rw [claims] at claimed
    cases claimed

theorem NewStep.ages {row later : StepRow} (new : NewStep call row)
    (kept : StepKept call row later) : NewStep call later := by
  obtain ⟨spares, claims, attempt, lease⟩ := new
  obtain ⟨same, held⟩ := kept.held claims
  refine ⟨spares, claims, same.trans attempt, ?_⟩
  cases found : later.activeLease with
  | none => rfl
  | some token =>
      have before := held token found
      rw [lease] at before
      cases before

theorem LedgerKept.trans {first second third : LedgerRow}
    (early : LedgerKept call first second)
    (late : LedgerKept call second third) : LedgerKept call first third := by
  rcases late with rfl | ⟨update, settles, key, rfl⟩
  · exact early
  · rcases early with rfl | ⟨first, settled, own, rfl⟩
    · exact .inr ⟨update, settles, key, rfl⟩
    · rw [settles] at settled
      cases settled
      exact .inr ⟨update, settles, own, rfl⟩

theorem NewLedger.ages {row later : LedgerRow} (new : NewLedger call row)
    (kept : LedgerKept call row later) : NewLedger call later := by
  rcases kept with rfl | ⟨update, settles, _⟩
  · exact new
  · obtain ⟨⟨args, rfl⟩, _⟩ := new
    cases settles

theorem ApprovalKept.trans {first second third : ApprovalRow}
    (early : ApprovalKept call first second)
    (late : ApprovalKept call second third) :
    ApprovalKept call first third := by
  rcases late with rfl | ⟨status, decides, now, request⟩
  · exact early
  · rcases early with rfl | ⟨before, decided, _, own⟩
    · exact .inr ⟨status, decides, now, request⟩
    · have sameId : second.approvalId = first.approvalId := by
        have kept : second.request.approvalId = first.request.approvalId :=
          congrArg ApprovalRow.approvalId own
        exact kept
      rw [sameId] at decides
      exact .inr ⟨status, decides, now, request.trans own⟩

theorem NewApproval.ages {row later : ApprovalRow}
    (new : NewApproval call row) (kept : ApprovalKept call row later) :
    NewApproval call later := by
  rcases kept with rfl | ⟨status, decides, _⟩
  · exact new
  · obtain ⟨⟨args, rfl⟩, _⟩ := new
    cases decides

theorem StepRow.activeLease_release (row : StepRow) (status : Status)
    (error : Option (String × String)) :
    (row.release status error).activeLease = none := by
  unfold StepRow.activeLease StepRow.release
  split <;> rfl

end Kept

/-! ### Stores -/

/-- What the COMMITs of a call may make of the store. -/
structure Call.Changes (call : Call) (before after : Store) : Prop where
  runs : Table.Changes (RunKept call) (NewRun call) before.runs after.runs
  steps : Table.Changes (StepKept call) (NewStep call) before.steps after.steps
  ledger : Table.Changes (LedgerKept call) (NewLedger call)
    before.ledger after.ledger
  approvals : Table.Changes (ApprovalKept call) (NewApproval call)
    before.approvals after.approvals
  events : ∃ added, after.events = before.events ++ added ∧
    ∀ event ∈ added, call.Reports event.type
  costs : after.costs = before.costs ∨ ∃ args, call = .recordCost args

namespace Call.Changes

variable {call : Call}

theorem refl (store : Store) : call.Changes store store where
  runs := .refl RunKept.refl _
  steps := .refl StepKept.refl _
  ledger := .refl (fun _ => .inl rfl) _
  approvals := .refl (fun _ => .inl rfl) _
  events := ⟨[], (List.append_nil _).symm, fun _ member => by cases member⟩
  costs := .inl rfl

theorem trans {first second third : Store}
    (early : call.Changes first second) (late : call.Changes second third) :
    call.Changes first third where
  runs := early.runs.trans RunKept.trans NewRun.ages late.runs
  steps := early.steps.trans StepKept.trans NewStep.ages late.steps
  ledger := early.ledger.trans LedgerKept.trans NewLedger.ages late.ledger
  approvals :=
    early.approvals.trans ApprovalKept.trans NewApproval.ages late.approvals
  events := by
    obtain ⟨added, same, reports⟩ := early.events
    obtain ⟨more, sameLate, reportsLate⟩ := late.events
    refine ⟨added ++ more, ?_, ?_⟩
    · rw [sameLate, same, List.append_assoc]
    · intro event member
      exact (List.mem_append.mp member).elim (reports event)
        (reportsLate event)
  costs := by
    rcases late.costs with same | recorded
    · rw [same]
      exact early.costs
    · exact .inr recorded

theorem updateSteps (store : Store) (selected : StepRow → Bool)
    (change : StepRow → StepRow)
    (keeps : ∀ row, (change row).stepId = row.stepId)
    (kept : ∀ row, selected row = true → StepKept call row (change row)) :
    call.Changes store (store.updateSteps selected change keeps).2 :=
  { refl store with
    steps := Table.Changes.updateWhere StepKept.refl _ keeps kept }

theorem updateRuns (store : Store) (selected : RunRow → Bool)
    (change : RunRow → RunRow)
    (keeps : ∀ row, (change row).runId = row.runId)
    (kept : ∀ row, RunKept call row (change row)) :
    call.Changes store (store.updateRuns selected change keeps).2 :=
  { refl store with
    runs := Table.Changes.updateWhere RunKept.refl _ keeps
      fun row _ => kept row }

theorem release (store : Store) (selected : StepRow → Bool) (status : Status)
    (error : Option (String × String)) (spares : call.spares = false)
    (claims : call.claims = false) :
    call.Changes store
      (store.updateSteps selected (StepRow.release status error)
        fun _ => rfl).2 := by
  apply updateSteps
  intro row _
  refine .unclaimed spares claims rfl fun token held => ?_
  rw [row.activeLease_release] at held
  cases held

end Call.Changes

theorem Store.changes_write (store : Store) {call : Call} {statement : Write}
    (may : call.MayIssue statement) :
    call.Changes store (store.write statement).2 := by
  obtain ⟨issues, ofClaim⟩ := may
  have unclaimed (other : statement.ofClaim = false) : call.claims = false := by
    cases claims : call.claims with
    | false => rfl
    | true =>
        rw [ofClaim claims] at other
        cases other
  cases statement with
  | insertRun row =>
      simp only [Store.write]
      split
      case h_1 inserted =>
          exact { Call.Changes.refl store with
            runs := .insert RunKept.refl inserted ⟨issues.2, issues.1⟩ }
      case h_2 => exact .refl store
  | insertStep row =>
      simp only [Store.write]
      split
      case isTrue =>
          split
          case h_1 inserted =>
              obtain ⟨attempt, token, spares⟩ := issues
              have lease : row.activeLease = none := by
                unfold StepRow.activeLease
                split
                case isTrue => exact token
                case isFalse => rfl
              exact { Call.Changes.refl store with
                steps := .insert StepKept.refl inserted
                  ⟨spares, unclaimed rfl, attempt, lease⟩ }
          case h_2 => exact .refl store
      case isFalse => exact .refl store
  | insertEvent row =>
      simp only [Store.write]
      split
      case isTrue => exact .refl store
      case isFalse =>
          refine { Call.Changes.refl store with events := ⟨[row], rfl, ?_⟩ }
          intro event member
          rw [List.mem_singleton.mp member]
          exact issues
  | insertApproval row =>
      simp only [Store.write]
      split
      case isTrue => exact .refl store
      case isFalse =>
          split
          case h_1 inserted =>
              exact { Call.Changes.refl store with
                approvals := .insert (fun _ => .inl rfl) inserted
                  ⟨issues.2, issues.1⟩ }
          case h_2 => exact .refl store
  | insertLedger row =>
      simp only [Store.write]
      split
      case h_1 inserted =>
          exact { Call.Changes.refl store with
            ledger := .insert (fun _ => .inl rfl) inserted
              ⟨issues.2, issues.1⟩ }
      case h_2 => exact .refl store
  | insertCost row =>
      exact { Call.Changes.refl store with costs := .inr issues }
  | insertArtifact row => exact { Call.Changes.refl store with }
  | claimStep stepId workerId leaseToken leaseUntil attempt =>
      obtain ⟨worker, runId, leaseSeconds, rfl⟩ := issues
      apply Call.Changes.updateSteps
      intro row chosen
      have claimable := (Bool.and_eq_true_iff.mp chosen).2
      constructor
      · intro spares
        cases spares
      · intro unclaims
        cases unclaims
      · exact fun _ => .inr ⟨claimable, rfl⟩
  | extendLease stepId leaseToken leaseUntil =>
      obtain ⟨_, _, _, rfl⟩ := issues
      apply Call.Changes.updateSteps
      intro row _
      exact .unclaimed rfl rfl rfl fun _ held => held
  | recoverStep stepId =>
      cases issues
      exact .release store _ _ _ rfl rfl
  | releaseStep stepId status error =>
      exact .release store _ _ _ issues (unclaimed rfl)
  | completeStep stepId stateVersion checkpointId =>
      obtain ⟨args, rfl⟩ := issues
      apply Call.Changes.updateSteps
      intro row _
      exact .unclaimed rfl rfl rfl fun token held => by cases held
  | setRunStatus runId status =>
      apply Call.Changes.updateRuns
      intro row
      refine ⟨fun spares => ?_, fun _ => ⟨rfl, rfl⟩⟩
      have written : call.spares = false := issues
      rw [written] at spares
      cases spares
  | commitRun runId baseVersion state newVersion =>
      obtain ⟨_, args, rfl⟩ := issues
      apply Call.Changes.updateRuns
      exact fun row => .patched rfl rfl
  | patchRun runId currentVersion state newVersion =>
      obtain ⟨_, _, _, _, rfl⟩ := issues
      apply Call.Changes.updateRuns
      exact fun row => .patched rfl rfl
  | decideApproval approvalId status approvedBy decisionReason =>
      have decides : call.decision = some (approvalId, status) := issues
      refine { Call.Changes.refl store with approvals := ?_ }
      apply Table.Changes.updateWhere
      · exact fun _ => .inl rfl
      · exact fun _ => rfl
      · intro row chosen
        have own : row.approvalId = approvalId := of_decide_eq_true chosen
        exact .inr ⟨status, own ▸ decides, rfl, rfl⟩
  | updateLedger idempotencyKey status externalId responseHash responseRef
      errorType =>
      refine { Call.Changes.refl store with ledger := ?_ }
      apply Table.Changes.updateWhere
      · exact fun _ => .inl rfl
      · exact fun _ => rfl
      · intro row chosen
        have own : row.idempotencyKey = idempotencyKey :=
          of_decide_eq_true chosen
        exact .inr ⟨_, issues, own, rfl⟩

@[reducible] def callFootprints : storeService.Footprints where
  issues := Call.MayIssue
  issued := Call.uses_mayIssue
  changes := Call.Changes
  refl := fun _ => Call.Changes.refl
  trans := fun _ _ _ _ early late => early.trans late
  written := fun _ _ store may => store.changes_write may

theorem ran_append (store : Store) (clock : Int)
    (labels : List storeService.machine.Label)
    (label : storeService.machine.Label) :
    ran store clock (labels ++ [label]) =
      Machine.step label (ran store clock labels) := by
  simp only [ran, runFrom_append]
  rfl

theorem callFootprints_good (store : Store) (clock : Int)
    (labels : List storeService.machine.Label) :
    callFootprints.contract.contract.Good (ran store clock labels) :=
  Service.Footprints.good_run store clock labels

/-- However the statements of several connections interleave: a step changes
nothing, or it is the COMMIT of an operation, and changes what that operation is
there for. -/
theorem commit_within_footprint (store : Store) (clock : Int)
    (labels : List storeService.machine.Label)
    (label : storeService.machine.Label) :
    let config := ran store clock labels
    let later := ran store clock (labels ++ [label])
    later.world.db = config.world.db ∨
      ∃ call next, config.threads label.thread =
          some ⟨call, .call .commit next⟩ ∧
        call.Changes config.world.db later.world.db := by
  intro config later
  have stepped : later = Machine.step label config :=
    ran_append store clock labels label
  rw [stepped]
  exact Service.Footprints.step (callFootprints_good store clock labels) label

/-- A call that keeps what is promised as long as it stays within its footprint
needs no other reason. -/
theorem Lenient.others {K : storeService.Contract} (lenient : Lenient K)
    {thread : Tid} {call : Call} {world : Connections sqlite}
    (ends : ∀ result world, K.ends thread call result world)
    (keeps : ∀ base work : Store, base.Persists work →
      call.Changes base work → K.invariant base → K.invariant work)
    (free : ¬ Holds thread world) :
    K.Safe thread call call.body world := by
  refine @Service.Contract.safe_of_uses _ _ K thread call _
    (fun base work _ => Store.Persists base work ∧ call.Changes base work)
    (fun base _ => ⟨.refl base, .refl base⟩) ?_ ?_
    (fun _ _ => lenient.owes _ _ _ _) ends _ call.uses_mayIssue world ?_
  · rintro base work _ statement _ ⟨persists, changes⟩ may
    have issues : call.Issues statement := may.1
    exact ⟨persists.trans
      (Store.persists_write work (Call.advances_of_issues issues)),
      changes.trans (Store.changes_write work may)⟩
  · rintro later writer holds found own ⟨persists, changes⟩ _
    have view := view_of_held found own
    refine ⟨?_, fun other different =>
      ⟨frame_commit different later, ?_⟩⟩
    · change K.invariant (later.commit thread).db
      rw [commit_db, view]
      exact keeps _ _ persists changes holds
    · apply (lenient.extra _ _ _).mpr
      rw [commit_db, view]
      exact persists
  · intro writer found own
    exact absurd ⟨writer, found, own⟩ free

/-- One step of a connection gives no lease in the place of another one. -/
theorem activeLease_step (store : Store) (clock : Int)
    (labels : List storeService.machine.Label)
    (label : storeService.machine.Label) {stepId token : String}
    {later : StepRow}
    (found : (ran store clock (labels ++ [label])).world.db.step? stepId =
      some later)
    (leased : later.activeLease = some token) :
    ∃ row, (ran store clock labels).world.db.step? stepId = some row ∧
      (row.activeLease = some token ∧ later.attempt = row.attempt ∨
        row.status.claimable = true) := by
  rw [ran_append] at found
  rcases Service.Footprints.step (callFootprints_good store clock labels)
    label with same | ⟨call, next, _, changes⟩
  · rw [same] at found
    exact ⟨later, found, .inl ⟨leased, rfl⟩⟩
  · cases before : (ran store clock labels).world.db.step? stepId with
    | none =>
        have new := (changes.steps.added stepId later before found).2.2.2
        rw [new] at leased
        cases leased
    | some row =>
        obtain ⟨final, present, kept⟩ := changes.steps.persists _ _ before
        have same : later = final :=
          Option.some.inj (found.symm.trans present)
        subst same
        refine ⟨row, rfl, ?_⟩
        cases claims : call.claims with
        | false =>
            obtain ⟨attempt, lease⟩ := kept.held claims
            exact .inl ⟨lease token leased, attempt⟩
        | true =>
            rcases kept.claimed claims with same | ⟨claimable, _⟩
            · rw [same] at leased
              exact .inl ⟨leased, by rw [same]⟩
            · exact .inr claimable

/-- However the statements of several connections interleave: as long as a step
is not there to be claimed, it is worked on under one lease and in one
attempt. -/
theorem leases_handed_over (store : Store) (clock : Int)
    (before later : List storeService.machine.Label) {stepId : String}
    {first second : String} {early late : StepRow}
    (found : (ran store clock before).world.db.step? stepId = some early)
    (leased : early.activeLease = some first)
    (foundLater : (ran store clock (before ++ later)).world.db.step? stepId =
      some late)
    (leasedLater : late.activeLease = some second) :
    second = first ∧ late.attempt = early.attempt ∨
      ∃ middle rest row, later = middle ++ rest ∧
        (ran store clock (before ++ middle)).world.db.step? stepId =
          some row ∧
        row.status.claimable = true := by
  induction later using List.reverseRecOn generalizing late with
  | nil =>
      rw [List.append_nil, found] at foundLater
      cases foundLater
      rw [leased] at leasedLater
      cases leasedLater
      exact .inl ⟨rfl, rfl⟩
  | append_singleton rest label ih =>
      rw [← List.append_assoc] at foundLater
      obtain ⟨row, foundRow, ⟨kept, attempt⟩ | claimable⟩ :=
        activeLease_step store clock (before ++ rest) label foundLater
          leasedLater
      · rcases ih foundRow kept with ⟨same, counted⟩ |
          ⟨middle, after, row, split, released⟩
        · exact .inl ⟨same, attempt.trans counted⟩
        · refine .inr ⟨middle, after ++ [label], row, ?_, released⟩
          rw [split, List.append_assoc]
      · exact .inr ⟨rest, [label], row, rfl, foundRow, claimable⟩

/-- The statements of one operation, each at time 0 with this new id. -/
def acted (thread : Tid) (call : Call) (id : String) (count : Nat) :
    List storeService.machine.Label :=
  .spawn thread call :: List.replicate count (.act thread ⟨0, id, 0⟩)

def claimedFirst : List storeService.machine.Label :=
  acted 0 (.claimStep "worker-1" none 30) "lease-1" 9

def claimedAgain : List storeService.machine.Label :=
  acted 0 (.markRetry "run-1" "step-1" "lost" "ToolError") "" 12 ++
    acted 1 (.claimStep "worker-2" none 30) "lease-2" 9

/-- Between the two claims the step was given back. -/
theorem claimed_again_released :
    ∃ middle rest row, claimedAgain = middle ++ rest ∧
      (ran startedRun 0 (claimedFirst ++ middle)).world.db.step? "step-1" =
        some row ∧
      row.status.claimable = true := by
  rcases @leases_handed_over startedRun 0 claimedFirst claimedAgain "step-1"
    "lease-1" "lease-2" _ _ rfl rfl rfl rfl with ⟨same, _⟩ | released
  · exact absurd same (by decide)
  · exact released

end AgentLedger
