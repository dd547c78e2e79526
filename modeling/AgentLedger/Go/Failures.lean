import AgentLedger.Go.Calls

namespace AgentLedger.Go

open Foundation

/-! What a method that fails has changed. -/

/-- `validateLeaseLocked` lets the holder of the token pass. -/
def LeaseHeld (process : Process) (stepId leaseToken : String) : Prop :=
  ∃ step, process.data.steps.get? stepId = some step ∧
    step.status = "running" ∧ step.leaseToken = leaseToken ∧
    (!step.leaseUntil.eq .zero && step.leaseUntil.lt (process.clock 0)) = false

namespace StoreCall

/-- The method has nothing to act on, and says so before it writes. -/
def Refused (process : Process) : StoreCall → Prop
  | .createExternalStep runId | .cancelRun runId _
  | .applySystemStatePatch runId _ _ => process.data.runs.get? runId = none
  | .claimStep _ runId _ =>
      ∀ step ∈ process.data.steps.values, claimable runId step = false
  | .heartbeat stepId leaseToken _ => ¬LeaseHeld process stepId leaseToken
  | .commitStatePatch runId stepId leaseToken baseVersion _ _ =>
      ¬(LeaseHeld process stepId leaseToken ∧
        ∃ run, process.data.runs.get? runId = some run ∧
          run.stateVersion = baseVersion)
  | .markRetry _ stepId _ _ | .markFailed _ stepId _ _
  | .markWaitingHuman _ stepId _ _ => process.data.steps.get? stepId = none
  | .updateLedger update =>
      process.data.toolLedger.get? update.idempotencyKey = none
  | .decideApproval approvalId _ _ _ =>
      ∀ entry ∈ process.data.approvalRequests.entries,
        entry.2.approvalId = approvalId → entry.1 = ""
  | .createArtifact _ _ _ content _ => content = none
  | .createRun .. | .recoverExpiredLeases | .appendEvent _ | .reserveLedger _
  | .requestApproval _ | .recordCost _ => False

/-- The method writes what is there already: no lease has expired, or the row
has the values of the update, and this time. -/
def Idle (process : Process) : StoreCall → Prop
  | .recoverExpiredLeases => ∀ step ∈ process.data.steps.values,
      leaseExpired step (process.clock 0) = false
  | .updateLedger update =>
      ∃ entry, process.data.toolLedger.get? update.idempotencyKey =
          some entry ∧
        updatedEntry update (process.clock 0) entry = entry
  | _ => False

end StoreCall

/-! ### Checks -/

theorem validateLease_ok_iff {process : Process} {stepId leaseToken : String}
    {step : Step} :
    validateLeaseLocked process stepId leaseToken = .ok step ↔
      process.data.steps.get? stepId = some step ∧
        step.status = "running" ∧ step.leaseToken = leaseToken ∧
        (!step.leaseUntil.eq .zero &&
          step.leaseUntil.lt (process.clock 0)) = false := by
  unfold validateLeaseLocked findStep
  cases process.data.steps.get? stepId with
  | none => exact ⟨fun same => (by cases same), fun same => (by cases same.1)⟩
  | some held =>
      simp only [bind, Except.bind, pure, Except.pure, throw, throwThe,
        MonadExceptOf.throw]
      constructor
      · intro checked
        split at checked
        · cases checked
        · split at checked
          · cases checked
          · rename_i valid fresh
            cases checked
            obtain ⟨running, token⟩ := not_or.mp valid
            rw [not_not] at running token
            exact ⟨rfl, running, token, Bool.eq_false_iff.mpr fresh⟩
      · rintro ⟨same, running, token, fresh⟩
        cases same
        rw [if_neg (not_or.mpr ⟨not_not.mpr running, not_not.mpr token⟩),
          if_neg (Bool.eq_false_iff.mp fresh)]

theorem leaseHeld_iff {process : Process} {stepId leaseToken : String} :
    LeaseHeld process stepId leaseToken ↔
      ∃ step, validateLeaseLocked process stepId leaseToken = .ok step :=
  exists_congr fun _ => validateLease_ok_iff.symm

/-- The search for a candidate finds none exactly where there is none. -/
theorem candidate_eq_none_iff {runId : String} {data : StoreData} :
    candidate runId data = none ↔
      ∀ step ∈ data.steps.values, claimable runId step = false := by
  have search (steps : List Step) (found : Option Step) :
      steps.foldl (fun candidate step =>
        if claimable runId step &&
            candidate.all (fun other => earlier step other) then some step
        else candidate) found = none ↔
      found = none ∧ ∀ step ∈ steps, claimable runId step = false := by
    induction steps generalizing found with
    | nil => simp
    | cons step rest ih =>
        rw [List.foldl_cons, ih, List.forall_mem_cons]
        cases found with
        | none =>
            cases claimable runId step <;> simp
        | some other =>
            split <;> simp
  rw [candidate, search]
  exact and_iff_right rfl

theorem findApproval_error_iff {data : StoreData} {approvalId : String} :
    (∃ error, findApproval data approvalId = .error error) ↔
      ∀ entry ∈ data.approvalRequests.entries,
        entry.2.approvalId = approvalId → entry.1 = "" := by
  unfold findApproval
  cases found : data.approvalRequests.entries.find? fun entry =>
      decide (entry.2.approvalId = approvalId) && decide (entry.1 ≠ "") with
  | none =>
      have missing := List.find?_eq_none.mp found
      simp only [Bool.and_eq_true, decide_eq_true_eq, not_and, not_not]
        at missing
      exact iff_of_true ⟨_, rfl⟩ missing
  | some entry =>
      have listed := List.mem_of_find?_eq_some found
      have fits := List.find?_some found
      simp only [Bool.and_eq_true, decide_eq_true_eq] at fits
      exact iff_of_false (fun ⟨_, same⟩ => by cases same)
        fun every => fits.2 (every entry listed fits.1)

/-! ### What the methods do -/

section

variable (random : Randomness) (encoding : Encoding)

/-- What a call comes to: it is refused, it answers at once, or it writes, and
then the rows are the same only if it was idle. -/
inductive Effect (call : StoreCall) (process : Process) : Prop
  | refused (refused : call.Refused process)
      (writes : (call.method random encoding process).writes = [])
  | early (accepted : ¬call.Refused process) (value : Unit)
      (outcome : call.method random encoding process = .early value)
  | wrote (accepted : ¬call.Refused process) (value : Unit)
      (result : (call.method random encoding process).result = .ok value)
      (changed : (process.written random encoding
          (call.method random encoding process).writes).data = process.data ↔
        call.Idle process)

variable {random encoding} {call : StoreCall} {process : Process}

theorem Effect.logged (accepted : ¬call.Refused process)
    (busy : ¬call.Idle process)
    (logs : ∃ writes input,
      call.method random encoding process = .answer () writes ∧
        .event input ∈ writes) : Effect random encoding call process := by
  obtain ⟨writes, input, outcome, member⟩ := logs
  refine .wrote accepted () (congrArg Outcome.result outcome) ?_
  rw [outcome]
  exact iff_of_false (written_ne random encoding member process) busy

theorem effect_createRun (sessionId : String) (initialState : JsonObject) :
    Effect random encoding (.createRun sessionId initialState) process :=
  .logged id id ⟨_, _, rfl, List.mem_cons_of_mem _
    (List.mem_cons_of_mem _ List.mem_cons_self)⟩

theorem effect_createExternalStep (runId : String) :
    Effect random encoding (.createExternalStep runId) process := by
  cases found : process.data.runs.get? runId with
  | none =>
      refine .refused found ?_
      simp only [StoreCall.method, createExternalStep, findRun, found]
      rfl
  | some run =>
      refine .logged (fun missing => ?_) id ?_
      · exact Option.some_ne_none run (found.symm.trans missing)
      · exact ⟨_, _, by
          simp only [StoreCall.method, createExternalStep, findRun, found]
          rfl, List.mem_cons_of_mem _
            (List.mem_cons_of_mem _ List.mem_cons_self)⟩

theorem effect_claimStep (workerId runId : String) (leaseSeconds : Int) :
    Effect random encoding (.claimStep workerId runId leaseSeconds)
      process := by
  cases found : candidate runId process.data with
  | none =>
      refine .refused (candidate_eq_none_iff.mp found) ?_
      simp only [StoreCall.method, claimStep, found]
      rfl
  | some step =>
      refine .logged (fun missing => ?_) id ?_
      · exact Option.some_ne_none step
          (found.symm.trans (candidate_eq_none_iff.mpr missing))
      · exact ⟨_, _, by
          simp only [StoreCall.method, claimStep, found]
          rfl, List.mem_cons_of_mem _
            (List.mem_cons_of_mem _ List.mem_cons_self)⟩

theorem effect_heartbeat (stepId leaseToken : String) (leaseSeconds : Int) :
    Effect random encoding (.heartbeat stepId leaseToken leaseSeconds)
      process := by
  cases checked : validateLeaseLocked process stepId leaseToken with
  | error error =>
      refine .refused (fun held => ?_) ?_
      · obtain ⟨step, passed⟩ := leaseHeld_iff.mp held
        rw [checked] at passed
        cases passed
      · simp only [StoreCall.method, heartbeat, checked]
        rfl
  | ok step =>
      refine .logged (fun lost => ?_) id ?_
      · exact lost (leaseHeld_iff.mpr ⟨step, checked⟩)
      · exact ⟨_, _, by
          simp only [StoreCall.method, heartbeat, checked]
          rfl, List.mem_cons_of_mem _ List.mem_cons_self⟩

theorem effect_recoverExpiredLeases :
    Effect random encoding .recoverExpiredLeases process := by
  refine .wrote id () rfl ?_
  cases expired : process.data.steps.entries.filter fun entry =>
      leaseExpired entry.2 (process.clock 0) with
  | nil =>
      have idle := List.filter_eq_nil_iff.mp expired
      refine iff_of_true ?_ fun step listed => ?_
      · simp only [StoreCall.method, recoverExpiredLeases, expired]
        rfl
      · obtain ⟨entry, member, rfl⟩ := List.mem_map.mp listed
        exact Bool.eq_false_iff.mpr (idle entry member)
  | cons entry rest =>
      have member : entry ∈ process.data.steps.entries.filter fun entry =>
          leaseExpired entry.2 (process.clock 0) :=
        expired ▸ List.mem_cons_self
      obtain ⟨listed, due⟩ := List.mem_filter.mp member
      refine iff_of_false ?_ fun idle => ?_
      · exact written_ne random encoding (List.mem_flatMap.mpr
          ⟨entry, member, List.mem_cons_of_mem _
            (List.mem_cons_of_mem _ List.mem_cons_self)⟩) process
      · have kept := idle entry.2 (List.mem_map_of_mem listed)
        rw [due] at kept
        cases kept

theorem effect_cancelRun (runId reason : String) :
    Effect random encoding (.cancelRun runId reason) process := by
  cases found : process.data.runs.get? runId with
  | none =>
      refine .refused found ?_
      simp only [StoreCall.method, cancelRun, findRun, found]
      rfl
  | some run =>
      have accepted : ¬(StoreCall.cancelRun runId reason).Refused process :=
        fun missing => Option.some_ne_none run (found.symm.trans missing)
      cases ended_ : terminal run.status with
      | true =>
          refine .early accepted () ?_
          simp only [StoreCall.method, cancelRun, findRun, found, bind,
            Except.bind, ended_]
          rfl
      | false =>
          refine .logged accepted id ?_
          · exact ⟨_, _, by
              simp only [StoreCall.method, cancelRun, findRun, found, bind,
                Except.bind, ended_]
              rfl, List.mem_cons_self⟩

theorem effect_commitStatePatch (runId stepId leaseToken : String)
    (baseVersion : Int) (patch : JsonObject) (checkpointId : String) :
    Effect random encoding (.commitStatePatch runId stepId leaseToken
      baseVersion patch checkpointId) process := by
  cases checked : validateLeaseLocked process stepId leaseToken with
  | error error =>
      refine .refused (fun passed => ?_) ?_
      · obtain ⟨step, held⟩ := leaseHeld_iff.mp passed.1
        rw [checked] at held
        cases held
      · simp only [StoreCall.method, commitStatePatch, checked]
        rfl
  | ok step =>
      have held := leaseHeld_iff.mpr ⟨step, checked⟩
      cases found : process.data.runs.get? runId with
      | none =>
          refine .refused (fun passed => ?_) ?_
          · obtain ⟨run, present, _⟩ := passed.2
            exact Option.some_ne_none run (present.symm.trans found)
          · simp only [StoreCall.method, commitStatePatch, checked, findRun,
              found]
            rfl
      | some run =>
          by_cases version : run.stateVersion = baseVersion
          · refine .logged (fun refused => ?_) id ?_
            · exact refused ⟨held, run, found, version⟩
            · exact ⟨_, _, by
                simp only [StoreCall.method, commitStatePatch, checked,
                  findRun, found, bind, Except.bind, version, ne_eq, not_true,
                  if_false]
                rfl, List.mem_cons_of_mem _
                  (List.mem_cons_of_mem _ List.mem_cons_self)⟩
          · refine .refused (fun passed => ?_) ?_
            · obtain ⟨other, present, same⟩ := passed.2
              cases found.symm.trans present
              exact version same
            · simp only [StoreCall.method, commitStatePatch, checked, findRun,
                found, bind, Except.bind, ne_eq, version, not_false_eq_true,
                if_true]
              rfl

theorem effect_applySystemStatePatch (runId : String) (patch : JsonObject)
    (reason : String) :
    Effect random encoding (.applySystemStatePatch runId patch reason)
      process := by
  cases found : process.data.runs.get? runId with
  | none =>
      refine .refused found ?_
      simp only [StoreCall.method, applySystemStatePatch, findRun, found]
      rfl
  | some run =>
      refine .logged (fun missing => ?_) id ?_
      · exact Option.some_ne_none run (found.symm.trans missing)
      · exact ⟨_, _, by
          simp only [StoreCall.method, applySystemStatePatch, findRun, found]
          rfl, List.mem_cons_of_mem _ List.mem_cons_self⟩

theorem effect_mark {runId stepId status errorType message : String}
    {events : Step → List (String × List (String × Option Json))}
    (some_event : ∀ step, events step ≠ [])
    (method : call.method random encoding =
      mark runId stepId status errorType message events)
    (refused : call.Refused process ↔ process.data.steps.get? stepId = none)
    (busy : ¬call.Idle process) : Effect random encoding call process := by
  cases found : process.data.steps.get? stepId with
  | none =>
      refine .refused (refused.mpr found) ?_
      simp only [method, mark, findStep, found]
      rfl
  | some step =>
      cases listed : events step with
      | nil => exact absurd listed (some_event step)
      | cons event rest =>
          refine .logged (fun missing => ?_) busy ?_
          · exact Option.some_ne_none step
              (found.symm.trans (refused.mp missing))
          · exact ⟨_, _, by
              simp only [method, mark, findStep, found, bind, Except.bind,
                listed, List.map_cons]
              rfl, List.mem_cons_of_mem _
                (List.mem_cons_of_mem _ List.mem_cons_self)⟩

theorem effect_reserveLedger (input : LedgerReservation) :
    Effect random encoding (.reserveLedger input) process := by
  cases found : process.data.toolLedger.get? input.idempotencyKey with
  | some existing =>
      refine .early id () ?_
      simp only [StoreCall.method, reserveLedger, found]
      rfl
  | none =>
      refine .wrote id () ?_ (iff_of_false (fun same => ?_) id)
      · simp only [StoreCall.method, reserveLedger, found]
        rfl
      · simp only [StoreCall.method, reserveLedger, found] at same
        have row := congrArg (fun data : StoreData =>
          data.toolLedger.get? input.idempotencyKey) same
        rw [found] at row
        exact Option.some_ne_none _
          ((Dictionary.get?_insert ..).trans (if_pos rfl) |>.symm.trans row)

theorem effect_updateLedger (update : LedgerUpdate) :
    Effect random encoding (.updateLedger update) process := by
  cases found : process.data.toolLedger.get? update.idempotencyKey with
  | none =>
      refine .refused found ?_
      simp only [StoreCall.method, updateLedger, found]
      rfl
  | some entry =>
      let row := updatedEntry update (process.clock 0) entry
      have outcome : (StoreCall.updateLedger update).method random encoding
          process = .answer () [.ledger update.idempotencyKey row] := by
        simp only [StoreCall.method, updateLedger, found]
        rfl
      refine .wrote (fun missing => ?_) () ?_ ?_
      · exact Option.some_ne_none entry (found.symm.trans missing)
      · rw [outcome]
        rfl
      · rw [outcome]
        constructor
        · intro same
          have held := congrArg (fun data : StoreData =>
            data.toolLedger.get? update.idempotencyKey) same
          have written := Dictionary.get?_insert process.data.toolLedger
            update.idempotencyKey update.idempotencyKey row
          rw [if_pos rfl] at written
          exact ⟨entry, found,
            Option.some_inj.mp (written.symm.trans (held.trans found))⟩
        · rintro ⟨other, present, same⟩
          cases found.symm.trans present
          exact congrArg (fun rows => { process.data with toolLedger := rows })
            (Dictionary.insert_same (found.trans (congrArg some same.symm)))

theorem effect_requestApproval (input : ApprovalRequestInput) :
    Effect random encoding (.requestApproval input) process := by
  cases found : process.data.approvalRequests.get? input.approvalKey with
  | some existing =>
      refine .early id () ?_
      simp only [StoreCall.method, requestApproval, found]
      rfl
  | none =>
      refine .wrote id () ?_ (iff_of_false (fun same => ?_) id)
      · simp only [StoreCall.method, requestApproval, found]
        rfl
      · simp only [StoreCall.method, requestApproval, found] at same
        have row := congrArg (fun data : StoreData =>
          data.approvalRequests.get? input.approvalKey) same
        rw [found] at row
        exact Option.some_ne_none _
          ((Dictionary.get?_insert ..).trans (if_pos rfl) |>.symm.trans row)

theorem effect_decideApproval (approvalId status approver reason : String) :
    Effect random encoding (.decideApproval approvalId status approver reason)
      process := by
  cases found : findApproval process.data approvalId with
  | error error =>
      refine .refused (findApproval_error_iff.mp ⟨error, found⟩) ?_
      simp only [StoreCall.method, decideApproval, found]
      rfl
  | ok entry =>
      refine .logged (fun missing => ?_) id ?_
      · obtain ⟨error, failed⟩ := findApproval_error_iff.mpr missing
        cases found.symm.trans failed
      · exact ⟨_, _, by
          simp only [StoreCall.method, decideApproval, found]
          rfl, List.mem_cons_of_mem _ List.mem_cons_self⟩

theorem effect_createArtifact (runId stepId name : String)
    (content : Option Json) (metadata : JsonObject) :
    Effect random encoding
      (.createArtifact runId stepId name content metadata) process := by
  cases content with
  | none => exact .refused rfl rfl
  | some content =>
      refine .wrote (fun missing => Option.some_ne_none _ missing) () rfl
        (iff_of_false (fun same => ?_) id)
      exact Dictionary.push_ne _ _ _
        (congrArg StoreData.artifacts same)

theorem effect (call : StoreCall) (process : Process) :
    Effect random encoding call process := by
  cases call with
  | createRun sessionId initialState => exact effect_createRun _ _
  | createExternalStep runId => exact effect_createExternalStep _
  | claimStep workerId runId leaseSeconds => exact effect_claimStep _ _ _
  | heartbeat stepId leaseToken leaseSeconds => exact effect_heartbeat _ _ _
  | recoverExpiredLeases => exact effect_recoverExpiredLeases
  | cancelRun runId reason => exact effect_cancelRun _ _
  | commitStatePatch runId stepId leaseToken baseVersion patch checkpointId =>
      exact effect_commitStatePatch _ _ _ _ _ _
  | applySystemStatePatch runId patch reason =>
      exact effect_applySystemStatePatch _ _ _
  | markRetry runId stepId errorType message =>
      exact effect_mark (fun _ => List.cons_ne_nil _ _) rfl Iff.rfl id
  | markFailed runId stepId errorType message =>
      exact effect_mark (fun _ => List.cons_ne_nil _ _) rfl Iff.rfl id
  | markWaitingHuman runId stepId reason approvalId =>
      exact effect_mark (fun _ => List.cons_ne_nil _ _) rfl Iff.rfl id
  | appendEvent input =>
      exact .logged id id ⟨_, _, rfl, List.mem_cons_self⟩
  | reserveLedger input => exact effect_reserveLedger _
  | updateLedger update => exact effect_updateLedger _
  | requestApproval input => exact effect_requestApproval _
  | decideApproval approvalId status approver reason =>
      exact effect_decideApproval _ _ _ _
  | recordCost input =>
      exact .logged id id
        ⟨_, _, rfl, List.mem_cons_of_mem _ List.mem_cons_self⟩
  | createArtifact runId stepId name content metadata =>
      exact effect_createArtifact _ _ _ _ _

variable (random encoding)

/-- A method that returns an error leaves the file as it was.  The rows are as
before exactly if the method was refused by its checks or had nothing new to
write: a flush that fails leaves the rest in memory, and the next one saves
it. -/
theorem failed_unchanged_iff (call : StoreCall) (process : Process)
    {error : GoError}
    (failed : (process.call random encoding
      (call.method random encoding)).1 = .error error) :
    (process.call random encoding (call.method random encoding)).2.file =
        process.file ∧
      ((process.call random encoding
            (call.method random encoding)).2.data = process.data ↔
        call.Refused process ∨ call.Idle process) := by
  obtain ⟨file, reason⟩ := call_failed random encoding failed
  refine ⟨file, ?_⟩
  rw [call_data]
  cases (effect call process : Effect random encoding call process) with
  | refused refused writes =>
      rw [writes]
      exact iff_of_true (written_nil random encoding process) (.inl refused)
  | early accepted value outcome =>
      rw [outcome] at reason
      rcases reason with ⟨_, absurd⟩ | absurd
      · cases absurd
      · cases absurd
  | wrote accepted value result changed =>
      rw [changed]
      exact ⟨.inr, fun either => either.resolve_left accepted⟩

end

/-- Ids in unary. -/
def unary : Randomness where
  text number := String.ofList (List.replicate number 'x')
  injective first second same := by
    have lengths := congrArg List.length (String.ofList_injective same)
    rwa [List.length_replicate, List.length_replicate] at lengths

/-- An empty store on a disk that is full. -/
def fullDisk : Process :=
  { path := "store.json"
    data := .empty
    file := none
    drawn := 0
    clock := fun _ => .zero
    disk := fun _ => some "no space left on device" }

/-- A step of a run that is running. -/
def runningStep : Step :=
  { stepId := "step_1"
    runId := "run_1"
    sessionId := "sess_1"
    status := "running"
    owner := "worker"
    leaseToken := "lease_1"
    leaseUntil := .zero
    attempt := 1
    stateVersion := 0
    checkpointId := ""
    lastErrorType := ""
    lastError := ""
    cancelledAt := .zero
    createdAt := .zero
    updatedAt := .zero }

/-- The disk is full, and the file has the step as it was. -/
def filledDisk : Process :=
  let data : StoreData :=
    { StoreData.empty with
        runs := Dictionary.empty.insert "run_1"
          { Run.zero with
              runId := "run_1"
              sessionId := "sess_1"
              status := "running" }
        steps := Dictionary.empty.insert "step_1" runningStep }
  { fullDisk with data := data, file := some data }

/-- The retry is in memory, and not in the file. -/
theorem failed_unchanged_iff_markRetry :
    (filledDisk.call unary ⟨fun _ => "", id⟩
          (markRetry "run_1" "step_1" "Timeout" "late")).2.file =
        filledDisk.file ∧
      (filledDisk.call unary ⟨fun _ => "", id⟩
          (markRetry "run_1" "step_1" "Timeout" "late")).2.data ≠
        filledDisk.data := by
  obtain ⟨file, kept⟩ := @failed_unchanged_iff unary ⟨fun _ => "", id⟩
    (.markRetry "run_1" "step_1" "Timeout" "late") filledDisk
    (.other "no space left on device") rfl
  refine ⟨file, fun same => ?_⟩
  rcases kept.mp same with refused | idle
  · have present : (filledDisk.data.steps.get? "step_1").isSome := by decide
    rw [show filledDisk.data.steps.get? "step_1" = none from refused] at present
    cases present
  · exact idle

/-- A call that could not be reserved, as it seems. -/
def sendReservation : LedgerReservation :=
  { runId := "run_1"
    sessionId := "sess_1"
    stepId := "step_1"
    toolName := "email.send"
    toolVersion := "v1"
    toolCallId := "call_1"
    idempotencyKey := "key_1"
    causalToken := ""
    requestHash := "hash_1"
    requestRef := "\x7b\x7d" }

theorem reservation_kept :
    ¬∀ (random : Randomness) (encoding : Encoding) (call : StoreCall)
      (process : Process) (error : GoError),
      (process.call random encoding
        (call.method random encoding)).1 = .error error →
      (process.call random encoding
        (call.method random encoding)).2.data = process.data := by
  intro every
  have same := every unary ⟨fun _ => "", id⟩ (.reserveLedger sendReservation)
    fullDisk (.other "no space left on device") rfl
  have row := congrArg (fun data : StoreData =>
    (data.toolLedger.get? "key_1").isSome) same
  exact absurd row (by decide)

end AgentLedger.Go
