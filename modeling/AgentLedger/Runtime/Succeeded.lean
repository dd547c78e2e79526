import AgentLedger.Runtime.AtMostOnce

namespace AgentLedger

open Foundation

/-! What becomes of a row of the ledger that has succeeded, and of the calls
that find it. -/

variable {bridge : ExecutionEvidenceBridge}

section Step

variable {config : (runtimeSystem bridge).Config} {key : String}
  {row : LedgerRow}

/-- An operation that would write a row that has succeeded is not made. -/
private theorem entry_of_perform {task : Task} {thread : Tid} {call : Call}
    {input : Surroundings} {world : World}
    (owes : (taking bridge True).owes thread task (.store call) world)
    (admits : (taking bridge True).admits thread task (.store call) input world)
    (faultless : input.fault = none)
    (found : world.store.ledgerRow? key = some row)
    (succeeded : row.status = .succeeded) :
    (call.perform input.moment world.store).2.ledgerRow? key = some row := by
  cases call with
  | updateLedger update =>
      have different : key ≠ update.idempotencyKey := by
        intro same
        subst same
        cases closes : update.closes task with
        | true =>
            have running := (owes update rfl closes).2 trivial row found
            rw [succeeded] at running
            cases running
        | false =>
            have vacant := admits.1 update rfl faultless
            rw [LedgerUpdate.undisputed, closes, Bool.false_or, found,
              Option.all_some, succeeded] at vacant
            cases vacant
      rw [Store.perform_updateLedger, Store.ledgerRow?_updateLedger,
        Function.update_of_ne different]
      exact found
  | resolveLedger runId update resolvedBy reason =>
      cases resolves : world.store.resolves runId update with
      | false =>
          obtain ⟨error, performed⟩ :=
            @Store.perform_resolveLedger_refused world.store input.moment runId
              resolvedBy reason update resolves
          rw [performed]
          exact found
      | true =>
          obtain ⟨other, present, pending, _, entries⟩ :=
            @Store.perform_resolveLedger world.store input.moment runId
              resolvedBy reason update resolves
          have different : key ≠ update.idempotencyKey := by
            intro same
            rw [← same, found] at present
            cases present
            rw [succeeded] at pending
            cases pending
          rw [entries, Function.update_of_ne different]
          exact found
  | _ => exact entry_of_bystands rfl found

/-- The row is there, and every thread knows its place. -/
private structure Standing (key : String) (row : LedgerRow)
    (config : (runtimeSystem bridge).Config) : Prop where
  good : (taking bridge True).Good config
  found : config.world.store.ledgerRow? key = some row

private theorem entry_of_step {label : (runtimeSystem bridge).Label}
    (good : (taking bridge True).Good config)
    (admitted : (taking bridge True).Admitted config label)
    (found : config.world.store.ledgerRow? key = some row)
    (succeeded : row.status = .succeeded) :
    (Machine.step label config).world.store.ledgerRow? key = some row := by
  have moves := Machine.step_moves config label
  generalize (Machine.step label config).world = world at moves
  cases moves with
  | still => exact found
  | began thread task => exact found
  | lost thread => exact found
  | acted running acts =>
      rcases World.store_of_act acts with same | ⟨call, rfl, faultless, same⟩
      · rw [same]
        exact found
      · simp only [Machine.Contract.Admitted, running] at admitted
        rw [same]
        exact entry_of_perform (good.owes taking_sound running) admitted
          faultless found succeeded

private theorem Standing.step (standing : Standing key row config)
    (succeeded : row.status = .succeeded)
    {label : (runtimeSystem bridge).Label}
    (met : Undisputed config label ∧ SucceedsToTheEnd config label) :
    Standing key row (Machine.step label config) := by
  have admitted : (taking bridge True).Admitted config label :=
    admitted_of_undisputed met.1 fun _ => met.2
  exact ⟨standing.good.step taking_sound config label admitted,
    entry_of_step standing.good admitted standing.found succeeded⟩

private theorem getBlob_of_step (label : (runtimeSystem bridge).Label)
    {ref : String} {value : Json}
    (archived : config.world.getBlob ref = .ok value) :
    (Machine.step label config).world.getBlob ref = .ok value := by
  have moves := Machine.step_moves config label
  generalize (Machine.step label config).world = world at moves
  cases moves with
  | still => exact archived
  | began thread task => exact archived
  | lost thread => exact archived
  | acted running acts => exact World.getBlob_of_act acts archived

end Step

/-! ### A call that finds the row -/

/-- An operation of the store answers, and leaves the archive. -/
theorem alone_performed (world : World) (moment : Moment) (call : Call) :
    ∃ after, World.alone moment (store call) world =
        ((call.perform moment world.store).1, after) ∧
      ∀ ref, after.getBlob ref = world.getBlob ref :=
  ⟨_, World.alone_store call, fun _ => rfl⟩

private theorem alone_answers {world : World} {moment : Moment} {call : Call}
    (answers : ∃ value, (call.perform moment world.store).1 = .ok value) :
    ∃ value after, World.alone moment (store call) world = (.ok value, after) := by
  obtain ⟨value, answer⟩ := answers
  obtain ⟨after, performed, _⟩ := alone_performed world moment call
  exact ⟨value, after, performed.trans (Prod.ext answer rfl)⟩

theorem alone_getJsonOf (world : World) (moment : Moment) (ref : String) :
    World.alone moment (ToolGateway.getJsonOf (some ref)) world =
      (world.getBlob ref, world) := by
  simp only [ToolGateway.getJsonOf, getJson, World.alone, World.act,
    World.alone_orRaise]

section Alone

variable {gateway : ToolGateway} {request : ToolGateway.Request}
  {world : World} {moment : Moment} {row : LedgerRow} {ref : String}
  {value : Json}

/-- The archived response is what the call returns. -/
theorem replayed_returns
    (found : world.store.ledgerRow? request.key = some row)
    (succeeded : row.status = .succeeded)
    (referred : row.responseRef = some ref)
    (archived : world.getBlob ref = .ok value) :
    (World.alone moment (gateway.callManaged request) world).1 = .ok value := by
  obtain ⟨later, answer, kept⟩ :=
    alone_performed world moment (.reserveLedger request.ledgerArgs)
  rw [Store.perform_reserveLedger_found found] at answer
  rw [ToolGateway.callManaged, World.alone_bind, answer]
  simp only [succeeded]
  rw [ToolGateway.replayed, World.alone_bind, referred, alone_getJsonOf,
    kept, archived]
  simp only [report, Program.bind_assoc]
  obtain ⟨seq, reported, answer⟩ := @alone_answers later moment _
    (Store.perform_appendEvent "tool_call_completed" _)
  rw [World.alone_bind, answer]
  obtain ⟨costId, recorded, answer⟩ := @alone_answers reported moment _
    (Store.perform_recordCost _)
  simp only [Program.pure_eq, Program.bind_done]
  rw [World.alone_bind, answer]
  rfl

/-- So it is in shadow mode, where the row is one of the source run. -/
theorem shadow_returns {source : String}
    (given : request.ctx.sourceRunId.filter (fun source => !source.isEmpty) =
      some source)
    (found : ((Call.findSucceededLedgerResponse source request.spec.name
      (gateway.logicalOperation request.args) request.requestHash).perform
        moment world.store).1 = .ok (some row))
    (referred : row.responseRef = some ref)
    (archived : world.getBlob ref = .ok value) :
    (World.alone moment (gateway.shadowResponse request) world).1 =
      .ok value := by
  obtain ⟨later, answer, kept⟩ := alone_performed world moment
    (.findSucceededLedgerResponse source request.spec.name
      (gateway.logicalOperation request.args) request.requestHash)
  rw [found] at answer
  rw [ToolGateway.shadowResponse]
  simp only [given]
  rw [World.alone_bind, answer]
  simp only
  rw [World.alone_bind, referred, alone_getJsonOf, kept, archived]
  simp only [report, Program.bind_assoc]
  obtain ⟨seq, reported, answer⟩ := @alone_answers later moment _
    (Store.perform_appendEvent "tool_call_completed" _)
  rw [World.alone_bind, answer]
  rfl

end Alone

/-! ### Whole runs -/

/-- A call of the gateway under the key, whatever it is about, returns the
value. -/
def Returns (key : String) (value : Json)
    (config : (runtimeSystem bridge).Config) : Prop :=
  ∀ request moment, request.key = key →
    (World.alone moment (bridge.gateway.callManaged request)
      config.world).1 = .ok value

/-- The row of the key is as it was. -/
def Stands (key : String) (row : LedgerRow)
    (config : (runtimeSystem bridge).Config) : Prop :=
  config.world.store.ledgerRow? key = some row

/-- In a run in which callers do not come to one row together, and in which
nothing fails a caller whose row has succeeded, such a row stays as it is, and
the calls that find it return what it has archived. -/
theorem succeeded_stays (bridge : ExecutionEvidenceBridge)
    (before later : List (runtimeSystem bridge).Label)
    (lasting : Each Machine.step
      (fun config label => Undisputed config label ∧
        SucceedsToTheEnd config label) (Machine.initial World.opened)
      (before ++ later))
    (key : String) (row : LedgerRow)
    (found : Stands key row
      (runFrom Machine.step (Machine.initial World.opened) before))
    (succeeded : row.status = .succeeded) :
    Always Machine.step (Stands key row)
      (runFrom Machine.step (Machine.initial World.opened) before) later ∧
    ∀ ref value, row.responseRef = some ref →
      (runFrom Machine.step (Machine.initial World.opened)
        before).world.getBlob ref = .ok value →
      Always Machine.step (Returns key value)
        (runFrom Machine.step (Machine.initial World.opened) before) later := by
  rw [Each.append] at lasting
  have good := lasting.1.invariant
    (fun config label (good : (taking bridge True).Good config) met =>
      good.step taking_sound config label
        (admitted_of_undisputed met.1 fun _ => met.2))
    (Machine.Contract.good_initial owned_opened)
  constructor
  · have stays := lasting.2.always
      (fun config label (standing : Standing key row config) met =>
        standing.step succeeded met) ⟨good, found⟩
    exact stays.mono fun config standing => standing.found
  · intro ref value referred archived
    have stays := lasting.2.always
      (fun config label (kept : Standing key row config ∧
          config.world.getBlob ref = .ok value) met =>
        ⟨kept.1.step succeeded met, getBlob_of_step label kept.2⟩)
      ⟨⟨good, found⟩, archived⟩
    apply stays.mono
    intro config kept request moment same
    subst same
    exact replayed_returns kept.1.found succeeded referred kept.2

def chargeResult : Json := .obj [("external_id", .str "charge-1")]

def chargeKey : String := "run:step:charge:order-1"

/-- A call has entered its success in the ledger. -/
def charged : List (runtimeSystem chargeBridge).Label :=
  claimed ++ reserving 1 ++ executing 1 (.ok chargeResult) ++
    [.act 1 (Surroundings.tick 5 id), .act 1 (Surroundings.tick 6 id)]

def chargedConfig : (runtimeSystem chargeBridge).Config :=
  runFrom Machine.step (Machine.initial World.opened) charged

def chargedRow : LedgerRow :=
  { ledgerId := "ledger"
    runId := "run"
    sessionId := some "sess"
    stepId := "step"
    toolName := "charge"
    toolVersion := "v1"
    toolCallId := "toolcall"
    idempotencyKey := chargeKey
    causalToken := ToolGateway.causalToken chargeContext
    requestHash := blobHash (chargeGateway.sha256
      (.obj [("args", chargeArgs), ("tool", .str "charge")]))
    requestRef := blobRef (chargeGateway.sha256
      (.obj [("args", chargeArgs), ("tool", .str "charge")]))
    status := .succeeded
    externalId := some "charge-1"
    responseHash := some (blobHash (chargeGateway.sha256 chargeResult))
    responseRef := some (blobRef (chargeGateway.sha256 chargeResult))
    createdAt := 2 }

private theorem charged_entry :
    chargedConfig.world.store.ledgerRow? chargeKey = some chargedRow := by
  decide

/-- The call ends, and another one finds the row. -/
def chargedTwice : List (runtimeSystem chargeBridge).Label :=
  [.act 1 (Surroundings.tick 7 id), .act 1 (Surroundings.tick 8 id)] ++
    reserving 2 ++ List.replicate 3 (.act 2 (Surroundings.tick 9 id))

theorem charged_stays :
    Always Machine.step (Stands chargeKey chargedRow) chargedConfig
        chargedTwice ∧
      Always Machine.step (Returns chargeKey chargeResult) chargedConfig
        chargedTwice := by
  have lasting : Each Machine.step
      (fun config label => Undisputed config label ∧
        SucceedsToTheEnd config label) (Machine.initial World.opened)
      (charged ++ chargedTwice) := by
    decide +kernel
  have stays := succeeded_stays chargeBridge charged chargedTwice lasting
    chargeKey chargedRow charged_entry rfl
  exact ⟨stays.1, stays.2 (blobRef (chargeGateway.sha256 chargeResult))
    chargeResult rfl (by decide)⟩

/-- The event of the success cannot be appended, and the handler sets to
work. -/
def interrupted : List (runtimeSystem chargeBridge).Label :=
  [.act 1 { Surroundings.tick 7 id with
      fault := some
        { cls := .exception
          typeName := "OperationalError"
          message := "database is locked" } },
    .act 1 (Surroundings.tick 8 id)]

theorem charge_forgotten :
    Stands chargeKey chargedRow chargedConfig ∧
      chargedRow.status = .succeeded ∧
      Stands chargeKey
        { chargedRow with
          status := .pendingVerification
          externalId := none
          responseHash := none
          responseRef := none
          errorType := some "OperationalError" }
        (runFrom Machine.step chargedConfig interrupted) ∧
      ¬ Always Machine.step (Stands chargeKey chargedRow) chargedConfig
        interrupted := by
  have forgotten : (runFrom Machine.step chargedConfig
      interrupted).world.store.ledgerRow? chargeKey = some
        { chargedRow with
          status := .pendingVerification
          externalId := none
          responseHash := none
          responseRef := none
          errorType := some "OperationalError" } := by
    decide
  refine ⟨charged_entry, rfl, forgotten, ?_⟩
  intro always
  have stands := always.last
  rw [Stands, forgotten] at stands
  exact absurd stands (by decide)

end AgentLedger
