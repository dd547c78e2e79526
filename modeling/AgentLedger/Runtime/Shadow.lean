import AgentLedger.Runtime.Succeeded
import AgentLedger.Store.Grounding

namespace AgentLedger

open Foundation

/-! Which archived response a call in shadow mode is answered with. -/

/-! ### The row that is answered from -/

/-- The key is that of a call for the operation, in the run and the step of the
row and for its tool. -/
def LedgerRow.RecordedFor (row : LedgerRow) (operation : String) : Prop :=
  row.idempotencyKey = row.runId ++ ":" ++ row.stepId ++ ":" ++
    row.toolName ++ ":" ++ operation

instance (row : LedgerRow) (operation : String) :
    Decidable (row.RecordedFor operation) :=
  inferInstanceAs (Decidable (_ = _))

/-- To `LIKE`, the key ends in the tool and the operation, whose wildcards
stand for any text or letter. -/
def ReadsAs (tool operation key : String) : Prop :=
  ∃ rest, rest <:+ likeText key ∧
    Wildcard.Fits likeLetter (likePattern (":" ++ tool ++ ":" ++ operation))
      rest

private theorem likePattern_any (pattern : String) :
    likePattern ("%" ++ pattern) = .many :: likePattern pattern := by
  simp [likePattern, likeText]

theorem like_iff_readsAs {tool operation key : String} :
    like ("%" ++ (":" ++ tool ++ ":" ++ operation)) key = true ↔
      ReadsAs tool operation key := by
  rw [like, Wildcard.fits_iff, likePattern_any, Wildcard.fits_many_iff]
  rfl

namespace ToolGateway

variable (gateway : ToolGateway) (request : Request)

/-- The run that is replayed. -/
def Request.source : Option String :=
  request.ctx.sourceRunId.filter fun source => !source.isEmpty

/-- The operation that the arguments name. -/
def operation : Option String :=
  (gateway.logicalOperation request.args).filter fun text => !text.isEmpty

/-- A row that the call may be answered from. -/
structure Answers (source : String) (row : LedgerRow) : Prop where
  succeeded : row.status = .succeeded
  run : row.runId = source
  tool : row.toolName = request.spec.name
  same : (∃ operation ∈ gateway.operation request, row.RecordedFor operation) ∨
    row.requestHash = request.requestHash

/-- The row has a response that can be read. -/
def Holds (world : World) (row : LedgerRow) (value : Json) : Prop :=
  ∃ ref, row.responseRef = some ref ∧ world.getBlob ref = .ok value

/-- Whatever the call returns is the response of the row that it has found, and
that is one that it may be answered from. -/
def Rightful (world : World) : Prop :=
  ∀ moment value,
    (World.alone moment (gateway.shadowResponse request) world).1 =
      .ok value →
    ∃ source row, request.source = some source ∧
      ((Call.findSucceededLedgerResponse source request.spec.name
        (gateway.logicalOperation request.args) request.requestHash).perform
          moment world.store).1 = .ok (some row) ∧
      Holds world row value ∧ gateway.Answers request source row

/-- A row of the source and the tool whose key reads as the operation. -/
structure Alike (store : Store) (source operation : String)
    (row : LedgerRow) : Prop where
  member : row ∈ store.ledger.rows
  run : row.runId = source
  tool : row.toolName = request.spec.name
  succeeded : row.status = .succeeded
  reads : ReadsAs request.spec.name operation row.idempotencyKey

/-- A row of another operation and another request whose key reads as the
operation is older than some other whose key does, or its response cannot be
read. -/
def OthersOlder (world : World) : Prop :=
  ∀ source operation row value, request.source = some source →
    gateway.operation request = some operation →
    ("%" ++ (":" ++ request.spec.name ++ ":" ++ operation)).utf8ByteSize ≤
      likeLimit →
    Alike request world.store source operation row →
    Holds world row value →
    row.RecordedFor operation ∨ row.requestHash = request.requestHash ∨
      ∃ newer, Alike request world.store source operation newer ∧
        row.createdAt < newer.createdAt

variable {gateway request} {world : World} {moment : Moment}
  {source operation : String} {row : LedgerRow} {value : Json}

theorem mem_likeRows_iff : row ∈ world.store.likeRows source
      request.spec.name ("%" ++ (":" ++ request.spec.name ++ ":" ++
        operation)) ↔
    Alike request world.store source operation row := by
  rw [Store.likeRows, List.mem_filter, Store.succeededRows, List.mem_filter,
    like_iff_readsAs]
  simp only [Bool.and_eq_true, decide_eq_true_eq]
  constructor
  · rintro ⟨⟨member, ⟨run, tool⟩, succeeded⟩, reads⟩
    exact ⟨member, run, tool, succeeded, reads⟩
  · rintro ⟨member, run, tool, succeeded, reads⟩
    exact ⟨⟨member, ⟨run, tool⟩, succeeded⟩, reads⟩

theorem mem_newest_iff : row ∈ foremost LedgerRow.age
      (world.store.likeRows source request.spec.name
        ("%" ++ (":" ++ request.spec.name ++ ":" ++ operation))) ↔
    Alike request world.store source operation row ∧
      ¬∃ newer, Alike request world.store source operation newer ∧
        row.createdAt < newer.createdAt := by
  rw [mem_foremost, mem_likeRows_iff]
  refine and_congr_right fun _ => ?_
  constructor
  · rintro least ⟨newer, alike, later⟩
    have older := least newer (mem_likeRows_iff.mpr alike)
    exact absurd (Int.neg_le_neg_iff.mp older) (Int.not_le.mpr later)
  · intro none_ other member
    refine Int.neg_le_neg (Int.not_lt.mp fun later => none_ ⟨other, ?_, later⟩)
    exact mem_likeRows_iff.mp member

private theorem blocked_raises {payload : Fields} {message : String} :
    (World.alone moment (blocked request.ctx payload message) world).1 ≠
      .ok value := by
  rw [blocked, World.alone_bind]
  split
  · exact fun same => by cases same
  · exact fun same => by cases same

/-- Only a response that can be read is returned. -/
private theorem archived_of_returned {found : LedgerRow}
    {next : Json → RuntimeM Json}
    (answers : ∀ response answer, (World.alone moment (next response) world).1 =
      .ok answer → answer = response)
    (returned : (World.alone moment
      (getJsonOf found.responseRef >>= next) world).1 = .ok value) :
    Holds world found value := by
  cases referred : found.responseRef with
  | none =>
      rw [referred] at returned
      cases returned
  | some ref =>
      rw [World.alone_bind, referred, alone_getJsonOf] at returned
      cases archived : world.getBlob ref with
      | error error =>
          rw [archived] at returned
          cases returned
      | ok response =>
          rw [archived] at returned
          cases answers response value returned
          exact ⟨ref, referred, archived⟩

private theorem returned_of (returned :
    (World.alone moment (gateway.shadowResponse request) world).1 =
      .ok value) :
    ∃ source row, request.source = some source ∧
      ((Call.findSucceededLedgerResponse source request.spec.name
        (gateway.logicalOperation request.args) request.requestHash).perform
          moment world.store).1 = .ok (some row) ∧
      Holds world row value := by
  rw [shadowResponse] at returned
  split at returned
  · exact absurd returned blocked_raises
  · rename_i source given
    obtain ⟨after, answer, kept⟩ := alone_performed world moment
      (.findSucceededLedgerResponse source request.spec.name
        (gateway.logicalOperation request.args) request.requestHash)
    rw [World.alone_bind, answer] at returned
    cases searched : ((Call.findSucceededLedgerResponse source
        request.spec.name (gateway.logicalOperation request.args)
        request.requestHash).perform moment world.store).1 with
    | error error =>
        rw [searched] at returned
        cases returned
    | ok found =>
        rw [searched] at returned
        cases found with
        | none => exact absurd returned blocked_raises
        | some row =>
            refine ⟨source, row, given, searched, ?_⟩
            have holds : Holds after row value := by
              refine archived_of_returned (fun response answer same => ?_)
                returned
              rw [World.alone_bind] at same
              split at same
              · cases same
                rfl
              · cases same
            obtain ⟨ref, referred, archived⟩ := holds
            exact ⟨ref, referred, (kept ref).symm.trans archived⟩

theorem returned_iff :
    (World.alone moment (gateway.shadowResponse request) world).1 =
        .ok value ↔
      ∃ source row, request.source = some source ∧
        ((Call.findSucceededLedgerResponse source request.spec.name
          (gateway.logicalOperation request.args)
          request.requestHash).perform moment world.store).1 =
            .ok (some row) ∧
        Holds world row value := by
  refine ⟨returned_of, ?_⟩
  rintro ⟨source, row, given, searched, ref, referred, archived⟩
  exact shadow_returns given searched referred archived

/-- Whichever of the newest rows a call in shadow mode finds, it is answered
with the response of a row of its own operation or request, exactly when the
rows of others whose keys read as the operation are older than some such row. -/
theorem shadow_response_iff (gateway : ToolGateway) (request : Request)
    (world : World) :
    gateway.Rightful request world ↔ gateway.OthersOlder request world := by
  constructor
  · intro rightful source operation row value given named short alike holds
    by_cases older : ∃ newer,
        Alike request world.store source operation newer ∧
          row.createdAt < newer.createdAt
    · exact .inr (.inr older)
    · obtain ⟨moment, searched⟩ := perform_findSucceeded_newest
        named short
        (mem_newest_iff.mpr ⟨alike, older⟩)
      obtain ⟨other, found, same, again, _, answers⟩ :=
        rightful moment value
          (returned_iff.mpr ⟨source, row, given, searched, holds⟩)
      rw [given] at same
      cases same
      rw [searched] at again
      cases again
      rcases answers.same with ⟨own, member, recorded⟩ | request
      · rw [named] at member
        cases member
        exact .inl recorded
      · exact .inr (.inl request)
  · intro others moment value returned
    obtain ⟨source, row, given, searched, holds⟩ := returned_iff.mp returned
    refine ⟨source, row, given, searched, holds, ?_⟩
    rcases returned_findSucceeded searched with
      ⟨operation, named, short, newest⟩ | newest
    · obtain ⟨alike, older⟩ := mem_newest_iff.mp newest
      refine ⟨alike.succeeded, alike.run, alike.tool, ?_⟩
      rcases others source operation row value given named short alike holds
        with recorded | request | newer
      · exact .inl ⟨operation, named, recorded⟩
      · exact .inr request
      · exact absurd newer older
    · obtain ⟨chosen, same⟩ :=
        List.mem_filter.mp (mem_foremost.mp newest).1
      obtain ⟨_, passes⟩ := List.mem_filter.mp chosen
      simp only [Bool.and_eq_true, decide_eq_true_eq] at passes same
      obtain ⟨⟨run, tool⟩, succeeded⟩ := passes
      exact ⟨succeeded, run, tool, .inr same⟩

end ToolGateway

/-- The operation of the archived charge but for one character, which is a
wildcard. -/
def otherOrder : ToolGateway.Request :=
  { ctx := { chargeContext with
      runId := "shadow"
      sourceRunId := some "run"
      executionMode := .shadow }
    spec := chargeTool
    toolName := "charge"
    args := .obj [("_logical_operation", .str "order_1")]
    toolCallId := "toolcall"
    requestHash := "sha256:other"
    requestRef := "blob://sha256/other.json"
    key := "shadow:step:charge:order_1" }

/-- Another order is answered with the charge of the first. -/
theorem other_order_answered :
    ¬∀ (gateway : ToolGateway) (request : ToolGateway.Request)
      (world : World), gateway.Rightful request world := by
  intro every
  have given : otherOrder.source = some "run" := by decide
  have searched : ((Call.findSucceededLedgerResponse "run"
      otherOrder.spec.name (chargeGateway.logicalOperation otherOrder.args)
      otherOrder.requestHash).perform ⟨9, id, 0⟩
        chargedConfig.world.store).1 = .ok (some chargedRow) := by
    decide
  have archived : chargedConfig.world.getBlob
      (blobRef (chargeGateway.sha256 chargeResult)) = .ok chargeResult := by
    decide
  obtain ⟨source, row, same, found, _, answers⟩ :=
    every chargeGateway otherOrder chargedConfig.world ⟨9, id, 0⟩ chargeResult
      (ToolGateway.returned_iff.mpr
        ⟨"run", chargedRow, given, searched, _, rfl, archived⟩)
  rw [given] at same
  cases same
  rw [searched] at found
  cases found
  rcases answers.same with ⟨operation, named, recorded⟩ | request
  · have other : operation = "order_1" :=
      Option.some_inj.mp ((Option.mem_def.mp named).symm.trans (by decide))
    subst other
    exact absurd recorded (by decide)
  · exact absurd request (by decide)

end AgentLedger
