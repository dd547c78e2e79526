import AgentLedger.Runtime.Succeeded

namespace AgentLedger

open Foundation

/-! Whether the response of a row that has succeeded can be read back. -/

section Archived

variable (sha256 : Json → String) (world : World)

/-- The reference resolves to a value with the hash. -/
def Resolved (hash ref : Option String) : Prop :=
  ∃ at_ value, ref = some at_ ∧ world.getBlob at_ = .ok value ∧
    hash = some (blobHash (sha256 value))

def LedgerRow.Archived (row : LedgerRow) : Prop :=
  Resolved sha256 world row.responseHash row.responseRef

def LedgerUpdate.Archived (update : LedgerUpdate) : Prop :=
  Resolved sha256 world update.responseHash update.responseRef

/-- The file that the update names is whole: it holds what it is named after. -/
def LedgerUpdate.Whole (update : LedgerUpdate) : Prop :=
  ∀ ref, update.responseRef = some ref →
    ∃ value, world.getBlob ref = .ok value ∧ ref = blobRef (sha256 value)

/-- The rows that have succeeded are archived. -/
def Backed : Prop :=
  ∀ key row, world.store.ledgerRow? key = some row →
    row.status = .succeeded → row.Archived sha256 world

end Archived

/-- The update by which a call sets a row `SUCCEEDED`. -/
def Call.succeeds (call : Call) (store : Store) : Option LedgerUpdate :=
  match call with
  | .updateLedger update =>
      if update.status = .succeeded ∧
          (store.ledgerRow? update.idempotencyKey).isSome then some update
      else none
  | .resolveLedger runId update _ _ =>
      if update.status = .succeeded ∧ store.resolves runId update then
        some update
      else none
  | _ => none

/-- The hash and the reference are made of one digest. -/
def LedgerUpdate.Digested (update : LedgerUpdate) : Prop :=
  ∃ digest, update.responseHash = some (blobHash digest) ∧
    update.responseRef = some (blobRef digest)

/-- Who sets a row `SUCCEEDED` answers for its response: an operator names an
archived one, a caller or a bridge one whose file is whole, and a bridge has got
a result. -/
def Substantiates (sha256 : Json → String) (task : Task) (call : Call)
    (world : World) : Prop :=
  ∀ update, call.succeeds world.store = some update →
    match task with
    | .operation _ => update.Archived sha256 world
    | .recordToolExecution _ execution =>
        execution.result ≠ .null ∧ update.Whole sha256 world
    | .callTool _ _ _ => update.Whole sha256 world
    | .runOnce _ => True

section Blobs

variable {sha256 : Json → String} {world : World}

theorem blobRef_injective {first second : String}
    (same : blobRef first = blobRef second) : first = second := by
  have letters := congrArg String.toList same
  simp only [blobRef, String.toList_append, List.append_assoc] at letters
  have trimmed := List.append_cancel_left letters
  exact String.toList_injective (List.append_cancel_right trimmed)

theorem blobHash_injective {first second : String}
    (same : blobHash first = blobHash second) : first = second := by
  have letters := congrArg String.toList same
  simp only [blobHash, String.toList_append] at letters
  exact String.toList_injective (List.append_cancel_left letters)

/-- Of a response that is named by its digest only the file has to be whole. -/
theorem LedgerUpdate.Digested.archived_iff {update : LedgerUpdate}
    (digested : update.Digested) :
    update.Archived sha256 world ↔ update.Whole sha256 world := by
  obtain ⟨digest, hash, ref⟩ := digested
  constructor
  · rintro ⟨at_, value, named, read, hashed⟩ other same
    rw [hash] at hashed
    have own := blobHash_injective (Option.some.inj hashed)
    rw [named] at same ref
    cases same
    exact ⟨value, read, own ▸ Option.some.inj ref⟩
  · intro whole
    obtain ⟨value, read, named⟩ := whole _ ref
    exact ⟨_, value, ref, read, by rw [hash, blobRef_injective named]⟩

end Blobs

/-! ### The contract -/

/-- What has been archived stays readable. -/
def KeepsBlobs (before after : World) : Prop :=
  ∀ ref value, before.getBlob ref = .ok value → after.getBlob ref = .ok value

/-- A caller reads only what is there, and names its response by a digest; so
does a bridge that has got a result, and one without enters no reference. -/
@[reducible] def archiving (bridge : ExecutionEvidenceBridge) :
    Machine.Contract (runtimeSystem bridge) where
  invariant := Backed bridge.gateway.sha256
  rely _ := KeepsBlobs
  admitsCall _ _ _ := True
  admits _ task cmd input world := ∀ call, cmd = .store call →
    input.fault = none → Substantiates bridge.gateway.sha256 task call world
  owes _ task cmd world :=
    match task, cmd with
    | .callTool _ _ _, .getJson ref => ∃ value, world.getBlob ref = .ok value
    | .callTool _ _ _, .store call =>
        ∀ update, call.ledgerUpdate = some update →
          update.status = .succeeded → update.Digested
    | .recordToolExecution _ execution, .store call =>
        ∀ update, call.ledgerUpdate = some update →
          update.status = .succeeded →
            (execution.result = .null → update.responseRef = none) ∧
              (execution.result ≠ .null → update.Digested)
    | _, _ => True
  ends _ _ _ _ := True

variable {bridge : ExecutionEvidenceBridge}

section Guarantees

variable {sha256 : Json → String} {world after : World} {thread : Tid}

theorem Resolved.keeps {hash ref : Option String}
    (resolved : Resolved sha256 world hash ref)
    (keeps : KeepsBlobs world after) : Resolved sha256 after hash ref := by
  obtain ⟨at_, value, named, read, hashed⟩ := resolved
  exact ⟨at_, value, named, keeps at_ value read, hashed⟩

theorem Call.succeeds_of_apply {call : Call} {update : LedgerUpdate}
    (same : call = .updateLedger update) {store : Store} {row : LedgerRow}
    (found : store.ledgerRow? update.idempotencyKey = some row)
    (succeeded : update.status = .succeeded) :
    call.succeeds store = some update := by
  subst same
  simp [Call.succeeds, succeeded, found]

/-- A row that has succeeded after an operation had done so before, or the
operation sets it. -/
theorem succeeded_of_perform {call : Call} {moment : Moment} {store : Store}
    {key : String} {row : LedgerRow}
    (found : (call.perform moment store).2.ledgerRow? key = some row)
    (succeeded : row.status = .succeeded) :
    store.ledgerRow? key = some row ∨
      ∃ update, call.succeeds store = some update ∧
        row.responseHash = update.responseHash ∧
        row.responseRef = update.responseRef := by
  cases call with
  | reserveLedger args =>
      cases held : store.ledgerRow? args.idempotencyKey with
      | some existing =>
          rw [Store.perform_reserveLedger_found held] at found
          exact .inl found
      | none =>
          rw [(Store.perform_reserveLedger_fresh held).2] at found
          by_cases same : key = args.idempotencyKey
          · subst same
            rw [Function.update_self] at found
            cases found
            cases succeeded
          · rw [Function.update_of_ne same] at found
            exact .inl found
  | updateLedger update =>
      rw [Store.perform_updateLedger, Store.ledgerRow?_updateLedger] at found
      by_cases same : key = update.idempotencyKey
      · subst same
        rw [Function.update_self] at found
        obtain ⟨before, present, rfl⟩ := Option.map_eq_some_iff.mp found
        exact .inr ⟨update, Call.succeeds_of_apply rfl present succeeded, rfl,
          rfl⟩
      · rw [Function.update_of_ne same] at found
        exact .inl found
  | resolveLedger runId update resolvedBy reason =>
      cases resolves : store.resolves runId update with
      | false =>
          obtain ⟨error, performed⟩ :=
            @Store.perform_resolveLedger_refused store moment runId resolvedBy
              reason update resolves
          rw [performed] at found
          exact .inl found
      | true =>
          obtain ⟨before, _, _, _, entries⟩ :=
            @Store.perform_resolveLedger store moment runId resolvedBy reason
              update resolves
          rw [entries] at found
          by_cases same : key = update.idempotencyKey
          · subst same
            rw [Function.update_self] at found
            cases found
            refine .inr ⟨update, ?_, rfl, rfl⟩
            exact if_pos ⟨succeeded, resolves⟩
          · rw [Function.update_of_ne same] at found
            exact .inl found
  | _ =>
      rw [Store.ledgerRow?_of_other rfl] at found
      exact .inl found

/-- A command that leaves the archive in order, here and now. -/
def Orderly (sha256 : Json → String) (world : World) : Command → Prop
  | .store call => ∀ update, call.succeeds world.store = some update →
      update.Archived sha256 world
  | _ => True

theorem keepsBlobs_of_act {cmd : Command} {input : Surroundings}
    {reply : cmd.Reply}
    (acted : World.act thread cmd input world = some (reply, after)) :
    KeepsBlobs world after :=
  fun _ _ => World.getBlob_of_act acted

theorem Backed.act {cmd : Command} {input : Surroundings}
    {reply : cmd.Reply} (backed : Backed sha256 world)
    (orderly : input.fault = none → Orderly sha256 world cmd)
    (acted : World.act thread cmd input world = some (reply, after)) :
    Backed sha256 after := by
  have keeps := keepsBlobs_of_act acted
  intro key row found succeeded
  rcases World.store_of_act acted with same | ⟨call, rfl, faultless, same⟩
  · rw [same] at found
    exact (backed key row found succeeded).keeps keeps
  · rw [same] at found
    rcases succeeded_of_perform found succeeded with before |
      ⟨update, sets, hash, ref⟩
    · exact (backed key row before succeeded).keeps keeps
    · rw [LedgerRow.Archived, hash, ref]
      exact (orderly faultless update sets).keeps keeps

theorem Backed.guarantees {cmd : Command} {input : Surroundings}
    {reply : cmd.Reply} (backed : Backed bridge.gateway.sha256 world)
    (orderly : input.fault = none → Orderly bridge.gateway.sha256 world cmd)
    (acted : World.act thread cmd input world = some (reply, after)) :
    (archiving bridge).Guarantees thread world after :=
  ⟨backed.act orderly acted, fun _ _ => keepsBlobs_of_act acted⟩

end Guarantees

end AgentLedger
