import AgentLedger.Tools.Gateway

namespace AgentLedger

open Foundation

/-! What the idempotency key and the approval key of a tool call tell apart.
Both are texts joined by colons. -/

/-- The hex digits of a SHA-256 digest. -/
structure Digest where
  text : String
  nonempty : text.toList ≠ []
  plain : ':' ∉ text.toList

/-- What the keys of a tool call are made from. -/
structure KeyParts where
  ctx : AgentContext
  spec : ToolSpec
  /-- `_logical_operation`; empty where none is given. -/
  operation : String
  digest : Digest

namespace KeyParts

variable (gateway : ToolGateway) (parts other : KeyParts)

def requestHash : String := blobHash parts.digest.text

def idempotencyKey : String :=
  gateway.idempotencyKey parts.ctx parts.spec
    (.obj [("_logical_operation", .str parts.operation)]) parts.requestHash

def approvalKey : String :=
  ToolGateway.approvalKey parts.ctx parts.spec parts.requestHash

structure SameTool : Prop where
  run : other.ctx.runId = parts.ctx.runId
  step : other.ctx.stepId = parts.ctx.stepId
  tool : other.spec.name = parts.spec.name

/-- The same operation; the same request, where no operation is given. -/
structure SameOperation : Prop extends SameTool parts other where
  operation : other.operation = parts.operation
  request : parts.operation = "" → other.requestHash = parts.requestHash

structure SameRequest : Prop extends SameTool parts other where
  request : other.requestHash = parts.requestHash

/-- The parts before the last have no colon. -/
structure Plain : Prop where
  run : ':' ∉ parts.ctx.runId.toList
  step : ':' ∉ parts.ctx.stepId.toList
  tool : ':' ∉ parts.spec.name.toList

/-- The last part of the idempotency key. -/
def last : List Char :=
  if parts.operation = "" then parts.requestHash.toList
  else parts.operation.toList

/-! ### The keys as lists -/

def joined (last : List Char) : List Char :=
  parts.ctx.runId.toList ++ ':' :: (parts.ctx.stepId.toList ++
    ':' :: (parts.spec.name.toList ++ ':' :: last))

variable {parts other}

theorem toList_approvalKey :
    parts.approvalKey.toList = parts.joined parts.requestHash.toList := by
  simp [approvalKey, ToolGateway.approvalKey, joined]

private theorem logicalOperation_str (operation : String) :
    gateway.logicalOperation
        (.obj [("_logical_operation", .str operation)]) =
      if operation = "" then none else some operation := by
  have present : Fields.get? (Json.obj
      [("_logical_operation", .str operation)]).fields "_logical_operation" =
        some (.str operation) := by
    simp [Json.fields, Fields.get?]
  rw [ToolGateway.logicalOperation, given, present]
  by_cases absent : operation = ""
  · subst absent
    rfl
  · have shown : truthy (.str operation) = true := by
      simpa [truthy] using absent
    simp [absent, Option.filter, shown, ToolGateway.text]

theorem toList_idempotencyKey :
    (parts.idempotencyKey gateway).toList = parts.joined parts.last := by
  rw [idempotencyKey, ToolGateway.idempotencyKey, logicalOperation_str]
  by_cases absent : parts.operation = ""
  · simp [joined, last, absent]
  · simp [joined, last, absent]

private theorem count_joined (rest : List Char) :
    (parts.joined rest).count ':' =
      parts.ctx.runId.toList.count ':' + parts.ctx.stepId.toList.count ':' +
        parts.spec.name.toList.count ':' + rest.count ':' + 3 := by
  simp only [joined, List.count_append, List.count_cons_self]
  omega

theorem plain_iff_count :
    parts.Plain ↔ parts.ctx.runId.toList.count ':' +
      parts.ctx.stepId.toList.count ':' +
        parts.spec.name.toList.count ':' = 0 := by
  constructor
  · rintro ⟨run, step, tool⟩
    rw [List.count_eq_zero.mpr run, List.count_eq_zero.mpr step,
      List.count_eq_zero.mpr tool]
  · intro none
    constructor
    all_goals
      apply List.count_eq_zero.mp
      omega

private theorem cut_injective {front otherFront rest otherRest : List Char}
    (plain : ':' ∉ front) (otherPlain : ':' ∉ otherFront)
    (same : otherFront ++ ':' :: otherRest = front ++ ':' :: rest) :
    otherFront = front ∧ otherRest = rest := by
  induction otherFront generalizing front with
  | nil =>
      cases front with
      | nil => exact ⟨rfl, (List.cons.inj same).2⟩
      | cons letter tail =>
          have first := (List.cons.inj same).1
          exact absurd (first ▸ List.mem_cons_self) plain
  | cons letter tail ih =>
      cases front with
      | nil =>
          have first := (List.cons.inj same).1
          exact absurd (first ▸ List.mem_cons_self) otherPlain
      | cons other others =>
          obtain ⟨first, more⟩ := List.cons.inj same
          obtain ⟨front, rest⟩ := ih
            (fun member => plain (List.mem_cons_of_mem _ member))
            (fun member => otherPlain (List.mem_cons_of_mem _ member)) more
          exact ⟨by rw [first, front], rest⟩

/-- Without colons before the last part the parts can be read off. -/
theorem joined_injective (plain : parts.Plain) (otherPlain : other.Plain)
    {rest otherRest : List Char}
    (same : other.joined otherRest = parts.joined rest) :
    SameTool parts other ∧ otherRest = rest := by
  obtain ⟨run, more⟩ := cut_injective plain.run otherPlain.run same
  obtain ⟨step, more⟩ := cut_injective plain.step otherPlain.step more
  obtain ⟨tool, more⟩ := cut_injective plain.tool otherPlain.tool more
  exact ⟨⟨String.toList_inj.mp run, String.toList_inj.mp step,
    String.toList_inj.mp tool⟩, more⟩

/-- A colon before the last part can be moved to the part's neighbour. -/
theorem collides_of_not_plain (colon : ¬ parts.Plain) :
    ∃ other : KeyParts, other.operation = parts.operation ∧
      other.digest = parts.digest ∧
      (∀ rest, other.joined rest = parts.joined rest) ∧
      ¬ SameTool parts other := by
  by_cases run : ':' ∈ parts.ctx.runId.toList
  · obtain ⟨front, back, split⟩ := List.append_of_mem run
    refine ⟨{ parts with ctx := { parts.ctx with
      runId := String.ofList front
      stepId := String.ofList (back ++ ':' :: parts.ctx.stepId.toList) } },
      rfl, rfl, fun rest => by simp [joined, split], fun same => ?_⟩
    have shorter := congrArg (fun text => text.toList.length) same.run
    simp only [split, String.toList_ofList, List.length_append,
      List.length_cons] at shorter
    omega
  by_cases step : ':' ∈ parts.ctx.stepId.toList
  · obtain ⟨front, back, split⟩ := List.append_of_mem step
    refine ⟨{ parts with
      ctx := { parts.ctx with stepId := String.ofList front }
      spec := { parts.spec with
        name := String.ofList (back ++ ':' :: parts.spec.name.toList) } },
      rfl, rfl, fun rest => by simp [joined, split], fun same => ?_⟩
    have shorter := congrArg (fun text => text.toList.length) same.step
    simp only [split, String.toList_ofList, List.length_append,
      List.length_cons] at shorter
    omega
  by_cases tool : ':' ∈ parts.spec.name.toList
  · obtain ⟨front, back, split⟩ := List.append_of_mem tool
    refine ⟨{ parts with
      ctx := { parts.ctx with
        stepId := String.ofList (parts.ctx.stepId.toList ++ ':' :: front) }
      spec := { parts.spec with name := String.ofList back } },
      rfl, rfl, fun rest => by simp [joined, split], fun same => ?_⟩
    have shorter := congrArg (fun text => text.toList.length) same.tool
    simp only [split, String.toList_ofList, List.length_append,
      List.length_cons] at shorter
    omega
  · exact absurd ⟨run, step, tool⟩ colon

/-! ### The approval key -/

private theorem toList_requestHash :
    parts.requestHash.toList =
      "sha256".toList ++ ':' :: parts.digest.text.toList := by
  simp [requestHash, blobHash]

private theorem count_requestHash :
    parts.requestHash.toList.count ':' = 1 := by
  rw [toList_requestHash, List.count_append, List.count_cons_self,
    List.count_eq_zero.mpr parts.digest.plain]
  decide

/-- Requests with the same approval key are one request of one tool exactly
when the parts before the digest have no colon. -/
theorem approvalKey_separates_iff :
    (∀ other : KeyParts, other.approvalKey = parts.approvalKey →
      SameRequest parts other) ↔ parts.Plain := by
  constructor
  · intro separates
    by_contra colon
    obtain ⟨other, _, digest, same, different⟩ := collides_of_not_plain colon
    apply different
    refine (separates other ?_).toSameTool
    rw [← String.toList_inj, toList_approvalKey, toList_approvalKey,
      requestHash, digest]
    exact same _
  · intro plain other same
    have keys : other.joined other.requestHash.toList =
        parts.joined parts.requestHash.toList := by
      rw [← toList_approvalKey, ← toList_approvalKey, same]
    have counts := congrArg (List.count ':') keys
    have none := plain_iff_count.mp plain
    rw [count_joined, count_joined, count_requestHash, count_requestHash]
      at counts
    have otherPlain : other.Plain := plain_iff_count.mpr (by omega)
    obtain ⟨tool, request⟩ := joined_injective plain otherPlain keys
    exact ⟨tool, String.toList_inj.mp request⟩

/-! ### The idempotency key -/

private theorem colon_before_end_iff {letters : List Char} :
    ':' ∈ letters.dropLast ↔
      ∃ front back, letters = front ++ ':' :: back ∧ back ≠ [] := by
  constructor
  · intro inner
    obtain ⟨front, back, split⟩ := List.append_of_mem inner
    have some : letters ≠ [] := by
      rintro rfl
      cases inner
    refine ⟨front, back ++ [letters.getLast some], ?_, by simp⟩
    calc
      letters = letters.dropLast ++ [letters.getLast some] :=
        (List.dropLast_append_getLast some).symm
      _ = front ++ ':' :: (back ++ [letters.getLast some]) := by simp [split]
  · rintro ⟨front, back, rfl, some⟩
    rw [List.dropLast_append_of_ne_nil (List.cons_ne_nil _ _),
      List.dropLast_cons_of_ne_nil some]
    simp

private theorem last_ne_nil : parts.last ≠ [] := by
  unfold last
  split
  · rw [toList_requestHash]
    simp
  · rename_i given
    simpa using given

/-- A colon inside the last part can be moved to the tool's name. -/
theorem collides_of_inner_colon (inner : ':' ∈ parts.last.dropLast) :
    ∃ other : KeyParts, other.joined other.last = parts.joined parts.last ∧
      ¬ SameTool parts other := by
  obtain ⟨front, back, split, some⟩ := colon_before_end_iff.mp inner
  have given : String.ofList back ≠ "" := by
    intro empty
    apply some
    simpa using congrArg String.toList empty
  refine ⟨{ parts with
    spec := { parts.spec with
      name := String.ofList (parts.spec.name.toList ++ ':' :: front) }
    operation := String.ofList back }, ?_, fun same => ?_⟩
  · rw [split]
    simp [joined, last, given]
  · have longer := congrArg (fun text => text.toList.length) same.tool
    simp only [String.toList_ofList, List.length_append,
      List.length_cons] at longer
    omega

private theorem joined_getLast? (rest : List Char) (some : rest ≠ []) :
    (parts.joined rest).getLast? = rest.getLast? := by
  obtain ⟨front, final, rfl⟩ := List.eq_nil_or_concat rest |>.resolve_left some
  simp [joined, List.getLast?_append, List.getLast?_cons]

/-- At most one colon, and that at the end, is found again at the end of
whatever ends in the same letter. -/
private theorem count_le_of_getLast? {letters others : List Char}
    (outer : ':' ∉ letters.dropLast)
    (same : others.getLast? = letters.getLast?) :
    letters.count ':' ≤ others.count ':' := by
  rcases List.eq_nil_or_concat letters with rfl | ⟨front, final, rfl⟩
  · simp
  · rw [List.concat_eq_append] at outer same ⊢
    rw [List.dropLast_concat] at outer
    rw [List.getLast?_concat] at same
    rw [List.count_append, List.count_eq_zero.mpr outer, Nat.zero_add]
    by_cases colon : final = ':'
    · subst colon
      have member := List.mem_of_getLast? same
      have present := List.count_pos_iff.mpr member
      simpa using present
    · simp [colon]

/-- Calls with the same idempotency key are one operation of one tool exactly
when the call names an operation and no part of the key has a colon, but for
the operation's last character. -/
theorem idempotencyKey_separates_iff :
    (∀ other : KeyParts,
      other.idempotencyKey gateway = parts.idempotencyKey gateway →
      SameOperation parts other) ↔
      parts.Plain ∧ parts.operation ≠ "" ∧
        ':' ∉ parts.operation.toList.dropLast := by
  constructor
  · intro separates
    have plain : parts.Plain := by
      by_contra colon
      obtain ⟨other, operation, digest, same, different⟩ :=
        collides_of_not_plain colon
      apply different
      refine (separates other ?_).toSameTool
      rw [← String.toList_inj, toList_idempotencyKey, toList_idempotencyKey,
        last, requestHash, operation, digest]
      exact same _
    have outer : ':' ∉ parts.last.dropLast := by
      intro inner
      obtain ⟨other, same, different⟩ := collides_of_inner_colon inner
      apply different
      refine (separates other ?_).toSameTool
      rw [← String.toList_inj, toList_idempotencyKey, toList_idempotencyKey,
        same]
    have given : parts.operation ≠ "" := by
      intro absent
      rw [last, if_pos absent, toList_requestHash] at outer
      apply outer
      exact colon_before_end_iff.mpr ⟨_, _, rfl, parts.digest.nonempty⟩
    rw [last, if_neg given] at outer
    exact ⟨plain, given, outer⟩
  · rintro ⟨plain, given, outer⟩ other same
    have keys : other.joined other.last = parts.joined parts.last := by
      rw [← toList_idempotencyKey gateway, ← toList_idempotencyKey gateway,
        same]
    have ends : other.last.getLast? = parts.last.getLast? := by
      rw [← joined_getLast? _ last_ne_nil, keys,
        joined_getLast? _ last_ne_nil]
    have lastOuter : ':' ∉ parts.last.dropLast := by
      rw [last, if_neg given]
      exact outer
    have counts := congrArg (List.count ':') keys
    have none := plain_iff_count.mp plain
    have enough := count_le_of_getLast? lastOuter ends
    rw [count_joined, count_joined] at counts
    have otherPlain : other.Plain := plain_iff_count.mpr (by omega)
    obtain ⟨tool, lasts⟩ := joined_injective plain otherPlain keys
    have otherGiven : other.operation ≠ "" := by
      intro absent
      rw [← lasts, last, if_pos absent, toList_requestHash] at lastOuter
      apply lastOuter
      exact colon_before_end_iff.mpr ⟨_, _, rfl, other.digest.nonempty⟩
    rw [last, last, if_neg otherGiven, if_neg given] at lasts
    exact ⟨tool, String.toList_inj.mp lasts, fun absent => absurd absent given⟩

/-- What each of the two keys tells apart. -/
theorem keys_separate_iff (gateway : ToolGateway) (parts : KeyParts) :
    ((∀ other : KeyParts,
      other.idempotencyKey gateway = parts.idempotencyKey gateway →
      SameOperation parts other) ↔
      parts.Plain ∧ parts.operation ≠ "" ∧
        ':' ∉ parts.operation.toList.dropLast) ∧
    ((∀ other : KeyParts, other.approvalKey = parts.approvalKey →
      SameRequest parts other) ↔ parts.Plain) :=
  ⟨idempotencyKey_separates_iff gateway, approvalKey_separates_iff⟩

/-! Two tools of one step. -/

def inStep (name operation : String) : KeyParts where
  ctx :=
    { runId := "run"
      sessionId := "sess"
      stepId := "step"
      agentRole := "Agent"
      leaseToken := "lease"
      attempt := 1
      stateVersion := 0 }
  spec := { name := name, sideEffect := "external" }
  operation := operation
  digest := ⟨"00", by decide, by decide⟩

theorem refund_has_key_of_charge :
    (inStep "charge:refund" "order").idempotencyKey chargeGateway =
      (inStep "charge" "refund:order").idempotencyKey chargeGateway ∧
    (inStep "charge:refund" "order").spec.name ≠
      (inStep "charge" "refund:order").spec.name := by
  decide

end KeyParts

end AgentLedger
