import AgentLedger.Rust.Memory.Snapshot

namespace AgentLedger.Rust

open Foundation

/-! A snapshot is read back as the store that it was written from. -/

/-! ### Finite numbers -/

namespace MapValue

def finite (value : MapValue) : Bool := value.value.finite

end MapValue

def Run.finite (run : Run) : Bool :=
  run.createdAt.finite && run.updatedAt.finite && run.state.finite

def Step.finite (step : Step) : Bool :=
  step.leaseUntil.all F64.finite && step.cancelledAt.all F64.finite &&
    step.createdAt.finite && step.updatedAt.finite

def Event.finite (event : Event) : Bool :=
  event.timestamp.finite && event.payload.finite

def ToolLedgerEntry.finite (entry : ToolLedgerEntry) : Bool :=
  entry.response.all MapValue.finite && entry.createdAt.finite &&
    entry.updatedAt.finite

def ApprovalRequest.finite (approval : ApprovalRequest) : Bool :=
  approval.createdAt.finite && approval.updatedAt.finite

def CostRecord.finite (cost : CostRecord) : Bool :=
  cost.amount.finite && cost.metadata.finite && cost.createdAt.finite

def Artifact.finite (artifact : Artifact) : Bool :=
  artifact.metadata.finite && artifact.createdAt.finite

namespace MemoryStore

/-- Every number of the store is finite. -/
structure Finite (store : MemoryStore) : Prop where
  runs : ∀ entry ∈ store.runs.entries, entry.2.finite = true
  steps : ∀ entry ∈ store.steps.entries, entry.2.finite = true
  events : ∀ entry ∈ store.events.entries, ∀ event ∈ entry.2,
    event.finite = true
  toolLedger : ∀ entry ∈ store.toolLedger.entries, entry.2.finite = true
  approvalRequests : ∀ entry ∈ store.approvalRequests.entries,
    entry.2.finite = true
  costRecords : ∀ entry ∈ store.costRecords.entries, ∀ cost ∈ entry.2,
    cost.finite = true
  artifacts : ∀ entry ∈ store.artifacts.entries, ∀ artifact ∈ entry.2,
    artifact.finite = true

/-- Every row is under the key that it carries, and no vector is empty. -/
structure Keyed (store : MemoryStore) : Prop where
  runs : ∀ entry ∈ store.runs.entries, entry.2.runId = entry.1
  steps : ∀ entry ∈ store.steps.entries, entry.2.stepId = entry.1
  events : ∀ entry ∈ store.events.entries, entry.2 ≠ [] ∧
    ∀ event ∈ entry.2, event.runId = entry.1
  toolLedger : ∀ entry ∈ store.toolLedger.entries,
    entry.2.idempotencyKey = entry.1
  approvalRequests : ∀ entry ∈ store.approvalRequests.entries,
    entry.2.approvalKey = entry.1
  costRecords : ∀ entry ∈ store.costRecords.entries, entry.2 ≠ [] ∧
    ∀ cost ∈ entry.2, cost.runId = entry.1
  artifacts : ∀ entry ∈ store.artifacts.entries, entry.2 ≠ [] ∧
    ∀ artifact ∈ entry.2, artifact.runId = entry.1

end MemoryStore

/-! ### Fields keep the separators out -/

/-- No separator stands in the field. -/
def Solid (field : String) : Prop :=
  ∀ char ∈ field.toList, char ≠ '\t' ∧ char ≠ '\n' ∧ char ≠ '\r'

theorem solid_of_alphanum {field : String}
    (plain : ∀ char ∈ field.toList, char.isAlphanum = true ∨ char = ':') :
    Solid field := by
  intro char member
  refine ⟨?_, ?_, ?_⟩ <;> rintro rfl <;>
    exact absurd (plain _ member) (by decide)

@[simp] theorem solid_hexEncode (value : String) : Solid (hexEncode value) :=
  solid_of_alphanum fun _ member => .inl (isAlphanum_of_mem_hexEncode member)

@[simp] theorem solid_dash : Solid "-" := by
  intro char member
  obtain rfl := List.mem_singleton.mp member
  decide

private theorem alphanum_of_digit {char : Char} (digit : char.isDigit = true) :
    char.isAlphanum = true := by
  rw [Char.isAlphanum, digit, Bool.or_true]

@[simp] theorem solid_toString (number : UInt64) : Solid (toString number) :=
  solid_of_alphanum fun _ member =>
    .inl (alphanum_of_digit (Decimal.isDigit_of_mem member))

section Solid

variable {text : F64Text}

private theorem hex_plain {value : String} {char : Char}
    (member : char ∈ (hexEncode value).toList) :
    char.isAlphanum = true ∨ char = ':' :=
  .inl (isAlphanum_of_mem_hexEncode member)

private theorem count_plain {count : Nat} {char : Char}
    (member : char ∈ count.repr.toList) : char.isAlphanum = true ∨ char = ':' :=
  .inl (alphanum_of_digit (Decimal.isDigit_of_mem member))

private theorem plain_append {first second : List Char} {plain : Char → Prop}
    (left : ∀ char ∈ first, plain char) (right : ∀ char ∈ second, plain char) :
    ∀ char ∈ first ++ second, plain char := by
  intro char member
  rcases List.mem_append.mp member with here | there
  · exact left char here
  · exact right char there

private theorem plain_cons {head : Char} {rest : List Char}
    {plain : Char → Prop} (first : plain head)
    (later : ∀ char ∈ rest, plain char) :
    ∀ char ∈ head :: rest, plain char := by
  intro char member
  rcases List.mem_cons.mp member with rfl | there
  · exact first
  · exact later char there

mutual
theorem encodeValue_plain : (value : Value) →
    ∀ char ∈ encodeValue text value, char.isAlphanum = true ∨ char = ':'
  | .null => plain_cons (.inl rfl) (List.forall_mem_nil _)
  | .bool true => plain_cons (.inl rfl) (List.forall_mem_nil _)
  | .bool false => plain_cons (.inl rfl) (List.forall_mem_nil _)
  | .number _ => plain_cons (.inl rfl) (plain_append (fun _ => hex_plain)
      (plain_cons (.inr rfl) (List.forall_mem_nil _)))
  | .string _ => plain_cons (.inl rfl) (plain_append (fun _ => hex_plain)
      (plain_cons (.inr rfl) (List.forall_mem_nil _)))
  | .array values => plain_cons (.inl rfl) (plain_append (fun _ => count_plain)
      (plain_cons (.inr rfl) (encodeItems_plain values)))
  | .object entries => plain_cons (.inl rfl) (plain_append
      (fun _ => count_plain)
      (plain_cons (.inr rfl) (encodeEntries_plain entries)))

theorem encodeItems_plain : (values : List Value) →
    ∀ char ∈ encodeItems text values, char.isAlphanum = true ∨ char = ':'
  | [] => List.forall_mem_nil _
  | value :: rest =>
      plain_append (encodeValue_plain value) (encodeItems_plain rest)

theorem encodeEntries_plain : (entries : List (String × Value)) →
    ∀ char ∈ encodeEntries text entries, char.isAlphanum = true ∨ char = ':'
  | [] => List.forall_mem_nil _
  | (_, value) :: rest => plain_append (fun _ => hex_plain)
      (plain_cons (.inr rfl)
        (plain_append (encodeValue_plain value) (encodeEntries_plain rest)))
end

@[simp] theorem solid_encodeState (state : State) :
    Solid (encodeState text state) := by
  apply solid_of_alphanum
  rw [encodeState, String.toList_ofList]
  exact encodeValue_plain state.toValue

@[simp] theorem solid_encodeOptionString (value : Option String) :
    Solid (encodeOptionString value) := by
  cases value with
  | none => exact solid_dash
  | some value => exact solid_hexEncode value

@[simp] theorem solid_encodeOptionU64 (value : Option UInt64) :
    Solid (encodeOptionU64 value) := by
  cases value with
  | none => exact solid_dash
  | some value => exact solid_toString value

@[simp] theorem solid_encodeOptionValue (value : Option MapValue) :
    Solid (encodeOptionValue text value) := by
  cases value with
  | none => exact solid_dash
  | some value =>
      apply solid_of_alphanum
      rw [encodeOptionValue, Option.map_some, Option.getD_some,
        String.toList_ofList]
      exact encodeValue_plain value.value

theorem solid_print (lawful : text.Lawful) (number : F64) :
    Solid (text.print number) :=
  lawful.solid number

theorem solid_encodeOptionF64 (lawful : text.Lawful) (value : Option F64) :
    Solid (encodeOptionF64 text value) := by
  cases value with
  | none => exact solid_dash
  | some value => exact lawful.solid value

end Solid

/-! ### Fields are read back -/

section Fields

variable {text : F64Text}

theorem hexEncode_ne_dash (value : String) : hexEncode value ≠ "-" := by
  intro same
  have dash : '-' ∈ (hexEncode value).toList := by
    rw [same]
    exact List.mem_singleton_self '-'
  exact not_mem_hexEncode value rfl dash

theorem decodeOptionString_encode (value : Option String) :
    decodeOptionString (encodeOptionString value) = .ok value := by
  cases value with
  | none => rfl
  | some value =>
      rw [encodeOptionString, Option.map_some, Option.getD_some,
        decodeOptionString, if_neg (hexEncode_ne_dash value),
        hexDecode_hexEncode]
      rfl

theorem decodeOptionF64_encode (lawful : text.Lawful) {value : Option F64}
    (finite : value.all F64.finite = true) :
    decodeOptionF64 text (encodeOptionF64 text value) = .ok value := by
  cases value with
  | none => rfl
  | some value =>
      rw [encodeOptionF64, Option.map_some, Option.getD_some, decodeOptionF64,
        if_neg (lawful.print_ne_dash value), parseF64_print lawful finite]
      rfl

theorem decodeOptionU64_encode (value : Option UInt64) :
    decodeOptionU64 (encodeOptionU64 value) = .ok value := by
  cases value with
  | none => rfl
  | some value =>
      have digits : toString value ≠ "-" := by
        intro same
        have read := parseU64_toString value
        rw [same] at read
        cases read
      rw [encodeOptionU64, Option.map_some, Option.getD_some, decodeOptionU64,
        if_neg digits, parseU64_toString]
      rfl

theorem decodeOptionValue_encode (lawful : text.Lawful)
    {value : Option MapValue} (finite : value.all MapValue.finite = true) :
    decodeOptionValue text (encodeOptionValue text value) = .ok value := by
  cases value with
  | none => rfl
  | some value =>
      have plain : String.ofList (encodeValue text value.value) ≠ "-" := by
        intro same
        have dash : '-' ∈ encodeValue text value.value := by
          rw [← @String.toList_ofList (encodeValue text value.value), same]
          exact List.mem_singleton_self '-'
        exact absurd (encodeValue_plain value.value _ dash) (by decide)
      rw [encodeOptionValue, Option.map_some, Option.getD_some,
        decodeOptionValue, if_neg plain, decodeValue_encodeValue lawful value
          finite]
      rfl

/-! ### Rows are read back -/

theorem toList_joinFields (fields : List String) :
    (joinFields fields).toList = ['\t'].intercalate (fields.map String.toList) := by
  rw [joinFields, String.toList_intercalate]
  rfl

theorem splitFields_joinFields {fields : List String} (some : fields ≠ [])
    (solid : ∀ field ∈ fields, Solid field) :
    splitFields (joinFields fields) = fields := by
  rw [splitFields, toList_joinFields, List.splitOn_intercalate]
  · rw [List.map_map]
    exact List.map_id'' (fun _ => String.ofList_toList) fields
  · intro chars member
    obtain ⟨field, listed, rfl⟩ := List.mem_map.mp member
    exact fun tab => (solid field listed _ tab).1 rfl
  · exact fun empty => some (List.map_eq_nil_iff.mp empty)

theorem requireLen_self (tag : String) (fields : List String) :
    requireLen tag fields fields.length = .ok () := by
  rw [requireLen, if_neg (fun different => different rfl)]

private theorem ok_bind {α β : Type} (value : α) (next : α → Result β) :
    (Except.ok value >>= next) = next value := rfl

theorem decodeRun_fields (lawful : text.Lawful) {run : Run}
    (finite : run.finite = true) :
    decodeRun text (Run.fields text run) = .ok run := by
  simp only [Run.finite, Bool.and_eq_true] at finite
  obtain ⟨⟨created, updated⟩, state⟩ := finite
  have length : requireLen "R" (Run.fields text run) 8 = .ok () :=
    requireLen_self "R" (Run.fields text run)
  rw [decodeRun, length]
  simp only [Run.fields, fieldAt, List.getD_cons_succ, List.getD_cons_zero,
    hexDecode_hexEncode, parseU64_toString, parseF64_print lawful created,
    parseF64_print lawful updated, decodeState_encodeState lawful _ state,
    ok_bind]
  rfl

theorem decodeStep_fields (lawful : text.Lawful) {step : Step}
    (finite : step.finite = true) :
    decodeStep text (Step.fields text step) = .ok step := by
  simp only [Step.finite, Bool.and_eq_true] at finite
  obtain ⟨⟨⟨until_, cancelled⟩, created⟩, updated⟩ := finite
  have length : requireLen "S" (Step.fields text step) 16 = .ok () :=
    requireLen_self "S" (Step.fields text step)
  rw [decodeStep, length]
  simp only [Step.fields, fieldAt, List.getD_cons_succ, List.getD_cons_zero,
    hexDecode_hexEncode, decodeOptionString_encode, parseU64_toString,
    decodeOptionF64_encode lawful until_,
    decodeOptionF64_encode lawful cancelled, parseF64_print lawful created,
    parseF64_print lawful updated, ok_bind]
  rfl

theorem decodeEvent_fields (lawful : text.Lawful) {event : Event}
    (finite : event.finite = true) :
    decodeEvent text (Event.fields text event) = .ok event := by
  simp only [Event.finite, Bool.and_eq_true] at finite
  have length : requireLen "E" (Event.fields text event) 14 = .ok () :=
    requireLen_self "E" (Event.fields text event)
  rw [decodeEvent, length]
  simp only [Event.fields, fieldAt, List.getD_cons_succ, List.getD_cons_zero,
    hexDecode_hexEncode, decodeOptionString_encode, parseU64_toString,
    decodeOptionU64_encode, parseF64_print lawful finite.1,
    decodeState_encodeState lawful _ finite.2, ok_bind]
  rfl

theorem decodeLedger_fields (lawful : text.Lawful)
    {entry : ToolLedgerEntry} (finite : entry.finite = true) :
    decodeLedger text (ToolLedgerEntry.fields text entry) = .ok entry := by
  simp only [ToolLedgerEntry.finite, Bool.and_eq_true] at finite
  obtain ⟨⟨response, created⟩, updated⟩ := finite
  have length : requireLen "L" (ToolLedgerEntry.fields text entry) 20 = .ok () :=
    requireLen_self "L" (ToolLedgerEntry.fields text entry)
  rw [decodeLedger, length]
  simp only [ToolLedgerEntry.fields, fieldAt, List.getD_cons_succ, List.getD_cons_zero,
    hexDecode_hexEncode, decodeOptionString_encode,
    decodeOptionValue_encode lawful response, parseF64_print lawful created,
    parseF64_print lawful updated, ok_bind]
  rfl

theorem decodeApproval_fields (lawful : text.Lawful)
    {approval : ApprovalRequest} (finite : approval.finite = true) :
    decodeApproval text (ApprovalRequest.fields text approval) = .ok approval := by
  simp only [ApprovalRequest.finite, Bool.and_eq_true] at finite
  have length : requireLen "A" (ApprovalRequest.fields text approval) 17 = .ok () :=
    requireLen_self "A" (ApprovalRequest.fields text approval)
  rw [decodeApproval, length]
  simp only [ApprovalRequest.fields, fieldAt, List.getD_cons_succ, List.getD_cons_zero,
    hexDecode_hexEncode, decodeOptionString_encode,
    parseF64_print lawful finite.1, parseF64_print lawful finite.2, ok_bind]
  rfl

theorem decodeCost_fields (lawful : text.Lawful) {cost : CostRecord}
    (finite : cost.finite = true) :
    decodeCost text (CostRecord.fields text cost) = .ok cost := by
  simp only [CostRecord.finite, Bool.and_eq_true] at finite
  obtain ⟨⟨amount, metadata⟩, created⟩ := finite
  have length : requireLen "C" (CostRecord.fields text cost) 11 = .ok () :=
    requireLen_self "C" (CostRecord.fields text cost)
  rw [decodeCost, length]
  simp only [CostRecord.fields, fieldAt, List.getD_cons_succ, List.getD_cons_zero,
    hexDecode_hexEncode, parseF64_print lawful amount,
    decodeState_encodeState lawful _ metadata, parseF64_print lawful created,
    ok_bind]
  rfl

theorem decodeArtifact_fields (lawful : text.Lawful)
    {artifact : Artifact} (finite : artifact.finite = true) :
    decodeArtifact text (Artifact.fields text artifact) = .ok artifact := by
  simp only [Artifact.finite, Bool.and_eq_true] at finite
  have length : requireLen "F" (Artifact.fields text artifact) 9 = .ok () :=
    requireLen_self "F" (Artifact.fields text artifact)
  rw [decodeArtifact, length]
  simp only [Artifact.fields, fieldAt, List.getD_cons_succ, List.getD_cons_zero,
    hexDecode_hexEncode, decodeOptionString_encode,
    decodeState_encodeState lawful _ finite.1, parseF64_print lawful finite.2,
    ok_bind]
  rfl

/-! ### Lines -/

def tags : List String := ["R", "S", "E", "L", "A", "C", "F"]

/-- A tag first, and no separator in any other field. -/
def RowFields (fields : List String) : Prop :=
  ∃ tag rest, fields = tag :: rest ∧ tag ∈ tags ∧ ∀ field ∈ rest, Solid field

theorem rowFields_run (lawful : text.Lawful) (run : Run) :
    RowFields (Run.fields text run) :=
  ⟨_, _, rfl, by decide, by simp [solid_print lawful]⟩

theorem rowFields_step (lawful : text.Lawful) (step : Step) :
    RowFields (Step.fields text step) :=
  ⟨_, _, rfl, by decide, by
    simp [solid_print lawful, solid_encodeOptionF64 lawful]⟩

theorem rowFields_event (lawful : text.Lawful) (event : Event) :
    RowFields (Event.fields text event) :=
  ⟨_, _, rfl, by decide, by simp [solid_print lawful]⟩

theorem rowFields_ledger (lawful : text.Lawful) (entry : ToolLedgerEntry) :
    RowFields (ToolLedgerEntry.fields text entry) :=
  ⟨_, _, rfl, by decide, by simp [solid_print lawful]⟩

theorem rowFields_approval (lawful : text.Lawful)
    (approval : ApprovalRequest) : RowFields (ApprovalRequest.fields text approval) :=
  ⟨_, _, rfl, by decide, by simp [solid_print lawful]⟩

theorem rowFields_cost (lawful : text.Lawful) (cost : CostRecord) :
    RowFields (CostRecord.fields text cost) :=
  ⟨_, _, rfl, by decide, by simp [solid_print lawful]⟩

theorem rowFields_artifact (lawful : text.Lawful) (artifact : Artifact) :
    RowFields (Artifact.fields text artifact) :=
  ⟨_, _, rfl, by decide, by simp [solid_print lawful]⟩

private theorem tag_starts : ∀ tag ∈ tags, ∃ first, tag.toList = [first] ∧
    first.isAlphanum = true ∧ isWhitespace first = false := by
  intro tag member
  simp only [tags, List.mem_cons, List.not_mem_nil, or_false] at member
  rcases member with rfl | rfl | rfl | rfl | rfl | rfl | rfl <;>
    exact ⟨_, rfl, rfl, rfl⟩

theorem RowFields.solid {fields : List String} (row : RowFields fields) :
    ∀ field ∈ fields, Solid field := by
  obtain ⟨tag, rest, rfl, tagged, solid⟩ := row
  intro field member
  rcases List.mem_cons.mp member with rfl | later
  · obtain ⟨first, shown, plain, _⟩ := tag_starts field tagged
    apply solid_of_alphanum
    intro char inside
    rw [shown] at inside
    obtain rfl := List.mem_singleton.mp inside
    exact .inl plain
  · exact solid field later

theorem RowFields.split {fields : List String} (row : RowFields fields) :
    splitFields (joinFields fields) = fields := by
  apply splitFields_joinFields _ row.solid
  obtain ⟨tag, rest, rfl, _⟩ := row
  exact List.cons_ne_nil _ _

/-- A line has no break in it. -/
def OneLine (line : String) : Prop := '\n' ∉ line.toList ∧ '\r' ∉ line.toList

theorem RowFields.oneLine {fields : List String} (row : RowFields fields) :
    OneLine (joinFields fields) := by
  have free (char : Char) (other : char ≠ '\t')
      (solid : ∀ field ∈ fields, char ∉ field.toList) :
      char ∉ (joinFields fields).toList := by
    rw [toList_joinFields]
    clear row
    induction fields with
    | nil => exact List.not_mem_nil
    | cons field rest ih =>
        cases rest with
        | nil =>
            rw [List.map_singleton, List.intercalate_singleton]
            exact solid field (List.mem_cons_self ..)
        | cons next later =>
            rw [List.map_cons, List.map_cons, List.intercalate_cons_cons]
            intro member
            rcases List.mem_append.mp member with front | behind
            · rcases List.mem_append.mp front with here | tab
              · exact solid field (List.mem_cons_self ..) here
              · exact other (List.mem_singleton.mp tab)
            · exact ih (fun field listed => solid field
                (List.mem_cons_of_mem _ listed)) behind
  exact ⟨free '\n' (by decide) fun field listed inside =>
      (row.solid field listed _ inside).2.1 rfl,
    free '\r' (by decide) fun field listed inside =>
      (row.solid field listed _ inside).2.2 rfl⟩

theorem RowFields.notBlank {fields : List String} (row : RowFields fields) :
    isBlank (joinFields fields) = false := by
  obtain ⟨tag, rest, rfl, tagged, _⟩ := row
  obtain ⟨first, shown, _, visible⟩ := tag_starts tag tagged
  have starts : ∃ behind, (joinFields (tag :: rest)).toList =
      first :: behind := by
    rw [toList_joinFields]
    cases rest with
    | nil => exact ⟨[], by simp [shown]⟩
    | cons next later =>
        rw [List.map_cons, List.map_cons, List.intercalate_cons_cons, shown]
        exact ⟨_, rfl⟩
  obtain ⟨behind, starts⟩ := starts
  rw [isBlank, starts, List.all_cons, visible, Bool.false_and]

private theorem withoutReturn_of_not_mem {line : List Char}
    (free : '\r' ∉ line) : withoutReturn line = line := by
  rw [withoutReturn, if_neg]
  exact fun last => free (List.mem_of_getLast? last)

theorem textLines_intercalate {lines : List String}
    (single : ∀ line ∈ lines, OneLine line) :
    textLines ("\n".intercalate (lines ++ [""])) = lines := by
  have parts : ("\n".intercalate (lines ++ [""])).toList.splitOn '\n' =
      lines.map String.toList ++ [[]] := by
    rw [String.toList_intercalate, List.map_append]
    apply List.splitOn_intercalate
    · intro chars member
      rcases List.mem_append.mp member with listed | last
      · obtain ⟨line, own, rfl⟩ := List.mem_map.mp listed
        exact (single line own).1
      · rw [List.mem_singleton.mp last]
        exact List.not_mem_nil
    · exact List.append_ne_nil_of_right_ne_nil _ (List.cons_ne_nil _ _)
  have kept : (lines.map String.toList).map withoutReturn =
      lines.map String.toList := by
    rw [List.map_map]
    apply List.map_congr_left
    intro line member
    exact withoutReturn_of_not_mem (single line member).2
  rw [textLines, parts, List.dropLast_concat, kept, List.getLast?_concat]
  simp

theorem foldlM_rows {Row : Type} {fields : Row → List String}
    {put : MemoryStore → Row → MemoryStore} {rows : List Row}
    (each : ∀ store, ∀ row ∈ rows,
      decodeLine text store (joinFields (fields row)) = .ok (put store row))
    (store : MemoryStore) :
    ((rows.map fields).map joinFields).foldlM (decodeLine text) store =
      .ok (rows.foldl put store) := by
  induction rows generalizing store with
  | nil => rfl
  | cons row rest ih =>
      rw [List.map_cons, List.map_cons, List.foldlM_cons,
        each store row (List.mem_cons_self ..), ok_bind, List.foldl_cons]
      exact ih (fun store other member =>
        each store other (List.mem_cons_of_mem _ member)) _

/-! ### The store -/

section Store

variable {Row : Type}

theorem sortedBy_values {map : Dictionary String Row} {key : Row → String}
    (keyed : ∀ entry ∈ map.entries, key entry.2 = entry.1) :
    sortedBy key map.values = map.values := by
  apply List.Pairwise.insertionSort_eq
  rw [Dictionary.values, List.pairwise_map]
  apply map.ordered.imp_of_mem
  intro first second left right before
  rw [keyed first left, keyed second right]
  exact before.le

theorem inKeyOrder_eq (map : Dictionary String (List Row)) :
    inKeyOrder map = map.entries.flatMap Prod.snd := by
  rw [inKeyOrder, Dictionary.keys, List.flatMap_map]
  apply List.flatMap_congr
  intro entry member
  rw [Dictionary.get?_of_mem member, Option.getD_some]

theorem forall_values {map : Dictionary String Row} {good : Row → Prop}
    (each : ∀ entry ∈ map.entries, good entry.2) :
    ∀ row ∈ map.values, good row := by
  intro row member
  obtain ⟨entry, listed, rfl⟩ := List.mem_map.mp member
  exact each entry listed

theorem forall_inKeyOrder {map : Dictionary String (List Row)}
    {good : Row → Prop} (each : ∀ entry ∈ map.entries, ∀ row ∈ entry.2,
      good row) : ∀ row ∈ inKeyOrder map, good row := by
  intro row member
  rw [inKeyOrder_eq] at member
  obtain ⟨entry, listed, inside⟩ := List.mem_flatMap.mp member
  exact each entry listed row inside

theorem foldl_putRun (rows : List Run) (store : MemoryStore) :
    rows.foldl MemoryStore.putRun store = { store with
      runs := rows.foldl (fun held run => held.insert run.runId run)
        store.runs } :=
  List.foldl_hom (fun runs => { store with runs := runs }) fun _ _ => rfl

theorem foldl_putStep (rows : List Step) (store : MemoryStore) :
    rows.foldl MemoryStore.putStep store = { store with
      steps := rows.foldl (fun held step => held.insert step.stepId step)
        store.steps } :=
  List.foldl_hom (fun steps => { store with steps := steps }) fun _ _ => rfl

theorem foldl_putEvent (rows : List Event) (store : MemoryStore) :
    rows.foldl MemoryStore.putEvent store = { store with
      events := rows.foldl (fun held event => held.push event.runId event)
        store.events } :=
  List.foldl_hom (fun events => { store with events := events }) fun _ _ => rfl

theorem foldl_putLedger (rows : List ToolLedgerEntry) (store : MemoryStore) :
    rows.foldl MemoryStore.putLedger store = { store with
      toolLedger := rows.foldl
        (fun held entry => held.insert entry.idempotencyKey entry)
        store.toolLedger } :=
  List.foldl_hom (fun ledger => { store with toolLedger := ledger })
    fun _ _ => rfl

theorem foldl_putApproval (rows : List ApprovalRequest) (store : MemoryStore) :
    rows.foldl MemoryStore.putApproval store = { store with
      approvalRequests := rows.foldl
        (fun held approval => held.insert approval.approvalKey approval)
        store.approvalRequests } :=
  List.foldl_hom (fun approvals => { store with approvalRequests := approvals })
    fun _ _ => rfl

theorem foldl_putCost (rows : List CostRecord) (store : MemoryStore) :
    rows.foldl MemoryStore.putCost store = { store with
      costRecords := rows.foldl (fun held cost => held.push cost.runId cost)
        store.costRecords } :=
  List.foldl_hom (fun costs => { store with costRecords := costs })
    fun _ _ => rfl

theorem foldl_putArtifact (rows : List Artifact) (store : MemoryStore) :
    rows.foldl MemoryStore.putArtifact store = { store with
      artifacts := rows.foldl
        (fun held artifact => held.push artifact.runId artifact)
        store.artifacts } :=
  List.foldl_hom (fun artifacts => { store with artifacts := artifacts })
    fun _ _ => rfl

end Store

open MemoryStore

theorem rowFields_storeRows (lawful : text.Lawful) (store : MemoryStore) :
    ∀ fields ∈ storeRows text store, RowFields fields := by
  intro fields member
  simp only [storeRows, List.mem_append, List.mem_map] at member
  rcases member with ⟨row, _, rfl⟩ | ⟨row, _, rfl⟩ | ⟨row, _, rfl⟩ |
    ⟨row, _, rfl⟩ | ⟨row, _, rfl⟩ | ⟨row, _, rfl⟩ | ⟨row, _, rfl⟩
  · exact rowFields_run lawful row
  · exact rowFields_step lawful row
  · exact rowFields_event lawful row
  · exact rowFields_ledger lawful row
  · exact rowFields_approval lawful row
  · exact rowFields_cost lawful row
  · exact rowFields_artifact lawful row

/-- The lines of a snapshot are its header and its rows. -/
theorem decodeStore_encodeStore_eq (lawful : text.Lawful)
    (store : MemoryStore) :
    decodeStore text (encodeStore text store) =
      ((storeRows text store).map joinFields).foldlM (decodeLine text) .new := by
  have rows := rowFields_storeRows lawful store
  have single : ∀ line ∈ header :: (storeRows text store).map joinFields,
      OneLine line := by
    intro line member
    rcases List.mem_cons.mp member with rfl | later
    · exact ⟨by decide, by decide⟩
    · obtain ⟨fields, listed, rfl⟩ := List.mem_map.mp later
      exact (rows fields listed).oneLine
  have shown : ((storeRows text store).map joinFields).filter
      (fun line => !isBlank line) = (storeRows text store).map joinFields := by
    rw [List.filter_eq_self]
    intro line member
    obtain ⟨fields, listed, rfl⟩ := List.mem_map.mp member
    rw [(rows fields listed).notBlank]
    rfl
  rw [decodeStore, encodeStore, ← List.cons_append,
    textLines_intercalate single]
  simp only [if_pos, shown]

section Lines

variable (store : MemoryStore)

theorem decodeLine_run (lawful : text.Lawful) {run : Run}
    (finite : run.finite = true) :
    decodeLine text store (joinFields (Run.fields text run)) =
      .ok (store.putRun run) := by
  have decoded := decodeRun_fields lawful finite
  rw [decodeLine, (rowFields_run lawful run).split]
  exact congrArg (Except.map store.putRun) decoded

theorem decodeLine_step (lawful : text.Lawful) {step : Step}
    (finite : step.finite = true) :
    decodeLine text store (joinFields (Step.fields text step)) =
      .ok (store.putStep step) := by
  have decoded := decodeStep_fields lawful finite
  rw [decodeLine, (rowFields_step lawful step).split]
  exact congrArg (Except.map store.putStep) decoded

theorem decodeLine_event (lawful : text.Lawful) {event : Event}
    (finite : event.finite = true) :
    decodeLine text store (joinFields (Event.fields text event)) =
      .ok (store.putEvent event) := by
  have decoded := decodeEvent_fields lawful finite
  rw [decodeLine, (rowFields_event lawful event).split]
  exact congrArg (Except.map store.putEvent) decoded

theorem decodeLine_ledger (lawful : text.Lawful) {entry : ToolLedgerEntry}
    (finite : entry.finite = true) :
    decodeLine text store (joinFields (ToolLedgerEntry.fields text entry)) =
      .ok (store.putLedger entry) := by
  have decoded := decodeLedger_fields lawful finite
  rw [decodeLine, (rowFields_ledger lawful entry).split]
  exact congrArg (Except.map store.putLedger) decoded

theorem decodeLine_approval (lawful : text.Lawful)
    {approval : ApprovalRequest} (finite : approval.finite = true) :
    decodeLine text store (joinFields (ApprovalRequest.fields text approval)) =
      .ok (store.putApproval approval) := by
  have decoded := decodeApproval_fields lawful finite
  rw [decodeLine, (rowFields_approval lawful approval).split]
  exact congrArg (Except.map store.putApproval) decoded

theorem decodeLine_cost (lawful : text.Lawful) {cost : CostRecord}
    (finite : cost.finite = true) :
    decodeLine text store (joinFields (CostRecord.fields text cost)) =
      .ok (store.putCost cost) := by
  have decoded := decodeCost_fields lawful finite
  rw [decodeLine, (rowFields_cost lawful cost).split]
  exact congrArg (Except.map store.putCost) decoded

theorem decodeLine_artifact (lawful : text.Lawful) {artifact : Artifact}
    (finite : artifact.finite = true) :
    decodeLine text store (joinFields (Artifact.fields text artifact)) =
      .ok (store.putArtifact artifact) := by
  have decoded := decodeArtifact_fields lawful finite
  rw [decodeLine, (rowFields_artifact lawful artifact).split]
  exact congrArg (Except.map store.putArtifact) decoded

end Lines

theorem decodeStore_encodeStore (lawful : text.Lawful) {store : MemoryStore}
    (keyed : store.Keyed) (finite : store.Finite) :
    decodeStore text (encodeStore text store) = .ok store := by
  have runs : ∀ run ∈ store.runs.values, run.finite = true :=
    forall_values finite.runs
  have steps : ∀ step ∈ store.steps.values, step.finite = true :=
    forall_values finite.steps
  have events : ∀ event ∈ inKeyOrder store.events, event.finite = true :=
    forall_inKeyOrder finite.events
  have ledger : ∀ entry ∈ store.toolLedger.values, entry.finite = true :=
    forall_values finite.toolLedger
  have approvals : ∀ approval ∈ store.approvalRequests.values,
      approval.finite = true := forall_values finite.approvalRequests
  have costs : ∀ cost ∈ inKeyOrder store.costRecords, cost.finite = true :=
    forall_inKeyOrder finite.costRecords
  have artifacts : ∀ artifact ∈ inKeyOrder store.artifacts,
      artifact.finite = true := forall_inKeyOrder finite.artifacts
  rw [decodeStore_encodeStore_eq lawful, storeRows, sortedBy_values keyed.runs,
    sortedBy_values keyed.steps, sortedBy_values keyed.toolLedger,
    sortedBy_values keyed.approvalRequests]
  simp only [List.map_append, List.foldlM_append]
  rw [foldlM_rows fun store run member =>
      decodeLine_run store lawful (runs run member), ok_bind,
    foldlM_rows fun store step member =>
      decodeLine_step store lawful (steps step member), ok_bind,
    foldlM_rows fun store event member =>
      decodeLine_event store lawful (events event member), ok_bind,
    foldlM_rows fun store entry member =>
      decodeLine_ledger store lawful (ledger entry member), ok_bind,
    foldlM_rows fun store approval member =>
      decodeLine_approval store lawful (approvals approval member), ok_bind,
    foldlM_rows fun store cost member =>
      decodeLine_cost store lawful (costs cost member), ok_bind,
    foldlM_rows fun store artifact member =>
      decodeLine_artifact store lawful (artifacts artifact member)]
  rw [foldl_putRun, foldl_putStep, foldl_putEvent, foldl_putLedger,
    foldl_putApproval, foldl_putCost, foldl_putArtifact]
  simp only [MemoryStore.new, inKeyOrder_eq,
    Dictionary.foldl_insert _ keyed.runs, Dictionary.foldl_insert _ keyed.steps,
    Dictionary.foldl_push _ keyed.events,
    Dictionary.foldl_insert _ keyed.toolLedger,
    Dictionary.foldl_insert _ keyed.approvalRequests,
    Dictionary.foldl_push _ keyed.costRecords,
    Dictionary.foldl_push _ keyed.artifacts]

end Fields

end AgentLedger.Rust
