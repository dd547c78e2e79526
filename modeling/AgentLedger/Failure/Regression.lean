import AgentLedger.Failure.Envelopes
import AgentLedger.Foundation.Words
import Mathlib.Algebra.Order.BigOperators.Group.List
import Mathlib.Algebra.Order.Group.Nat
import Mathlib.Data.List.Dedup
import Mathlib.Data.List.Sort
import Mathlib.Order.Lattice

namespace AgentLedger

open Foundation

/-! `FailureRegressionAnalyzer`. -/

/-- `_failure_signature`. -/
def FailureEnvelope.signature (envelope : FailureEnvelope) : String :=
  "|".intercalate
    [envelope.category, envelope.status, envelope.owner,
      envelope.stepId.getD "", envelope.toolName.getD "",
      envelope.eventType.getD "", envelope.message]

structure RegressionReport where
  same : Bool
  recurringFailures : List FailureEnvelope
  fixedFailures : List FailureEnvelope
  newFailures : List FailureEnvelope
  baselineFailureCount : Nat
  currentFailureCount : Nat
  deriving DecidableEq

namespace FailureRegressionAnalyzer

/-- `{_failure_signature(item): item for item in envelopes}`. -/
def bySignature (envelopes : List FailureEnvelope) (signature : String) :
    Option FailureEnvelope :=
  envelopes.reverse.find? fun item => item.signature = signature

/-- `sorted` of the signatures of some that are, or are not, among others. -/
def sortedSignatures (envelopes others : List FailureEnvelope)
    (among : Bool) : List String :=
  ((envelopes.map FailureEnvelope.signature).dedup.filter fun signature =>
    decide (signature ∈ others.map FailureEnvelope.signature) == among).insertionSort
      (· ≤ ·)

/-- Of the `failure_envelopes` of two exports. -/
def compare (baseline current : List FailureEnvelope) : RegressionReport :=
  let recurring := sortedSignatures baseline current true
  let fixed := sortedSignatures baseline current false
  let new := sortedSignatures current baseline false
  { same := new.isEmpty && fixed.isEmpty
    recurringFailures := recurring.filterMap (bySignature current)
    fixedFailures := fixed.filterMap (bySignature baseline)
    newFailures := new.filterMap (bySignature current)
    baselineFailureCount := baseline.length
    currentFailureCount := current.length }

/-- Nothing is new and nothing is fixed. -/
def Same (baseline current : List FailureEnvelope) : Prop :=
  (compare baseline current).same = true ∧
    (compare baseline current).newFailures = [] ∧
      (compare baseline current).fixedFailures = []

theorem sortedSignatures_eq_nil_iff
    {envelopes others : List FailureEnvelope} :
    sortedSignatures envelopes others false = [] ↔
      ∀ signature ∈ envelopes.map FailureEnvelope.signature,
        signature ∈ others.map FailureEnvelope.signature := by
  rw [List.eq_nil_iff_forall_not_mem]
  simp only [sortedSignatures, List.mem_insertionSort, List.mem_filter,
    List.mem_dedup, beq_false, Bool.not_eq_true', decide_eq_false_iff_not,
    not_and, not_not]

theorem same_iff {baseline current : List FailureEnvelope} :
    Same baseline current ↔
      ∀ signature,
        signature ∈ baseline.map FailureEnvelope.signature ↔
          signature ∈ current.map FailureEnvelope.signature := by
  simp only [Same, compare, Bool.and_eq_true, List.isEmpty_iff]
  constructor
  · rintro ⟨⟨new, fixed⟩, _, _⟩ signature
    exact ⟨sortedSignatures_eq_nil_iff.mp fixed signature,
      sortedSignatures_eq_nil_iff.mp new signature⟩
  · intro alike
    have new : sortedSignatures current baseline false = [] :=
      sortedSignatures_eq_nil_iff.mpr fun signature member =>
        (alike signature).mpr member
    have fixed : sortedSignatures baseline current false = [] :=
      sortedSignatures_eq_nil_iff.mpr fun signature member =>
        (alike signature).mp member
    simp [new, fixed]

end FailureRegressionAnalyzer

/-- What is shown of an envelope is part of its signature. -/
theorem FailureEnvelope.length_le_signature (envelope : FailureEnvelope) :
    (envelope.stepId.getD "").length ≤ envelope.signature.length ∧
      envelope.message.length ≤ envelope.signature.length := by
  simp only [signature, String.intercalate_cons_cons,
    String.intercalate_singleton, String.length_append]
  omega

/-! ### A re-execution -/

/-- The ids of a run; those of its events are in no other column. -/
def Snapshot.ids (snapshot : Snapshot) (eventIds : List String) :
    List String :=
  ([snapshot.runId] ++ snapshot.steps.map StepRow.stepId ++
    snapshot.ledger.map LedgerRow.ledgerId ++
    snapshot.ledger.map LedgerRow.stepId ++
    snapshot.approvals.map ApprovalRow.approvalId ++
    snapshot.approvals.map ApprovalRow.stepId ++
    snapshot.events.filterMap EventRow.stepId ++ eventIds).filter
      fun id => !id.isEmpty

namespace Snapshot

variable {snapshot : Snapshot} {eventIds : List String}

theorem empty_not_mem_ids : "" ∉ snapshot.ids eventIds := by
  simp [ids]

theorem step_mem_ids {row : StepRow} (member : row ∈ snapshot.steps)
    (given : row.stepId ≠ "") : row.stepId ∈ snapshot.ids eventIds := by
  have among := @List.mem_map_of_mem _ _ _ _ StepRow.stepId member
  simp [ids, given, among]

theorem ledger_mem_ids {row : LedgerRow} (member : row ∈ snapshot.ledger)
    (given : row.stepId ≠ "") : row.stepId ∈ snapshot.ids eventIds := by
  have among := @List.mem_map_of_mem _ _ _ _ LedgerRow.stepId member
  simp [ids, given, among]

theorem approval_mem_ids {row : ApprovalRow}
    (member : row ∈ snapshot.approvals) (given : row.stepId ≠ "") :
    row.stepId ∈ snapshot.ids eventIds := by
  have among := @List.mem_map_of_mem _ _ _ _ ApprovalRow.stepId member
  simp [ids, given, among]

end Snapshot

/-- A consistent renaming of generated ids. -/
structure Renaming (ids : List String) where
  rename : String → String
  injective : ∀ first ∈ ids, ∀ second ∈ ids,
    rename first = rename second → first = second
  given : ∀ id ∈ ids, rename id ≠ ""
  others : ∀ text, text ∉ ids → rename text = text
  /-- An id gives way to one of its kind: the new one names no other category
  than the old. -/
  kind : ∀ id ∈ ids, ∀ word ∈ FailureTexts.categoryWords,
    FailureTexts.includes (lower (rename id)) word =
      FailureTexts.includes (lower id) word

/-- What ids and the words of a category are made of. -/
def isIdLetter (letter : Char) : Bool :=
  let lowered := lowerChar letter
  lowered.isLower || lowered.isDigit || lowered == '_'

/-- The text is an id, or one of its words is. -/
def Mentions (ids : List String) (text : String) : Prop :=
  text ∈ ids ∨
    ∃ word ∈ words isIdLetter [] text.toList, String.ofList word ∈ ids

namespace Renaming

variable {ids : List String} (fresh : Renaming ids)

def inWord (word : List Char) : List Char :=
  (fresh.rename (String.ofList word)).toList

/-- The renaming of what free text mentions. -/
def text (text : String) : String :=
  if text ∈ ids then fresh.rename text
  else String.ofList (rewriteWords isIdLetter fresh.inWord [] text.toList)

def inId : Json → Json
  | .str id => .str (fresh.rename id)
  | value => value

def inText : Json → Json
  | .str text => .str (fresh.text text)
  | value => value

/-- What becomes of a value that an event's payload has under a key. -/
def under (key : String) (value : Json) : Json :=
  if key ∈ ["run_id", "step_id", "ledger_id", "approval_id"] then
    fresh.inId value
  else if key ∈ ["error", "reason"] then fresh.inText value
  else value

def payload (payload : Fields) : Fields :=
  payload.map fun field => (field.1, fresh.under field.1 field.2)

def payloadRef : PayloadRef → PayloadRef
  | .inline (.obj fields) => .inline (.obj (fresh.payload fields))
  | ref => ref

def step (row : StepRow) : StepRow :=
  { row with
    stepId := fresh.rename row.stepId
    runId := fresh.rename row.runId
    lastError := row.lastError.map fresh.text }

def ledger (row : LedgerRow) : LedgerRow :=
  { row with
    ledgerId := fresh.rename row.ledgerId
    runId := fresh.rename row.runId
    stepId := fresh.rename row.stepId
    idempotencyKey := fresh.text row.idempotencyKey }

def approval (row : ApprovalRow) : ApprovalRow :=
  { row with
    approvalId := fresh.rename row.approvalId
    approvalKey := fresh.text row.approvalKey
    runId := fresh.rename row.runId
    stepId := fresh.rename row.stepId
    reason := row.reason.map fresh.text
    decisionReason := row.decisionReason.map fresh.text }

def event (event : EventRow) : EventRow :=
  { event with
    runId := fresh.rename event.runId
    stepId := event.stepId.map fresh.rename
    payloadRef := fresh.payloadRef event.payloadRef }

def snapshot (snapshot : Snapshot) : Snapshot :=
  { runId := fresh.rename snapshot.runId
    runStatus := snapshot.runStatus
    steps := snapshot.steps.map fresh.step
    ledger := snapshot.ledger.map fresh.ledger
    approvals := snapshot.approvals.map fresh.approval
    events := snapshot.events.map fresh.event }

/-- The ids with zeros at their end. -/
def padded (ids : List String) (named : "" ∉ ids) (count : Nat) :
    Renaming ids where
  rename text :=
    if text ∈ ids then text ++ String.ofList (List.replicate count '0')
    else text
  injective := by
    intro first firstMember second secondMember same
    simpa [firstMember, secondMember] using same
  given := by
    intro id member none
    rw [if_pos member, String.append_eq_empty_iff] at none
    exact named (none.1 ▸ member)
  others := by
    intro text other
    exact if_neg other
  kind := by
    intro id member word known
    have letters : ∀ word ∈ FailureTexts.categoryWords,
        '0' ∉ word.toList ∧ word.toList ≠ [] := by decide
    obtain ⟨free, given⟩ := letters word known
    have zeros : ¬ word.toList <:+: List.replicate count '0' := by
      rintro ⟨start, finish, same⟩
      obtain ⟨letter, inside⟩ := List.exists_mem_of_ne_nil _ given
      have zero : letter = '0' := List.eq_of_mem_replicate
        (same ▸ List.mem_append_left _ (List.mem_append_right _ inside))
      exact free (zero ▸ inside)
    have lowered : (List.replicate count '0').map lowerChar =
        List.replicate count '0' := by
      rw [List.map_replicate]
      rfl
    simp only [if_pos member, FailureTexts.includes, lower,
      String.toList_append, String.toList_ofList, List.map_append, lowered,
      decide_eq_decide]
    cases count with
    | zero => simp
    | succ count =>
        rw [List.replicate_succ, infix_append_cons_iff free]
        refine or_iff_left fun inside => zeros ?_
        rw [List.replicate_succ]
        exact inside.trans (List.suffix_cons _ _).isInfix

theorem length_padded {named : "" ∉ ids} {count : Nat} {id : String}
    (member : id ∈ ids) :
    ((padded ids named count).rename id).length = id.length + count := by
  simp [padded, member]

/-! ### What a renaming leaves as it is -/

variable {fresh : Renaming ids}

theorem rename_eq_empty_iff (named : "" ∉ ids) {text : String} :
    fresh.rename text = "" ↔ text = "" := by
  constructor
  · intro none
    by_cases member : text ∈ ids
    · exact absurd none (fresh.given text member)
    · rw [← fresh.others text member]
      exact none
  · rintro rfl
    exact fresh.others "" named

theorem text_eq_empty_iff (named : "" ∉ ids) {text : String} :
    fresh.text text = "" ↔ text = "" := by
  constructor
  · intro none
    unfold Renaming.text at none
    split at none
    · exact (rename_eq_empty_iff named).mp none
    · have kept : ∀ piece : List Char,
          (fresh.rename (String.ofList piece)).toList = [] → piece = [] := by
        intro piece blank
        have text := (rename_eq_empty_iff named).mp
          (String.toList_eq_nil_iff.mp blank)
        simpa using text
      have letters : rewriteWords isIdLetter fresh.inWord [] text.toList = [] := by
        simpa using congrArg String.toList none
      simpa using rewriteWords_eq_nil kept letters
  · rintro rfl
    unfold Renaming.text
    rw [if_neg named]
    simp [rewriteWords, inWord, fresh.others "" named]

theorem text_of_not_mentions {text : String} (plain : ¬ Mentions ids text) :
    fresh.text text = text := by
  rw [Mentions, not_or] at plain
  rw [Renaming.text, if_neg plain.1, rewriteWords_eq_self]
  · simp
  · intro piece member
    rw [inWord, fresh.others]
    · simp
    · exact fun among => plain.2 ⟨piece, member, among⟩

/-- What is mentioned is there under its new name. -/
theorem infix_of_mentions {text : String} (mentioned : Mentions ids text) :
    ∃ id ∈ ids, (fresh.rename id).toList <:+: (fresh.text text).toList := by
  unfold Renaming.text
  split
  · rename_i member
    exact ⟨text, member, List.infix_rfl⟩
  · rename_i other
    rcases mentioned with member | ⟨word, member, among⟩
    · exact absurd member other
    · refine ⟨String.ofList word, among, ?_⟩
      rw [String.toList_ofList]
      change fresh.inWord word <:+: _
      exact infix_rewriteWords member

theorem includes_text {word : String}
    (known : word ∈ FailureTexts.categoryWords) (text : String) :
    FailureTexts.includes (lower (fresh.text text)) word =
      FailureTexts.includes (lower text) word := by
  have renamed : ∀ id, FailureTexts.includes (lower (fresh.rename id)) word =
      FailureTexts.includes (lower id) word := by
    intro id
    by_cases member : id ∈ ids
    · exact fresh.kind id member word known
    · rw [fresh.others id member]
  unfold Renaming.text
  split
  · exact renamed text
  · have letters : ∀ word ∈ FailureTexts.categoryWords, ∀ letter ∈ word.toList,
        letter.isLower = true := by
      intro word member
      rw [← List.all_eq_true]
      revert word
      decide
    have free : ∀ letter, isIdLetter letter = false →
        lowerChar letter ∉ word.toList := by
      intro letter outside member
      simp [isIdLetter, letters word known _ member] at outside
    simp only [FailureTexts.includes, lower, String.toList_ofList,
      decide_eq_decide]
    rw [infix_map_rewriteWords_congr lowerChar free]
    · rfl
    · intro piece _
      simpa [FailureTexts.includes, lower, inWord] using
        renamed (String.ofList piece)

/-! ### Events under a renaming -/

theorem under_of_other {key : String} (value : Json)
    (other : key ∉ ["run_id", "step_id", "ledger_id", "approval_id", "error",
      "reason"]) : fresh.under key value = value := by
  simp only [List.mem_cons, List.not_mem_nil, or_false, not_or] at other
  simp [under, other]

theorem getOrNone_payload (payload : Fields) (key : String) :
    getOrNone (fresh.payload payload) key =
      fresh.under key (getOrNone payload key) := by
  induction payload with
  | nil =>
      change Json.null = fresh.under key .null
      unfold under
      split_ifs <;> rfl
  | cons field rest ih =>
      obtain ⟨first, value⟩ := field
      simp only [getOrNone, payload, List.map_cons, Fields.get?] at ih ⊢
      by_cases same : first = key
      · subst same
        simp
      · simp only [if_neg same]
        exact ih

theorem payload_event (event : EventRow) :
    (fresh.event event).payload = fresh.payload event.payload := by
  unfold EventRow.payload Renaming.event
  simp only
  cases event.payloadRef with
  | blob ref => rfl
  | inline value => cases value <;> rfl

theorem truthy_inId (named : "" ∉ ids) (value : Json) :
    truthy (fresh.inId value) = truthy value := by
  cases value with
  | str id =>
      have same : (fresh.rename id).isEmpty = id.isEmpty := by
        rw [Bool.eq_iff_iff, String.isEmpty_iff, String.isEmpty_iff]
        exact rename_eq_empty_iff named
      simp only [inId, truthy, same]
  | _ => rfl

theorem step_event (named : "" ∉ ids) (event : EventRow) :
    (fresh.event event).step = fresh.inId event.step := by
  have column : Json.optional (event.stepId.map fresh.rename) =
      fresh.inId (Json.optional event.stepId) := by
    cases event.stepId <;> rfl
  have key : getOrNone (fresh.event event).payload "step_id" =
      fresh.inId (getOrNone event.payload "step_id") := by
    rw [payload_event, getOrNone_payload]
    simp [under]
  simp only [EventRow.step, key]
  rw [show (fresh.event event).stepId = event.stepId.map fresh.rename from rfl,
    column, orValue, truthy_inId named, orValue]
  split <;> rfl

theorem told_event (named : "" ∉ ids) (event : EventRow) :
    (fresh.event event).told = event.told.map fresh.inText := by
  have shown : ∀ value, givenText (fresh.inText value) = givenText value := by
    intro value
    cases value with
    | str text => simp [givenText, inText, text_eq_empty_iff named]
    | _ => rfl
  have error : getOrNone (fresh.event event).payload "error" =
      fresh.inText (getOrNone event.payload "error") := by
    rw [payload_event, getOrNone_payload]
    simp [under]
  have reason : getOrNone (fresh.event event).payload "reason" =
      fresh.inText (getOrNone event.payload "reason") := by
    rw [payload_event, getOrNone_payload]
    simp [under]
  simp only [EventRow.told, error, reason, List.find?, shown]
  cases givenText (getOrNone event.payload "error") <;>
    cases givenText (getOrNone event.payload "reason") <;> rfl

variable {texts : FailureTexts}

theorem alike_inText (value : Json) :
    texts.Alike (fresh.inText value) value := by
  constructor
  · cases value <;> simp [inText]
  · intro word known
    cases value with
    | str text => exact includes_text known text
    | _ => rfl

theorem category_event (event : EventRow) (runId runStatus otherId : String) :
    (texts.fromEvent runId runStatus (fresh.event event)).category =
      (texts.fromEvent otherId runStatus event).category := by
  change texts.categoryFromEvent event.type.text (fresh.event event).payload =
    texts.categoryFromEvent event.type.text event.payload
  unfold FailureTexts.categoryFromEvent
  repeat' split
  all_goals try rfl
  apply texts.categoryFromText_congr
  rw [payload_event, getOrNone_payload, getOrNone_payload, getOrNone_payload,
    under_of_other _ (by decide)]
  refine .cons (.refl texts _) (.cons (.refl texts _) (.cons ?_ (.cons ?_ .nil)))
  · simpa [under] using @alike_inText ids fresh texts _
  · simpa [under] using @alike_inText ids fresh texts _

theorem eventMessage_eq (texts : FailureTexts) (event : EventRow) :
    texts.eventMessage event.type.text event.payload =
      (event.told.map texts.shown).getD (texts.message
        [getOrNone event.payload "error_type", .str event.type.text]) := by
  have text : ∀ value, texts.text value =
      if givenText value then some (texts.shown value) else none := by
    intro value
    simp only [FailureTexts.text, givenText, Bool.and_eq_true,
      decide_eq_true_eq]
    split_ifs with none given <;> first | rfl | tauto
  simp only [FailureTexts.eventMessage, FailureTexts.message,
    List.findSome?_cons, text, EventRow.told, List.find?]
  cases givenText (getOrNone event.payload "error") <;>
    cases givenText (getOrNone event.payload "reason") <;> rfl

/-- What an event tells is the same if it names no id of the run. -/
theorem signature_event (named : "" ∉ ids) {event : EventRow}
    (anonymous : ∀ id ∈ ids, event.step ≠ .str id)
    (plain : ∀ text, event.told = some (.str text) → ¬ Mentions ids text)
    (runId runStatus otherId : String) :
    (texts.fromEvent runId runStatus (fresh.event event)).signature =
      (texts.fromEvent otherId runStatus event).signature := by
  have other : ∀ key, key ∉ ["run_id", "step_id", "ledger_id", "approval_id",
      "error", "reason"] → getOrNone (fresh.event event).payload key =
        getOrNone event.payload key := by
    intro key outside
    rw [payload_event, getOrNone_payload, under_of_other _ outside]
  have category := @category_event ids fresh texts event runId runStatus
    otherId
  have status : (texts.fromEvent runId runStatus (fresh.event event)).status =
      (texts.fromEvent otherId runStatus event).status := by
    change eventFailureStatus event.type.text (fresh.event event).payload _ =
      eventFailureStatus event.type.text event.payload _
    unfold eventFailureStatus retryableIs
    rw [other "retryable" (by decide)]
  have stepId : (texts.fromEvent runId runStatus (fresh.event event)).stepId =
      (texts.fromEvent otherId runStatus event).stepId := by
    change texts.text (fresh.event event).step = texts.text event.step
    rw [step_event named]
    cases shown : event.step with
    | str id =>
        rw [inId, fresh.others]
        exact fun member => anonymous id member shown
    | _ => rfl
  have toolName :
      (texts.fromEvent runId runStatus (fresh.event event)).toolName =
        (texts.fromEvent otherId runStatus event).toolName := by
    change texts.eventToolName (fresh.event event).payload =
      texts.eventToolName event.payload
    simp only [FailureTexts.eventToolName, other "tool_name" (by decide),
      other "tool" (by decide), other "name" (by decide)]
  have message : (texts.fromEvent runId runStatus (fresh.event event)).message =
      (texts.fromEvent otherId runStatus event).message := by
    change texts.eventMessage (fresh.event event).type.text
      (fresh.event event).payload =
        texts.eventMessage event.type.text event.payload
    rw [eventMessage_eq, eventMessage_eq, told_event named,
      other "error_type" (by decide)]
    cases told : event.told with
    | none => rfl
    | some value =>
        cases value with
        | str text =>
            simp only [Option.map_some, inText]
            rw [text_of_not_mentions (plain text told)]
            rfl
        | _ => rfl
  have owner : (texts.fromEvent runId runStatus (fresh.event event)).owner =
      (texts.fromEvent otherId runStatus event).owner :=
    congrArg ownerForCategory category
  have type : (texts.fromEvent runId runStatus (fresh.event event)).eventType =
      (texts.fromEvent otherId runStatus event).eventType := rfl
  simp only [FailureEnvelope.signature, category, status, stepId, toolName,
    message, owner, type]

end Renaming

/-! ### Failures without an id -/

/-- What `create_run`, the gateway and the index on the events promise of the
rows. -/
structure Snapshot.Generated (snapshot : Snapshot) : Prop where
  steps : ∀ row ∈ snapshot.steps, row.stepId ≠ ""
  ledger : ∀ row ∈ snapshot.ledger, row.stepId ≠ ""
  approvals : ∀ row ∈ snapshot.approvals, row.stepId ≠ ""
  events : (snapshot.events.map EventRow.seq).Nodup

/-- Only events tell of failures. -/
structure Snapshot.Rowless (snapshot : Snapshot) : Prop where
  steps : ∀ row ∈ snapshot.steps, row.fails = false
  ledger : ∀ row ∈ snapshot.ledger, row.fails = false
  approvals : ∀ row ∈ snapshot.approvals, row.fails = false

/-- No failure of the run belongs to a step or tells of an id. -/
structure Snapshot.Anonymous (snapshot : Snapshot) (ids : List String) : Prop
    extends snapshot.Rowless where
  step : ∀ event ∈ snapshot.events, event.fails →
    ∀ id ∈ ids, event.step ≠ .str id
  told : ∀ event ∈ snapshot.events, event.fails →
    ∀ text, event.told = some (.str text) → ¬ Mentions ids text

/-- The failures of a run are those of every re-execution that fails in the
same way. -/
def FailureTexts.IgnoresIds (texts : FailureTexts) (snapshot : Snapshot)
    (ids : List String) : Prop :=
  ∀ fresh : Renaming ids, FailureRegressionAnalyzer.Same
    (texts.fromSnapshot snapshot) (texts.fromSnapshot (fresh.snapshot snapshot))

namespace FailureTexts

variable {texts : FailureTexts} {snapshot : Snapshot} {ids : List String}
  {fresh : Renaming ids}

/-- With one number for each event, every envelope of an event is kept. -/
theorem event_kept (numbered : (snapshot.events.map EventRow.seq).Nodup)
    {event : EventRow} (member : event ∈ snapshot.events)
    (fails : event.fails) :
    texts.fromEvent snapshot.runId snapshot.runStatus event ∈
      texts.fromSnapshot snapshot := by
  have source : texts.Source snapshot .event _ := .event event member fails
  obtain ⟨kept, among, own, same⟩ := source.kept
  cases own with
  | event other otherMember _ =>
      change texts.failureId snapshot.runId "event" other.seq.repr =
        texts.failureId snapshot.runId "event" event.seq.repr at same
      have numbers := slug_of_failureId_eq (by decide) Nat.repr_ne_empty
        Nat.repr_ne_empty same
      rw [slug_repr, slug_repr] at numbers
      have equal : other = event :=
        List.inj_on_of_nodup_map numbered otherMember member
          (repr_inj numbers)
      exact equal ▸ among

/-- If only events tell of failures, nothing is left out. -/
theorem mem_fromSnapshot_iff
    (numbered : (snapshot.events.map EventRow.seq).Nodup)
    (rowless : snapshot.Rowless) {envelope : FailureEnvelope} :
    envelope ∈ texts.fromSnapshot snapshot ↔
      envelope ∈ texts.allEnvelopes snapshot := by
  refine ⟨mem_of_mem_firsts, fun member => ?_⟩
  obtain ⟨kind, source⟩ := source_of_mem member
  obtain ⟨kept, among, own, _⟩ := source.kept
  cases source with
  | step row inside fails =>
      exact absurd fails (by simp [rowless.steps row inside])
  | ledger row inside fails =>
      exact absurd fails (by simp [rowless.ledger row inside])
  | approval row inside fails =>
      exact absurd fails (by simp [rowless.approvals row inside])
  | event event inside fails => exact event_kept numbered inside fails
  | run cancelled =>
      cases own
      exact among

variable {eventIds : List String} {again : Renaming (snapshot.ids eventIds)}

theorem numbered_again (again : Renaming (snapshot.ids eventIds)) :
    (again.snapshot snapshot).events.map EventRow.seq =
      snapshot.events.map EventRow.seq := by
  simp [Renaming.snapshot, Renaming.event, Function.comp_def]

theorem renamed_event_kept (generated : snapshot.Generated) {event : EventRow}
    (member : event ∈ snapshot.events) (fails : event.fails) :
    texts.fromEvent (again.snapshot snapshot).runId snapshot.runStatus
        (again.event event) ∈
      texts.fromSnapshot (again.snapshot snapshot) := by
  apply event_kept
  · rw [numbered_again]
    exact generated.events
  · exact List.mem_map_of_mem member
  · exact fails

/-- What has an id comes up under the new one. -/
theorem anonymous_of_hidden (generated : snapshot.Generated)
    (hidden : ∀ envelope ∈ texts.fromSnapshot (again.snapshot snapshot),
      ∀ id ∈ snapshot.ids eventIds,
        envelope.stepId ≠ some (again.rename id) ∧
          ¬ (again.rename id).toList <:+: envelope.message.toList) :
    snapshot.Anonymous (snapshot.ids eventIds) := by
  have named : "" ∉ snapshot.ids eventIds := Snapshot.empty_not_mem_ids
  have unseen : ∀ {envelope : FailureEnvelope} {id : String},
      envelope ∈ texts.fromSnapshot (again.snapshot snapshot) →
      id ∈ snapshot.ids eventIds →
      envelope.stepId = texts.text (.str (again.rename id)) → False := by
    intro envelope id member known shown
    rw [texts.text_str (again.given id known)] at shown
    exact (hidden envelope member id known).1 shown
  refine ⟨⟨?_, ?_, ?_⟩, ?_, ?_⟩
  · intro row member
    apply Bool.eq_false_iff.mpr
    intro fails
    have source : texts.Source (again.snapshot snapshot) .step _ :=
      .step (again.step row) (List.mem_map_of_mem member) fails
    obtain ⟨kept, among, own, _⟩ := source.kept
    cases own with
    | step other inside _ =>
        obtain ⟨before, beforeMember, rfl⟩ := List.mem_map.mp inside
        exact unseen among (Snapshot.step_mem_ids beforeMember
          (generated.steps before beforeMember)) rfl
  · intro row member
    apply Bool.eq_false_iff.mpr
    intro fails
    have source : texts.Source (again.snapshot snapshot) .toolLedger _ :=
      .ledger (again.ledger row) (List.mem_map_of_mem member) fails
    obtain ⟨kept, among, own, _⟩ := source.kept
    cases own with
    | ledger other inside _ =>
        obtain ⟨before, beforeMember, rfl⟩ := List.mem_map.mp inside
        exact unseen among (Snapshot.ledger_mem_ids beforeMember
          (generated.ledger before beforeMember)) rfl
  · intro row member
    apply Bool.eq_false_iff.mpr
    intro fails
    have source : texts.Source (again.snapshot snapshot) .approval _ :=
      .approval (again.approval row) (List.mem_map_of_mem member) fails
    obtain ⟨kept, among, own, _⟩ := source.kept
    cases own with
    | approval other inside _ =>
        obtain ⟨before, beforeMember, rfl⟩ := List.mem_map.mp inside
        exact unseen among (Snapshot.approval_mem_ids beforeMember
          (generated.approvals before beforeMember)) rfl
  · intro event member fails id known shown
    have kept := @renamed_event_kept texts snapshot eventIds again generated event
      member fails
    apply unseen kept known
    change texts.text (again.event event).step = _
    rw [Renaming.step_event named, shown]
    rfl
  · intro event member fails text told mentioned
    have kept := @renamed_event_kept texts snapshot eventIds again generated event
      member fails
    obtain ⟨id, known, inside⟩ := @Renaming.infix_of_mentions _ again _ mentioned
    apply (hidden _ kept id known).2
    change _ <:+: (texts.eventMessage (again.event event).type.text
      (again.event event).payload).toList
    rw [Renaming.eventMessage_eq, Renaming.told_event named, told]
    exact inside

theorem rowEnvelopes_of_rowless (rowless : snapshot.Rowless) :
    texts.rowEnvelopes snapshot =
      (snapshot.events.filter EventRow.fails).map
        (texts.fromEvent snapshot.runId snapshot.runStatus) := by
  have steps : snapshot.steps.filter StepRow.fails = [] :=
    List.filter_eq_nil_iff.mpr fun row member => by
      simp [rowless.steps row member]
  have ledger : snapshot.ledger.filter LedgerRow.fails = [] :=
    List.filter_eq_nil_iff.mpr fun row member => by
      simp [rowless.ledger row member]
  have approvals : snapshot.approvals.filter ApprovalRow.fails = [] :=
    List.filter_eq_nil_iff.mpr fun row member => by
      simp [rowless.approvals row member]
  simp [rowEnvelopes, steps, ledger, approvals]

theorem rowless_again (rowless : snapshot.Rowless)
    (again : Renaming (snapshot.ids eventIds)) :
    (again.snapshot snapshot).Rowless := by
  constructor
  · intro row member
    obtain ⟨before, inside, rfl⟩ := List.mem_map.mp member
    exact rowless.steps before inside
  · intro row member
    obtain ⟨before, inside, rfl⟩ := List.mem_map.mp member
    exact rowless.ledger before inside
  · intro row member
    obtain ⟨before, inside, rfl⟩ := List.mem_map.mp member
    exact rowless.approvals before inside

/-- The events of a re-execution, as far as `shown` tells them. -/
theorem map_rowEnvelopes_again {Shown : Type} {shown : FailureEnvelope → Shown}
    (rowless : snapshot.Rowless)
    (kept : ∀ event ∈ snapshot.events, event.fails →
      shown (texts.fromEvent (again.snapshot snapshot).runId
          snapshot.runStatus (again.event event)) =
        shown (texts.fromEvent snapshot.runId snapshot.runStatus event)) :
    (texts.rowEnvelopes (again.snapshot snapshot)).map shown =
      (texts.rowEnvelopes snapshot).map shown := by
  rw [rowEnvelopes_of_rowless rowless,
    rowEnvelopes_of_rowless (rowless_again rowless again)]
  have events : (again.snapshot snapshot).events.filter EventRow.fails =
      (snapshot.events.filter EventRow.fails).map again.event := by
    change (snapshot.events.map again.event).filter EventRow.fails = _
    rw [List.filter_map]
    rfl
  rw [events, List.map_map, List.map_map, List.map_map]
  refine List.map_congr_left fun event member => ?_
  obtain ⟨inside, fails⟩ := List.mem_filter.mp member
  exact kept event inside fails

theorem signatures_again (anonymous :
      snapshot.Anonymous (snapshot.ids eventIds)) :
    (texts.allEnvelopes (again.snapshot snapshot)).map
        FailureEnvelope.signature =
      (texts.allEnvelopes snapshot).map FailureEnvelope.signature := by
  have signatures := @map_rowEnvelopes_again texts snapshot eventIds again _
    FailureEnvelope.signature anonymous.toRowless fun event member fails =>
      Renaming.signature_event Snapshot.empty_not_mem_ids
        (anonymous.step event member fails)
        (anonymous.told event member fails) _ _ _
  have categories := @map_rowEnvelopes_again texts snapshot eventIds again _
    FailureEnvelope.category anonymous.toRowless fun event _ _ =>
      Renaming.category_event event _ _ _
  have cancelled := congrArg
    (fun categories => categories.any fun category =>
      decide (category = "cancellation")) categories
  simp only [List.any_map, Function.comp_def] at cancelled
  have status : (again.snapshot snapshot).runStatus = snapshot.runStatus := rfl
  simp only [allEnvelopes, status, cancelled]
  split
  · rw [List.map_append, List.map_append, signatures]
    rfl
  · exact signatures

end FailureTexts

/-- The regression analysis ignores the ids of exactly the runs whose failures
have none. -/
theorem ignores_ids_iff (texts : FailureTexts) (snapshot : Snapshot)
    (eventIds : List String) (generated : snapshot.Generated) :
    texts.IgnoresIds snapshot (snapshot.ids eventIds) ↔
      snapshot.Anonymous (snapshot.ids eventIds) := by
  constructor
  · intro ignores
    let lengths := (texts.fromSnapshot snapshot).map fun envelope =>
      envelope.signature.length
    let again := Renaming.padded (snapshot.ids eventIds)
      Snapshot.empty_not_mem_ids (lengths.sum + 1)
    have same := FailureRegressionAnalyzer.same_iff.mp (ignores again)
    have short : ∀ envelope ∈ texts.fromSnapshot (again.snapshot snapshot),
        envelope.signature.length ≤ lengths.sum := by
      intro envelope member
      have known := (same envelope.signature).mpr (List.mem_map_of_mem member)
      obtain ⟨other, among, equal⟩ := List.mem_map.mp known
      rw [← equal]
      exact List.le_sum_of_mem (List.mem_map_of_mem among)
    have long : ∀ id ∈ snapshot.ids eventIds,
        lengths.sum < (again.rename id).length := by
      intro id member
      rw [Renaming.length_padded member]
      omega
    apply FailureTexts.anonymous_of_hidden generated
    intro envelope member id known
    have bound := short envelope member
    have length := long id known
    constructor
    · intro shown
      have part := envelope.length_le_signature.1
      rw [shown, Option.getD_some] at part
      omega
    · intro inside
      have part := envelope.length_le_signature.2
      have within := inside.length_le
      rw [String.length_toList, String.length_toList] at within
      omega
  · intro anonymous again
    apply FailureRegressionAnalyzer.same_iff.mpr
    intro signature
    have numbered : ((again.snapshot snapshot).events.map
        EventRow.seq).Nodup := by
      rw [FailureTexts.numbered_again]
      exact generated.events
    have rowless := FailureTexts.rowless_again anonymous.toRowless again
    have signatures := @FailureTexts.signatures_again texts snapshot eventIds
      again anonymous
    have alike := congrArg (signature ∈ ·) signatures
    simp only [List.mem_map] at alike ⊢
    simp only [FailureTexts.mem_fromSnapshot_iff numbered rowless,
      FailureTexts.mem_fromSnapshot_iff generated.events
        anonymous.toRowless, alike]

/-! ### A run without steps, and one whose step failed -/

instance (ids : List String) (text : String) : Decidable (Mentions ids text) :=
  inferInstanceAs (Decidable (_ ∨ _))

def stepless : Snapshot :=
  { runId := "run_0"
    runStatus := "failed"
    steps := []
    ledger := []
    approvals := []
    events :=
      [{ runId := "run_0"
         seq := 1
         type := .errorRaised
         payloadRef := .inline (.obj [("error", .str "boom")]) }] }

theorem stepless_ignores :
    asciiTexts.IgnoresIds stepless (stepless.ids []) := by
  have generated : stepless.Generated :=
    ⟨by decide, by decide, by decide, by decide⟩
  refine (ignores_ids_iff asciiTexts stepless [] generated).mpr
    ⟨⟨by decide, by decide, by decide⟩, by decide, ?_⟩
  intro event member _ text told
  rw [List.mem_singleton.mp member] at told
  have boom : text = "boom" := by
    injection told with value
    injection value with same
    exact same.symm
  rw [boom]
  decide

def timedOut : Snapshot :=
  { runId := "run_0"
    runStatus := "failed"
    steps :=
      [{ stepId := "step_0"
         runId := "run_0"
         sessionId := "sess_0"
         status := .failed
         attempt := 1
         stateVersion := 0
         retryPolicy := {}
         lastErrorType := some "TimeoutError"
         lastError := some "timed out"
         createdAt := 0 }]
    ledger := []
    approvals := []
    events := [] }

/-- The same agent on the same input, run once more. -/
def rerun : Renaming (timedOut.ids []) where
  rename text :=
    if text = "run_0" then "run_1" else if text = "step_0" then "step_1" else text
  injective := by decide
  given := by decide
  others := by
    intro text other
    have ids : timedOut.ids [] = ["run_0", "step_0"] := by decide
    rw [ids] at other
    simp only [List.mem_cons, List.not_mem_nil, or_false, not_or] at other
    rw [if_neg other.1, if_neg other.2]
  kind := by decide

theorem rerun_regresses :
    ¬ asciiTexts.IgnoresIds timedOut (timedOut.ids []) := by
  intro ignores
  have same := FailureRegressionAnalyzer.same_iff.mp (ignores rerun)
    "agent|terminal|agent|step_0|||timed out"
  exact absurd (same.mp (by decide)) (by decide)

end AgentLedger
