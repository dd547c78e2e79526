import AgentLedger.Foundation.Words
import AgentLedger.Python

namespace AgentLedger

open Foundation

/-! The texts that `failure.py` makes of what it finds in rows and payloads. -/

/-- The `source_kind` of an envelope. -/
inductive SourceKind
  | step
  | toolLedger
  | approval
  | event
  | run
  deriving DecidableEq

def SourceKind.text : SourceKind → String
  | .step => "step"
  | .toolLedger => "tool_ledger"
  | .approval => "approval"
  | .event => "event"
  | .run => "run"

/-- `str` of what is no text, `str.isalnum` and `str.lower` of a character
beyond ASCII, and the text that an inline payload has in its column. -/
structure FailureTexts where
  str : Json → String
  isAlnum : Char → Bool
  lowers : Char → List Char
  column : Json → String

/-- For runs whose texts are all ASCII. -/
def asciiTexts : FailureTexts :=
  ⟨fun _ => "", fun _ => false, fun letter => [letter], fun _ => ""⟩

namespace FailureTexts

variable (texts : FailureTexts)

def shown : Json → String
  | .str value => value
  | value => texts.str value

/-- `_text`. -/
def text (value : Json) : Option String :=
  if value = .null ∨ value = .str "" then none else some (texts.shown value)

/-- `_message`. -/
def message (values : List Json) : String :=
  (values.findSome? texts.text).getD "failure signal"

def alnum (letter : Char) : Bool :=
  if letter.toNat < 128 then letter.isAlphanum else texts.isAlnum letter

def lowered (letter : Char) : List Char :=
  if letter.toNat < 128 then [letter.toLower] else texts.lowers letter

/-- `text.strip("-")`. -/
def stripDashes (letters : List Char) : List Char :=
  ((letters.dropWhile (· = '-')).reverse.dropWhile (· = '-')).reverse

/-- What replacing `--` by `-` over and over ends in. -/
def squeeze : List Char → List Char
  | '-' :: '-' :: rest => squeeze ('-' :: rest)
  | letter :: rest => letter :: squeeze rest
  | [] => []

/-- `_slug`. -/
def slug (value : String) : String :=
  let letters := value.toList.flatMap fun letter =>
    if texts.alnum letter then texts.lowered letter else ['-']
  let slug := String.ofList (squeeze (stripDashes letters))
  if slug.isEmpty then "unknown" else slug

/-- `_failure_id`. -/
def failureId (runId sourceKind sourceId : String) : String :=
  "failure-" ++ "-".intercalate
    (([runId, sourceKind, sourceId].filter fun part => !part.isEmpty).map
      texts.slug)

/-- `part in text`. -/
def includes (text part : String) : Bool :=
  decide (part.toList <:+: text.toList)

/-- The words that tell a category. -/
def categoryWords : List String :=
  ["sandbox", "budget", "policy", "model", "tool", "runtime", "approval",
    "permission", "denied", "lease", "worker", "cancel", "retry"]

def categoryOf (text default : String) : String :=
  match ["sandbox", "budget", "policy", "model", "tool", "runtime"].find?
      (includes text) with
  | some category => category
  | none =>
      if includes text "approval" ∨ includes text "permission" ∨
          includes text "denied" then "policy"
      else if includes text "lease" ∨ includes text "worker" then "runtime"
      else if includes text "cancel" then "cancellation"
      else if includes text "retry" then "retry"
      else default

/-- `_category_from_text`. -/
def categoryFromText (values : List Json) (default : String) : String :=
  categoryOf (" ".intercalate
    ((values.filter fun value => value ≠ .null).map fun value =>
      lower (texts.shown value))) default

theorem text_str {value : String} (given : value ≠ "") :
    texts.text (.str value) = some value := by
  simp [text, given, shown]

theorem failureId_eq {runId sourceKind : String} (sourceId : String)
    (named : sourceKind ≠ "") :
    texts.failureId runId sourceKind sourceId =
      "failure-" ++ (if runId.isEmpty then "" else texts.slug runId ++ "-") ++
        (texts.slug sourceKind ++
          if sourceId.isEmpty then "" else "-" ++ texts.slug sourceId) := by
  unfold failureId
  have kind : sourceKind.isEmpty = false := by simpa using named
  cases run : runId.isEmpty <;> cases source : sourceId.isEmpty <;>
    simp [run, kind, source, String.append_assoc]

/-! ### Categories -/

/-- Both values are shown, or neither, and name the same categories. -/
structure Alike (first second : Json) : Prop where
  null : first = .null ↔ second = .null
  words : ∀ word ∈ categoryWords,
    includes (lower (texts.shown first)) word =
      includes (lower (texts.shown second)) word

theorem Alike.refl (value : Json) : texts.Alike value value :=
  ⟨Iff.rfl, fun _ _ => rfl⟩

theorem categoryOf_congr {first second : String}
    (alike : ∀ word ∈ categoryWords,
      includes first word = includes second word) (default : String) :
    categoryOf first default = categoryOf second default := by
  simp only [categoryWords, List.forall_mem_cons] at alike
  obtain ⟨sandbox, budget, policy, model, tool, runtime, approval, permission,
    denied, lease, worker, cancel, retry, _⟩ := alike
  simp only [categoryOf, List.find?, sandbox, budget, policy, model, tool,
    runtime, approval, permission, denied, lease, worker, cancel, retry]

private theorem includes_joined {values : List Json} {word : String}
    (known : word ∈ categoryWords) :
    includes (" ".intercalate ((values.filter fun value =>
      value ≠ .null).map fun value => lower (texts.shown value))) word = true ↔
      ∃ value ∈ values, value ≠ .null ∧
        includes (lower (texts.shown value)) word = true := by
  have letters : ∀ word ∈ categoryWords,
      ' ' ∉ word.toList ∧ word.toList ≠ [] := by decide
  obtain ⟨free, given⟩ := letters word known
  simp only [includes, decide_eq_true_eq, String.toList_intercalate]
  rw [show " ".toList = [' '] from rfl, infix_intercalate_iff free given]
  simp [and_assoc]

theorem categoryFromText_congr {values others : List Json}
    (alike : List.Forall₂ texts.Alike values others) (default : String) :
    texts.categoryFromText values default =
      texts.categoryFromText others default := by
  apply categoryOf_congr
  intro word known
  rw [Bool.eq_iff_iff, texts.includes_joined known, texts.includes_joined known]
  induction alike with
  | nil => rfl
  | cons first _ ih =>
      simp only [List.exists_mem_cons_iff, ih, first.words word known, ne_eq,
        first.null]

/-! ### Ids -/

@[simp] theorem slug_step : texts.slug "step" = "step" := by
  simp [slug, alnum, lowered, stripDashes, squeeze]

@[simp] theorem slug_toolLedger : texts.slug "tool_ledger" = "tool-ledger" := by
  simp [slug, alnum, lowered, stripDashes, squeeze]

@[simp] theorem slug_approval : texts.slug "approval" = "approval" := by
  simp [slug, alnum, lowered, stripDashes, squeeze]

@[simp] theorem slug_event : texts.slug "event" = "event" := by
  simp [slug, alnum, lowered, stripDashes, squeeze]

@[simp] theorem slug_run : texts.slug "run" = "run" := by
  simp [slug, alnum, lowered, stripDashes, squeeze]

variable {texts} {runId kind sourceId otherId : String}

/-- The ids of one run tell the kinds apart. -/
theorem kind_of_failureId_eq {kind other : SourceKind}
    (same : texts.failureId runId kind.text sourceId =
      texts.failureId runId other.text otherId) : kind = other := by
  have initials : ∀ kind : SourceKind, kind.text ≠ "" ∧
      ∃ rest, (texts.slug kind.text).toList = kind.text.toList.headI :: rest := by
    intro kind
    cases kind with
    | step => exact ⟨by decide, "tep".toList, by rw [SourceKind.text, slug_step]; decide⟩
    | toolLedger =>
        exact ⟨by decide, "ool-ledger".toList, by
          rw [SourceKind.text, slug_toolLedger]; decide⟩
    | approval =>
        exact ⟨by decide, "pproval".toList, by
          rw [SourceKind.text, slug_approval]; decide⟩
    | event =>
        exact ⟨by decide, "vent".toList, by
          rw [SourceKind.text, slug_event]; decide⟩
    | run =>
        exact ⟨by decide, "un".toList, by rw [SourceKind.text, slug_run]; decide⟩
  obtain ⟨given, rest, named⟩ := initials kind
  obtain ⟨otherGiven, otherRest, otherNamed⟩ := initials other
  rw [texts.failureId_eq sourceId given, texts.failureId_eq otherId otherGiven]
    at same
  have letters := congrArg String.toList same
  simp only [String.toList_append, named, otherNamed, List.cons_append,
    List.append_assoc, List.append_cancel_left_eq, List.cons.injEq] at letters
  have initial := letters.1
  revert initial
  cases kind <;> cases other <;> decide

/-- Those of one kind tell apart what is not slugged alike. -/
theorem slug_of_failureId_eq (given : kind ≠ "") (named : sourceId ≠ "")
    (otherNamed : otherId ≠ "")
    (same : texts.failureId runId kind sourceId =
      texts.failureId runId kind otherId) :
    texts.slug sourceId = texts.slug otherId := by
  rw [texts.failureId_eq sourceId given, texts.failureId_eq otherId given,
    String.append_right_inj, String.append_right_inj] at same
  simpa [named, otherNamed] using same

private theorem stripDashes_of_none {letters : List Char}
    (none : '-' ∉ letters) : stripDashes letters = letters := by
  have kept : ∀ {letters : List Char}, '-' ∉ letters →
      letters.dropWhile (· = '-') = letters := by
    intro letters none
    cases letters with
    | nil => rfl
    | cons letter rest =>
        rw [List.mem_cons, not_or] at none
        simp [Ne.symm none.1]
  rw [stripDashes, kept none, kept (by simpa using none), List.reverse_reverse]

private theorem squeeze_of_none {letters : List Char} (none : '-' ∉ letters) :
    squeeze letters = letters := by
  induction letters with
  | nil => rfl
  | cons letter rest ih =>
      rw [List.mem_cons, not_or] at none
      rw [squeeze, ih none.2]
      intro more dash _
      exact none.1 dash.symm

private theorem digit_kept (texts : FailureTexts) {letter : Char}
    (digit : letter.isDigit = true) :
    texts.alnum letter = true ∧ texts.lowered letter = [letter] ∧
      letter ≠ '-' := by
  have range : 48 ≤ letter.val ∧ letter.val ≤ 57 := by
    simpa [Char.isDigit] using digit
  have small : letter.toNat < 128 := by
    have upper : letter.val.toNat ≤ 57 := range.2
    exact Nat.lt_of_le_of_lt upper (by decide)
  refine ⟨?_, ?_, ?_⟩
  · simp [alnum, small, Char.isAlphanum, digit]
  · have lowers : ¬ (letter.val ≥ 'A'.val ∧ letter.val ≤ 'Z'.val) := by
      intro capital
      exact absurd (UInt32.le_trans capital.1 range.2) (by decide)
    have same : letter.toLower = letter := dif_neg lowers
    rw [lowered, if_pos small, same]
  · rintro rfl
    revert digit
    decide

theorem slug_digits {letters : List Char}
    (digits : ∀ letter ∈ letters, letter.isDigit = true) (given : letters ≠ []) :
    texts.slug (String.ofList letters) = String.ofList letters := by
  have dashless : '-' ∉ letters := fun member =>
    (digit_kept texts (digits _ member)).2.2 rfl
  have same : letters.flatMap (fun letter =>
      if texts.alnum letter then texts.lowered letter else ['-']) = letters := by
    conv_rhs => rw [← List.flatMap_singleton' letters]
    refine List.flatMap_congr fun letter member => ?_
    obtain ⟨alnum, lowers, _⟩ := digit_kept texts (digits _ member)
    rw [if_pos alnum, lowers]
  simp only [slug, String.toList_ofList, same, stripDashes_of_none dashless,
    squeeze_of_none dashless]
  simp [given]

theorem slug_repr (number : Nat) : texts.slug number.repr = number.repr :=
  slug_digits (fun _ member =>
    Nat.isDigit_of_mem_toDigits (by decide) (by decide) member)
    Nat.toDigits_ne_nil

theorem repr_inj {first second : Nat} (same : first.repr = second.repr) :
    first = second := by
  have digits : Nat.toDigits 10 first = Nat.toDigits 10 second := by
    simpa using congrArg String.toList same
  have numbers := congrArg (fun letters => Nat.ofDigitChars 10 letters 0) digits
  simpa only [Nat.ofDigitChars_ten_toDigits] using numbers

end FailureTexts

end AgentLedger
