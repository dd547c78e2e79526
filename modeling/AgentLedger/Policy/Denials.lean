import AgentLedger.Policy.Document
import Mathlib.Data.Bool.AllAny

namespace AgentLedger

open Foundation

/-! Policy texts of the supported shape, and what a denial that is listed in
one comes to. -/

namespace PolicyText

/-! ### Stripping -/

section Strip

variable {letter : Char} {text rest : List Char}

theorem rstrip_cons (letter : Char) (text : List Char) :
    rstrip (letter :: text) =
      if rstrip text = [] ∧ isSpace letter = true then []
      else letter :: rstrip text := by
  simp only [rstrip, List.rdropWhile, List.reverse_cons, List.dropWhile_append,
    List.reverse_eq_nil_iff, List.isEmpty_iff]
  by_cases blank : List.dropWhile isSpace text.reverse = []
  · simp only [blank, if_true, true_and, List.reverse_nil]
    by_cases space : isSpace letter = true
    · simp [List.dropWhile, space]
    · simp [List.dropWhile, space]
  · simp [blank]

theorem rstrip_solid (solid : isSpace letter = false) :
    rstrip (letter :: text) = letter :: rstrip text := by
  rw [rstrip_cons, if_neg]
  rintro ⟨_, space⟩
  rw [solid] at space
  cases space

theorem rstrip_eq_nil : rstrip text = [] ↔ ∀ letter ∈ text, isSpace letter :=
  List.rdropWhile_eq_nil_iff

theorem rstrip_append_of_blank (blank : ∀ letter ∈ rest, isSpace letter) :
    rstrip (text ++ rest) = rstrip text := by
  induction text with
  | nil => exact rstrip_eq_nil.mpr blank
  | cons letter text ih => rw [List.cons_append, rstrip_cons, rstrip_cons, ih]

/-- What ends in a letter is not cut before it. -/
theorem rstrip_append_solid (solid : isSpace letter = false) :
    rstrip (text ++ letter :: rest) = text ++ letter :: rstrip rest := by
  induction text with
  | nil => exact rstrip_solid solid
  | cons first text ih =>
      rw [List.cons_append, rstrip_cons, ih, if_neg]
      · rfl
      · rintro ⟨empty, _⟩
        simp at empty

theorem rstrip_rstrip (text : List Char) : rstrip (rstrip text) = rstrip text :=
  List.rdropWhile_idempotent _ _

theorem strip_solid (solid : isSpace letter = false) :
    strip (letter :: text) = letter :: rstrip text := by
  rw [strip, List.dropWhile_cons, if_neg (by simp [solid]), rstrip_solid solid]

theorem strip_blank (blank : isSpace letter = true) :
    strip (letter :: text) = strip text := by
  rw [strip, List.dropWhile_cons, if_pos blank]
  rfl

theorem strip_rstrip (text : List Char) : strip (rstrip text) = strip text := by
  induction text with
  | nil => rfl
  | cons letter text ih =>
      cases space : isSpace letter with
      | false =>
          rw [rstrip_solid space, strip_solid space, strip_solid space,
            rstrip_rstrip]
      | true =>
          rw [strip_blank space, ← ih, rstrip_cons]
          by_cases empty : rstrip text = []
          · rw [if_pos ⟨empty, space⟩, empty]
          · rw [if_neg fun both => empty both.1, strip_blank space]

end Strip

/-! ### Lines -/

section Lines

/-- The text of the line begins with a letter that is no comment's. -/
def Begins (text : List Char) : Prop :=
  ∃ first rest, text = first :: rest ∧ isSpace first = false ∧ first ≠ '#'

theorem uncommented_append {text rest : List Char} :
    uncommented (text ++ rest) =
      if '#' ∈ text then uncommented text else text ++ uncommented rest := by
  induction text with
  | nil => rfl
  | cons letter text ih =>
      simp only [uncommented] at ih ⊢
      rw [List.cons_append, List.takeWhile_cons, List.takeWhile_cons, ih]
      by_cases hash : letter = '#'
      · subst hash
        simp
      · by_cases inside : '#' ∈ text
        · simp [hash, inside]
        · simp [hash, inside, eq_comm]

theorem uncommented_plain {text : List Char} (plain : '#' ∉ text) :
    uncommented text = text := by
  have same := @uncommented_append text []
  rw [if_neg plain, List.append_nil] at same
  rw [same]
  exact List.append_nil _

theorem isSpace_blank : isSpace ' ' = true := by decide

theorem rstrip_replicate (indent : Nat) {text : List Char}
    (begins : Begins text) :
    rstrip (List.replicate indent ' ' ++ uncommented text) =
      List.replicate indent ' ' ++ rstrip (uncommented text) := by
  obtain ⟨first, rest, rfl, solid, hash⟩ := begins
  have cut : uncommented (first :: rest) = first :: uncommented rest := by
    simp [uncommented, hash]
  rw [cut, rstrip_append_solid solid, rstrip_solid solid]

private theorem takeWhile_replicate (indent : Nat) {first : Char}
    {rest : List Char} (solid : isSpace first = false) :
    (List.replicate indent ' ' ++ first :: rest).takeWhile (· = ' ') =
      List.replicate indent ' ' := by
  induction indent with
  | zero =>
      have different : first ≠ ' ' := by
        rintro rfl
        cases solid
      simp [different]
  | succ indent ih =>
      rw [List.replicate_succ, List.cons_append, List.takeWhile_cons, ih]
      rfl

private theorem strip_replicate (indent : Nat) (text : List Char) :
    strip (List.replicate indent ' ' ++ text) = strip text := by
  induction indent with
  | zero => rfl
  | succ indent ih =>
      rw [List.replicate_succ, List.cons_append, strip_blank isSpace_blank, ih]

end Lines

/-! ### Texts of the supported shape -/

/-- No line ends within the text. -/
def OneLine (text : List Char) : Prop :=
  ∀ letter ∈ text, isBreak letter = false

/-- What follows on a line: a comment, if there is one. -/
structure Note where
  comment : Option (List Char) := none
  oneLine : ∀ text ∈ comment, OneLine text

/-- A line that is blank, or holds a comment only. -/
structure Blank where
  indent : Nat
  comment : Option (List Char) := none
  oneLine : ∀ text ∈ comment, OneLine text

/-- What surrounds the text of a line. -/
structure Margin where
  above : List Blank
  note : Note

def Note.text (note : Note) : List Char :=
  match note.comment with
  | none => []
  | some text => ' ' :: '#' :: text

def Blank.text (blank : Blank) : List Char :=
  List.replicate blank.indent ' ' ++
    match blank.comment with
    | none => []
    | some text => '#' :: text

def Margin.lines (margin : Margin) (indent : Nat) (text : List Char) :
    List (List Char) :=
  margin.above.map Blank.text ++
    [List.replicate indent ' ' ++ text ++ margin.note.text]

section Steps

variable {builtins : Builtins} {state : ParserState}

theorem step_blank (blank : Blank) :
    step builtins blank.text state = .ok state := by
  have empty : strip (rstrip (uncommented blank.text)) = [] := by
    rw [strip_rstrip, Blank.text]
    have cut : uncommented (List.replicate blank.indent ' ' ++
        match blank.comment with
        | none => []
        | some text => '#' :: text) =
        List.replicate blank.indent ' ' ++ [] := by
      rw [uncommented_append, if_neg]
      · cases blank.comment with
        | none => rfl
        | some text => rfl
      · intro member
        cases List.eq_of_mem_replicate member
    rw [cut, strip_replicate]
    rfl
  rw [step, empty]
  rfl

private theorem uncommented_line (indent : Nat) (text : List Char)
    (note : Note) :
    ∃ blanks, (∀ letter ∈ blanks, isSpace letter = true) ∧
      uncommented (List.replicate indent ' ' ++ text ++ note.text) =
        List.replicate indent ' ' ++ uncommented text ++ blanks := by
  have indented : '#' ∉ List.replicate indent ' ' := by
    intro member
    cases List.eq_of_mem_replicate member
  rw [List.append_assoc, uncommented_append, if_neg indented,
    uncommented_append]
  by_cases inside : '#' ∈ text
  · refine ⟨[], ?_, ?_⟩
    · intro letter member
      cases member
    · rw [if_pos inside, List.append_nil]
  · refine ⟨uncommented note.text, ?_, ?_⟩
    · unfold Note.text
      cases note.comment with
      | none =>
          intro letter member
          cases member
      | some comment =>
          intro letter member
          have alone : uncommented (' ' :: '#' :: comment) = [' '] := rfl
          rw [alone, List.mem_singleton] at member
          rw [member]
          rfl
    · rw [if_neg inside, uncommented_plain inside, List.append_assoc]

theorem step_line {indent : Nat} {text : List Char} (begins : Begins text)
    (note : Note) :
    step builtins (List.replicate indent ' ' ++ text ++ note.text) state =
      dispatch builtins (List.replicate indent ' ' ++ text ++ note.text)
        indent (rstrip (uncommented text)) state := by
  obtain ⟨blanks, blank, cut⟩ := uncommented_line indent text note
  have line : rstrip (uncommented (List.replicate indent ' ' ++ text ++
      note.text)) =
        List.replicate indent ' ' ++ rstrip (uncommented text) := by
    rw [cut, rstrip_append_of_blank blank, rstrip_replicate indent begins]
  obtain ⟨first, rest, rfl, solid, hash⟩ := begins
  have core : rstrip (uncommented (first :: rest)) =
      first :: rstrip (uncommented rest) := by
    have cons : uncommented (first :: rest) = first :: uncommented rest := by
      simp [uncommented, hash]
    rw [cons, rstrip_solid solid]
  have content : strip (first :: rstrip (uncommented rest)) =
      first :: rstrip (uncommented rest) := by
    rw [strip_solid solid, rstrip_rstrip]
  rw [step, line, core, takeWhile_replicate indent solid,
    List.length_replicate, strip_replicate, content]
  rfl

end Steps

/-! ### Names and scalars -/

inductive Quoting
  | plain
  | single
  | double
  deriving DecidableEq

/-- Letters that a scalar without quotes does not begin with. -/
def indicators : List Char := "\"'#[]\x7b\x7d&*!|>%@,".toList

/-- The name can be written so. -/
def Quoting.Admits (name : List Char) : Quoting → Prop
  | .plain =>
      (∃ first rest, name = first :: rest ∧ isSpace first = false ∧
        first ∉ indicators) ∧
      rstrip name = name ∧ endsOpen name = false ∧
      ¬ "- ".toList <+: name ∧ ¬ " #".toList <:+: name ∧
      ¬ ": ".toList <:+: name
  | .single => '\'' ∉ name
  | .double => '"' ∉ name ∧ '\\' ∉ name

theorem Quoting.Admits.begins {name : List Char}
    (admitted : Quoting.plain.Admits name) : Begins name := by
  obtain ⟨⟨first, rest, same, solid, other⟩, _⟩ := admitted
  refine ⟨first, rest, same, solid, ?_⟩
  rintro rfl
  exact other (by decide)

/-- A name that stands for itself: of a role, a risk or an effect. -/
structure Title where
  text : List Char
  admitted : Quoting.plain.Admits text
  bare : '#' ∉ text
  oneLine : OneLine text

/-- A scalar: a name and the way it is written. -/
structure Scalar where
  name : List Char
  style : Quoting
  admitted : style.Admits name
  oneLine : OneLine name

namespace Scalar

variable (scalar : Scalar)

def written : List Char :=
  match scalar.style with
  | .plain => scalar.name
  | .single => '\'' :: scalar.name ++ ['\'']
  | .double => '"' :: scalar.name ++ ['"']

/-- What is left of it up to the first `#`, without blanks around. -/
def read : List Char := strip (uncommented scalar.written)

theorem begins : Begins scalar.written := by
  obtain ⟨name, style, admitted, _⟩ := scalar
  cases style with
  | plain => exact admitted.begins
  | single => exact ⟨'\'', name ++ ['\''], rfl, by decide, by decide⟩
  | double => exact ⟨'"', name ++ ['"'], rfl, by decide, by decide⟩

theorem read_cons : ∃ first rest, scalar.read = first :: rest ∧
    isSpace first = false := by
  obtain ⟨first, rest, written, solid, hash⟩ := scalar.begins
  refine ⟨first, rstrip (uncommented rest), ?_, solid⟩
  have cons : uncommented (first :: rest) = first :: uncommented rest := by
    simp [uncommented, hash]
  rw [read, written, cons, strip_solid solid]

end Scalar

/-! ### Documents -/

inductive RoleKey
  | allowTools
  | denyTools
  | allowRisk
  | denyRisk
  deriving DecidableEq

def RoleKey.text : RoleKey → List Char
  | .allowTools => "allow_tools".toList
  | .denyTools => "deny_tools".toList
  | .allowRisk => "allow_risk".toList
  | .denyRisk => "deny_risk".toList

/-- Names listed under a key: in a block list, or as a single scalar. -/
inductive Listing
  | block (head : Margin) (items : List (Margin × Scalar))
  | single (margin : Margin) (scalar : Scalar)

namespace Listing

def scalars : Listing → List Scalar
  | .block _ items => items.map Prod.snd
  | .single _ scalar => [scalar]

def names (listing : Listing) : List (List Char) :=
  listing.scalars.map Scalar.name

def lines (key : RoleKey) : Listing → List (List Char)
  | .block head items =>
      head.lines 4 (key.text ++ [':']) ++
        items.flatMap fun item => item.1.lines 6 ('-' :: ' ' :: item.2.written)
  | .single margin scalar =>
      margin.lines 4 (key.text ++ ':' :: ' ' :: scalar.written)

end Listing

structure RoleText where
  margin : Margin
  name : Title
  entries : List (RoleKey × Listing)
  distinct : (entries.map Prod.fst).Nodup

def RoleText.lines (role : RoleText) : List (List Char) :=
  role.margin.lines 2 (role.name.text ++ [':']) ++
    role.entries.flatMap fun entry => entry.2.lines entry.1

inductive Section
  | version (margin : Margin) (value : Title)
  | defaults (margin : Margin) (effects : List (Margin × Title × Title))
  | roles (margin : Margin) (roles : List RoleText)

namespace Section

def lines : Section → List (List Char)
  | .version margin value =>
      margin.lines 0 ("version: ".toList ++ value.text)
  | .defaults margin effects =>
      margin.lines 0 "defaults:".toList ++ effects.flatMap fun effect =>
        effect.1.lines 2 (effect.2.1.text ++ ':' :: ' ' :: effect.2.2.text)
  | .roles margin listed =>
      margin.lines 0 "roles:".toList ++ listed.flatMap RoleText.lines

def roleTexts : Section → List RoleText
  | .roles _ listed => listed
  | _ => []

end Section

/-- A policy of the supported shape: `version`, `defaults` and `roles` in any
order, each role with each of its keys at most once. -/
structure Document where
  sections : List Section
  distinct : ((sections.flatMap Section.roleTexts).map
    fun role => role.name.text).Nodup

namespace Document

variable (document : Document)

def roles : List RoleText := document.sections.flatMap Section.roleTexts

def text : String :=
  String.ofList ((document.sections.flatMap Section.lines).flatMap
    fun line => line ++ ['\n'])

end Document

/-! ### What the lines hold -/

section Contents

variable {builtins : Builtins}

theorem Scalar.read_eq (scalar : Scalar) :
    scalar.read = rstrip (uncommented scalar.written) := by
  obtain ⟨first, rest, written, solid, hash⟩ := scalar.begins
  have cons : uncommented (first :: rest) = first :: uncommented rest := by
    simp [uncommented, hash]
  rw [Scalar.read, written, cons, strip_solid solid, rstrip_solid solid]

theorem Scalar.read_ne_nil (scalar : Scalar) : scalar.read ≠ [] := by
  obtain ⟨first, rest, same, _⟩ := scalar.read_cons
  rw [same]
  exact List.cons_ne_nil _ _

/-- After a colon or a dash and a blank, a scalar is read as what is left of
it. -/
theorem core_scalar {front : List Char} (bare : '#' ∉ front) {mark : Char}
    (solid : isSpace mark = false) (other : mark ≠ '#') (scalar : Scalar) :
    rstrip (uncommented (front ++ mark :: ' ' :: scalar.written)) =
      front ++ mark :: ' ' :: scalar.read := by
  have cut : uncommented (mark :: ' ' :: scalar.written) =
      mark :: ' ' :: uncommented scalar.written := by
    simp [uncommented, other]
  rw [uncommented_append, if_neg bare, cut, rstrip_append_solid solid,
    rstrip_cons, if_neg, ← scalar.read_eq]
  rintro ⟨empty, _⟩
  exact scalar.read_ne_nil (scalar.read_eq.trans empty)

theorem core_open {front : List Char} (bare : '#' ∉ front) :
    rstrip (uncommented (front ++ [':'])) = front ++ [':'] := by
  have plain : '#' ∉ front ++ [':'] := by
    simp [bare]
  rw [uncommented_plain plain, rstrip_append_solid (by decide)]
  rfl

@[simp] theorem endsOpen_open (front : List Char) :
    endsOpen (front ++ [':']) = true := by
  simp [endsOpen]

theorem endsOpen_append {front text : List Char} (some : text ≠ []) :
    endsOpen (front ++ text) = endsOpen text := by
  unfold endsOpen
  rw [List.getLast?_append_of_ne_nil _ some]

theorem endsOpen_scalar (front : List Char) (mark : Char) (scalar : Scalar) :
    endsOpen (front ++ mark :: ' ' :: scalar.read) = endsOpen scalar.read := by
  have parts : front ++ mark :: ' ' :: scalar.read =
      (front ++ [mark, ' ']) ++ scalar.read := by simp
  rw [parts, endsOpen_append scalar.read_ne_nil]

theorem RoleKey.bare (key : RoleKey) : '#' ∉ key.text := by
  cases key <;> decide

theorem RoleKey.unbroken (key : RoleKey) :
    ∀ letter ∈ key.text, letter ≠ ':' := by
  rw [← List.all_iff_forall_prop]
  cases key <;> decide

theorem RoleKey.trimmed (key : RoleKey) : strip key.text = key.text := by
  cases key <;> decide

theorem RoleKey.begins (key : RoleKey) (rest : List Char) :
    Begins (key.text ++ rest) := by
  cases key
  all_goals exact ⟨_, _, rfl, by decide, by decide⟩

theorem takeWhile_front {front rest : List Char}
    (unbroken : ∀ letter ∈ front, letter ≠ ':') :
    (front ++ ':' :: rest).takeWhile (· ≠ ':') = front ∧
      (front ++ ':' :: rest).dropWhile (· ≠ ':') = ':' :: rest := by
  induction front with
  | nil => simp
  | cons letter front ih =>
      obtain ⟨taken, dropped⟩ :=
        ih fun other member => unbroken other (List.mem_cons_of_mem _ member)
      have here := unbroken letter List.mem_cons_self
      rw [List.cons_append, List.takeWhile_cons, List.dropWhile_cons, taken,
        dropped]
      simp [here]

theorem splitScalar_single (key : RoleKey) (scalar : Scalar) :
    splitScalar builtins (key.text ++ ':' :: ' ' :: scalar.read) =
      (scalarOf builtins scalar.read).map fun value =>
        (String.ofList key.text, value) := by
  obtain ⟨taken, dropped⟩ :=
    @takeWhile_front key.text (' ' :: scalar.read) key.unbroken
  obtain ⟨first, rest, same, solid⟩ := scalar.read_cons
  have trimmed : strip scalar.read = scalar.read := by
    rw [scalar.read_eq, strip_rstrip, ← Scalar.read, scalar.read_eq]
  have within : ':' ∈ key.text ++ ':' :: ' ' :: scalar.read := by simp
  rw [splitScalar, if_pos within, taken, dropped, key.trimmed]
  simp only [List.drop_succ_cons, List.drop_zero]
  rw [strip_blank isSpace_blank, trimmed]
  cases scalarOf builtins scalar.read <;> rfl

end Contents

/-! ### What the lines of a role leave -/

section Roles

variable {builtins : Builtins} {state after : ParserState} {role : String}
  {others : String → Option Json} {entries : RoleKey → Option Json}

theorem bind_ok {α β : Type} {first : Except PyError α}
    {next : α → Except PyError β} {value : β}
    (result : first >>= next = .ok value) :
    ∃ middle, first = .ok middle ∧ next middle = .ok value := by
  cases first with
  | error error => cases result
  | ok middle => exact ⟨middle, rfl, result⟩

def readLines (builtins : Builtins) (lines : List (List Char))
    (state : ParserState) : Except PyError ParserState :=
  lines.foldlM (fun state raw => step builtins raw state) state

theorem readLines_append {first second : List (List Char)} :
    readLines builtins (first ++ second) state = (do
      let middle ← readLines builtins first state
      readLines builtins second middle) := by
  simp [readLines, List.foldlM_append]

theorem readLines_margin {indent : Nat} {text : List Char}
    (begins : Begins text) (margin : Margin) :
    ∃ raw, readLines builtins (margin.lines indent text) state =
      dispatch builtins raw indent (rstrip (uncommented text)) state := by
  refine ⟨List.replicate indent ' ' ++ text ++ margin.note.text, ?_⟩
  unfold Margin.lines
  rw [readLines_append]
  have blank : readLines builtins (margin.above.map Blank.text) state =
      .ok state := by
    induction margin.above with
    | nil => rfl
    | cons blank rest ih =>
        rw [List.map_cons, readLines, List.foldlM_cons, step_blank]
        exact ih
  rw [blank]
  exact (bind_pure (step builtins _ state)).trans (step_line begins margin.note)

def RoleKey.name (key : RoleKey) : String := String.ofList key.text

theorem RoleKey.name_injective : Function.Injective RoleKey.name := by
  intro first second same
  cases first <;> cases second <;> first | rfl | exact absurd same (by decide)

/-- The text is about to tell of the role, which has these entries so far. -/
structure At (role : String) (others : String → Option Json)
    (entries : RoleKey → Option Json) (state : ParserState) : Prop where
  current : state.current = some "roles"
  named : state.currentRole = some role
  held : ∃ roles fields, Fields.get? state.data "roles" = some (.obj roles) ∧
    Fields.get? roles role = some (.obj fields) ∧
    (∀ key, Fields.get? fields (RoleKey.name key) = entries key) ∧
    ∀ other, other ≠ role → Fields.get? roles other = others other

theorem At.changed (at_ : At role others entries state)
    {change : Json → Except PyError Json} {data : Fields}
    (changed : updateRole role change state.data = .ok data) :
    ∃ roles fields value,
      (∀ key, Fields.get? fields (RoleKey.name key) = entries key) ∧
      change (.obj fields) = .ok value ∧
      Fields.get? data "roles" = some (.obj roles) ∧
      Fields.get? roles role = some value ∧
      ∀ other, other ≠ role → Fields.get? roles other = others other := by
  obtain ⟨roles, fields, known, own, read, rest⟩ := at_.held
  have unfolded : updateRole role change state.data =
      (change (.obj fields)).map fun value => Fields.set state.data "roles"
        (.obj (Fields.set roles role value)) := by
    simp only [updateRole, known, own]
    cases change (.obj fields) <;> rfl
  rw [unfolded] at changed
  cases result : change (.obj fields) with
  | error error =>
      rw [result] at changed
      cases changed
  | ok value =>
      rw [result] at changed
      cases changed
      refine ⟨Fields.set roles role value, fields, value, read, result, ?_, ?_,
        ?_⟩
      · rw [Fields.get?_set, if_pos rfl]
      · rw [Fields.get?_set, if_pos rfl]
      · intro other different
        rw [Fields.get?_set, if_neg different]
        exact rest other different

theorem At.dispatch (at_ : At role others entries state) (named : role ≠ "")
    (raw content : List Char) :
    dispatch builtins raw 4 content state =
      stepEntry builtins role content state := by
  have truthy : truthyName state.currentRole = some role := by
    rw [at_.named, truthyName, Option.filter, if_pos]
    simp [named]
  simp [PolicyText.dispatch, at_.current, truthy]

theorem At.dispatch_item (at_ : At role others entries state)
    (named : role ≠ "") {key : RoleKey}
    (listed : state.currentList = some key.name) (raw rest : List Char) :
    PolicyText.dispatch builtins raw 6 ('-' :: rest) state =
      stepItem role key.name ('-' :: rest) state := by
  have truthy : truthyName state.currentRole = some role := by
    rw [at_.named, truthyName, Option.filter, if_pos]
    simp [named]
  have list : truthyName state.currentList = some key.name := by
    rw [listed]
    cases key <;> rfl
  simp [PolicyText.dispatch, at_.current, truthy, list]

private theorem get?_assigned {fields : Fields}
    (read : ∀ key, Fields.get? fields (RoleKey.name key) = entries key)
    (key : RoleKey) (value : Json) (other : RoleKey) :
    Fields.get? (Fields.set fields key.name value) other.name =
      Function.update entries key (some value) other := by
  rw [Fields.get?_set, Function.update_apply]
  by_cases same : other = key
  · rw [if_pos same, if_pos (congrArg RoleKey.name same)]
  · rw [if_neg same, if_neg fun alike => same (RoleKey.name_injective alike)]
    exact read other

theorem At.head (at_ : At role others entries state) (named : role ≠ "")
    {key : RoleKey} (fresh : entries key = none) {raw : List Char}
    (read : PolicyText.dispatch builtins raw 4 (key.text ++ [':']) state =
      .ok after) :
    At role others (Function.update entries key (some (.arr []))) after ∧
      after.currentList = some key.name := by
  rw [at_.dispatch named, stepEntry, if_pos (endsOpen_open _),
    List.dropLast_concat] at read
  obtain ⟨data, updated, same⟩ := bind_ok read
  cases same
  obtain ⟨roles, fields, value, known, result, top, own, rest⟩ :=
    at_.changed updated
  have absent : Fields.get? fields (String.ofList key.text) = none :=
    (known key).trans fresh
  simp only [setDefault, absent] at result
  cases result
  exact ⟨⟨at_.current, at_.named, roles, _, top, own,
    get?_assigned known key _, rest⟩, rfl⟩

def Scalar.item (scalar : Scalar) : Json := .str (String.ofList scalar.read)

theorem At.item (at_ : At role others entries state) (named : role ≠ "")
    {key : RoleKey} (listed : state.currentList = some key.name)
    {items : List Json} (held : entries key = some (.arr items))
    {scalar : Scalar} {raw : List Char}
    (read : PolicyText.dispatch builtins raw 6 ('-' :: ' ' :: scalar.read)
      state = .ok after) :
    At role others
        (Function.update entries key (some (.arr (items ++ [scalar.item]))))
        after ∧
      after.currentList = some key.name := by
  have trimmed : strip (('-' :: ' ' :: scalar.read).drop 1) = scalar.read := by
    rw [List.drop_one, List.tail_cons, strip_blank isSpace_blank,
      scalar.read_eq, strip_rstrip, ← Scalar.read, scalar.read_eq]
  rw [at_.dispatch_item named listed, stepItem, trimmed] at read
  obtain ⟨data, updated, same⟩ := bind_ok read
  cases same
  obtain ⟨roles, fields, value, known, result, top, own, rest⟩ :=
    at_.changed updated
  have present : Fields.get? fields key.name = some (.arr items) :=
    (known key).trans held
  simp only [appendTo, setDefault, present] at result
  obtain ⟨same, filled, set⟩ := bind_ok result
  cases filled
  simp only [present] at set
  cases set
  exact ⟨⟨at_.current, at_.named, roles, _, top, own,
    get?_assigned known key _, rest⟩, listed⟩

theorem At.items (named : role ≠ "") {key : RoleKey} {held : List Json}
    (items : List (Margin × Scalar)) (at_ : At role others entries state)
    (listed : state.currentList = some key.name)
    (here : entries key = some (.arr held))
    (read : readLines builtins (items.flatMap fun item =>
      item.1.lines 6 ('-' :: ' ' :: item.2.written)) state = .ok after) :
    At role others (Function.update entries key
      (some (.arr (held ++ items.map fun item => item.2.item)))) after := by
  induction items generalizing state entries held with
  | nil =>
      cases read
      rw [List.map_nil, List.append_nil, ← here, Function.update_eq_self]
      exact at_
  | cons first rest ih =>
      rw [List.flatMap_cons, readLines_append] at read
      obtain ⟨middle, line, more⟩ := bind_ok read
      obtain ⟨raw, same⟩ := @readLines_margin builtins state 6
        ('-' :: ' ' :: first.2.written) ⟨_, _, rfl, by decide, by decide⟩
        first.1
      have core := @core_scalar [] (by simp) '-' (by decide) (by decide) first.2
      rw [List.nil_append, List.nil_append] at core
      rw [same, core] at line
      obtain ⟨next, still⟩ := at_.item named listed here line
      have later := ih next still (Function.update_self _ _ _) more
      rw [Function.update_idem] at later
      rw [List.map_cons]
      simpa only [List.append_assoc, List.singleton_append] using later

/-- What a listing is read as; nothing, where its line is taken for the head of
another list. -/
def Listing.read (builtins : Builtins) :
    Listing → Except PyError (Option Json)
  | .block _ items => .ok (some (.arr (items.map fun item => item.2.item)))
  | .single _ scalar =>
      if endsOpen scalar.read then .ok none
      else (scalarOf builtins scalar.read).map some

/-- A key with a scalar that ends in a colon is a name of its own. -/
private theorem broken_name (key other : RoleKey) (scalar : Scalar) :
    String.ofList (key.text ++ ':' :: ' ' :: scalar.read).dropLast ≠
      other.name := by
  intro same
  have text := String.ofList_injective same
  have within : ':' ∈ (key.text ++ ':' :: ' ' :: scalar.read).dropLast := by
    obtain ⟨first, rest, read, _⟩ := scalar.read_cons
    rw [read, List.dropLast_append_of_ne_nil (by simp)]
    simp
  rw [text] at within
  exact other.unbroken ':' within rfl

theorem At.single (at_ : At role others entries state) (named : role ≠ "")
    {key : RoleKey} (fresh : entries key = none) {scalar : Scalar}
    {margin : Margin} {raw : List Char}
    (read : PolicyText.dispatch builtins raw 4
      (key.text ++ ':' :: ' ' :: scalar.read) state = .ok after) :
    ∃ value, (Listing.single margin scalar).read builtins = .ok value ∧
      At role others (Function.update entries key value) after := by
  rw [at_.dispatch named, stepEntry, endsOpen_scalar] at read
  cases opened : endsOpen scalar.read with
  | true =>
      rw [opened, if_pos rfl] at read
      obtain ⟨data, updated, same⟩ := bind_ok read
      cases same
      obtain ⟨roles, fields, value, known, result, top, own, rest⟩ :=
        at_.changed updated
      refine ⟨none, by rw [Listing.read, opened]; rfl, at_.current, at_.named,
        roles, ?_⟩
      obtain ⟨data, set, same⟩ := bind_ok result
      cases same
      refine ⟨data, top, own, ?_, rest⟩
      intro other
      have unchanged : Fields.get? data other.name =
          Fields.get? fields other.name := by
        simp only [setDefault, Except.ok.injEq] at set
        rw [← set]
        split
        · rfl
        · rw [Fields.get?_set, if_neg (broken_name key other scalar).symm]
      rw [unchanged, known, ← fresh, Function.update_eq_self]
  | false =>
      rw [opened, if_neg (by simp), splitScalar_single] at read
      cases parsed : scalarOf builtins scalar.read with
      | error error =>
          rw [parsed] at read
          cases read
      | ok value =>
          rw [parsed] at read
          have assigned : (do
              let data ← updateRole role
                (assign (String.ofList key.text) value) state.data
              return { state with data := data } :
                Except PyError ParserState) = .ok after := read
          obtain ⟨data, updated, same⟩ := bind_ok assigned
          cases same
          obtain ⟨roles, fields, changed, known, result, top, own, rest⟩ :=
            at_.changed updated
          cases result
          refine ⟨some value, ?_, at_.current, at_.named, roles, _, top, own,
            get?_assigned known key _, rest⟩
          rw [Listing.read, opened, parsed]
          rfl

theorem At.listing (at_ : At role others entries state) (named : role ≠ "")
    {key : RoleKey} (fresh : entries key = none) (listing : Listing)
    (read : readLines builtins (listing.lines key) state = .ok after) :
    ∃ value, listing.read builtins = .ok value ∧
      At role others (Function.update entries key value) after := by
  cases listing with
  | block head items =>
      rw [Listing.lines, readLines_append] at read
      obtain ⟨middle, line, more⟩ := bind_ok read
      obtain ⟨raw, same⟩ := @readLines_margin builtins state 4
        (key.text ++ [':']) (key.begins _) head
      rw [same, core_open key.bare] at line
      obtain ⟨next, listed⟩ := at_.head named fresh line
      have later := next.items named items listed (Function.update_self _ _ _)
        more
      rw [Function.update_idem, List.nil_append] at later
      exact ⟨_, rfl, later⟩
  | single margin scalar =>
      rw [Listing.lines] at read
      obtain ⟨raw, same⟩ := @readLines_margin builtins state 4
        (key.text ++ ':' :: ' ' :: scalar.written) (key.begins _) margin
      rw [same, core_scalar key.bare (by decide) (by decide)] at read
      exact at_.single named fresh read

theorem At.all (named : role ≠ "") (listed : List (RoleKey × Listing))
    (distinct : (listed.map Prod.fst).Nodup)
    (at_ : At role others entries state)
    (fresh : ∀ entry ∈ listed, entries entry.1 = none)
    (read : readLines builtins
      (listed.flatMap fun entry => entry.2.lines entry.1) state =
        .ok after) :
    ∃ final, At role others final after ∧
      ∀ key, match listed.lookup key with
        | none => final key = entries key
        | some listing => listing.read builtins = .ok (final key) := by
  induction listed generalizing state entries with
  | nil =>
      cases read
      exact ⟨entries, at_, fun key => rfl⟩
  | cons first rest ih =>
      obtain ⟨key, listing⟩ := first
      rw [List.map_cons, List.nodup_cons] at distinct
      obtain ⟨apart, distinct⟩ := distinct
      rw [List.flatMap_cons, readLines_append] at read
      obtain ⟨middle, line, more⟩ := bind_ok read
      obtain ⟨value, parsed, next⟩ :=
        at_.listing named (fresh _ List.mem_cons_self) listing line
      have later : ∀ entry ∈ rest,
          Function.update entries key value entry.1 = none := by
        intro entry member
        rw [Function.update_of_ne]
        · exact fresh entry (List.mem_cons_of_mem _ member)
        · intro same
          exact apart (List.mem_map.mpr ⟨entry, member, same⟩)
      obtain ⟨final, reached, held⟩ := ih distinct next later more
      refine ⟨final, reached, ?_⟩
      intro other
      have known := held other
      rw [List.lookup_cons]
      by_cases same : other = key
      · subst same
        have absent : rest.lookup other = none := by
          rw [List.lookup_eq_none_iff]
          intro entry member
          have different : other ≠ entry.1 := by
            intro same
            exact apart (List.mem_map.mpr ⟨entry, member, same.symm⟩)
          simpa using different
        rw [absent] at known
        simp only [Function.update_self] at known
        simp only [beq_self_eq_true]
        rw [known]
        exact parsed
      · have apartKeys : (other == key) = false := by simpa using same
        rw [apartKeys]
        rwa [Function.update_of_ne same] at known

end Roles

/-! ### What the sections leave -/

/-- What is held under a role's name. -/
def view (data : Fields) (name : String) : Option Json :=
  match Fields.get? data "roles" with
  | some (.obj roles) => Fields.get? roles name
  | _ => none

def RoleText.key (role : RoleText) : String := String.ofList role.name.text

/-- The entries of the role are these. -/
def RoleText.ReadAs (builtins : Builtins) (role : RoleText)
    (entries : RoleKey → Option Json) : Prop :=
  ∀ key, match role.entries.lookup key with
    | none => entries key = none
    | some listing => listing.read builtins = .ok (entries key)

/-- The roles that the text has told of so far. -/
structure Told (builtins : Builtins) (told : List RoleText)
    (state : ParserState) : Prop where
  shape : Fields.get? state.data "roles" = none ∨
    ∃ roles, Fields.get? state.data "roles" = some (.obj roles)
  held : ∀ role ∈ told, ∃ fields,
    view state.data role.key = some (.obj fields) ∧
      role.ReadAs builtins fun key => Fields.get? fields key.name
  fresh : ∀ name, (∀ role ∈ told, role.key ≠ name) →
    view state.data name = none

section Sections

variable {builtins : Builtins} {state after : ParserState}
  {told : List RoleText}

theorem Told.beside (holds : Told builtins told state)
    (same : Fields.get? after.data "roles" = Fields.get? state.data "roles") :
    Told builtins told after := by
  have views : view after.data = view state.data := by
    funext name
    rw [view, view, same]
  refine ⟨same ▸ holds.shape, ?_, ?_⟩
  · rw [views]
    exact holds.held
  · rw [views]
    exact holds.fresh

theorem told_empty : Told builtins [] {} := by
  refine ⟨.inl rfl, ?_, ?_⟩
  · intro role member
    cases member
  · intro name _
    rfl

theorem Title.begins (title : Title) (rest : List Char) :
    Begins (title.text ++ rest) := by
  obtain ⟨first, others, same, solid, hash⟩ := title.admitted.begins
  exact ⟨first, others ++ rest, by rw [same]; rfl, solid, hash⟩

theorem RoleText.key_ne_empty (role : RoleText) : role.key ≠ "" := by
  obtain ⟨first, rest, same, _⟩ := role.name.admitted.begins
  intro empty
  have text := congrArg String.toList empty
  rw [RoleText.key, String.toList_ofList, same] at text
  cases text

theorem Told.role (holds : Told builtins told state)
    (current : state.current = some "roles") (role : RoleText)
    (fresh : ∀ earlier ∈ told, earlier.key ≠ role.key) {raw : List Char}
    (read : dispatch builtins raw 2 (role.name.text ++ [':']) state =
      .ok after) :
    At role.key (view state.data) (fun _ => none) after := by
  have named : nameOf (role.name.text ++ [':']) = role.key := by
    rw [nameOf, if_pos (endsOpen_open _), List.dropLast_concat]
    rfl
  have dispatched : dispatch builtins raw 2 (role.name.text ++ [':']) state =
      stepRole (role.name.text ++ [':']) state := by
    simp [dispatch, current]
  rw [dispatched, stepRole, named] at read
  obtain ⟨data, top, rest⟩ := bind_ok read
  obtain ⟨roles, set, same⟩ := bind_ok rest
  cases same
  have absent := holds.fresh role.key fresh
  simp only [setDefault, Except.ok.injEq] at top
  have known : ∃ earlier, Fields.get? data "roles" = some (.obj earlier) ∧
      ∀ name, Fields.get? earlier name = view state.data name := by
    rw [← top]
    rcases holds.shape with none | ⟨earlier, some⟩
    · rw [none]
      refine ⟨[], ?_, ?_⟩
      · rw [Fields.get?_set, if_pos rfl]
      · intro name
        rw [view, none]
        rfl
    · rw [some]
      refine ⟨earlier, some, ?_⟩
      intro name
      rw [view, some]
  obtain ⟨earlier, held, views⟩ := known
  rw [getOrNone, held, Option.getD_some, setDefault, views, absent] at set
  cases set
  refine ⟨current, rfl, Fields.set earlier role.key (.obj []), [], ?_, ?_, ?_,
    ?_⟩
  · rw [Fields.get?_set, if_pos rfl]
  · rw [Fields.get?_set, if_pos rfl]
  · intro key
    rfl
  · intro other different
    rw [Fields.get?_set, if_neg different]
    exact views other

theorem Told.next (holds : Told builtins told state) {role : RoleText}
    (fresh : ∀ earlier ∈ told, earlier.key ≠ role.key)
    {entries : RoleKey → Option Json}
    (at_ : At role.key (view state.data) entries after)
    (read : role.ReadAs builtins entries) :
    Told builtins (told ++ [role]) after := by
  obtain ⟨roles, fields, top, own, known, others⟩ := at_.held
  have views (name : String) : view after.data name =
      if name = role.key then some (.obj fields) else view state.data name := by
    have unfolded : view after.data name = Fields.get? roles name := by
      rw [view, top]
    rw [unfolded]
    by_cases same : name = role.key
    · rw [if_pos same, same, own]
    · rw [if_neg same, others name same]
  refine ⟨.inr ⟨roles, top⟩, ?_, ?_⟩
  · intro told member
    rcases List.mem_append.mp member with earlier | last
    · rw [views, if_neg (fresh told earlier)]
      exact holds.held told earlier
    · rw [List.mem_singleton.mp last, views, if_pos rfl]
      have same : (fun key => Fields.get? fields (RoleKey.name key)) =
          entries := funext known
      refine ⟨fields, rfl, ?_⟩
      rw [same]
      exact read
  · intro name apart
    rw [views, if_neg]
    · exact holds.fresh name fun earlier member =>
        apart earlier (List.mem_append_left _ member)
    · exact (apart role (List.mem_append_right _ (List.mem_singleton_self _)) ·.symm)

end Sections

end PolicyText

end AgentLedger
