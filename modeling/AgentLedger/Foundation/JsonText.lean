import AgentLedger.Foundation.Entries
import Mathlib.Data.String.Basic

namespace Foundation

/-! JSON text: a printer and a parser over whatever the numbers are. -/

inductive JsonTree (Number : Type)
  | null
  | bool (value : Bool)
  | number (value : Number)
  | string (value : String)
  | array (items : List (JsonTree Number))
  /-- The entries in key order. -/
  | object (entries : List (String × JsonTree Number))

namespace JsonTree

variable {Number : Type}

mutual
/-- How deep arrays and objects are nested. -/
def depth : JsonTree Number → Nat
  | array items => depthItems items + 1
  | object entries => depthEntries entries + 1
  | _ => 0

def depthItems : List (JsonTree Number) → Nat
  | [] => 0
  | value :: rest => max value.depth (depthItems rest)

def depthEntries : List (String × JsonTree Number) → Nat
  | [] => 0
  | (_, value) :: rest => max value.depth (depthEntries rest)
end

mutual
/-- Every object has its entries in key order. -/
def Ordered : JsonTree Number → Prop
  | array items => OrderedItems items
  | object entries => Entries.Ordered entries ∧ OrderedEntries entries
  | _ => True

def OrderedItems : List (JsonTree Number) → Prop
  | [] => True
  | value :: rest => value.Ordered ∧ OrderedItems rest

def OrderedEntries : List (String × JsonTree Number) → Prop
  | [] => True
  | (_, value) :: rest => value.Ordered ∧ OrderedEntries rest
end

theorem depthItems_le_iff {items : List (JsonTree Number)} {bound : Nat} :
    depthItems items ≤ bound ↔ ∀ item ∈ items, item.depth ≤ bound := by
  induction items with
  | nil => simp [depthItems]
  | cons item rest ih => simp [depthItems, ih]

theorem depthEntries_le_iff {entries : List (String × JsonTree Number)}
    {bound : Nat} : depthEntries entries ≤ bound ↔
      ∀ entry ∈ entries, entry.2.depth ≤ bound := by
  induction entries with
  | nil => simp [depthEntries]
  | cons entry rest ih =>
      obtain ⟨key, value⟩ := entry
      simp [depthEntries, ih]

end JsonTree

namespace JsonText

/-! ### Strings -/

def hexDigit (number : Nat) : Char := Nat.digitChar number

def hexValue (char : Char) : Option Nat :=
  if '0' ≤ char ∧ char ≤ '9' then some (char.toNat - '0'.toNat)
  else if 'a' ≤ char ∧ char ≤ 'f' then some (char.toNat - 'a'.toNat + 10)
  else if 'A' ≤ char ∧ char ≤ 'F' then some (char.toNat - 'A'.toNat + 10)
  else none

def hexNumber (first second third fourth : Char) : Option Nat := do
  return (((← hexValue first) * 16 + (← hexValue second)) * 16 +
    (← hexValue third)) * 16 + (← hexValue fourth)

/-- Quotes, backslashes and control characters are escaped, nothing else. -/
def escape (char : Char) : List Char :=
  if char = '"' then ['\\', '"']
  else if char = '\\' then ['\\', '\\']
  else if char = '\n' then ['\\', 'n']
  else if char = '\r' then ['\\', 'r']
  else if char = '\t' then ['\\', 't']
  else if char.toNat = 8 then ['\\', 'b']
  else if char.toNat = 12 then ['\\', 'f']
  else if char.toNat < 32 then
    ['\\', 'u', '0', '0', hexDigit (char.toNat / 16), hexDigit (char.toNat % 16)]
  else [char]

def unescape (char : Char) : Option Char :=
  if char = '"' then some '"'
  else if char = '\\' then some '\\'
  else if char = '/' then some '/'
  else if char = 'n' then some '\n'
  else if char = 'r' then some '\r'
  else if char = 't' then some '\t'
  else if char = 'b' then some (Char.ofNat 8)
  else if char = 'f' then some (Char.ofNat 12)
  else none

def pushChar (char : Char) (read : List Char × List Char) :
    List Char × List Char :=
  (char :: read.1, read.2)

/-- The rest of a string behind its opening quote.  A surrogate that is not one
of a pair has no character. -/
def stringBody : List Char → Option (List Char × List Char)
  | [] => none
  | '"' :: rest => some ([], rest)
  | '\\' :: 'u' :: a :: b :: c :: d :: rest =>
      match hexNumber a b c d with
      | none => none
      | some high =>
          if 0xd800 ≤ high ∧ high < 0xdc00 then
            match rest with
            | '\\' :: 'u' :: e :: f :: g :: h :: later =>
                match hexNumber e f g h with
                | none => none
                | some low =>
                    if 0xdc00 ≤ low ∧ low < 0xe000 then
                      (stringBody later).map (pushChar (Char.ofNat
                        (0x10000 + (high - 0xd800) * 0x400 + (low - 0xdc00))))
                    else none
            | _ => none
          else if 0xdc00 ≤ high ∧ high < 0xe000 then none
          else (stringBody rest).map (pushChar (Char.ofNat high))
  | '\\' :: char :: rest =>
      match unescape char with
      | some read => (stringBody rest).map (pushChar read)
      | none => none
  | char :: rest =>
      if char.toNat < 32 ∨ char = '\\' then none
      else (stringBody rest).map (pushChar char)

def printString (text : String) : List Char :=
  '"' :: (text.toList.flatMap escape ++ ['"'])

private theorem hexNumber_control : ∀ code < 32,
    hexNumber '0' '0' (hexDigit (code / 16)) (hexDigit (code % 16)) =
      some code := by
  decide

private theorem stringBody_plain {char : Char} {rest : List Char}
    (quote : char ≠ '"') (backslash : char ≠ '\\')
    (printable : ¬ char.toNat < 32) :
    stringBody (char :: rest) = (stringBody rest).map (pushChar char) := by
  rw [stringBody]
  · rw [if_neg (not_or.mpr ⟨printable, backslash⟩)]
  · exact quote
  · intro _ _ _ _ _ same
    exact absurd same backslash
  · intro _ _ same
    exact absurd same backslash

theorem stringBody_escape (char : Char) (rest : List Char) :
    stringBody (escape char ++ rest) =
      (stringBody rest).map (pushChar char) := by
  unfold escape
  split
  case isTrue same =>
      subst same
      rfl
  case isFalse quote =>
  split
  case isTrue same =>
      subst same
      rfl
  case isFalse backslash =>
  split
  case isTrue same =>
      subst same
      rfl
  case isFalse =>
  split
  case isTrue same =>
      subst same
      rfl
  case isFalse =>
  split
  case isTrue same =>
      subst same
      rfl
  case isFalse =>
  split
  case isTrue same =>
      have named : char = Char.ofNat 8 := by rw [← same, Char.ofNat_toNat]
      subst named
      rfl
  case isFalse =>
  split
  case isTrue same =>
      have named : char = Char.ofNat 12 := by rw [← same, Char.ofNat_toNat]
      subst named
      rfl
  case isFalse =>
  split
  case isTrue control =>
      have plain : ¬ (0xd800 ≤ char.toNat ∧ char.toNat < 0xdc00) ∧
          ¬ (0xdc00 ≤ char.toNat ∧ char.toNat < 0xe000) := by
        constructor <;> omega
      simp only [List.cons_append, List.nil_append]
      rw [stringBody, hexNumber_control char.toNat control]
      simp only [if_neg plain.1, if_neg plain.2, Char.ofNat_toNat]
  case isFalse printable =>
      exact stringBody_plain quote backslash printable

theorem stringBody_print (text : List Char) (rest : List Char) :
    stringBody (text.flatMap escape ++ '"' :: rest) = some (text, rest) := by
  induction text with
  | nil => rfl
  | cons char later ih =>
      rw [List.flatMap_cons, List.append_assoc, stringBody_escape, ih]
      rfl

/-! ### Layouts and numbers -/

def isSpace (char : Char) : Bool :=
  char = ' ' || char = '\n' || char = '\r' || char = '\t'

def isNumeral (char : Char) : Bool :=
  char.isDigit || char = '-' || char = '+' || char = '.' || char = 'e' ||
    char = 'E'

/-- The white space between the tokens. -/
structure Layout where
  /-- Before the members of an array or object so deep, and behind the last. -/
  newline : Nat → List Char
  afterColon : List Char
  blank : ∀ level, (newline level).all isSpace = true
  blankColon : afterColon.all isSpace = true

def Layout.compact : Layout := ⟨fun _ => [], [], fun _ => rfl, rfl⟩

/-- How numbers are written. -/
structure Numerals (Number : Type) where
  print : Number → List Char
  parse : List Char → Option Number
  nonempty : ∀ number, print number ≠ []
  numeral : ∀ number, (print number).all isNumeral = true
  parse_print : ∀ number, parse (print number) = some number

variable {Number : Type} (numerals : Numerals Number)

section Print

variable (layout : Layout)

mutual
def print (level : Nat) : JsonTree Number → List Char
  | .null => ['n', 'u', 'l', 'l']
  | .bool true => ['t', 'r', 'u', 'e']
  | .bool false => ['f', 'a', 'l', 's', 'e']
  | .number number => numerals.print number
  | .string text => printString text
  | .array [] => ['[', ']']
  | .array (item :: items) =>
      '[' :: (layout.newline (level + 1) ++
        (print (level + 1) item ++ printItems (level + 1) items ++
          (layout.newline level ++ [']'])))
  | .object [] => ['\x7b', '\x7d']
  | .object ((key, value) :: entries) =>
      '\x7b' :: (layout.newline (level + 1) ++
        ((printString key ++ (':' :: (layout.afterColon ++
            print (level + 1) value))) ++
          printEntries (level + 1) entries ++
          (layout.newline level ++ ['\x7d'])))

/-- Further items, each behind a comma. -/
def printItems (level : Nat) : List (JsonTree Number) → List Char
  | [] => []
  | item :: items =>
      ',' :: (layout.newline level ++ (print level item ++
        printItems level items))

def printEntries (level : Nat) : List (String × JsonTree Number) → List Char
  | [] => []
  | (key, value) :: entries =>
      ',' :: (layout.newline level ++
        ((printString key ++ (':' :: (layout.afterColon ++
            print level value))) ++ printEntries level entries))
end

end Print

/-! ### The parser -/

def skipSpace (text : List Char) : List Char := text.dropWhile isSpace

/-- Elements up to the closing character. -/
def sequence {α : Type} (element : List Char → Option (α × List Char))
    (close : Char) : Nat → List Char → Option (List α × List Char)
  | 0, _ => none
  | fuel + 1, text =>
      match element text with
      | none => none
      | some (first, rest) =>
          match skipSpace rest with
          | ',' :: rest =>
              (sequence element close fuel rest).map fun read =>
                (first :: read.1, read.2)
          | char :: rest => if char = close then some ([first], rest) else none
          | [] => none

def field {α : Type} (element : List Char → Option (α × List Char))
    (text : List Char) : Option ((String × α) × List Char) :=
  match skipSpace text with
  | '"' :: rest =>
      match stringBody rest with
      | none => none
      | some (key, rest) =>
          match skipSpace rest with
          | ':' :: rest => (element rest).map fun read =>
              ((String.ofList key, read.1), read.2)
          | _ => none
  | _ => none

/-- What stands between brackets; none if it closes at once. -/
def members {α : Type} (element : List Char → Option (α × List Char))
    (close : Char) (text : List Char) : Option (List α × List Char) :=
  match skipSpace text with
  | [] => none
  | char :: rest =>
      if char = close then some ([], rest)
      else sequence element close (text.length + 1) text

/-- A value in which arrays and objects are nested no deeper than `depth`. -/
def value : Nat → List Char → Option (JsonTree Number × List Char)
  | depth, text =>
      match skipSpace text with
      | 'n' :: 'u' :: 'l' :: 'l' :: rest => some (.null, rest)
      | 't' :: 'r' :: 'u' :: 'e' :: rest => some (.bool true, rest)
      | 'f' :: 'a' :: 'l' :: 's' :: 'e' :: rest => some (.bool false, rest)
      | '"' :: rest =>
          (stringBody rest).map fun read =>
            (.string (String.ofList read.1), read.2)
      | '[' :: rest =>
          match depth with
          | 0 => none
          | depth + 1 =>
              (members (value depth) ']' rest).map fun read =>
                (.array read.1, read.2)
      | '\x7b' :: rest =>
          match depth with
          | 0 => none
          | depth + 1 =>
              (members (field (value depth)) '\x7d' rest).map fun read =>
                (.object (Entries.collect read.1), read.2)
      | text =>
          (numerals.parse (text.takeWhile isNumeral)).map fun number =>
            (.number number, text.dropWhile isNumeral)

/-- The whole of a text. -/
def parse (depth : Nat) (text : List Char) : Option (JsonTree Number) :=
  match value numerals depth text with
  | some (tree, rest) => if skipSpace rest = [] then some tree else none
  | none => none

/-! ### What is printed is read back -/

/-- No number goes on into the text. -/
def Follows (text : List Char) : Prop :=
  ∀ char rest, text = char :: rest → isNumeral char = false

theorem follows_cons {char : Char} (other : isNumeral char = false)
    (rest : List Char) : Follows (char :: rest) := by
  intro first later same
  cases same
  exact other

theorem follows_nil : Follows [] := fun _ _ same => by cases same

theorem skipSpace_append {space : List Char} (blank : space.all isSpace = true)
    (text : List Char) : skipSpace (space ++ text) = skipSpace text := by
  induction space with
  | nil => rfl
  | cons char rest ih =>
      rw [List.all_cons, Bool.and_eq_true] at blank
      rw [List.cons_append, skipSpace, List.dropWhile_cons, if_pos blank.1]
      exact ih blank.2

theorem skipSpace_cons {char : Char} (solid : isSpace char = false)
    (rest : List Char) : skipSpace (char :: rest) = char :: rest := by
  rw [skipSpace, List.dropWhile_cons, if_neg (by simp [solid])]

theorem follows_space {space : List Char} (blank : space.all isSpace = true)
    {text : List Char} (follows : Follows text) : Follows (space ++ text) := by
  cases space with
  | nil => exact follows
  | cons char rest =>
      rw [List.all_cons, Bool.and_eq_true] at blank
      apply follows_cons
      have spaces := blank.1
      simp only [isSpace, Bool.or_eq_true, decide_eq_true_eq] at spaces
      rcases spaces with ((rfl | rfl) | rfl) | rfl <;> rfl

section Sequence

variable {α : Type} {element : List Char → Option (α × List Char)}
  {close : Char} {space : List Char} {shown : α → List Char}

/-- Further elements, each behind a comma. -/
def commaEach (space : List Char) (shown : α → List Char) : List α → List Char
  | [] => []
  | item :: items => ',' :: (space ++ (shown item ++ commaEach space shown items))

def Reads (element : List Char → Option (α × List Char)) (space : List Char)
    (shown : α → List Char) (item : α) : Prop :=
  ∀ rest, Follows rest →
    element (space ++ (shown item ++ rest)) = some (item, rest)

def Fails (element : List Char → Option (α × List Char)) (space : List Char)
    (shown : α → List Char) (item : α) : Prop :=
  ∀ rest, Follows rest → element (space ++ (shown item ++ rest)) = none

theorem length_commaEach (items : List α) :
    items.length ≤ (commaEach space shown items).length := by
  induction items with
  | nil => exact Nat.le_refl _
  | cons item items ih =>
      simp only [commaEach, List.length_cons, List.length_append]
      omega

private theorem follows_commaEach (items : List α) {behind : List Char}
    (follows : Follows behind) :
    Follows (commaEach space shown items ++ behind) := by
  cases items with
  | nil => exact follows
  | cons item items => exact follows_cons rfl _

theorem sequence_reads {behind rest : List Char}
    (follows : Follows behind) (closes : skipSpace behind = close :: rest)
    (noComma : close ≠ ',') (items : List α) (first : α) (fuel : Nat)
    (reads : ∀ item ∈ first :: items, Reads element space shown item)
    (enough : items.length < fuel) :
    sequence element close fuel
      (space ++ (shown first ++ (commaEach space shown items ++ behind))) =
        some (first :: items, rest) := by
  induction items generalizing first fuel with
  | nil =>
      obtain ⟨fuel, rfl⟩ : ∃ less, fuel = less + 1 := ⟨fuel - 1, by simp at enough; omega⟩
      simp only [commaEach, List.nil_append]
      rw [sequence, reads first (List.mem_cons_self ..) _ follows]
      simp [closes]
  | cons second items ih =>
      obtain ⟨fuel, rfl⟩ : ∃ less, fuel = less + 1 := ⟨fuel - 1, by simp at enough; omega⟩
      rw [sequence, reads first (List.mem_cons_self ..) _
        (follows_commaEach (second :: items) follows)]
      simp only [commaEach, List.cons_append, List.append_assoc]
      rw [skipSpace_cons rfl]
      simp only
      rw [ih second fuel (fun item member => reads item
        (List.mem_cons_of_mem _ member)) (by simpa using enough)]
      rfl

theorem sequence_fails {behind : List Char} (follows : Follows behind)
    (items : List α) (first : α) (fuel : Nat)
    (either : ∀ item ∈ first :: items, Reads element space shown item ∨
      Fails element space shown item)
    (one : ∃ item ∈ first :: items, Fails element space shown item) :
    sequence element close fuel
      (space ++ (shown first ++ (commaEach space shown items ++ behind))) =
        none := by
  induction items generalizing first fuel with
  | nil =>
      obtain ⟨item, member, fails⟩ := one
      rw [List.mem_singleton.mp member] at fails
      simp only [commaEach, List.nil_append]
      cases fuel with
      | zero => rfl
      | succ fuel => rw [sequence, fails _ follows]
  | cons second items ih =>
      cases fuel with
      | zero => rfl
      | succ fuel =>
          have later : Follows
              (commaEach space shown (second :: items) ++ behind) :=
            follows_commaEach (second :: items) follows
          rcases either first (List.mem_cons_self ..) with reads | fails
          · rw [sequence, reads _ later]
            simp only [commaEach, List.cons_append, List.append_assoc]
            rw [skipSpace_cons rfl]
            simp only
            rw [ih second fuel (fun item member => either item
              (List.mem_cons_of_mem _ member)) ?_]
            · rfl
            · obtain ⟨item, member, fails⟩ := one
              rcases List.mem_cons.mp member with rfl | member
              · have neither := (reads [] follows_nil).symm.trans
                  (fails [] follows_nil)
                cases neither
              · exact ⟨item, member, fails⟩
          · rw [sequence, fails _ later]

theorem sequence_all {holds : α → Prop}
    (each : ∀ text item rest, element text = some (item, rest) → holds item)
    (fuel : Nat) {text rest : List Char} {items : List α}
    (read : sequence element close fuel text = some (items, rest)) :
    ∀ item ∈ items, holds item := by
  induction fuel generalizing text rest items with
  | zero => cases read
  | succ fuel ih =>
      rw [sequence] at read
      split at read
      case h_1 => cases read
      case h_2 first behind found =>
          have own := each text first behind found
          split at read
          case h_1 later _ =>
              obtain ⟨⟨more, _⟩, continued, made⟩ := Option.map_eq_some_iff.mp read
              cases made
              intro item member
              rcases List.mem_cons.mp member with rfl | member
              · exact own
              · exact ih continued item member
          case h_2 =>
              split at read
              · cases read
                intro item member
                rw [List.mem_singleton.mp member]
                exact own
              · cases read
          case h_3 => cases read

end Sequence

section Members

variable {α : Type} {element : List Char → Option (α × List Char)}
  {close : Char} {space : List Char} {shown : α → List Char}

private theorem members_eq (blank : space.all isSpace = true) {first : α}
    {text : List Char} {char : Char} {later : List Char}
    (starts : shown first = char :: later) (solid : isSpace char = false)
    (other : char ≠ close) :
    members element close (space ++ (shown first ++ text)) =
      sequence element close ((space ++ (shown first ++ text)).length + 1)
        (space ++ (shown first ++ text)) := by
  rw [members, skipSpace_append blank, starts, List.cons_append,
    skipSpace_cons solid]
  exact if_neg other

theorem members_reads {behind rest : List Char}
    (blank : space.all isSpace = true) (follows : Follows behind)
    (closes : skipSpace behind = close :: rest) (noComma : close ≠ ',')
    {items : List α} {first : α} {char : Char} {later : List Char}
    (starts : shown first = char :: later) (solid : isSpace char = false)
    (other : char ≠ close)
    (reads : ∀ item ∈ first :: items, Reads element space shown item) :
    members element close
      (space ++ (shown first ++ (commaEach space shown items ++ behind))) =
        some (first :: items, rest) := by
  rw [members_eq blank starts solid other]
  apply sequence_reads follows closes noComma items first _ reads
  have long := @length_commaEach α space shown items
  simp only [List.length_append]
  omega

theorem members_fails {behind : List Char} (blank : space.all isSpace = true)
    (follows : Follows behind)
    {items : List α} {first : α} {char : Char} {later : List Char}
    (starts : shown first = char :: later) (solid : isSpace char = false)
    (other : char ≠ close)
    (either : ∀ item ∈ first :: items, Reads element space shown item ∨
      Fails element space shown item)
    (one : ∃ item ∈ first :: items, Fails element space shown item) :
    members element close
      (space ++ (shown first ++ (commaEach space shown items ++ behind))) =
        none := by
  rw [members_eq blank starts solid other]
  exact sequence_fails follows items first _ either one

theorem members_all {holds : α → Prop}
    (each : ∀ text item rest, element text = some (item, rest) → holds item)
    {text rest : List Char} {items : List α}
    (read : members element close text = some (items, rest)) :
    ∀ item ∈ items, holds item := by
  rw [members] at read
  split at read
  case h_1 => cases read
  case h_2 =>
      split at read
      · cases read
        intro item member
        cases member
      · exact sequence_all each _ read

end Members

section Values

variable {numerals} {layout : Layout}

/-- Every value begins with a character that is neither white space nor closes
an array or object. -/
theorem print_starts (level : Nat) (tree : JsonTree Number) :
    ∃ char rest, print numerals layout level tree = char :: rest ∧
      isSpace char = false ∧ char ≠ ']' ∧ char ≠ '\x7d' := by
  cases tree with
  | null => exact ⟨_, _, rfl, rfl, by decide, by decide⟩
  | bool value =>
      cases value <;> exact ⟨_, _, rfl, rfl, by decide, by decide⟩
  | number number =>
      have nonempty := numerals.nonempty number
      have numeral := numerals.numeral number
      rw [print]
      cases written : numerals.print number with
      | nil => exact absurd written nonempty
      | cons char rest =>
          rw [written, List.all_cons, Bool.and_eq_true] at numeral
          refine ⟨char, rest, rfl, ?_, ?_, ?_⟩
          · cases space : isSpace char with
            | false => rfl
            | true =>
                have blank : [char].all isSpace = true := by simp [space]
                have clash := follows_space blank follows_nil char [] rfl
                rw [numeral.1] at clash
                cases clash
          · rintro rfl
            exact absurd numeral.1 (by decide)
          · rintro rfl
            exact absurd numeral.1 (by decide)
  | string text => exact ⟨_, _, rfl, rfl, by decide, by decide⟩
  | array items =>
      cases items <;> exact ⟨_, _, rfl, rfl, by decide, by decide⟩
  | object entries =>
      cases entries <;> exact ⟨_, _, rfl, rfl, by decide, by decide⟩

def printEntry (numerals : Numerals Number) (layout : Layout) (level : Nat)
    (entry : String × JsonTree Number) : List Char :=
  printString entry.1 ++ (':' :: (layout.afterColon ++
    print numerals layout level entry.2))

private theorem printEntry_starts (level : Nat)
    (entry : String × JsonTree Number) : ∃ later,
      printEntry numerals layout level entry = '"' :: later :=
  ⟨_, rfl⟩

theorem printItems_eq (level : Nat) (items : List (JsonTree Number)) :
    printItems numerals layout level items =
      commaEach (layout.newline level) (print numerals layout level) items := by
  induction items with
  | nil => rfl
  | cons item items ih => rw [printItems, commaEach, ih]

theorem printEntries_eq (level : Nat)
    (entries : List (String × JsonTree Number)) :
    printEntries numerals layout level entries =
      commaEach (layout.newline level) (printEntry numerals layout level)
        entries := by
  induction entries with
  | nil => rfl
  | cons entry entries ih =>
      obtain ⟨key, value⟩ := entry
      rw [printEntries, commaEach, ih]
      rfl

theorem value_space {space : List Char} (blank : space.all isSpace = true)
    (depth : Nat) (text : List Char) :
    value numerals depth (space ++ text) = value numerals depth text := by
  unfold value
  rw [skipSpace_append blank]

theorem span_numeral {token rest : List Char}
    (numeral : token.all isNumeral = true) (follows : Follows rest) :
    (token ++ rest).takeWhile isNumeral = token ∧
      (token ++ rest).dropWhile isNumeral = rest := by
  induction token with
  | nil =>
      cases rest with
      | nil => exact ⟨rfl, rfl⟩
      | cons char later =>
          have other := follows char later rfl
          simp [other]
  | cons char token ih =>
      rw [List.all_cons, Bool.and_eq_true] at numeral
      obtain ⟨taken, left⟩ := ih numeral.2
      simp [numeral.1, taken, left]

theorem value_number (depth : Nat) (number : Number) {rest : List Char}
    (follows : Follows rest) :
    value numerals depth (numerals.print number ++ rest) =
      some (.number number, rest) := by
  obtain ⟨char, later, starts, solid, _, _⟩ :=
    @print_starts _ numerals .compact 0 (.number number)
  have written : numerals.print number = char :: later := starts
  have numeral := numerals.numeral number
  obtain ⟨taken, left⟩ := span_numeral numeral follows
  have own : isNumeral char = true := by
    rw [written, List.all_cons, Bool.and_eq_true] at numeral
    exact numeral.1
  have solidText : skipSpace (numerals.print number ++ rest) =
      numerals.print number ++ rest := by
    rw [written]
    exact skipSpace_cons solid _
  unfold value
  rw [solidText]
  split
  case h_7 text _ _ _ _ _ _ =>
      rw [taken, left, numerals.parse_print]
      rfl
  all_goals
    rename_i same
    rw [written, List.cons_append] at same
    rw [(List.cons.inj same).1] at own
    exact absurd own (by decide)

private theorem field_entry {element : List Char →
      Option (JsonTree Number × List Char)} {level : Nat}
    {space : List Char} (blank : space.all isSpace = true)
    (entry : String × JsonTree Number) (rest : List Char) :
    field element (space ++ (printEntry numerals layout level entry ++ rest)) =
      (element (layout.afterColon ++
        (print numerals layout level entry.2 ++ rest))).map fun read =>
          ((entry.1, read.1), read.2) := by
  have body := stringBody_print entry.1.toList
    (':' :: (layout.afterColon ++ (print numerals layout level entry.2 ++ rest)))
  rw [field, skipSpace_append blank, printEntry, printString]
  simp only [List.cons_append, List.append_assoc, List.nil_append]
  rw [skipSpace_cons rfl]
  simp only [body]
  rw [skipSpace_cons rfl]
  simp only [String.ofList_toList]

private theorem follows_behind (level : Nat) {close : Char}
    (other : isNumeral close = false) (rest : List Char) :
    Follows (layout.newline level ++ (close :: rest)) :=
  follows_space (layout.blank level) (follows_cons other rest)

private theorem closes_behind (level : Nat) {close : Char}
    (solid : isSpace close = false) (rest : List Char) :
    skipSpace (layout.newline level ++ (close :: rest)) = close :: rest := by
  rw [skipSpace_append (layout.blank level), skipSpace_cons solid]

/-- Behind its bracket, an array is what its members are. -/
private theorem value_bracket (depth : Nat) (text : List Char) :
    value numerals (depth + 1) ('[' :: text) =
      (members (value numerals depth) ']' text).map fun read =>
        (.array read.1, read.2) := by
  conv_lhs => unfold value
  rw [skipSpace_cons rfl]
  rfl

private theorem value_brace (depth : Nat) (text : List Char) :
    value numerals (depth + 1) ('\x7b' :: text) =
      (members (field (value numerals depth)) '\x7d' text).map fun read =>
        (.object (Entries.collect read.1), read.2) := by
  conv_lhs => unfold value
  rw [skipSpace_cons rfl]
  rfl

private theorem members_closed {α : Type}
    {element : List Char → Option (α × List Char)} {close : Char}
    (solid : isSpace close = false) (rest : List Char) :
    members element close (close :: rest) = some ([], rest) := by
  rw [members, skipSpace_cons solid]
  exact if_pos rfl

private theorem print_array (level : Nat) (item : JsonTree Number)
    (items : List (JsonTree Number)) (rest : List Char) :
    print numerals layout level (.array (item :: items)) ++ rest =
      '[' :: (layout.newline (level + 1) ++
        (print numerals layout (level + 1) item ++
          (commaEach (layout.newline (level + 1))
            (print numerals layout (level + 1)) items ++
            (layout.newline level ++ (']' :: rest))))) := by
  rw [print, printItems_eq]
  simp only [List.cons_append, List.append_assoc, List.nil_append]

private theorem print_object (level : Nat) (entry : String × JsonTree Number)
    (entries : List (String × JsonTree Number)) (rest : List Char) :
    print numerals layout level (.object (entry :: entries)) ++ rest =
      '\x7b' :: (layout.newline (level + 1) ++
        (printEntry numerals layout (level + 1) entry ++
          (commaEach (layout.newline (level + 1))
            (printEntry numerals layout (level + 1)) entries ++
            (layout.newline level ++ ('\x7d' :: rest))))) := by
  rw [print, printEntries_eq, printEntry]
  simp only [List.cons_append, List.append_assoc, List.nil_append]

private theorem value_array {depth level : Nat} {items : List (JsonTree Number)}
    (reads : ∀ item ∈ items, Reads (value numerals depth)
      (layout.newline (level + 1)) (print numerals layout (level + 1)) item)
    (rest : List Char) :
    value numerals (depth + 1)
      (print numerals layout level (.array items) ++ rest) =
        some (.array items, rest) := by
  cases items with
  | nil =>
      rw [print, List.cons_append, value_bracket]
      exact congrArg (Option.map _) (members_closed rfl rest)
  | cons item items =>
      obtain ⟨char, later, starts, solid, other, _⟩ :=
        @print_starts _ numerals layout (level + 1) item
      rw [print_array, value_bracket, members_reads (layout.blank _)
        (follows_behind level rfl rest) (closes_behind level rfl rest)
        (by decide) starts solid other reads]
      rfl

private theorem value_object {depth level : Nat}
    {entries : List (String × JsonTree Number)}
    (ordered : Entries.Ordered entries)
    (reads : ∀ entry ∈ entries, Reads (field (value numerals depth))
      (layout.newline (level + 1)) (printEntry numerals layout (level + 1))
      entry) (rest : List Char) :
    value numerals (depth + 1)
      (print numerals layout level (.object entries) ++ rest) =
        some (.object entries, rest) := by
  cases entries with
  | nil =>
      rw [print, List.cons_append, value_brace]
      exact congrArg (Option.map _) (members_closed rfl rest)
  | cons entry entries =>
      obtain ⟨later, starts⟩ :=
        @printEntry_starts _ numerals layout (level + 1) entry
      rw [print_object, value_brace, members_reads (layout.blank _)
        (follows_behind level rfl rest) (closes_behind level rfl rest)
        (by decide) starts rfl (by decide) reads]
      exact congrArg (fun entries => some (JsonTree.object entries, rest))
        (Entries.collect_of_ordered ordered)

mutual
theorem value_print : ∀ (tree : JsonTree Number) (depth level : Nat)
    (rest : List Char), tree.Ordered → tree.depth ≤ depth → Follows rest →
    value numerals depth (print numerals layout level tree ++ rest) =
      some (tree, rest)
  | .null, depth, _, rest, _, _, _ => by
      unfold value
      rfl
  | .bool true, depth, _, rest, _, _, _ => by
      unfold value
      rfl
  | .bool false, depth, _, rest, _, _, _ => by
      unfold value
      rfl
  | .number number, depth, _, rest, _, _, follows =>
      value_number depth number follows
  | .string text, depth, _, rest, _, _, _ => by
      have body := stringBody_print text.toList rest
      rw [print, printString, List.cons_append, List.append_assoc]
      unfold value
      rw [skipSpace_cons rfl]
      simp only [List.cons_append, List.nil_append, body, Option.map_some,
        String.ofList_toList]
  | .array items, depth, level, rest, ordered, shallow, _ => by
      obtain ⟨depth, rfl⟩ : ∃ less, depth = less + 1 :=
        ⟨depth - 1, by rw [JsonTree.depth] at shallow; omega⟩
      exact value_array (reads_items items depth (level + 1) ordered
        (Nat.le_of_succ_le_succ shallow)) rest
  | .object entries, depth, level, rest, ordered, shallow, _ => by
      obtain ⟨depth, rfl⟩ : ∃ less, depth = less + 1 :=
        ⟨depth - 1, by rw [JsonTree.depth] at shallow; omega⟩
      exact value_object ordered.1 (reads_entries entries depth (level + 1)
        ordered.2 (Nat.le_of_succ_le_succ shallow)) rest

theorem reads_items : ∀ (items : List (JsonTree Number)) (depth level : Nat),
    JsonTree.OrderedItems items → JsonTree.depthItems items ≤ depth →
    ∀ item ∈ items, Reads (value numerals depth) (layout.newline level)
      (print numerals layout level) item
  | [], _, _, _, _, _, member => by cases member
  | first :: items, depth, level, ordered, shallow, item, member => by
      obtain ⟨own, later⟩ := max_le_iff.mp shallow
      rcases List.mem_cons.mp member with same | member
      · rw [same]
        intro rest follows
        rw [value_space (layout.blank level)]
        exact value_print first depth level rest ordered.1 own follows
      · exact reads_items items depth level ordered.2 later item member

theorem reads_entries : ∀ (entries : List (String × JsonTree Number))
    (depth level : Nat), JsonTree.OrderedEntries entries →
    JsonTree.depthEntries entries ≤ depth →
    ∀ entry ∈ entries, Reads (field (value numerals depth))
      (layout.newline level) (printEntry numerals layout level) entry
  | [], _, _, _, _, _, member => by cases member
  | (key, tree) :: entries, depth, level, ordered, shallow, entry, member => by
      obtain ⟨own, later⟩ := max_le_iff.mp shallow
      rcases List.mem_cons.mp member with same | member
      · rw [same]
        intro rest follows
        rw [field_entry (layout.blank level), value_space layout.blankColon,
          value_print tree depth level rest ordered.1 own follows]
        rfl
      · exact reads_entries entries depth level ordered.2 later entry member
end

/-! A value that is too deep is not read. -/

mutual
theorem value_deep : ∀ (tree : JsonTree Number) (depth level : Nat)
    (rest : List Char), tree.Ordered → depth < tree.depth → Follows rest →
    value numerals depth (print numerals layout level tree ++ rest) = none
  | .null, _, _, _, _, deep, _ => by cases deep
  | .bool _, _, _, _, _, deep, _ => by cases deep
  | .number _, _, _, _, _, deep, _ => by cases deep
  | .string _, _, _, _, _, deep, _ => by cases deep
  | .array items, 0, level, rest, _, _, _ => by
      obtain ⟨later, starts⟩ : ∃ later,
          print numerals layout level (.array items) ++ rest = '[' :: later := by
        cases items <;> exact ⟨_, rfl⟩
      rw [starts]
      unfold value
      rw [skipSpace_cons rfl]
      rfl
  | .object entries, 0, level, rest, _, _, _ => by
      obtain ⟨later, starts⟩ : ∃ later,
          print numerals layout level (.object entries) ++ rest =
            '\x7b' :: later := by
        cases entries <;> exact ⟨_, rfl⟩
      rw [starts]
      unfold value
      rw [skipSpace_cons rfl]
      rfl
  | .array [], depth + 1, _, _, _, deep, _ => by
      simp [JsonTree.depth, JsonTree.depthItems] at deep
  | .object [], depth + 1, _, _, _, deep, _ => by
      simp [JsonTree.depth, JsonTree.depthEntries] at deep
  | .array (item :: items), depth + 1, level, rest, ordered, deep, _ => by
      obtain ⟨either, one⟩ := fails_items (item :: items) depth (level + 1)
        ordered
      obtain ⟨char, later, starts, solid, other, _⟩ :=
        @print_starts _ numerals layout (level + 1) item
      rw [print_array, value_bracket, members_fails (layout.blank _)
        (follows_behind level rfl rest) starts solid other either
        (one (Nat.lt_of_succ_lt_succ deep))]
      rfl
  | .object (entry :: entries), depth + 1, level, rest, ordered, deep, _ => by
      obtain ⟨either, one⟩ := fails_entries (entry :: entries) depth (level + 1)
        ordered.2
      obtain ⟨later, starts⟩ :=
        @printEntry_starts _ numerals layout (level + 1) entry
      rw [print_object, value_brace, members_fails (layout.blank _)
        (follows_behind level rfl rest) starts rfl (by decide) either
        (one (Nat.lt_of_succ_lt_succ deep))]
      rfl

theorem fails_items : ∀ (items : List (JsonTree Number)) (depth level : Nat),
    JsonTree.OrderedItems items →
    (∀ item ∈ items, Reads (value numerals depth) (layout.newline level)
        (print numerals layout level) item ∨
      Fails (value numerals depth) (layout.newline level)
        (print numerals layout level) item) ∧
    (depth < JsonTree.depthItems items → ∃ item ∈ items,
      Fails (value numerals depth) (layout.newline level)
        (print numerals layout level) item)
  | [], _, _, _ => ⟨fun _ member => (by cases member),
      fun deep => (by cases deep)⟩
  | first :: items, depth, level, ordered => by
      obtain ⟨either, one⟩ := fails_items items depth level ordered.2
      have fails (deep : depth < first.depth) : Fails (value numerals depth)
          (layout.newline level) (print numerals layout level) first := by
        intro rest follows
        rw [value_space (layout.blank level)]
        exact value_deep first depth level rest ordered.1 deep follows
      constructor
      · intro item member
        rcases List.mem_cons.mp member with same | member
        · rw [same]
          by_cases shallow : first.depth ≤ depth
          · refine .inl fun rest follows => ?_
            rw [value_space (layout.blank level)]
            exact value_print first depth level rest ordered.1 shallow follows
          · exact .inr (fails (not_le.mp shallow))
        · exact either item member
      · intro deep
        rcases lt_max_iff.mp deep with own | later
        · exact ⟨first, List.mem_cons_self .., fails own⟩
        · obtain ⟨item, member, failing⟩ := one later
          exact ⟨item, List.mem_cons_of_mem _ member, failing⟩

theorem fails_entries : ∀ (entries : List (String × JsonTree Number))
    (depth level : Nat), JsonTree.OrderedEntries entries →
    (∀ entry ∈ entries, Reads (field (value numerals depth))
        (layout.newline level) (printEntry numerals layout level) entry ∨
      Fails (field (value numerals depth)) (layout.newline level)
        (printEntry numerals layout level) entry) ∧
    (depth < JsonTree.depthEntries entries → ∃ entry ∈ entries,
      Fails (field (value numerals depth)) (layout.newline level)
        (printEntry numerals layout level) entry)
  | [], _, _, _ => ⟨fun _ member => (by cases member),
      fun deep => (by cases deep)⟩
  | (key, tree) :: entries, depth, level, ordered => by
      obtain ⟨either, one⟩ := fails_entries entries depth level ordered.2
      have fails (deep : depth < tree.depth) :
          Fails (field (value numerals depth)) (layout.newline level)
            (printEntry numerals layout level) (key, tree) := by
        intro rest follows
        rw [field_entry (layout.blank level), value_space layout.blankColon,
          value_deep tree depth level rest ordered.1 deep follows]
        rfl
      constructor
      · intro entry member
        rcases List.mem_cons.mp member with same | member
        · rw [same]
          by_cases shallow : tree.depth ≤ depth
          · refine .inl fun rest follows => ?_
            rw [field_entry (layout.blank level), value_space layout.blankColon,
              value_print tree depth level rest ordered.1 shallow follows]
            rfl
          · exact .inr (fails (not_le.mp shallow))
        · exact either entry member
      · intro deep
        rcases lt_max_iff.mp deep with own | later
        · exact ⟨(key, tree), List.mem_cons_self .., fails own⟩
        · obtain ⟨entry, member, failing⟩ := one later
          exact ⟨entry, List.mem_cons_of_mem _ member, failing⟩
end

private theorem depth_field {element : List Char →
      Option (JsonTree Number × List Char)} {depth : Nat}
    (each : ∀ {text rest : List Char} {tree : JsonTree Number},
      element text = some (tree, rest) → tree.depth ≤ depth)
    {text rest : List Char} {entry : String × JsonTree Number}
    (read : field element text = some (entry, rest)) :
    entry.2.depth ≤ depth := by
  rw [field] at read
  split at read
  case h_1 =>
      split at read
      · cases read
      · split at read
        · obtain ⟨⟨tree, _⟩, inside, made⟩ := Option.map_eq_some_iff.mp read
          cases made
          exact each inside
        · cases read
  case h_2 => cases read

/-- What is read is no deeper than it may be. -/
theorem depth_value (depth : Nat) {text rest : List Char}
    {tree : JsonTree Number}
    (read : value numerals depth text = some (tree, rest)) :
    tree.depth ≤ depth := by
  induction depth generalizing text rest tree with
  | zero =>
      unfold value at read
      split at read
      case h_5 => cases read
      case h_6 => cases read
      case h_4 | h_7 =>
          obtain ⟨_, _, made⟩ := Option.map_eq_some_iff.mp read
          cases made
          exact Nat.le_refl _
      all_goals
        cases read
        exact Nat.le_refl _
  | succ depth ih =>
      unfold value at read
      split at read
      case h_5 =>
          obtain ⟨⟨items, _⟩, inside, made⟩ := Option.map_eq_some_iff.mp read
          cases made
          exact Nat.succ_le_succ (JsonTree.depthItems_le_iff.mpr
            (members_all (fun _ _ _ element => ih element) inside))
      case h_6 =>
          obtain ⟨⟨entries, _⟩, inside, made⟩ := Option.map_eq_some_iff.mp read
          cases made
          refine Nat.succ_le_succ (JsonTree.depthEntries_le_iff.mpr
            fun entry member => ?_)
          exact @members_all _ _ _ (fun entry => entry.2.depth ≤ depth)
            (fun _ _ _ element => depth_field ih element) _ _ _ inside entry
            (Entries.mem_of_collect member)
      case h_4 | h_7 =>
          obtain ⟨_, _, made⟩ := Option.map_eq_some_iff.mp read
          cases made
          exact Nat.zero_le _
      all_goals
        cases read
        exact Nat.zero_le _

/-! ### Whole texts -/

theorem parse_print {tree : JsonTree Number} (ordered : tree.Ordered)
    {depth : Nat} (shallow : tree.depth ≤ depth) :
    parse numerals depth (print numerals layout 0 tree) = some tree := by
  have read := @value_print _ numerals layout tree depth 0
    [] ordered shallow follows_nil
  rw [List.append_nil] at read
  rw [parse, read]
  rfl

theorem parse_deep {tree : JsonTree Number} (ordered : tree.Ordered)
    {depth : Nat} (deep : depth < tree.depth) :
    parse numerals depth (print numerals layout 0 tree) = none := by
  have read := @value_deep _ numerals layout tree depth 0
    [] ordered deep follows_nil
  rw [List.append_nil] at read
  rw [parse, read]

theorem depth_parse {depth : Nat} {text : List Char} {tree : JsonTree Number}
    (read : parse numerals depth text = some tree) : tree.depth ≤ depth := by
  rw [parse] at read
  split at read
  · split at read
    · cases read
      exact depth_value depth ‹_›
    · cases read
  · cases read

end Values

end JsonText

end Foundation
