import AgentLedger.Foundation.Trimming
import Mathlib.Data.Bool.AllAny
import Mathlib.Data.Char

namespace AgentLedger

open Foundation

/-! `KubernetesSandboxExecutor`: names of objects and values of labels, made
from any text. -/

/-- What Python's character database says of a character.  Of the ASCII ones it
is all known. -/
structure Unicode where
  /-- `str.isalnum` of one character. -/
  isalnum : Char → Bool
  /-- `str.lower` of one character. -/
  lower : Char → List Char
  isalnum_ascii : ∀ letter : Char, letter.toNat < 128 →
    isalnum letter = letter.isAlphanum
  lower_ascii : ∀ letter : Char, letter.toNat < 128 →
    lower letter = [letter.toLower]
  lower_ne_nil : ∀ letter, isalnum letter = true → lower letter ≠ []
  lower_plain : ∀ letter, isalnum letter = true → '-' ∉ lower letter

namespace KubernetesSandboxExecutor

variable (unicode : Unicode)

/-- `ch.lower() if ch.isalnum() else "-"` of every character. -/
def dnsLetters (value : List Char) : List Char :=
  value.flatMap fun letter =>
    if unicode.isalnum letter then unicode.lower letter else ['-']

/-- `"-".join(part for part in safe.split("-") if part)`. -/
def joinParts (safe : List Char) : List Char :=
  ['-'].intercalate ((safe.splitOn '-').filter fun part => !part.isEmpty)

/-- `text or default`. -/
def orElse (default text : List Char) : List Char :=
  if text.isEmpty then default else text

def dnsPart (value : List Char) : List Char :=
  orElse ['t', 'o', 'o', 'l'] (trim (fun letter => letter == '-')
    ((orElse ['t', 'o', 'o', 'l']
      (joinParts (dnsLetters unicode value))).take 40))

def isJoint (letter : Char) : Bool :=
  letter == '-' || letter == '_' || letter == '.'

def labelLetters (value : List Char) : List Char :=
  value.map fun letter =>
    if unicode.isalnum letter || isJoint letter then letter else '-'

def labelValue (value : List Char) : List Char :=
  orElse ['v', 'a', 'l', 'u', 'e'] (trim isJoint
    ((orElse ['v', 'a', 'l', 'u', 'e']
      (trim isJoint (labelLetters unicode value))).take 63))

/-! ### The names that Kubernetes takes -/

/-- `[a-z0-9]`. -/
def isDnsLetter (letter : Char) : Bool := letter.isLower || letter.isDigit

/-- At most 40 characters, `[a-z0-9]([-a-z0-9]*[a-z0-9])?`. -/
def IsDnsPart (text : List Char) : Prop :=
  text ≠ [] ∧ text.length ≤ 40 ∧
    Anchored (fun letter => isDnsLetter letter = true)
      (fun letter => (letter == '-') = true) text

/-- At most 63 characters, `[A-Za-z0-9]([-A-Za-z0-9_.]*[A-Za-z0-9])?`. -/
def IsLabelValue (text : List Char) : Prop :=
  text ≠ [] ∧ text.length ≤ 63 ∧
    Anchored (fun letter => letter.isAlphanum = true)
      (fun letter => isJoint letter = true) text

/-- Where the letter behind these lands: behind what they lower to, and a hyphen
for every word that has ended. -/
def landing (inWord : Bool) : List Char → Nat
  | [] => 0
  | letter :: rest =>
      if unicode.isalnum letter then
        (unicode.lower letter).length + landing true rest
      else (if inWord then 1 else 0) + landing false rest

/-- The letters that land among the first 40 lower to ASCII. -/
def LowersToAscii (value : List Char) : Prop :=
  ∀ before letter after, value = before ++ letter :: after →
    unicode.isalnum letter = true →
    ∀ lowered ∈ (unicode.lower letter).take
        (40 - landing unicode false before),
      isDnsLetter lowered = true

/-- Of the 63 characters from the first letter on, the letters are ASCII. -/
def StartsAscii (value : List Char) : Prop :=
  ∀ letter ∈ (value.dropWhile fun letter => !unicode.isalnum letter).take 63,
    unicode.isalnum letter = true → letter.toNat < 128

/-! ### The parts as one text -/

/-- A hyphen in front of a further word. -/
def separated : List Char → List Char
  | [] => []
  | letter :: rest => '-' :: letter :: rest

/-- The words of a value, lowered and joined. -/
def joined (inWord : Bool) : List Char → List Char
  | [] => []
  | letter :: rest =>
      if unicode.isalnum letter then unicode.lower letter ++ joined true rest
      else if inWord then separated (joined false rest)
      else joined false rest

section Joined

variable {unicode}

private theorem joinParts_nil : joinParts [] = [] := rfl

private theorem joinParts_word {word : List Char} (plain : '-' ∉ word) :
    joinParts word = word := by
  rw [joinParts, List.splitOn_eq_singleton plain]
  cases word with
  | nil => rfl
  | cons first rest => simp

private theorem joinParts_hyphen (text : List Char) :
    joinParts ('-' :: text) = joinParts text := by
  have split := List.splitOn_append_cons_self_of_not_mem
    (List.not_mem_nil (a := '-')) text
  rw [List.nil_append] at split
  rw [joinParts, split]
  rfl

private theorem joinParts_cons {word : List Char} (plain : '-' ∉ word)
    (present : word ≠ []) (text : List Char) :
    joinParts (word ++ '-' :: text) = word ++ separated (joinParts text) := by
  rw [joinParts, List.splitOn_append_cons_self_of_not_mem plain,
    List.filter_cons_of_pos (by simpa using present), joinParts]
  cases found : (text.splitOn '-').filter fun part => !part.isEmpty with
  | nil => simp [separated]
  | cons first rest =>
      have own : first ≠ [] := by
        have member : first ∈ (text.splitOn '-').filter fun part =>
            !part.isEmpty := by
          rw [found]
          exact List.mem_cons_self
        simpa using (List.mem_filter.mp member).2
      obtain ⟨letter, more, rfl⟩ := List.exists_cons_of_ne_nil own
      rw [List.intercalate_cons_cons, List.intercalate_cons_cons_left]
      simp [separated]

theorem joinParts_letters {word : List Char} (plain : '-' ∉ word)
    (value : List Char) :
    joinParts (word ++ dnsLetters unicode value) =
      word ++ joined unicode (!word.isEmpty) value := by
  induction value generalizing word with
  | nil =>
      rw [dnsLetters, List.flatMap_nil, List.append_nil, joinParts_word plain,
        joined, List.append_nil]
  | cons letter rest ih =>
      simp only [dnsLetters, List.flatMap_cons, joined] at ih ⊢
      cases found : unicode.isalnum letter with
      | true =>
          simp only [if_true]
          have lowered := unicode.lower_ne_nil letter found
          have both : '-' ∉ word ++ unicode.lower letter := by
            rw [List.mem_append, not_or]
            exact ⟨plain, unicode.lower_plain letter found⟩
          have opened : (!(word ++ unicode.lower letter).isEmpty) = true := by
            simp [lowered]
          rw [← List.append_assoc, ih both, List.append_assoc, opened]
      | false =>
          have later := @ih [] (by simp)
          rw [List.nil_append, List.nil_append] at later
          simp only [Bool.false_eq_true, if_false, List.singleton_append]
          cases word with
          | nil =>
              rw [List.nil_append, joinParts_hyphen, later]
              rfl
          | cons first more =>
              rw [joinParts_cons plain (List.cons_ne_nil _ _), later]
              rfl

theorem joinParts_dnsLetters (value : List Char) :
    joinParts (dnsLetters unicode value) = joined unicode false value :=
  @joinParts_letters unicode [] (by simp) value

theorem startsKept_joined {value : List Char}
    (present : joined unicode false value ≠ []) :
    StartsKept (fun letter => letter == '-') (joined unicode false value) := by
  induction value with
  | nil => exact absurd rfl present
  | cons letter rest ih =>
      simp only [joined] at present ⊢
      cases found : unicode.isalnum letter with
      | true =>
          obtain ⟨first, more, lowered⟩ :=
            List.exists_cons_of_ne_nil (unicode.lower_ne_nil letter found)
          have plain := unicode.lower_plain letter found
          rw [lowered, List.mem_cons, not_or] at plain
          refine ⟨first, more ++ joined unicode true rest, ?_, ?_⟩
          · simp [lowered]
          · simpa using Ne.symm plain.1
      | false =>
          simp only [found, Bool.false_eq_true, if_false] at present ⊢
          exact ih present

private theorem forall_splits_cons {Letter : Type} {first : Letter}
    {rest : List Letter} {holds : List Letter → Letter → Prop} :
    (∀ before letter after, first :: rest = before ++ letter :: after →
        holds before letter) ↔
      holds [] first ∧ ∀ before letter after,
        rest = before ++ letter :: after → holds (first :: before) letter := by
  constructor
  · intro all
    refine ⟨all [] first rest rfl, ?_⟩
    intro before letter after same
    exact all (first :: before) letter after (by rw [same]; rfl)
  · rintro ⟨here, later⟩ before letter after same
    cases before with
    | nil =>
        cases same
        exact here
    | cons other before =>
        obtain ⟨head, tail⟩ := List.cons.inj same
        subst head
        exact later before letter after tail

private theorem forall_take_separated {good : Char → Prop} (room : Nat)
    (text : List Char) :
    (∀ letter ∈ (separated text).take room,
        (letter == '-') = false → good letter) ↔
      ∀ letter ∈ text.take (room - 1),
        (letter == '-') = false → good letter := by
  cases text with
  | nil => simp [separated]
  | cons first rest =>
      cases room with
      | zero => simp
      | succ room => simp [separated]

/-- What holds of the letters of a text up to a length, by the letters of the
value that land there. -/
theorem forall_take_joined_iff {good : Char → Prop} (inWord : Bool)
    (room : Nat) (value : List Char) :
    (∀ letter ∈ (joined unicode inWord value).take room,
        (letter == '-') = false → good letter) ↔
      ∀ before letter after, value = before ++ letter :: after →
        unicode.isalnum letter = true →
        ∀ lowered ∈ (unicode.lower letter).take
            (room - landing unicode inWord before), good lowered := by
  induction value generalizing inWord room with
  | nil => simp [joined]
  | cons letter rest ih =>
      rw [forall_splits_cons]
      cases found : unicode.isalnum letter with
      | true =>
          have plain : ∀ lowered ∈ (unicode.lower letter).take room,
              (lowered == '-') = false := by
            intro lowered member
            have inside := List.mem_of_mem_take member
            simpa using fun same : lowered = '-' =>
              unicode.lower_plain letter found (same ▸ inside)
          simp only [joined, landing, found, if_true, List.take_append,
            List.forall_mem_append, Nat.sub_zero, Nat.sub_add_eq, ih,
            forall_const]
          refine and_congr_left fun _ => ?_
          exact forall₂_congr fun lowered member =>
            imp_iff_right (plain lowered member)
      | false =>
          simp only [joined, landing, found, Bool.false_eq_true, if_false,
            false_imp_iff, true_and]
          cases inWord with
          | false => simp only [Bool.false_eq_true, if_false, Nat.zero_add, ih]
          | true =>
              simp only [if_true, forall_take_separated, ih, Nat.sub_add_eq]

end Joined

/-! ### The names that are made -/

section Made

variable {unicode}

private theorem startsKept_orElse {goes : Char → Bool} {default text : List Char}
    (given : StartsKept goes default)
    (starts : text ≠ [] → StartsKept goes text) :
    StartsKept goes (orElse default text) := by
  cases text with
  | nil => exact given
  | cons first rest => exact starts (List.cons_ne_nil _ _)

private theorem startsKept_take {goes : Char → Bool} {text : List Char}
    (starts : StartsKept goes text) (bound : Nat) :
    StartsKept goes (text.take (bound + 1)) := by
  obtain ⟨first, rest, rfl, kept⟩ := starts
  exact ⟨first, rest.take bound, rfl, kept⟩

private theorem orElse_of_ne_nil {default text : List Char}
    (present : text ≠ []) : orElse default text = text := by
  rw [orElse, if_neg (by simpa using present)]

private theorem ne_nil_of_startsKept {goes : Char → Bool} {text : List Char}
    (starts : StartsKept goes text) : text ≠ [] := by
  obtain ⟨first, rest, rfl, _⟩ := starts
  exact List.cons_ne_nil _ _

/-- A text that is cut and cleared at its ends: it is never empty, and the
default never stands in for it. -/
private theorem made {goes : Char → Bool} {edge : Char → Prop} {bound : Nat}
    {default text : List Char} (starts : StartsKept goes text) :
    orElse default (trim goes (text.take (bound + 1))) ≠ [] ∧
      (orElse default (trim goes (text.take (bound + 1)))).length ≤
        bound + 1 ∧
      (Anchored edge (fun letter => goes letter = true)
          (orElse default (trim goes (text.take (bound + 1)))) ↔
        ∀ letter ∈ text.take (bound + 1),
          goes letter = false → edge letter) := by
  have cut := startsKept_take starts bound
  have present := ne_nil_of_startsKept cut.trim
  rw [orElse_of_ne_nil present]
  refine ⟨present, ?_, anchored_trim_iff cut⟩
  exact le_trans length_trim_le (List.length_take_le _ _)

theorem isDnsPart_iff (value : List Char) :
    IsDnsPart (dnsPart unicode value) ↔ LowersToAscii unicode value := by
  have given : StartsKept (fun letter => letter == '-')
      ['t', 'o', 'o', 'l'] := ⟨'t', ['o', 'o', 'l'], rfl, rfl⟩
  have starts := startsKept_orElse given
    (@startsKept_joined unicode value)
  obtain ⟨present, short, anchored⟩ := @made (fun letter => letter == '-')
    (fun letter => isDnsLetter letter = true) 39 ['t', 'o', 'o', 'l'] _ starts
  rw [IsDnsPart, dnsPart, joinParts_dnsLetters, LowersToAscii,
    and_iff_right present, and_iff_right short, anchored,
    ← forall_take_joined_iff]
  cases empty : joined unicode false value with
  | nil =>
      refine iff_of_true ?_ (by simp)
      intro letter member _
      revert letter
      rw [← List.all_iff_forall_prop]
      decide
  | cons first rest => rfl

private theorem isJoint_false (letter : Char)
    (found : unicode.isalnum letter = true) : isJoint letter = false := by
  have differs (joint : Char) (small : joint.toNat < 128)
      (other : joint.isAlphanum = false) : letter ≠ joint := by
    rintro rfl
    rw [unicode.isalnum_ascii letter small, other] at found
    cases found
  simp [isJoint, differs '-' (by decide) (by decide),
    differs '_' (by decide) (by decide), differs '.' (by decide) (by decide)]

private theorem isJoint_labelLetter (letter : Char) :
    isJoint (if unicode.isalnum letter || isJoint letter then letter
      else '-') = !unicode.isalnum letter := by
  cases found : unicode.isalnum letter with
  | true => simp [isJoint_false letter found]
  | false =>
      cases joint : isJoint letter with
      | true => simp [joint]
      | false => rfl

private theorem isAlphanum_iff {letter : Char}
    (found : unicode.isalnum letter = true) :
    letter.isAlphanum = true ↔ letter.toNat < 128 := by
  constructor
  · intro ascii
    change (decide (letter.val ≥ 'A'.val ∧ letter.val ≤ 'Z'.val) ||
      (letter.val ≥ 'a'.val && letter.val ≤ 'z'.val) ||
      (letter.val ≥ '0'.val && letter.val ≤ '9'.val)) = true at ascii
    simp only [Bool.or_eq_true, Bool.and_eq_true, decide_eq_true_eq,
      ge_iff_le, UInt32.le_iff_toNat_le] at ascii
    rw [Char.toNat]
    rcases ascii with (⟨_, small⟩ | ⟨_, small⟩) | ⟨_, small⟩
    · exact lt_of_le_of_lt small (by decide)
    · exact lt_of_le_of_lt small (by decide)
    · exact lt_of_le_of_lt small (by decide)
  · intro small
    rw [← unicode.isalnum_ascii letter small, found]

theorem isLabelValue_iff (value : List Char) :
    IsLabelValue (labelValue unicode value) ↔ StartsAscii unicode value := by
  have given : StartsKept isJoint ['v', 'a', 'l', 'u', 'e'] :=
    ⟨'v', ['a', 'l', 'u', 'e'], rfl, rfl⟩
  have starts := startsKept_orElse given
    (@startsKept_trim _ isJoint (labelLetters unicode value))
  obtain ⟨present, short, anchored⟩ := @made isJoint
    (fun letter => letter.isAlphanum = true) 62 ['v', 'a', 'l', 'u', 'e'] _
    starts
  have kept : (∀ letter ∈ (trim isJoint (labelLetters unicode value)).take 63,
        isJoint letter = false → letter.isAlphanum = true) ↔
      StartsAscii unicode value := by
    rw [forall_take_trim_iff, labelLetters, List.dropWhile_map, ← List.map_take,
      List.forall_mem_map, StartsAscii]
    have same : isJoint ∘ (fun letter =>
        if unicode.isalnum letter || isJoint letter then letter else '-') =
          fun letter => !unicode.isalnum letter :=
      funext isJoint_labelLetter
    rw [same]
    refine forall₂_congr fun letter _ => ?_
    rw [isJoint_labelLetter, Bool.not_eq_false']
    refine imp_congr_right fun found => ?_
    rw [found, Bool.true_or, if_pos rfl, isAlphanum_iff found]
  rw [IsLabelValue, labelValue, and_iff_right present, and_iff_right short,
    anchored, ← kept]
  cases empty : trim isJoint (labelLetters unicode value) with
  | nil =>
      refine iff_of_true ?_ (by simp)
      intro letter member _
      revert letter
      rw [← List.all_iff_forall_prop]
      decide
  | cons first rest => rfl

end Made

/-- The names are well formed exactly if what is kept of the text becomes
ASCII. -/
theorem names_valid_iff (unicode : Unicode) (value : List Char) :
    (IsDnsPart (dnsPart unicode value) ↔ LowersToAscii unicode value) ∧
      (IsLabelValue (labelValue unicode value) ↔ StartsAscii unicode value) :=
  ⟨isDnsPart_iff value, isLabelValue_iff value⟩

private theorem toLower_ne_hyphen {letter : Char} (small : letter.toNat < 128)
    (found : letter.isAlphanum = true) : letter.toLower ≠ '-' := by
  have all : ∀ code < 128, (Char.ofNat code).isAlphanum = true →
      (Char.ofNat code).toLower ≠ '-' := by decide
  have own := all letter.toNat small
  rw [Char.ofNat_toNat] at own
  exact own found

/-- The characters of ASCII, and one more letter. -/
def oneAccent : Unicode where
  isalnum letter :=
    if letter.toNat < 128 then letter.isAlphanum else letter == 'é'
  lower letter := if letter.toNat < 128 then [letter.toLower] else [letter]
  isalnum_ascii _ small := if_pos small
  lower_ascii _ small := if_pos small
  lower_ne_nil := by
    intro letter _
    split <;> exact List.cons_ne_nil _ _
  lower_plain := by
    intro letter found
    split
    · rename_i small
      rw [if_pos small] at found
      rw [List.mem_singleton]
      exact (toLower_ne_hyphen small found).symm
    · rename_i large
      rw [if_neg large] at found
      rw [List.mem_singleton, eq_of_beq found]
      decide

/-- A tool named `é`. -/
theorem accent_kept :
    dnsPart oneAccent ['é'] = ['é'] ∧
      ¬ IsDnsPart (dnsPart oneAccent ['é']) ∧
      labelValue oneAccent ['é'] = ['é'] ∧
      ¬ IsLabelValue (labelValue oneAccent ['é']) := by
  refine ⟨by decide, ?_, by decide, ?_⟩
  · rw [isDnsPart_iff]
    intro lowers
    have ascii := lowers [] 'é' [] rfl (by decide) 'é' (by decide)
    revert ascii
    decide
  · rw [isLabelValue_iff]
    intro starts
    have ascii := starts 'é' (by decide) (by decide)
    revert ascii
    decide

end KubernetesSandboxExecutor

end AgentLedger
