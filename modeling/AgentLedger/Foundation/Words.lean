import Mathlib.Data.List.Infix

namespace Foundation

/-! Texts as words between separators: a rewriting of the words, and the
keywords that it keeps. -/

section Words

variable {Letter : Type} (isWord : Letter → Bool)

/-- The runs of word letters, empty ones too; `word` is what was read of the
first. -/
def words (word : List Letter) : List Letter → List (List Letter)
  | [] => [word]
  | letter :: rest =>
      if isWord letter then words (word ++ [letter]) rest
      else word :: words [] rest

/-- Every word rewritten, with the separators as they are. -/
def rewriteWords (change : List Letter → List Letter) (word : List Letter) :
    List Letter → List Letter
  | [] => change word
  | letter :: rest =>
      if isWord letter then rewriteWords change (word ++ [letter]) rest
      else change word ++ letter :: rewriteWords change [] rest

variable {isWord}

theorem rewriteWords_eq_self {change : List Letter → List Letter}
    {word rest : List Letter}
    (kept : ∀ piece ∈ words isWord word rest, change piece = piece) :
    rewriteWords isWord change word rest = word ++ rest := by
  induction rest generalizing word with
  | nil =>
      rw [List.append_nil]
      exact kept word (List.mem_singleton_self _)
  | cons letter rest ih =>
      simp only [words] at kept
      simp only [rewriteWords]
      split
      · rename_i inside
        rw [if_pos inside] at kept
        rw [ih kept, List.append_assoc]
        rfl
      · rename_i outside
        rw [if_neg outside] at kept
        rw [kept word (List.mem_cons_self ..),
          ih fun piece member => kept piece (List.mem_cons_of_mem _ member)]
        rfl

/-- A rewritten word is part of the rewritten text. -/
theorem infix_rewriteWords {change : List Letter → List Letter}
    {word rest piece : List Letter} (member : piece ∈ words isWord word rest) :
    change piece <:+: rewriteWords isWord change word rest := by
  induction rest generalizing word with
  | nil =>
      rw [List.mem_singleton.mp member]
      exact List.infix_rfl
  | cons letter rest ih =>
      simp only [words] at member
      simp only [rewriteWords]
      split
      · rename_i inside
        rw [if_pos inside] at member
        exact ih member
      · rename_i outside
        rw [if_neg outside] at member
        rcases List.mem_cons.mp member with same | later
        · rw [same]
          exact (List.prefix_append _ _).isInfix
        · exact ((ih later).trans (List.suffix_cons _ _).isInfix).trans
            (List.suffix_append _ _).isInfix

theorem rewriteWords_eq_nil {change : List Letter → List Letter}
    (kept : ∀ piece, change piece = [] → piece = [])
    {word rest : List Letter}
    (none : rewriteWords isWord change word rest = []) : word ++ rest = [] := by
  induction rest generalizing word with
  | nil =>
      rw [List.append_nil]
      exact kept word none
  | cons letter rest ih =>
      simp only [rewriteWords] at none
      split at none
      · simpa using ih none
      · simp at none

/-! ### Keywords -/

/-- A keyword without the separator lies on one side of it. -/
theorem infix_append_cons_iff {keyword before after : List Letter}
    {separator : Letter} (free : separator ∉ keyword) :
    keyword <:+: before ++ separator :: after ↔
      keyword <:+: before ∨ keyword <:+: after := by
  constructor
  · rintro ⟨start, finish, same⟩
    rw [List.append_assoc, List.append_eq_append_iff] at same
    rcases same with ⟨later, rfl, tail⟩ | ⟨earlier, rfl, tail⟩
    · rw [List.append_eq_append_iff] at tail
      rcases tail with ⟨rest, inside, _⟩ | ⟨rest, own, tail⟩
      · left
        rw [inside]
        exact ⟨start, rest, by simp⟩
      · cases rest with
        | nil =>
            left
            rw [List.append_nil] at own
            exact ⟨start, [], by simp [own]⟩
        | cons letter rest =>
            injection tail with first _
            rw [own] at free
            exact absurd (by simp [first]) free
    · cases earlier with
      | nil =>
          cases keyword with
          | nil => exact .inl ⟨[], before, rfl⟩
          | cons letter keyword =>
              injection tail with first _
              exact absurd (by simp [first]) free
      | cons letter earlier =>
          injection tail with _ inside
          right
          exact ⟨earlier, finish, by simp [inside]⟩
  · rintro (left | right)
    · exact left.trans (List.prefix_append _ _).isInfix
    · exact (right.trans (List.suffix_cons _ _).isInfix).trans
        (List.suffix_append _ _).isInfix

theorem infix_intercalate_iff {keyword : List Letter} {separator : Letter}
    (free : separator ∉ keyword) (given : keyword ≠ [])
    {texts : List (List Letter)} :
    keyword <:+: [separator].intercalate texts ↔
      ∃ text ∈ texts, keyword <:+: text := by
  induction texts with
  | nil => simpa [List.intercalate] using given
  | cons text rest ih =>
      cases rest with
      | nil => simp [List.intercalate]
      | cons second rest =>
          have joined : [separator].intercalate (text :: second :: rest) =
              text ++ separator :: [separator].intercalate (second :: rest) := by
            simp [List.intercalate]
          rw [joined, infix_append_cons_iff free, ih]
          simp

variable {Seen : Type} (see : Letter → Seen)

/-- A keyword that no separator is seen in is found in a rewritten text exactly
if it is found in a rewritten word. -/
theorem infix_map_rewriteWords_iff {change : List Letter → List Letter}
    {keyword : List Seen}
    (free : ∀ letter, isWord letter = false → see letter ∉ keyword)
    {word rest : List Letter} :
    keyword <:+: (rewriteWords isWord change word rest).map see ↔
      ∃ piece ∈ words isWord word rest, keyword <:+: (change piece).map see := by
  induction rest generalizing word with
  | nil => simp [rewriteWords, words]
  | cons letter rest ih =>
      simp only [rewriteWords, words]
      split
      · exact ih
      · rename_i outside
        rw [List.map_append, List.map_cons,
          infix_append_cons_iff (free letter (Bool.eq_false_iff.mpr outside)),
          ih]
        simp

/-- A rewriting that keeps the keyword in every word keeps it in the text. -/
theorem infix_map_rewriteWords_congr {change : List Letter → List Letter}
    {keyword : List Seen}
    (free : ∀ letter, isWord letter = false → see letter ∉ keyword)
    {word rest : List Letter}
    (kept : ∀ piece ∈ words isWord word rest,
      keyword <:+: (change piece).map see ↔ keyword <:+: piece.map see) :
    keyword <:+: (rewriteWords isWord change word rest).map see ↔
      keyword <:+: (word ++ rest).map see := by
  have same : rewriteWords isWord id word rest = word ++ rest :=
    rewriteWords_eq_self fun _ _ => rfl
  rw [← same, infix_map_rewriteWords_iff see free,
    infix_map_rewriteWords_iff see free]
  constructor
  · rintro ⟨piece, member, found⟩
    exact ⟨piece, member, (kept piece member).mp found⟩
  · rintro ⟨piece, member, found⟩
    exact ⟨piece, member, (kept piece member).mpr found⟩

end Words

end Foundation
