import Mathlib.Data.List.TakeWhile

namespace Foundation

/-! Regular expressions that are sequences of texts and of classes repeated at
least once, matched the way a backtracking engine matches them. -/

namespace Pattern

inductive Piece
  | text (letters : List Char)
  /-- `[...]+`. -/
  | run (among : Char → Bool)

/-- The result of the first attempt that succeeds, from the longest length down
to one. -/
def longest {Found : Type} (attempt : Nat → Option Found) :
    Nat → Option Found
  | 0 => none
  | length + 1 => (attempt (length + 1)).or (longest attempt length)

/-- What each piece matched, and what is left. -/
def matched : List Piece → List Char → Option (List (List Char) × List Char)
  | [], text => some ([], text)
  | .text letters :: pieces, text =>
      if letters.isPrefixOf text then
        (matched pieces (text.drop letters.length)).map fun found =>
          (letters :: found.1, found.2)
      else none
  | .run among :: pieces, text =>
      longest (fun length =>
          (matched pieces (text.drop length)).map fun found =>
            (text.take length :: found.1, found.2))
        (text.takeWhile among).length

/-- `re.sub` within the fuel, for a pattern that matches no empty text. -/
def subWithin (pieces : List Piece)
    (replace : List (List Char) → List Char) : Nat → List Char → List Char
  | 0, text => text
  | fuel + 1, text =>
      match matched pieces text with
      | some (found, rest) =>
          replace found ++ subWithin pieces replace fuel rest
      | none =>
          match text with
          | [] => []
          | letter :: rest => letter :: subWithin pieces replace fuel rest

def sub (pieces : List Piece) (replace : List (List Char) → List Char)
    (text : List Char) : List Char :=
  subWithin pieces replace text.length text

/-! ### One match -/

theorem longest_eq_none {Found : Type} {attempt : Nat → Option Found}
    {bound : Nat}
    (fails : ∀ length, 0 < length → length ≤ bound → attempt length = none) :
    longest attempt bound = none := by
  induction bound with
  | zero => rfl
  | succ length ih =>
      rw [longest, fails (length + 1) (by omega) le_rfl, Option.none_or]
      exact ih fun shorter positive within => fails shorter positive (by omega)

theorem matched_text (letters : List Char) (pieces : List Piece)
    (rest : List Char) :
    matched (.text letters :: pieces) (letters ++ rest) =
      (matched pieces rest).map fun found => (letters :: found.1, found.2) := by
  have starts : letters.isPrefixOf (letters ++ rest) = true := by simp
  rw [matched, if_pos starts, List.drop_left]

theorem matched_text_ne {letter other : Char} (different : letter ≠ other)
    (letters : List Char) (pieces : List Piece) (rest : List Char) :
    matched (.text (letter :: letters) :: pieces) (other :: rest) = none := by
  rw [matched, if_neg]
  simp [different]

theorem matched_text_nil (letter : Char) (letters : List Char)
    (pieces : List Piece) :
    matched (.text (letter :: letters) :: pieces) [] = none := by
  rw [matched, if_neg]
  simp

section Runs

variable {among : Char → Bool} {letter : Char} {letters : List Char}
  {pieces : List Piece} {body rest : List Char}

/-- A run in front of a letter that is not of its class ends where the class
ends: a shorter one is followed by a letter of the class. -/
theorem matched_run (outside : among letter = false)
    (inside : ∀ other ∈ body, among other = true) (nonempty : body ≠ [])
    (ends : ∀ other later, rest = other :: later → among other = false) :
    matched (.run among :: .text (letter :: letters) :: pieces)
        (body ++ rest) =
      (matched (.text (letter :: letters) :: pieces) rest).map fun found =>
        (body :: found.1, found.2) := by
  have whole : (body ++ rest).takeWhile among = body := by
    rw [List.takeWhile_append_of_pos inside]
    cases rest with
    | nil => simp
    | cons other later => simp [ends other later rfl]
  obtain ⟨length, size⟩ : ∃ length, body.length = length + 1 :=
    ⟨body.length - 1, by
      have := List.length_pos_iff.mpr nonempty
      omega⟩
  have shorter : longest (fun length =>
      (matched (.text (letter :: letters) :: pieces)
          ((body ++ rest).drop length)).map fun found =>
        ((body ++ rest).take length :: found.1, found.2)) length = none := by
    apply longest_eq_none
    intro cut _ within
    have among_next : cut < body.length := by omega
    rw [List.drop_append_of_le_length (by omega),
      List.drop_eq_getElem_cons among_next, List.cons_append,
      matched_text_ne, Option.map_none]
    intro same
    have member := inside _ (List.getElem_mem among_next)
    rw [← same, outside] at member
    cases member
  have unfolded : matched (.run among :: .text (letter :: letters) :: pieces)
      (body ++ rest) = longest (fun length =>
        (matched (.text (letter :: letters) :: pieces)
            ((body ++ rest).drop length)).map fun found =>
          ((body ++ rest).take length :: found.1, found.2))
        ((body ++ rest).takeWhile among).length := rfl
  rw [unfolded, whole, size, longest, shorter, Option.or_none, ← size,
    List.drop_left, List.take_left]

theorem matched_run_outside (pieces : List Piece)
    (ends : ∀ other later, rest = other :: later → among other = false) :
    matched (.run among :: pieces) rest = none := by
  have empty : rest.takeWhile among = [] := by
    cases rest with
    | nil => rfl
    | cons other later => simp [ends other later rfl]
  rw [matched, empty]
  rfl

end Runs

theorem length_matched {pieces : List Piece} {text rest : List Char}
    {found : List (List Char)}
    (matches_ : matched pieces text = some (found, rest)) :
    found.flatten.length + rest.length = text.length := by
  induction pieces generalizing text found with
  | nil =>
      cases matches_
      simp
  | cons piece pieces ih =>
      cases piece with
      | text letters =>
          rw [matched] at matches_
          split at matches_
          · rename_i starts
            obtain ⟨⟨inner, later⟩, found, same⟩ :=
              Option.map_eq_some_iff.mp matches_
            cases same
            have sizes := ih found
            have within := (List.isPrefixOf_iff_prefix.mp starts).length_le
            simp only [List.flatten_cons, List.length_append,
              List.length_drop] at sizes ⊢
            omega
          · cases matches_
      | run among =>
          rw [matched] at matches_
          generalize bounded : (text.takeWhile among).length = bound
            at matches_
          have within : bound ≤ text.length := by
            rw [← bounded]
            exact (List.takeWhile_prefix among).length_le
          clear bounded
          induction bound with
          | zero => cases matches_
          | succ length shorter =>
              rw [longest] at matches_
              rcases Option.or_eq_some_iff.mp matches_ with here | ⟨_, later⟩
              · obtain ⟨⟨inner, behind⟩, found, same⟩ :=
                  Option.map_eq_some_iff.mp here
                cases same
                have sizes := ih found
                simp only [List.flatten_cons, List.length_append,
                  List.length_drop, List.length_take] at sizes ⊢
                omega
              · exact shorter later (by omega)

/-! ### All matches -/

section Sub

variable {letter : Char} {letters : List Char} {pieces : List Piece}
  {replace : List (List Char) → List Char}

private theorem flatten_pos {text rest : List Char}
    {found : List (List Char)}
    (attempt : matched (.text (letter :: letters) :: pieces) text =
      some (found, rest)) : 0 < found.flatten.length := by
  rw [matched] at attempt
  split at attempt
  · obtain ⟨_, _, same⟩ := Option.map_eq_some_iff.mp attempt
    cases same
    simp
  · cases attempt

private theorem subWithin_eq {fuel : Nat} {text : List Char}
    (enough : text.length ≤ fuel) :
    subWithin (.text (letter :: letters) :: pieces) replace fuel text =
      sub (.text (letter :: letters) :: pieces) replace text := by
  rw [sub]
  induction fuel using Nat.strong_induction_on generalizing text with
  | _ fuel ih =>
      cases fuel with
      | zero =>
          have none_left : text = [] := List.eq_nil_of_length_eq_zero (by omega)
          rw [none_left]
          rfl
      | succ fuel =>
          cases text with
          | nil => rw [subWithin, matched_text_nil, List.length_nil, subWithin]
          | cons first rest =>
              simp only [List.length_cons] at enough ⊢
              rw [subWithin, subWithin]
              cases attempt : matched (.text (letter :: letters) :: pieces)
                  (first :: rest) with
              | none =>
                  dsimp only
                  rw [ih fuel (by omega) (by omega)]
              | some outcome =>
                  obtain ⟨found, later⟩ := outcome
                  dsimp only
                  have sizes := length_matched attempt
                  have starts := flatten_pos attempt
                  simp only [List.length_cons] at sizes
                  by_cases equal : fuel = rest.length
                  · rw [equal]
                  · rw [ih fuel (by omega) (by omega),
                      ← ih rest.length (by omega) (by omega)]

theorem sub_of_matched {text rest : List Char} {found : List (List Char)}
    (attempt : matched (.text (letter :: letters) :: pieces) text =
      some (found, rest)) :
    sub (.text (letter :: letters) :: pieces) replace text =
      replace found ++
        sub (.text (letter :: letters) :: pieces) replace rest := by
  have sizes := length_matched attempt
  cases text with
  | nil =>
      rw [matched_text_nil] at attempt
      cases attempt
  | cons first later =>
      have starts := flatten_pos attempt
      rw [sub, List.length_cons, subWithin, attempt]
      dsimp only
      rw [List.length_cons] at sizes
      rw [subWithin_eq (by omega)]

theorem sub_of_unmatched {first : Char} {rest : List Char}
    (attempt : matched (.text (letter :: letters) :: pieces)
      (first :: rest) = none) :
    sub (.text (letter :: letters) :: pieces) replace (first :: rest) =
      first :: sub (.text (letter :: letters) :: pieces) replace rest := by
  rw [sub, List.length_cons, subWithin, attempt]
  rfl

/-- What no match starts in is kept. -/
theorem sub_append_of_unmatched {before rest : List Char}
    (unmatched : ∀ first later behind, before = first ++ later :: behind →
      matched (.text (letter :: letters) :: pieces)
        (later :: (behind ++ rest)) = none) :
    sub (.text (letter :: letters) :: pieces) replace (before ++ rest) =
      before ++ sub (.text (letter :: letters) :: pieces) replace rest := by
  induction before with
  | nil => rfl
  | cons first before ih =>
      rw [List.cons_append, sub_of_unmatched (unmatched [] first before rfl),
        ih, List.cons_append]
      intro earlier later behind same
      exact unmatched (first :: earlier) later behind (by rw [same]; rfl)

end Sub

end Pattern

end Foundation
