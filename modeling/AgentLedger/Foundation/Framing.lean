import AgentLedger.Foundation.Decimal

namespace Foundation

/-! Encodings that can be told apart when they are written one after the
other. -/

/-- What is written first is determined by the text, and so is the rest. -/
def Unambiguous {α : Type*} (encode : α → List Char) : Prop :=
  ∀ ⦃first second : α⦄ ⦃rest other : List Char⦄,
    encode first ++ rest = encode second ++ other →
    first = second ∧ rest = other

namespace Unambiguous

variable {α : Type*} {encode : α → List Char}

theorem flatten (unambiguous : Unambiguous encode)
    (nonempty : ∀ value, encode value ≠ []) :
    Function.Injective fun values : List α => (values.map encode).flatten := by
  intro first
  induction first with
  | nil =>
      intro second texts
      cases second with
      | nil => rfl
      | cons value rest =>
          have ended := List.append_eq_nil_iff.mp texts.symm
          exact absurd ended.1 (nonempty value)
  | cons value rest ih =>
      intro second texts
      cases second with
      | nil => exact absurd (List.append_eq_nil_iff.mp texts).1 (nonempty value)
      | cons other left =>
          obtain ⟨same, texts⟩ := unambiguous texts
          rw [same, ih texts]

end Unambiguous

/-! ### Separators -/

theorem split_separator {separator : Char} {first second : List Char}
    (free : separator ∉ first) (alike : separator ∉ second)
    {rest other : List Char}
    (texts : first ++ separator :: rest = second ++ separator :: other) :
    first = second ∧ rest = other := by
  induction first generalizing second with
  | nil =>
      cases second with
      | nil => exact ⟨rfl, (List.cons.inj texts).2⟩
      | cons char left =>
          have head := (List.cons.inj texts).1
          exact absurd (head ▸ List.mem_cons_self ..) alike
  | cons char left ih =>
      cases second with
      | nil =>
          have head := (List.cons.inj texts).1
          exact absurd (head ▸ List.mem_cons_self ..) free
      | cons same right =>
          obtain ⟨head, tail⟩ := List.cons.inj texts
          obtain ⟨equal, ends⟩ := ih
            (fun member => free (List.mem_cons_of_mem _ member))
            (fun member => alike (List.mem_cons_of_mem _ member)) tail
          exact ⟨by rw [head, equal], ends⟩

/-! ### Numbers -/

theorem not_mem_repr {separator : Char} (symbol : separator.isDigit = false)
    (number : Nat) : separator ∉ number.repr.toList := by
  intro member
  rw [Decimal.isDigit_of_mem member] at symbol
  cases symbol

theorem repr_injective : Function.Injective fun number : Nat =>
    number.repr.toList := by
  intro first second texts
  have same : first.repr = second.repr := String.toList_injective texts
  have read := Decimal.parseNat_repr first
  rw [same, Decimal.parseNat_repr] at read
  exact (Option.some.inj read).symm

theorem toString_int_injective : Function.Injective fun number : Int =>
    (toString number).toList := by
  intro first second texts
  have same : toString first = toString second := String.toList_injective texts
  have read := Decimal.parseSigned_repr first
  rw [same, Decimal.parseSigned_repr] at read
  exact (Option.some.inj read).symm

theorem not_mem_toString_int {separator : Char}
    (symbol : separator.isDigit = false) (unsigned : separator ≠ '-')
    (number : Int) : separator ∉ (toString number).toList := by
  cases number with
  | ofNat number => exact not_mem_repr symbol number
  | negSucc number =>
      have text : (toString (Int.negSucc number)).toList =
          '-' :: (number + 1).repr.toList := by
        have written : toString (Int.negSucc number) =
            "-" ++ (number + 1).repr := rfl
        rw [written, String.toList_append]
        rfl
      rw [text]
      intro member
      rcases List.mem_cons.mp member with same | member
      · exact unsigned same
      · exact not_mem_repr symbol _ member

/-! ### Fields behind their length -/

/-- The bytes of a field, counted in front of it. -/
def framed (field : String) : List Char :=
  field.utf8ByteSize.repr.toList ++ ':' :: (field.toList ++ [';'])

private theorem eq_of_size {first second : String} {rest other : List Char}
    (size : first.utf8ByteSize = second.utf8ByteSize)
    (texts : first.toList ++ rest = second.toList ++ other) :
    first = second := by
  have shorter {left right : String} {middle : List Char}
      (same : left.utf8ByteSize = right.utf8ByteSize)
      (longer : right.toList = left.toList ++ middle) : left = right := by
    have whole : right = left ++ String.ofList middle := by
      apply String.toList_injective
      rw [String.toList_append, String.toList_ofList]
      exact longer
    have empty : (String.ofList middle).utf8ByteSize = 0 := by
      rw [whole, String.utf8ByteSize_append] at same
      omega
    rw [whole, String.utf8ByteSize_eq_zero_iff.mp empty, String.append_empty]
  rcases List.append_eq_append_iff.mp texts with ⟨middle, longer, _⟩ |
    ⟨middle, longer, _⟩
  · exact shorter size longer
  · exact (shorter size.symm longer).symm

theorem unambiguous_framed : Unambiguous framed := by
  intro first second rest other texts
  simp only [framed, List.append_assoc, List.cons_append] at texts
  obtain ⟨sizes, texts⟩ := split_separator (not_mem_repr rfl _)
    (not_mem_repr rfl _) texts
  have same := eq_of_size (repr_injective sizes) texts
  subst same
  exact ⟨rfl, List.cons.inj (List.append_cancel_left texts) |>.2⟩

end Foundation
