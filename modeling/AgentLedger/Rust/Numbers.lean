import AgentLedger.Foundation.Rounding
import AgentLedger.Rust.Json

namespace AgentLedger.Rust

open Foundation

/-! Integers as `f64`. -/

namespace F64

/-- The bits of a number that is at least one, below the sign. -/
private theorem bits_of_one_le {value : Rat} (large : 1 ≤ |value|) :
    ∃ exponent digits : Nat,
      (exponent : Int) = Binary64.lastBit value + 1074 ∧
      (digits : Int) = Binary64.roundEven
        (|value| / 2 ^ Binary64.lastBit value) ∧
      2 ^ 52 ≤ digits ∧ digits ≤ 2 ^ 53 ∧ 1022 ≤ exponent ∧
      (2 : Rat) ^ ((exponent : Int) - 1022) ≤ |value| := by
  have positive : 0 < |value| := lt_of_lt_of_le one_pos large
  have unit : (0 : Rat) < 2 ^ Binary64.lastBit value :=
    zpow_pos (by norm_num) _
  have logarithm : 0 ≤ Int.log 2 |value| :=
    (Int.zpow_le_iff_le_log (by norm_num) positive).mp (by simpa using large)
  have last : Binary64.lastBit value = Int.log 2 |value| - 52 := by
    unfold Binary64.lastBit
    omega
  have least : (2 ^ 52 : Int) ≤ Binary64.roundEven
      (|value| / 2 ^ Binary64.lastBit value) := by
    apply Binary64.le_roundEven
    rw [le_div_iff₀ unit, last]
    have below := Int.zpow_log_le_self (b := 2) (by norm_num) positive
    calc ((2 ^ 52 : Int) : Rat) * 2 ^ (Int.log 2 |value| - 52)
        = 2 ^ Int.log 2 |value| := by
          rw [zpow_sub₀ (by norm_num)]
          push_cast
          field_simp
      _ ≤ |value| := by exact_mod_cast below
  have most : Binary64.roundEven
      (|value| / 2 ^ Binary64.lastBit value) ≤ 2 ^ 53 := by
    apply Binary64.roundEven_le
    rw [div_le_iff₀ unit, last]
    have above := Int.lt_zpow_succ_log_self (b := 2) (by norm_num) |value|
    calc |value| ≤ 2 ^ (Int.log 2 |value| + 1) := by exact_mod_cast above.le
      _ = ((2 ^ 53 : Int) : Rat) * 2 ^ (Int.log 2 |value| - 52) := by
          rw [zpow_add₀ (by norm_num), zpow_sub₀ (by norm_num)]
          push_cast
          field_simp
          norm_num
  have size : (2 : Rat) ^ Int.log 2 |value| ≤ |value| := by
    exact_mod_cast Int.zpow_log_le_self (b := 2) (by norm_num) positive
  have fits : ((Binary64.lastBit value + 1074).toNat : Int) =
      Binary64.lastBit value + 1074 := Int.toNat_of_nonneg (by omega)
  refine ⟨(Binary64.lastBit value + 1074).toNat,
    (Binary64.roundEven (|value| / 2 ^ Binary64.lastBit value)).toNat, fits,
    by omega, by omega, by omega, by omega, ?_⟩
  rw [fits, last, show Int.log 2 |value| - 52 + 1074 - 1022 =
    Int.log 2 |value| by omega]
  exact size

/-- The number with this exponent and these digits, below the infinities. -/
private theorem fields_of_bits {sign magnitude exponent digits : Nat}
    (signed : sign = 0 ∨ sign = 1) (least : 2 ^ 52 ≤ digits)
    (most : digits ≤ 2 ^ 53) (positive : 0 < exponent)
    (sum : magnitude = exponent * 2 ^ 52 + digits)
    (below : magnitude < 2047 * 2 ^ 52) {number : F64}
    (bits : number.bits.toNat = sign * 2 ^ 63 + magnitude) :
    number.finite = true ∧
      number.toRat = (if sign = 1 then -1 else 1) *
        (digits * (2 : Rat) ^ ((exponent : Int) - 1074)) := by
  have negative : number.isNegative = decide (sign = 1) := by
    rw [isNegative, bits]
    congr 1
    apply propext
    omega
  have field : number.bits.toNat / 2 ^ 52 % 2 ^ 11 =
      exponent + digits / 2 ^ 52 := by
    rw [bits]
    omega
  have finite : number.finite = true := by
    rw [F64.finite, field, decide_eq_true_eq]
    omega
  refine ⟨finite, ?_⟩
  have size : ((2 : Rat) ^ 52 + (number.bits.toNat % 2 ^ 52 : Nat)) *
      2 ^ (((exponent + digits / 2 ^ 52 : Nat) : Int) - 1075) =
        digits * 2 ^ ((exponent : Int) - 1074) := by
    rcases most.lt_or_eq with less | full
    · have whole : digits / 2 ^ 52 = 1 := by omega
      have rest : 2 ^ 52 + number.bits.toNat % 2 ^ 52 = digits := by
        rw [bits]
        omega
      rw [whole, show ((exponent + 1 : Nat) : Int) - 1075 = exponent - 1074 by
        omega]
      congr 1
      exact_mod_cast rest
    · have rest : number.bits.toNat % 2 ^ 52 = 0 := by
        rw [bits]
        omega
      rw [rest, full, show ((exponent + 2 ^ 53 / 2 ^ 52 : Nat) : Int) - 1075 =
        exponent - 1074 + 1 by omega, zpow_add₀ (by norm_num)]
      push_cast
      ring
  have nonzero : exponent + digits / 2 ^ 52 ≠ 0 := by omega
  unfold toRat
  rw [field, negative]
  dsimp only
  rw [if_neg nonzero, size]
  rcases signed with rfl | rfl
  · simp
  · simp

private theorem toNat_bits {sign magnitude : Nat}
    (signed : sign = 0 ∨ sign = 1) (below : magnitude ≤ 2047 * 2 ^ 52) :
    (BitVec.ofNat 64 (sign * 2 ^ 63 + magnitude)).toNat =
      sign * 2 ^ 63 + magnitude := by
  rw [BitVec.toNat_ofNat]
  apply Nat.mod_eq_of_lt
  omega

/-- A number that is at least one in size is rounded, or is an infinity. -/
theorem ofRat_cases {value : Rat} (large : 1 ≤ |value|) :
    ((ofRat value).finite = true ∧ (ofRat value).toRat =
        (if value < 0 then -1 else 1) * Binary64.rounded |value|) ∨
      (ofRat value).bits.toNat =
          (if value < 0 then 1 else 0) * 2 ^ 63 + 2047 * 2 ^ 52 ∧
        2 ^ 1023 ≤ |value| := by
  obtain ⟨exponent, digits, last, rounds, least, most, positive, size⟩ :=
    bits_of_one_le large
  have nonzero : value ≠ 0 := by
    rintro rfl
    norm_num at large
  generalize sign_eq : (if value < 0 then 1 else 0) = sign
  have signed : sign = 0 ∨ sign = 1 := by
    split at sign_eq <;> omega
  obtain ⟨magnitude, sum⟩ : ∃ magnitude,
      magnitude = exponent * 2 ^ 52 + digits := ⟨_, rfl⟩
  have written : (ofRat value).bits.toNat =
      sign * 2 ^ 63 + min magnitude (2047 * 2 ^ 52) := by
    rw [← toNat_bits signed (min_le_right magnitude _)]
    unfold ofRat
    dsimp only
    rw [if_neg nonzero, ← last, ← rounds, Int.toNat_natCast,
      Int.toNat_natCast, ← sum, ← sign_eq]
    split <;> simp
  by_cases below : magnitude < 2047 * 2 ^ 52
  · left
    rw [min_eq_left below.le] at written
    have fields := fields_of_bits signed least most (by omega) sum below
      written
    refine ⟨fields.1, fields.2.trans ?_⟩
    have unit : Binary64.lastBit |value| = Binary64.lastBit value := by
      rw [Binary64.lastBit, Binary64.lastBit, abs_abs]
    have negative : sign = 1 ↔ value < 0 := by
      rw [← sign_eq]
      by_cases less : value < 0 <;> simp [less]
    rw [Binary64.rounded, unit, ← rounds, last]
    simp [negative]
  · right
    rw [written, min_eq_right (not_lt.mp below)]
    refine ⟨rfl, le_trans ?_ size⟩
    rw [← zpow_natCast]
    apply zpow_le_zpow_right₀ (by norm_num)
    omega

theorem ofRat_zero : ofRat 0 = ⟨0⟩ := by
  unfold ofRat
  exact if_pos rfl

/-- An integer that the format holds is kept. -/
theorem ofRat_intCast {value : Int} (small : |value| ≤ 2 ^ 53) :
    (ofRat value).finite = true ∧ (ofRat value).toRat = value := by
  by_cases zero : value = 0
  · rw [zero, Int.cast_zero, ofRat_zero]
    refine ⟨by decide, ?_⟩
    simp [toRat, isNegative]
  · have bounded : |(value : Rat)| ≤ 2 ^ 53 := by exact_mod_cast small
    have positive : 1 ≤ |value| := Int.one_le_abs zero
    have large : 1 ≤ |(value : Rat)| := by exact_mod_cast positive
    have kept : Binary64.rounded |(value : Rat)| = |(value : Rat)| := by
      apply Binary64.rounded_of_representable (abs_nonneg _)
      rw [← Int.cast_abs]
      exact Binary64.representable_intCast (by rwa [abs_abs])
    rcases ofRat_cases large with ⟨finite, same⟩ | ⟨_, huge⟩
    · refine ⟨finite, same.trans ?_⟩
      rw [kept]
      split
      · rename_i negative
        rw [abs_of_neg negative]
        ring
      · rename_i nonneg
        rw [abs_of_nonneg (not_lt.mp nonneg), one_mul]
    · exact absurd (huge.trans bounded) (not_le.mpr
        (pow_lt_pow_right₀ (by norm_num) (by norm_num)))

theorem not_isNaN {number : F64} (finite : number.finite = true) :
    number.isNaN = false := by
  rw [isNaN, finite]
  rfl

theorem partialCmp_of_finite {first second : F64} (first_finite : first.finite)
    (second_finite : second.finite) : first.partialCmp second =
      some (compare first.toRat second.toRat) := by
  rw [partialCmp, not_isNaN first_finite, not_isNaN second_finite,
    first_finite, second_finite]
  rfl

/-- `number < other` -/
def lt (number other : F64) : Bool :=
  number.partialCmp other = some .lt

theorem lt_iff_of_finite {first second : F64} (first_finite : first.finite)
    (second_finite : second.finite) :
    first.lt second = true ↔ first.toRat < second.toRat := by
  rw [lt, partialCmp_of_finite first_finite second_finite, decide_eq_true_eq,
    Option.some_inj, compare_lt_iff_lt]

private theorem infinite_partialCmp {number other : F64}
    (infinite : number.bits.toNat = 2047 * 2 ^ 52)
    (finite : other.finite = true) :
    number.partialCmp other = some .gt ∧
      other.partialCmp number = some .lt := by
  have same : number = ⟨0x7ff0000000000000⟩ := by
    cases number
    congr 1
    exact BitVec.eq_of_toNat_eq infinite
  have different : other.bits ≠ 0x7ff0000000000000 := by
    intro taken
    rw [F64.finite, taken] at finite
    revert finite
    decide
  subst same
  have first : (⟨0x7ff0000000000000⟩ : F64).isNaN = false := by decide
  have infinite : (⟨0x7ff0000000000000⟩ : F64).finite = false := by decide
  have positive : (⟨0x7ff0000000000000⟩ : F64).isNegative = false := by decide
  constructor
  · rw [partialCmp, first, not_isNaN finite, infinite, finite, positive,
      if_neg (Ne.symm different)]
    rfl
  · rw [partialCmp, first, not_isNaN finite, infinite, finite, positive,
      if_neg different]
    rfl

/-- A count compares with an integer of the format as it should, also where it
is rounded or is too large. -/
theorem ofNat_lt_iff (count : Nat) {number : F64} {value : Int}
    (finite : number.finite = true) (same : number.toRat = value)
    (small : |value| < 2 ^ 53) :
    ((ofNat count).lt number = true ↔ (count : Int) < value) ∧
      (number.lt (ofNat count) = true ↔ value < count) := by
  have cast : ((count : Int) : Rat) = (count : Rat) := Int.cast_natCast count
  by_cases bounded : count ≤ 2 ^ 53
  · have kept := @ofRat_intCast count (by
      rw [Nat.abs_cast]
      exact_mod_cast bounded)
    rw [cast] at kept
    rw [ofNat, lt_iff_of_finite kept.1 finite, lt_iff_of_finite finite kept.1,
      kept.2, same]
    constructor <;> exact_mod_cast Iff.rfl
  · have beyond : value < 2 ^ 53 := (le_abs_self value).trans_lt small
    have above : value < (count : Int) := by omega
    have large : (2 : Rat) ^ 53 ≤ (count : Rat) := by
      exact_mod_cast (not_le.mp bounded).le
    rw [iff_false_right (not_lt.mpr above.le), iff_true_right above]
    have size : |(count : Rat)| = count := abs_of_nonneg (Nat.cast_nonneg _)
    rcases @ofRat_cases count (by rw [size]; linarith) with
      ⟨whole, rounds⟩ | ⟨infinite, _⟩
    · have nonneg : ¬(count : Rat) < 0 := not_lt.mpr (Nat.cast_nonneg _)
      rw [if_neg nonneg, one_mul, size] at rounds
      have least : (2 : Rat) ^ 53 ≤ Binary64.rounded count := by
        apply Binary64.le_rounded (Nat.cast_nonneg _) _ large
        exact ⟨2 ^ 53, 0, by norm_num, by norm_num, by norm_num⟩
      have less : (value : Rat) < 2 ^ 53 := by exact_mod_cast beyond
      rw [ofNat, lt_iff_of_finite whole finite, lt_iff_of_finite finite whole,
        rounds, same]
      exact ⟨not_lt.mpr (less.trans_le least).le, less.trans_le least⟩
    · have nonneg : ¬(count : Rat) < 0 := not_lt.mpr (Nat.cast_nonneg _)
      rw [if_neg nonneg, zero_mul, zero_add] at infinite
      obtain ⟨greater, less⟩ := infinite_partialCmp infinite finite
      rw [lt, lt, ofNat, greater, less]
      decide

end F64

end AgentLedger.Rust
