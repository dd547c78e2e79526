import AgentLedger.Foundation.Binary64
import Mathlib.Tactic.LinearCombination

namespace Foundation

namespace Binary64

/-! What rounding keeps: the order of a number and those of the format, and
half a unit of its last place. -/

/-! ### Integers -/

theorem roundEven_le {value : Rat} {bound : Int} (below : value ≤ bound) :
    roundEven value ≤ bound := by
  have floored : ⌊value⌋ ≤ bound := Int.floor_le_iff.mpr (by linarith)
  -- a value above its floor is below a greater integer
  have stepped (above : (⌊value⌋ : Rat) < value) : ⌊value⌋ + 1 ≤ bound := by
    have less : (⌊value⌋ : Rat) < bound := above.trans_le below
    exact_mod_cast less
  unfold roundEven
  dsimp only
  split_ifs with low high even
  · exact floored
  · exact stepped (by linarith)
  · exact floored
  · exact stepped (by linarith)

theorem le_roundEven {value : Rat} {bound : Int} (above : bound ≤ value) :
    bound ≤ roundEven value := by
  have floored : bound ≤ ⌊value⌋ := Int.le_floor.mpr above
  unfold roundEven
  dsimp only
  split_ifs <;> omega

theorem abs_roundEven_sub_le (value : Rat) :
    |(roundEven value : Rat) - value| ≤ 1 / 2 := by
  have below := Int.floor_le value
  have above := Int.lt_floor_add_one value
  unfold roundEven
  dsimp only
  rw [abs_le]
  split_ifs with low high even
  · constructor <;> linarith
  · push_cast
    constructor <;> linarith
  · constructor <;> linarith
  · push_cast
    constructor <;> linarith

/-! ### Units -/

private theorem unit_pos (value : Rat) : (0 : Rat) < 2 ^ lastBit value :=
  zpow_pos (by norm_num) _

theorem lastBit_le {value : Rat} (nonneg : 0 ≤ value) {size : Int}
    (positive : 0 < size) (below : value < 2 ^ size) :
    lastBit value ≤ size - 53 := by
  have least : (-1074 : Int) ≤ size - 53 := by omega
  rw [lastBit, abs_of_nonneg nonneg]
  apply max_le _ least
  rcases nonneg.eq_or_lt with rfl | nonzero
  · rw [Int.log_zero_right]
    omega
  · have logarithm := (Int.lt_zpow_iff_log_lt (by norm_num : 1 < 2)
      nonzero).mp (by exact_mod_cast below)
    omega

/-- Above the least unit, a value fills the digits. -/
private theorem zpow_le {value : Rat} (nonzero : 0 < value)
    (large : -1074 < lastBit value) : 2 ^ (lastBit value + 52) ≤ value := by
  have least := @Int.zpow_log_le_self Rat _ _ _ _ 2 value (by norm_num) nonzero
  have unit : lastBit value + 52 = Int.log 2 value := by
    rw [lastBit, abs_of_pos nonzero] at large ⊢
    omega
  rw [unit]
  exact_mod_cast least

/-! ### Numbers of the format -/

/-- A number of the format, but for its size. -/
def Representable (value : Rat) : Prop :=
  ∃ digits exponent : Int, |digits| ≤ 2 ^ 53 ∧ -1074 ≤ exponent ∧
    value = digits * 2 ^ exponent

theorem representable_intCast {value : Int} (small : |value| ≤ 2 ^ 53) :
    Representable value :=
  ⟨value, 0, small, by omega, by simp⟩

/-- `nearest`, without the check of the size. -/
def rounded (value : Rat) : Rat :=
  roundEven (value / 2 ^ lastBit value) * 2 ^ lastBit value

theorem nearest_of_lt {value : Rat} (small : |rounded value| < 2 ^ 1024) :
    nearest value = some (rounded value) := by
  unfold nearest
  exact if_pos small

/-- A number of the format is a multiple of the unit of a value, or has less
digits than the value. -/
private theorem Representable.cases {number value : Rat}
    (representable : Representable number) (nonzero : 0 < value) :
    (∃ digits : Int, number = digits * 2 ^ lastBit value) ∨
      number ≤ 2 ^ 52 * 2 ^ lastBit value ∧
        2 ^ 52 * 2 ^ lastBit value ≤ value := by
  obtain ⟨digits, exponent, few, least, rfl⟩ := representable
  have two : (2 : Rat) ≠ 0 := by norm_num
  by_cases fine : lastBit value ≤ exponent
  · refine .inl ⟨digits * 2 ^ (exponent - lastBit value).toNat, ?_⟩
    have split : (2 : Rat) ^ exponent =
        2 ^ (exponent - lastBit value).toNat * 2 ^ lastBit value := by
      rw [← zpow_natCast, ← zpow_add₀ two]
      congr 1
      omega
    rw [split]
    push_cast
    ring
  · refine .inr ⟨?_, ?_⟩
    · have bound : (digits : Rat) ≤ 2 ^ 53 := by
        have own := (le_abs_self digits).trans few
        exact_mod_cast own
      have unit : (2 : Rat) ^ exponent ≤ 2 ^ (lastBit value - 1) :=
        zpow_le_zpow_right₀ (by norm_num) (by omega)
      have half : (2 : Rat) ^ (lastBit value - 1) =
          2 ^ lastBit value / 2 := by
        rw [zpow_sub₀ two, zpow_one]
      have positive : (0 : Rat) < 2 ^ exponent := zpow_pos (by norm_num) _
      calc (digits : Rat) * 2 ^ exponent
          ≤ 2 ^ 53 * 2 ^ exponent :=
            mul_le_mul_of_nonneg_right bound positive.le
        _ ≤ 2 ^ 53 * 2 ^ (lastBit value - 1) :=
            mul_le_mul_of_nonneg_left unit (by norm_num)
        _ = 2 ^ 52 * 2 ^ lastBit value := by
            rw [half]
            ring
    · have filled := zpow_le nonzero (by omega)
      rw [zpow_add₀ two, mul_comm] at filled
      exact_mod_cast filled

theorem rounded_zero : rounded 0 = 0 := by
  have zero : roundEven 0 = 0 := by
    apply le_antisymm
    · exact roundEven_le (by norm_num)
    · exact le_roundEven (by norm_num)
  rw [rounded, zero_div, zero]
  simp

theorem rounded_le {value number : Rat} (nonneg : 0 ≤ value)
    (representable : Representable number) (below : value ≤ number) :
    rounded value ≤ number := by
  rcases nonneg.eq_or_lt with rfl | nonzero
  · rw [rounded_zero]
    exact below
  · have multiple : ∃ digits : Int,
        number = digits * 2 ^ lastBit value := by
      rcases representable.cases nonzero with multiple | ⟨less, filled⟩
      · exact multiple
      · refine ⟨2 ^ 52, ?_⟩
        push_cast
        linarith
    obtain ⟨digits, rfl⟩ := multiple
    have unit := unit_pos value
    have bound : roundEven (value / 2 ^ lastBit value) ≤ digits :=
      roundEven_le ((div_le_iff₀ unit).mpr below)
    rw [rounded]
    apply mul_le_mul_of_nonneg_right _ unit.le
    exact_mod_cast bound

theorem le_rounded {value number : Rat} (nonneg : 0 ≤ value)
    (representable : Representable number) (above : number ≤ value) :
    number ≤ rounded value := by
  rcases nonneg.eq_or_lt with rfl | nonzero
  · rw [rounded_zero]
    exact above
  · have unit := unit_pos value
    have kept (digits : Int) (under : digits * 2 ^ lastBit value ≤ value) :
        digits * 2 ^ lastBit value ≤ rounded value := by
      have bound : digits ≤ roundEven (value / 2 ^ lastBit value) :=
        le_roundEven ((le_div_iff₀ unit).mpr under)
      rw [rounded]
      apply mul_le_mul_of_nonneg_right _ unit.le
      exact_mod_cast bound
    rcases representable.cases nonzero with ⟨digits, rfl⟩ | ⟨less, filled⟩
    · exact kept digits above
    · have full := kept (2 ^ 52) (by push_cast; exact filled)
      push_cast at full
      exact less.trans full

theorem rounded_of_representable {value : Rat} (nonneg : 0 ≤ value)
    (representable : Representable value) : rounded value = value :=
  le_antisymm (rounded_le nonneg representable le_rfl)
    (le_rounded nonneg representable le_rfl)

theorem rounded_nonneg {value : Rat} (nonneg : 0 ≤ value) :
    0 ≤ rounded value :=
  le_rounded nonneg ⟨0, 0, by norm_num, by norm_num, by simp⟩ nonneg

/-- The error is at most half a unit. -/
theorem abs_rounded_sub_le {value : Rat} (nonneg : 0 ≤ value) {size : Int}
    (positive : 0 < size) (below : value < 2 ^ size) :
    |rounded value - value| ≤ 2 ^ (size - 54) := by
  have unit := unit_pos value
  have fine : (2 : Rat) ^ lastBit value ≤ 2 ^ (size - 53) :=
    zpow_le_zpow_right₀ (by norm_num) (lastBit_le nonneg positive below)
  have half : (2 : Rat) ^ (size - 54) = 2 ^ (size - 53) / 2 := by
    rw [show size - 54 = size - 53 - 1 by omega, zpow_sub₀ (by norm_num),
      zpow_one]
  have error := abs_roundEven_sub_le (value / 2 ^ lastBit value)
  have scaled : rounded value - value =
      (roundEven (value / 2 ^ lastBit value) -
        value / 2 ^ lastBit value) * 2 ^ lastBit value := by
    rw [rounded, sub_mul, div_mul_cancel₀ _ unit.ne']
  rw [scaled, abs_mul, abs_of_pos unit]
  calc |(roundEven (value / 2 ^ lastBit value) : Rat) -
        value / 2 ^ lastBit value| * 2 ^ lastBit value
      ≤ 1 / 2 * 2 ^ lastBit value := mul_le_mul_of_nonneg_right error unit.le
    _ ≤ 1 / 2 * 2 ^ (size - 53) := mul_le_mul_of_nonneg_left fine (by norm_num)
    _ = 2 ^ (size - 54) := by
        rw [half]
        ring

/-- What is rounded is a multiple of a unit no larger than that. -/
theorem exists_digits {value : Rat} (nonneg : 0 ≤ value) {size : Int}
    (positive : 0 < size) (below : value < 2 ^ size) :
    ∃ digits exponent : Int, rounded value = digits * 2 ^ exponent ∧
      -1074 ≤ exponent ∧ exponent ≤ size - 53 ∧ digits ≤ 2 ^ 53 := by
  refine ⟨_, _, rfl, le_max_right _ _, lastBit_le nonneg positive below, ?_⟩
  apply roundEven_le
  rw [div_le_iff₀ (unit_pos value)]
  rcases nonneg.eq_or_lt with rfl | nonzero
  · exact mul_nonneg (by norm_num) (unit_pos 0).le
  · have logarithm := @Int.lt_zpow_succ_log_self Rat _ _ _ _ 2 (by norm_num)
      value
    have bound : (2 : Rat) ^ (Int.log 2 value + 1) ≤
        2 ^ (53 + lastBit value) := by
      apply zpow_le_zpow_right₀ (by norm_num)
      rw [lastBit, abs_of_pos nonzero]
      omega
    rw [zpow_add₀ (by norm_num) 53] at bound
    exact logarithm.le.trans (by exact_mod_cast bound)

theorem nearest_of_le {value : Rat} (nonneg : 0 ≤ value)
    (below : value ≤ 2 ^ 100) : nearest value = some (rounded value) := by
  apply nearest_of_lt
  rw [abs_of_nonneg (rounded_nonneg nonneg)]
  have bound : rounded value ≤ 2 ^ 100 := by
    apply rounded_le nonneg _ below
    exact ⟨1, 100, by norm_num, by norm_num, by norm_num⟩
  exact bound.trans_lt (pow_lt_pow_right₀ (by norm_num) (by norm_num))

/-! ### Rounding what is rounded -/

theorem nearest_zero : nearest 0 = some 0 := by
  rw [nearest_of_le le_rfl (by norm_num), rounded_zero]

section Nearest

variable {value number : Rat} (nonneg : 0 ≤ value)
  (near : nearest value = some number)

include near

theorem eq_rounded_of_nearest : number = rounded value := by
  unfold nearest at near
  dsimp only at near
  split at near
  · exact (Option.some.inj near).symm
  · cases near

include nonneg

theorem nonneg_of_nearest : 0 ≤ number := by
  rw [eq_rounded_of_nearest near]
  exact rounded_nonneg nonneg

theorem representable_of_nearest : Representable number := by
  obtain ⟨size, below⟩ : ∃ size : Nat, value < 2 ^ size :=
    pow_unbounded_of_one_lt value (by norm_num)
  obtain ⟨digits, exponent, written, least, _, few⟩ := @exists_digits value
    nonneg (size + 1 : Int) (by omega) (below.trans (by
      rw [zpow_add₀ (by norm_num), zpow_natCast, zpow_one]
      have positive : (0 : Rat) < 2 ^ size := by positivity
      linarith))
  rw [eq_rounded_of_nearest near]
  refine ⟨digits, exponent, ?_, least, written⟩
  have unit : (0 : Rat) < 2 ^ exponent := zpow_pos (by norm_num) _
  have positive := rounded_nonneg nonneg
  rw [written] at positive
  have digits_nonneg : (0 : Rat) ≤ digits :=
    nonneg_of_mul_nonneg_left positive unit
  rwa [abs_of_nonneg (by exact_mod_cast digits_nonneg)]

theorem nearest_nearest : nearest number = some number := by
  have same := rounded_of_representable (nonneg_of_nearest nonneg near)
    (representable_of_nearest nonneg near)
  have small : |number| < 2 ^ 1024 := by
    have own := eq_rounded_of_nearest near
    unfold nearest at near
    dsimp only at near
    split at near
    · rename_i small
      rw [own]
      exact small
    · cases near
  rw [nearest_of_lt (by rwa [same]), same]

end Nearest

end Binary64

end Foundation
