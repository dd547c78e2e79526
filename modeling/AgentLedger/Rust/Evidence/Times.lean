import AgentLedger.Foundation.Rounding
import AgentLedger.Rust.Evidence.Schema

namespace AgentLedger.Rust

open Foundation Binary64

/-! The seconds of the tables give back the milliseconds of an event.  Two
roundings cost less than half a millisecond, so that `ROUND` finds it again. -/

theorem truncate_eq_floor {value : Rat} (nonneg : 0 ≤ value) :
    truncate value = ⌊value⌋ := by
  rw [truncate, Rat.floor_def', Int.tdiv_eq_ediv_of_nonneg]
  exact Rat.num_nonneg.mpr nonneg

theorem truncate_intCast {value : Int} (nonneg : 0 ≤ value) :
    truncate (value : Rat) = value := by
  rw [truncate_eq_floor (by exact_mod_cast nonneg), Int.floor_intCast]

section Round

variable {time : Int} {value : Rat}

/-- A half more is still less than a whole more, after rounding. -/
private theorem rounded_add_half {scaled : Rat}
    (scaledNonneg : 0 ≤ scaled)
    (scaledSmall : scaled < 2 ^ 52) (above : (time : Rat) < rounded scaled)
    (near : rounded scaled < time + 1 / 2) (positive : 0 < time) :
    rounded (rounded scaled + 1 / 2) < time + 1 := by
  obtain ⟨digits, exponent, written, least, fine, few⟩ :=
    @exists_digits scaled scaledNonneg 52 (by norm_num)
      (by exact_mod_cast scaledSmall)
  obtain ⟨places, rfl⟩ : ∃ places : Nat, exponent = -(places + 1 : Nat) :=
    ⟨(-exponent - 1).toNat, by omega⟩
  have unit : (0 : Rat) < 2 ^ (places + 1) := by positivity
  rw [zpow_neg, zpow_natCast, ← div_eq_mul_inv] at written
  rw [written] at above near ⊢
  rw [lt_div_iff₀ unit] at above
  rw [div_lt_iff₀ unit] at near
  have aboveInt : time * 2 ^ (places + 1) < digits := by exact_mod_cast above
  have nearInt : digits < time * 2 ^ (places + 1) + 2 ^ places := by
    have half : ((time : Rat) + 1 / 2) * 2 ^ (places + 1) =
        time * 2 ^ (places + 1) + 2 ^ places := by
      rw [pow_succ]
      ring
    rw [half] at near
    exact_mod_cast near
  -- the greatest multiple of the unit that is below the next integer
  have fits : (time + 1) * 2 ^ (places + 1) - 1 ≤ (2 : Int) ^ 53 := by
    by_cases many : places + 1 ≤ 53
    · have whole : (2 : Int) ^ 53 = 2 ^ (52 - places) * 2 ^ (places + 1) := by
        rw [← pow_add]
        congr 1
        omega
      have unitInt : (0 : Int) < 2 ^ (places + 1) := by positivity
      have less : time < 2 ^ (52 - places) := by
        apply lt_of_mul_lt_mul_right _ unitInt.le
        rw [← whole]
        exact aboveInt.trans_le few
      have next := mul_le_mul_of_nonneg_right (Int.add_one_le_iff.mpr less)
        unitInt.le
      rw [← whole] at next
      omega
    · have large : (2 : Int) ^ 53 ≤ 2 ^ (places + 1) :=
        pow_le_pow_right₀ (by norm_num) (by omega)
      have one := mul_le_mul_of_nonneg_right (Int.add_one_le_iff.mpr positive)
        (by positivity : (0 : Int) ≤ 2 ^ (places + 1))
      omega
  have bound : rounded (digits / 2 ^ (places + 1) + 1 / 2) ≤
      (((time + 1) * 2 ^ (places + 1) - 1 : Int) : Rat) *
        2 ^ (-((places + 1 : Nat) : Int)) := by
    apply rounded_le
    · rw [← written]
      have := rounded_nonneg scaledNonneg
      linarith
    · refine ⟨_, _, ?_, least, rfl⟩
      rw [abs_of_nonneg]
      · exact fits
      · have one : (0 : Int) < (time + 1) * 2 ^ (places + 1) := by positivity
        omega
    · rw [zpow_neg, zpow_natCast, ← div_eq_mul_inv, le_div_iff₀ unit, add_mul,
        div_mul_cancel₀ _ unit.ne']
      have next : digits + 2 ^ places ≤
          (time + 1) * 2 ^ (places + 1) - 1 := by
        rw [pow_succ] at nearInt ⊢
        linarith
      have cast : (digits : Rat) + 2 ^ places ≤
          (((time + 1) * 2 ^ (places + 1) - 1 : Int) : Rat) := by
        exact_mod_cast next
      have half : (1 : Rat) / 2 * 2 ^ (places + 1) = 2 ^ places := by
        rw [pow_succ]
        ring
      rw [half]
      exact cast
  refine bound.trans_lt ?_
  rw [zpow_neg, zpow_natCast, ← div_eq_mul_inv, div_lt_iff₀ unit]
  push_cast
  linarith

private theorem sqlRound_rounded {scaled : Rat} (scaledNonneg : 0 ≤ scaled)
    (scaledSmall : scaled < 2 ^ 52) (positive : 0 < time)
    (small : time < 2 ^ 52) (above : (time : Rat) - 1 / 2 < rounded scaled)
    (below : rounded scaled < time + 1 / 2) (fits : rounded scaled ≤ 2 ^ 52) :
    sqlRound (rounded scaled) = time := by
  have nonneg := rounded_nonneg scaledNonneg
  have halfNonneg : 0 ≤ rounded scaled + 1 / 2 := by linarith
  have upper : rounded (rounded scaled + 1 / 2) < time + 1 := by
    by_cases more : (time : Rat) < rounded scaled
    · exact rounded_add_half scaledNonneg scaledSmall more below positive
    · have half : rounded (rounded scaled + 1 / 2) ≤
          ((2 * time + 1 : Int) : Rat) * 2 ^ (-1 : Int) := by
        apply rounded_le halfNonneg
        · refine ⟨2 * time + 1, -1, ?_, by norm_num, rfl⟩
          rw [abs_of_nonneg (by omega)]
          omega
        · norm_num
          linarith
      norm_num at half
      linarith
  have lower : (time : Rat) ≤ rounded (rounded scaled + 1 / 2) := by
    apply le_rounded halfNonneg
    · apply representable_intCast
      rw [abs_of_nonneg positive.le]
      omega
    · linarith
  have size : ¬ (2 : Rat) ^ 52 < |rounded scaled| := by
    rw [abs_of_nonneg nonneg]
    exact not_lt.mpr fits
  have bounded : rounded scaled + 1 / 2 ≤ 2 ^ 100 := by
    norm_num at fits ⊢
    linarith
  rw [sqlRound, if_neg size, if_neg (not_lt.mpr nonneg),
    nearest_of_le halfNonneg bounded, Option.getD_some,
    truncate_eq_floor (rounded_nonneg halfNonneg)]
  exact congrArg Int.cast (Int.floor_eq_iff.mpr ⟨lower, upper⟩)

/-- The stored seconds, and how far they are off. -/
private theorem seconds_near (nonneg : 0 ≤ time)
    (small : time < 1000 * 2 ^ 42) :
    0 ≤ seconds time ∧ |seconds time - time / 1000| ≤ 1 / 4096 := by
  have nonnegRat : (0 : Rat) ≤ time := by exact_mod_cast nonneg
  have smallRat : (time : Rat) < 1000 * 2 ^ 42 := by exact_mod_cast small
  have exact : nearest (time : Rat) = some (time : Rat) := by
    rw [nearest_of_le nonnegRat (smallRat.le.trans (by norm_num)),
      rounded_of_representable nonnegRat]
    apply representable_intCast
    rw [abs_of_nonneg nonneg]
    exact small.le.trans (by norm_num)
  have divided : (time : Rat) / 1000 < 2 ^ (42 : Int) := by
    rw [div_lt_iff₀ (by norm_num), mul_comm]
    exact_mod_cast smallRat
  have dividedNonneg : 0 ≤ (time : Rat) / 1000 := by positivity
  have stored : seconds time = rounded ((time : Rat) / 1000) := by
    unfold seconds
    rw [exact, Option.getD_some, nearest_of_le dividedNonneg
      (divided.le.trans (by norm_num)), Option.getD_some]
  rw [stored]
  have error := abs_rounded_sub_le dividedNonneg (by norm_num) divided
  norm_num at error
  exact ⟨rounded_nonneg dividedNonneg, error⟩

end Round

/-- `ROUND(timestamp * 1000)` finds every time up to the year 141338. -/
theorem millis_seconds {time : Int} (nonneg : 0 ≤ time)
    (small : time < 1000 * 2 ^ 42) : millis (seconds time) = time := by
  rcases nonneg.eq_or_lt with rfl | positive
  · decide +kernel
  · have smallRat : (time : Rat) < 1000 * 2 ^ 42 := by exact_mod_cast small
    norm_num at smallRat
    obtain ⟨secondsNonneg, first⟩ := seconds_near nonneg small
    generalize seconds time = stamp at secondsNonneg first ⊢
    rw [abs_le] at first
    have scaledNonneg : 0 ≤ stamp * 1000 := by positivity
    have scaledSmall : stamp * 1000 < 2 ^ 52 := by
      norm_num
      linarith
    have second := @abs_rounded_sub_le (stamp * 1000) scaledNonneg 52
      (by norm_num) (by exact_mod_cast scaledSmall)
    norm_num at second
    rw [abs_le] at second
    have found : sqlRound (rounded (stamp * 1000)) = time := by
      apply sqlRound_rounded scaledNonneg scaledSmall positive (by omega)
      · linarith
      · linarith
      · norm_num
        linarith
    unfold millis
    rw [nearest_of_le scaledNonneg (scaledSmall.le.trans (by norm_num))]
    dsimp only
    rw [found, sqlInteger, truncate_intCast nonneg]
    omega

end AgentLedger.Rust
