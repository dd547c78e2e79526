import AgentLedger.Foundation.Rounding

namespace Foundation

/-! Doubles that are not negative, and their sums; `none` is the infinity. -/

abbrev Magnitude := Option Rat

namespace Magnitude

/-- The double of a whole number. -/
def ofNat (count : Nat) : Magnitude := Binary64.nearest count

def add (first second : Magnitude) : Magnitude :=
  first.bind fun one => second.bind fun two => Binary64.nearest (one + two)

/-- From left to right. -/
def sum : List Magnitude → Magnitude
  | [] => some 0
  | first :: rest => rest.foldl add first

def positive (value : Magnitude) : Bool :=
  value.all fun number => 0 < number

/-- Zero, or at least one. -/
def Whole (value : Magnitude) : Prop :=
  ∀ number ∈ value, number = 0 ∨ 1 ≤ number

private theorem one_le_of_nearest {value number : Rat} (large : 1 ≤ value)
    (near : Binary64.nearest value = some number) : 1 ≤ number := by
  rw [Binary64.eq_rounded_of_nearest near]
  apply Binary64.le_rounded (zero_le_one.trans large) _ large
  have one := @Binary64.representable_intCast 1 (by norm_num)
  exact_mod_cast one

@[simp] theorem ofNat_zero : ofNat 0 = some 0 := by
  rw [ofNat, Nat.cast_zero, Binary64.nearest_zero]

theorem whole_ofNat (count : Nat) : Whole (ofNat count) := by
  intro number near
  rcases Nat.eq_zero_or_pos count with rfl | positive
  · rw [ofNat_zero] at near
    exact .inl (Option.some.inj near).symm
  · exact .inr (one_le_of_nearest (by exact_mod_cast positive) near)

theorem ofNat_eq_zero_iff {count : Nat} : ofNat count = some 0 ↔ count = 0 := by
  constructor
  · intro near
    by_contra nonzero
    have large := @one_le_of_nearest count 0
      (by exact_mod_cast Nat.pos_of_ne_zero nonzero) near
    norm_num at large
  · rintro rfl
    exact ofNat_zero

theorem positive_ofNat {count : Nat} :
    (ofNat count).positive = true ↔ 0 < count := by
  have whole := whole_ofNat count
  cases near : ofNat count with
  | none =>
      refine iff_of_true rfl (Nat.pos_of_ne_zero fun zero => ?_)
      rw [zero, ofNat_zero] at near
      cases near
  | some number =>
      rw [positive, Option.all_some, decide_eq_true_iff, Nat.pos_iff_ne_zero,
        ne_eq, ← ofNat_eq_zero_iff, near, Option.some.injEq]
      rcases whole number near with rfl | large
      · simp
      · exact iff_of_true (by linarith) (by linarith)

theorem add_eq_zero_iff {first second : Magnitude} (one : Whole first)
    (two : Whole second) :
    add first second = some 0 ↔ first = some 0 ∧ second = some 0 := by
  constructor
  · intro none_
    cases first with
    | none => cases none_
    | some left =>
        cases second with
        | none => cases none_
        | some right =>
            have near : Binary64.nearest (left + right) = some 0 := none_
            rcases one left rfl with rfl | large
            · rcases two right rfl with rfl | large
              · exact ⟨rfl, rfl⟩
              · have sum := one_le_of_nearest (by linarith) near
                norm_num at sum
            · rcases two right rfl with rfl | _
              · have sum := one_le_of_nearest (by linarith) near
                norm_num at sum
              · have sum := one_le_of_nearest (by linarith) near
                norm_num at sum
  · rintro ⟨rfl, rfl⟩
    exact (congrArg Binary64.nearest (add_zero 0)).trans Binary64.nearest_zero

theorem Whole.add {first second : Magnitude} (one : Whole first)
    (two : Whole second) : Whole (first.add second) := by
  intro number near
  cases first with
  | none => cases near
  | some left =>
      cases second with
      | none => cases near
      | some right =>
          have near : Binary64.nearest (left + right) = some number := near
          rcases one left rfl with rfl | large
          · rcases two right rfl with rfl | large
            · rw [add_zero, Binary64.nearest_zero] at near
              exact .inl (Option.some.inj near).symm
            · exact .inr (one_le_of_nearest (by linarith) near)
          · refine .inr (one_le_of_nearest ?_ near)
            rcases two right rfl with rfl | _ <;> linarith

private theorem foldl_eq_zero_iff {first : Magnitude} {rest : List Magnitude}
    (one : Whole first) (others : ∀ value ∈ rest, Whole value) :
    rest.foldl add first = some 0 ↔
      first = some 0 ∧ ∀ value ∈ rest, value = some 0 := by
  induction rest generalizing first with
  | nil => simp
  | cons next rest ih =>
      have own := others next List.mem_cons_self
      refine (ih (one.add own) fun value member =>
        others value (List.mem_cons_of_mem _ member)).trans ?_
      rw [add_eq_zero_iff one own, List.forall_mem_cons, and_assoc]

theorem sum_eq_zero_iff {values : List Magnitude}
    (whole : ∀ value ∈ values, Whole value) :
    sum values = some 0 ↔ ∀ value ∈ values, value = some 0 := by
  cases values with
  | nil => simp [sum]
  | cons first rest =>
      rw [List.forall_mem_cons] at whole ⊢
      exact foldl_eq_zero_iff whole.1 whole.2

/-! ### Sums that are not rounded -/

/-- The count is a double. -/
def Exact (count : Nat) : Prop := ofNat count = some (count : Rat)

theorem exact_zero : Exact 0 := by
  rw [Exact, ofNat_zero, Nat.cast_zero]

theorem exact_of_small {count : Nat} (small : count ≤ 2 ^ 53) :
    Exact count := by
  have below : (count : Rat) ≤ 2 ^ 53 := by exact_mod_cast small
  have whole : Binary64.Representable (count : Rat) := by
    have own := @Binary64.representable_intCast count (by
      rw [abs_of_nonneg (by positivity)]
      exact_mod_cast small)
    exact_mod_cast own
  rw [Exact, ofNat, Binary64.nearest_of_le (by positivity)
    (below.trans (by norm_num)),
    Binary64.rounded_of_representable (by positivity) whole]

/-- Beyond the 53 bits the unit is a whole number. -/
theorem integral_of_ofNat {count : Nat} {number : Rat}
    (near : ofNat count = some number) : ∃ whole : Int, number = whole := by
  by_cases small : count ≤ 2 ^ 53
  · rw [exact_of_small small] at near
    exact ⟨count, (Option.some.inj near).symm⟩
  · obtain ⟨unit, whole⟩ : ∃ unit : Nat,
        Binary64.lastBit (count : Rat) = unit := by
      have digits : 53 ≤ Nat.log 2 count :=
        Nat.le_log_of_pow_le (by norm_num) (by omega)
      refine ⟨Nat.log 2 count - 52, ?_⟩
      rw [Binary64.lastBit, abs_of_nonneg (by positivity), Int.log_natCast]
      omega
    rw [Binary64.eq_rounded_of_nearest near, Binary64.rounded, whole]
    exact ⟨Binary64.roundEven _ * 2 ^ unit, by push_cast; rfl⟩

theorem Exact.add {first second : Nat} (one : Exact first)
    (two : Exact second) (both : Exact (first + second)) :
    (ofNat first).add (ofNat second) =
      some ((first + second : Nat) : Rat) := by
  rw [one, two, ← both, ofNat, Nat.cast_add]
  rfl

theorem sum_of_exact {counts : List Nat}
    (each : ∀ count ∈ counts, Exact count)
    (running : ∀ front, front <+: counts → Exact front.sum) :
    sum (counts.map ofNat) = some ((counts.sum : Nat) : Rat) := by
  have after (first : Nat) (rest : List Nat)
      (each : ∀ count ∈ rest, Exact count)
      (running : ∀ front, front <+: rest → Exact (first + front.sum)) :
      (rest.map ofNat).foldl add (ofNat first) =
        some ((first + rest.sum : Nat) : Rat) := by
    induction rest generalizing first with
    | nil => exact running [] List.nil_prefix
    | cons next rest ih =>
        have own := running [] List.nil_prefix
        have both := running [next] (by simp)
        simp only [List.sum_nil, List.sum_singleton, Nat.add_zero] at own both
        have step : add (ofNat first) (ofNat next) = ofNat (first + next) := by
          rw [own.add (each next List.mem_cons_self) both, both]
        rw [List.map_cons, List.foldl_cons, step, List.sum_cons,
          ← Nat.add_assoc]
        refine ih (first + next)
          (fun count member => each count (List.mem_cons_of_mem _ member)) ?_
        intro front leads
        have longer := running (next :: front)
          ((List.prefix_cons_inj next).mpr leads)
        rwa [List.sum_cons, ← Nat.add_assoc] at longer
  cases counts with
  | nil => simp [sum]
  | cons first rest =>
      rw [List.sum_cons]
      refine after first rest
        (fun count member => each count (List.mem_cons_of_mem _ member)) ?_
      intro front leads
      have longer := running (first :: front)
        ((List.prefix_cons_inj first).mpr leads)
      rwa [List.sum_cons] at longer

/-! Up to the 53 bits nothing is rounded. -/

theorem exact_of_sum_le {counts : List Nat} (small : counts.sum ≤ 2 ^ 53) :
    ∀ count ∈ counts, Exact count := by
  intro count member
  obtain ⟨before, after, rfl⟩ := List.append_of_mem member
  rw [List.sum_append, List.sum_cons] at small
  exact exact_of_small (by omega)

theorem exact_of_front {counts : List Nat} (small : counts.sum ≤ 2 ^ 53) :
    ∀ front, front <+: counts → Exact front.sum := by
  rintro front ⟨rest, rfl⟩
  rw [List.sum_append] at small
  exact exact_of_small (by omega)

theorem sum_of_small {counts : List Nat} (small : counts.sum ≤ 2 ^ 53) :
    sum (counts.map ofNat) = some ((counts.sum : Nat) : Rat) :=
  sum_of_exact (exact_of_sum_le small) (exact_of_front small)

end Magnitude

end Foundation
