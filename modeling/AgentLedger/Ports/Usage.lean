import AgentLedger.Foundation.Magnitude
import Mathlib.Algebra.Order.Floor.Ring

namespace AgentLedger

open Foundation Magnitude

/-! How the four ports count the tokens of a usage object. -/

/-- What an object has under a key: nothing, `null` or a count. -/
abbrev Usage := String → Option (Option Nat)

namespace Usage

def totals : List String := ["total_tokens", "totalTokens", "tokens"]

def inputs : List String := ["input_tokens", "prompt_tokens", "inputTokens"]

def outputs : List String :=
  ["output_tokens", "completion_tokens", "outputTokens"]

variable (usage : Usage)

/-- The count, if there is one. -/
def count? (key : String) : Option Nat := (usage key).join

def count (key : String) : Nat := (usage.count? key).getD 0

end Usage

/-! ### The ports -/

namespace Python

/-- `model.usage_total_tokens`. -/
def usageTotalTokens (usage : Usage) : Nat :=
  match Usage.totals.findSome? usage.count? with
  | some value => value
  | none =>
      let inputTokens := (usage "input_tokens").getD
        ((usage "prompt_tokens").getD
          ((usage "inputTokens").getD (some 0)))
      let outputTokens := (usage "output_tokens").getD
        ((usage "completion_tokens").getD
          ((usage "outputTokens").getD (some 0)))
      inputTokens.getD 0 + outputTokens.getD 0

end Python

namespace TypeScript

/-- `Number(value) || 0` of what `??` has come to. -/
def number (value : Option Nat) : Magnitude := ofNat (value.getD 0)

def usageTotalTokens (usage : Usage) : Magnitude :=
  match Usage.totals.findSome? usage.count? with
  | some value => ofNat value
  | none =>
      let inputTokens := (usage.count? "input_tokens").or
        ((usage.count? "prompt_tokens").or (usage.count? "inputTokens"))
      let outputTokens := (usage.count? "output_tokens").or
        ((usage.count? "completion_tokens").or (usage.count? "outputTokens"))
      add (number inputTokens) (number outputTokens)

end TypeScript

namespace Go

/-- The conversions of a processor from `float64` to a 64-bit `int`: what does
not fit becomes some number that does. -/
structure Processor where
  overflow : Magnitude → Int
  fits : ∀ value, -2 ^ 63 ≤ overflow value ∧ overflow value < 2 ^ 63

/-- `int(value)`, of a value that is not negative. -/
def Processor.int (processor : Processor) : Magnitude → Int
  | some value =>
      if value < 2 ^ 63 then ⌊value⌋ else processor.overflow (some value)
  | none => processor.overflow none

/-- `numberValue`; a missing member is `nil` too. -/
def numberValue (value : Option Nat) : Magnitude :=
  match value with
  | some count => ofNat count
  | none => some 0

def usageTotalTokens (processor : Processor) (usage : Usage) : Int :=
  match Usage.totals.findSome? usage with
  | some value => processor.int (numberValue value)
  | none =>
      processor.int (sum
        (["input_tokens", "prompt_tokens", "inputTokens", "output_tokens",
          "completion_tokens", "outputTokens"].map fun key =>
            numberValue (usage.count? key)))

end Go

namespace Rust

/-- `state_number`. -/
def stateNumber (usage : Usage) (key : String) : Magnitude :=
  match usage key with
  | some (some count) => ofNat count
  | _ => some 0

def usageTotalTokens (usage : Usage) : Magnitude :=
  match (Usage.totals.map (stateNumber usage)).find? Magnitude.positive with
  | some value => value
  | none =>
      sum (["input_tokens", "prompt_tokens", "inputTokens", "output_tokens",
        "completion_tokens", "outputTokens"].map (stateNumber usage))

end Rust

namespace Usage

variable (usage : Usage)

/-- All ports return what the Python port returns, which takes one alias of each
quantity. -/
def Agrees (processor : Go.Processor) : Prop :=
  let count := Python.usageTotalTokens usage
  Go.usageTotalTokens processor usage = count ∧
    TypeScript.usageTotalTokens usage = some (count : Rat) ∧
    Rust.usageTotalTokens usage = some (count : Rat)

/-! ### When they agree -/

/-- The first of the aliases that the object has, `null` being nothing. -/
def leading (keys : List String) : Nat :=
  ((keys.findSome? usage).getD none).getD 0

/-- The first of the aliases that is a count. -/
def counted (keys : List String) : Nat :=
  (keys.findSome? usage.count?).getD 0

def counts : List Nat := (inputs ++ outputs).map usage.count

/-- Behind the first alias that the object has, no other counts anything. -/
def Single (keys : List String) : Prop :=
  keys.Pairwise fun earlier later =>
    usage earlier ≠ none → usage.count later = 0

/-- The inputs and outputs, where there is no total: no alias counts but the
first one present, and the two counts and their sum are doubles. -/
structure Balanced : Prop where
  inputs : usage.Single inputs
  outputs : usage.Single outputs
  counts : ∀ key ∈ Usage.inputs ++ Usage.outputs, Exact (usage.count key)
  sums : ∀ input ∈ Usage.inputs, ∀ output ∈ Usage.outputs,
    Exact (usage.count input + usage.count output) ∧
      usage.count input + usage.count output < 2 ^ 63

/-- A positive total has no `null` before it and is an exact double that fits;
other totals stand alone. -/
def Plain : Prop :=
  match totals.findSome? usage.count? with
  | some (total + 1) =>
      totals.findSome? usage = some (some (total + 1)) ∧
        Exact (total + 1) ∧ total + 1 < 2 ^ 63
  | _ =>
      if totals.findSome? usage = none then usage.Balanced
      else ∀ key ∈ totals ++ inputs ++ outputs, usage.count key = 0

/-- Adding the counts up from the first to the last leaves the doubles. -/
def Rounds : Prop :=
  totals.findSome? usage = none ∧
  ¬((∀ count ∈ usage.counts, Exact count) ∧
    ∀ front, front <+: usage.counts → Exact front.sum)

/-! ### What the ports read -/

section Read

variable {usage : Usage} {keys : List String}

theorem numberValue_count? (key : String) :
    Go.numberValue (usage.count? key) = ofNat (usage.count key) := by
  unfold Go.numberValue count
  cases usage.count? key with
  | none => exact ofNat_zero.symm
  | some value => rfl

theorem stateNumber_eq (key : String) :
    Rust.stateNumber usage key = ofNat (usage.count key) := by
  unfold Rust.stateNumber count count?
  cases usage key with
  | none => exact ofNat_zero.symm
  | some held =>
      cases held with
      | none => exact ofNat_zero.symm
      | some value => rfl

theorem counted_of_present {value : Nat}
    (present : keys.findSome? usage = some (some value)) :
    keys.findSome? usage.count? = some value := by
  induction keys with
  | nil => cases present
  | cons key rest ih =>
      rw [List.findSome?_cons] at present ⊢
      cases held : usage key with
      | none =>
          rw [held] at present
          rw [count?, held]
          exact ih present
      | some found =>
          rw [held] at present
          cases present
          rw [count?, held]
          rfl

theorem counted_of_absent (absent : keys.findSome? usage = none) :
    keys.findSome? usage.count? = none := by
  rw [List.findSome?_eq_none_iff] at absent ⊢
  intro key member
  rw [count?, absent key member]
  rfl

theorem leading_le_counted (keys : List String) :
    usage.leading keys ≤ usage.counted keys := by
  unfold leading
  cases present : keys.findSome? usage with
  | none => exact Nat.zero_le _
  | some held =>
      cases held with
      | none => exact Nat.zero_le _
      | some value =>
          rw [counted, counted_of_present present]
          exact le_rfl

theorem counted_le_sum (keys : List String) :
    usage.counted keys ≤ (keys.map usage.count).sum := by
  unfold counted
  induction keys with
  | nil => exact le_rfl
  | cons key rest ih =>
      rw [List.findSome?_cons, List.map_cons, List.sum_cons, count]
      cases usage.count? key with
      | none => simpa using ih
      | some value => simp

theorem count_of_counted {key : String}
    (none_ : keys.findSome? usage.count? = none) (member : key ∈ keys) :
    usage.count key = 0 := by
  rw [count, List.findSome?_eq_none_iff.mp none_ key member]
  rfl

theorem counted_eq (keys : List String) :
    usage.counted keys = 0 ∨
      ∃ key ∈ keys, usage.counted keys = usage.count key := by
  unfold counted
  cases found : keys.findSome? usage.count? with
  | none => exact .inl rfl
  | some value =>
      obtain ⟨key, member, held⟩ := List.exists_of_findSome?_eq_some found
      exact .inr ⟨key, member, by rw [count, held]⟩

end Read

/-! ### One alias alone -/

section Single

variable {usage : Usage} {keys : List String}

theorem count_of_none {key : String} (absent : usage key = none) :
    usage.count key = 0 := by
  rw [count, count?, absent]
  rfl

theorem single_iff : usage.Single keys ↔
    usage.leading keys = (keys.map usage.count).sum := by
  induction keys with
  | nil => exact iff_of_true List.Pairwise.nil rfl
  | cons key rest ih =>
      rw [List.map_cons, List.sum_cons]
      cases held : usage key with
      | none =>
          have leads : usage.leading (key :: rest) = usage.leading rest := by
            rw [leading, List.findSome?_cons, held, leading]
          rw [leads, count_of_none held, Nat.zero_add, ← ih, Single,
            List.pairwise_cons]
          exact and_iff_right fun _ _ present => absurd held present
      | some value =>
          have leads : usage.leading (key :: rest) = usage.count key := by
            rw [leading, List.findSome?_cons, held, count, count?, held]
            rfl
          rw [leads, left_eq_add, List.sum_eq_zero_iff_forall_eq_nat, Single,
            List.pairwise_cons]
          have present : usage key ≠ none := by simp [held]
          simp only [List.forall_mem_map]
          constructor
          · rintro ⟨others, _⟩ later member
            exact others later member present
          · intro others
            refine ⟨fun later member _ => others later member, ?_⟩
            exact List.pairwise_of_forall_mem_list
              fun _ _ later member _ => others later member

/-- An alias counts nothing, or all there is. -/
theorem Single.count_eq (single : usage.Single keys) {key : String}
    (member : key ∈ keys) :
    usage.count key = 0 ∨ usage.count key = (keys.map usage.count).sum := by
  induction keys with
  | nil => cases member
  | cons first rest ih =>
      obtain ⟨others, later⟩ := List.pairwise_cons.mp single
      rw [List.map_cons, List.sum_cons]
      rcases List.mem_cons.mp member with rfl | behind
      · cases held : usage key with
        | none => exact .inl (count_of_none held)
        | some value =>
            right
            rw [List.sum_eq_zero]
            · rfl
            · exact List.forall_mem_map.mpr fun other listed =>
                others other listed (by simp [held])
      · by_cases present : usage first = none
        · rw [count_of_none present, Nat.zero_add]
          exact ih later behind
        · exact .inl (others key behind present)

theorem Single.sum_eq (single : usage.Single keys) :
    (keys.map usage.count).sum = 0 ∨
      ∃ key ∈ keys, (keys.map usage.count).sum = usage.count key := by
  by_cases zero : ∀ key ∈ keys, usage.count key = 0
  · exact .inl (List.sum_eq_zero (List.forall_mem_map.mpr zero))
  · obtain ⟨key, member, counts⟩ : ∃ key ∈ keys, usage.count key ≠ 0 := by
      simpa using zero
    exact .inr ⟨key, member,
      ((single.count_eq member).resolve_left counts).symm⟩

/-- The running sums are those of one alias, or of one of each quantity. -/
theorem running_of_balanced (balanced : usage.Balanced) (front : List Nat)
    (leads : front <+: usage.counts) : Exact front.sum := by
  obtain ⟨keys, shorter, rfl⟩ := List.prefix_map_iff.mp leads
  have alone (keys : List String) (single : usage.Single keys)
      (listed : ∀ key ∈ keys, key ∈ inputs ++ outputs) :
      Exact (keys.map usage.count).sum := by
    rcases single.sum_eq with none_ | ⟨key, member, same⟩
    · rw [none_]
      exact exact_zero
    · rw [same]
      exact balanced.counts key (listed key member)
  rcases List.prefix_or_prefix_of_prefix shorter
      (List.prefix_append inputs outputs) with within | ⟨back, rfl⟩
  · exact alone keys (balanced.inputs.sublist within.sublist) fun key member =>
      List.mem_append_left _ (within.subset member)
  · have within := (List.prefix_append_right_inj inputs).mp shorter
    have later : usage.Single back := balanced.outputs.sublist within.sublist
    rw [List.map_append, List.sum_append]
    rcases balanced.inputs.sum_eq with none_ | ⟨input, given, first⟩
    · rw [none_, Nat.zero_add]
      exact alone back later fun key member =>
        List.mem_append_right _ (within.subset member)
    · rcases later.sum_eq with none_ | ⟨output, got, second⟩
      · rw [none_, Nat.add_zero]
        exact alone inputs balanced.inputs fun key member =>
          List.mem_append_left _ member
      · rw [first, second]
        exact (balanced.sums input given output (within.subset got)).1

end Single

/-! ### Port by port -/

section Ports

variable {usage : Usage} {processor : Go.Processor}

theorem python_of_total {total : Nat}
    (first : totals.findSome? usage.count? = some total) :
    Python.usageTotalTokens usage = total := by
  rw [Python.usageTotalTokens, first]

theorem python_of_none (none_ : totals.findSome? usage.count? = none) :
    Python.usageTotalTokens usage =
      usage.leading inputs + usage.leading outputs := by
  have nested (one two three : String) :
      ((usage one).getD ((usage two).getD
        ((usage three).getD (some 0)))).getD 0 =
      usage.leading [one, two, three] := by
    unfold leading
    cases first : usage one <;> cases second : usage two <;>
      cases third : usage three <;>
        simp [first, second, third]
  rw [Python.usageTotalTokens, none_]
  exact congrArg₂ (· + ·) (nested _ _ _) (nested _ _ _)

theorem typeScript_of_total {total : Nat}
    (first : totals.findSome? usage.count? = some total) :
    TypeScript.usageTotalTokens usage = ofNat total := by
  rw [TypeScript.usageTotalTokens, first]

theorem typeScript_of_none (none_ : totals.findSome? usage.count? = none) :
    TypeScript.usageTotalTokens usage =
      add (ofNat (usage.counted inputs)) (ofNat (usage.counted outputs)) := by
  have chain (one two three : String) :
      TypeScript.number ((usage.count? one).or
        ((usage.count? two).or (usage.count? three))) =
      ofNat (usage.counted [one, two, three]) := by
    unfold TypeScript.number counted
    cases first : usage.count? one <;> cases second : usage.count? two <;>
      cases third : usage.count? three <;>
        simp [first, second, third]
  rw [TypeScript.usageTotalTokens, none_]
  exact congrArg₂ add (chain _ _ _) (chain _ _ _)

theorem go_of_present {held : Option Nat}
    (present : totals.findSome? usage = some held) :
    Go.usageTotalTokens processor usage =
      processor.int (Go.numberValue held) := by
  rw [Go.usageTotalTokens, present]

theorem go_of_absent (absent : totals.findSome? usage = none) :
    Go.usageTotalTokens processor usage =
      processor.int (sum (usage.counts.map ofNat)) := by
  rw [Go.usageTotalTokens, absent, counts, List.map_map]
  exact congrArg (fun values => processor.int (sum values))
    (List.map_congr_left fun key _ => numberValue_count? key)

theorem rust_of_total {total : Nat}
    (first : totals.findSome? usage.count? = some (total + 1)) :
    Rust.usageTotalTokens usage = ofNat (total + 1) := by
  have found (keys : List String)
      (first : keys.findSome? usage.count? = some (total + 1)) :
      (keys.map (Rust.stateNumber usage)).find? Magnitude.positive =
        some (ofNat (total + 1)) := by
    induction keys with
    | nil => cases first
    | cons key rest ih =>
        rw [List.findSome?_cons] at first
        rw [List.map_cons, List.find?_cons, stateNumber_eq, count]
        cases held : usage.count? key with
        | none =>
            rw [held] at first
            rw [Option.getD_none, ofNat_zero,
              show Magnitude.positive (some 0) = false from rfl]
            exact ih first
        | some value =>
            rw [held] at first
            cases first
            rw [Option.getD_some, positive_ofNat.mpr (Nat.succ_pos total)]
  rw [Rust.usageTotalTokens, found totals first]

theorem rust_of_none (none_ : totals.findSome? usage.count? = none) :
    Rust.usageTotalTokens usage = sum (usage.counts.map ofNat) := by
  have missing : (totals.map (Rust.stateNumber usage)).find?
      Magnitude.positive = none := by
    rw [List.find?_eq_none]
    intro value member
    obtain ⟨key, listed, rfl⟩ := List.mem_map.mp member
    rw [stateNumber_eq, count_of_counted none_ listed, ofNat_zero]
    exact Bool.false_ne_true
  rw [Rust.usageTotalTokens, missing, counts, List.map_map]
  exact congrArg sum (List.map_congr_left fun key _ => stateNumber_eq key)

theorem rust_eq_zero_iff : Rust.usageTotalTokens usage = some 0 ↔
    ∀ key ∈ totals ++ inputs ++ outputs, usage.count key = 0 := by
  have zero (keys : List String) :
      (∀ value ∈ keys.map (Rust.stateNumber usage), value = some 0) ↔
        ∀ key ∈ keys, usage.count key = 0 := by
    simp [stateNumber_eq, ofNat_eq_zero_iff]
  have whole : ∀ value ∈ (inputs ++ outputs).map (Rust.stateNumber usage),
      Whole value := by
    intro value member
    obtain ⟨key, _, rfl⟩ := List.mem_map.mp member
    rw [stateNumber_eq]
    exact whole_ofNat _
  rw [Rust.usageTotalTokens, List.append_assoc, List.forall_mem_append]
  cases found : (totals.map (Rust.stateNumber usage)).find?
      Magnitude.positive with
  | some value =>
      refine iff_of_false ?_ ?_
      · rintro same
        have positive := List.find?_some found
        rw [show value = some 0 from same] at positive
        exact Bool.false_ne_true positive
      · rintro ⟨none_, _⟩
        have listed := List.mem_of_find?_eq_some found
        have positive := List.find?_some found
        rw [(zero totals).mpr none_ value listed] at positive
        exact Bool.false_ne_true positive
  | none =>
      have missing : ∀ key ∈ totals, usage.count key = 0 := by
        intro key member
        have held := List.find?_eq_none.mp found _
          (List.mem_map_of_mem member)
        rw [stateNumber_eq, positive_ofNat] at held
        omega
      rw [and_iff_right missing, ← zero]
      exact sum_eq_zero_iff whole

end Ports

/-! ### Together -/

section Together

variable {usage : Usage} (processor : Go.Processor)

theorem int_eq_iff (count : Nat) :
    processor.int (some (count : Rat)) = count ↔ count < 2 ^ 63 := by
  have bound : (count : Rat) < 2 ^ 63 ↔ count < 2 ^ 63 := by
    exact_mod_cast Iff.rfl
  rw [Go.Processor.int]
  split
  · exact iff_of_true (by exact_mod_cast Int.floor_natCast count)
      (bound.mp ‹_›)
  · have fits := (processor.fits (some (count : Rat))).2
    have large : ¬count < 2 ^ 63 := fun small => ‹¬_› (bound.mpr small)
    refine iff_of_false ?_ large
    omega

theorem int_zero : processor.int (some 0) = 0 := by
  exact_mod_cast (int_eq_iff processor 0).mpr (by norm_num)

theorem agrees_of_positive {total : Nat}
    (first : totals.findSome? usage.count? = some (total + 1)) :
    usage.Agrees processor ↔
      totals.findSome? usage = some (some (total + 1)) ∧
        ofNat (total + 1) = some ((total + 1 : Nat) : Rat) ∧
        total + 1 < 2 ^ 63 := by
  unfold Agrees
  rw [python_of_total first, typeScript_of_total first, rust_of_total first]
  cases present : totals.findSome? usage with
  | none =>
      rw [counted_of_absent present] at first
      cases first
  | some held =>
      rw [go_of_present present]
      cases held with
      | none =>
          refine iff_of_false ?_ ?_
          · rintro ⟨go, _⟩
            rw [Go.numberValue, int_zero] at go
            omega
          · rintro ⟨same, _⟩
            cases same
      | some value =>
          have same : value = total + 1 := by
            have counted := counted_of_present present
            rw [first] at counted
            exact (Option.some.inj counted).symm
          subst same
          dsimp only [Go.numberValue]
          rw [and_self]
          constructor
          · rintro ⟨go, exact_⟩
            rw [exact_, int_eq_iff] at go
            exact ⟨rfl, exact_, go⟩
          · rintro ⟨_, exact_, small⟩
            rw [exact_]
            exact ⟨(int_eq_iff processor _).mpr small, rfl⟩

/-- A total that is there but does not count leaves nothing for Go. -/
theorem agrees_of_unusable {held : Option Nat}
    (unusable : ∀ total, totals.findSome? usage.count? ≠ some (total + 1))
    (present : totals.findSome? usage = some held) :
    usage.Agrees processor ↔
      ∀ key ∈ totals ++ inputs ++ outputs, usage.count key = 0 := by
  have go : Go.usageTotalTokens processor usage = 0 := by
    rw [go_of_present present]
    cases held with
    | none => exact int_zero processor
    | some value =>
        have zero : value = 0 := by
          by_contra nonzero
          obtain ⟨before, rfl⟩ := Nat.exists_eq_succ_of_ne_zero nonzero
          exact unusable before (counted_of_present present)
        rw [zero, Go.numberValue, ofNat_zero]
        exact int_zero processor
  unfold Agrees
  constructor
  · rintro ⟨python, _, rust⟩
    have zero : Python.usageTotalTokens usage = 0 := by
      rw [go] at python
      exact_mod_cast python.symm
    rw [zero, Nat.cast_zero] at rust
    exact rust_eq_zero_iff.mp rust
  · intro zero
    have counted (keys : List String)
        (some_ : ∀ key ∈ keys, usage.count key = 0) :
        usage.counted keys = 0 := by
      apply Nat.le_zero.mp
      calc
        usage.counted keys ≤ (keys.map usage.count).sum := counted_le_sum keys
        _ = 0 := List.sum_eq_zero (by simpa using some_)
    rw [List.forall_mem_append, List.forall_mem_append] at zero
    obtain ⟨⟨none_, given⟩, got⟩ := zero
    have inputs_ := counted inputs given
    have outputs_ := counted outputs got
    have python : Python.usageTotalTokens usage = 0 := by
      cases first : totals.findSome? usage.count? with
      | none =>
          have one := @leading_le_counted usage inputs
          have two := @leading_le_counted usage outputs
          rw [python_of_none first]
          omega
      | some total =>
          cases total with
          | zero => exact python_of_total first
          | succ before => exact absurd first (unusable before)
    have typeScript : TypeScript.usageTotalTokens usage = some 0 := by
      cases first : totals.findSome? usage.count? with
      | none =>
          rw [typeScript_of_none first, inputs_, outputs_,
            exact_zero.add exact_zero exact_zero]
          rfl
      | some total =>
          cases total with
          | zero => rw [typeScript_of_total first, ofNat_zero]
          | succ before => exact absurd first (unusable before)
    rw [go, python, typeScript]
    refine ⟨rfl, by simp, ?_⟩
    rw [rust_eq_zero_iff.mpr, Nat.cast_zero]
    rw [List.forall_mem_append, List.forall_mem_append]
    exact ⟨⟨none_, given⟩, got⟩

theorem counts_sum (usage : Usage) : usage.counts.sum =
    (inputs.map usage.count).sum + (outputs.map usage.count).sum := by
  rw [counts, List.map_append, List.sum_append]

/-- Where nothing is rounded, every port but Python adds up the six counts. -/
theorem agrees_of_exact (absent : totals.findSome? usage = none)
    (each : ∀ count ∈ usage.counts, Exact count)
    (running : ∀ front, front <+: usage.counts → Exact front.sum) :
    usage.Agrees processor ↔
      usage.counts.sum = usage.leading inputs + usage.leading outputs ∧
        usage.counts.sum < 2 ^ 63 := by
  have none_ := counted_of_absent absent
  unfold Agrees
  rw [python_of_none none_, typeScript_of_none none_, rust_of_none none_,
    go_of_absent absent, sum_of_exact each running]
  constructor
  · rintro ⟨go, _, rust⟩
    have same : usage.counts.sum =
        usage.leading inputs + usage.leading outputs := by
      exact_mod_cast Option.some.inj rust
    rw [← same, int_eq_iff] at go
    exact ⟨same, go⟩
  · rintro ⟨same, small⟩
    have given := @counted_le_sum usage inputs
    have got := @counted_le_sum usage outputs
    have leadIn := @leading_le_counted usage inputs
    have leadOut := @leading_le_counted usage outputs
    have parts := counts_sum usage
    have alone (keys : List String)
        (listed : ∀ key ∈ keys, key ∈ inputs ++ outputs) :
        Exact (usage.counted keys) := by
      rcases counted_eq keys with zero | ⟨key, member, held⟩
      · rw [zero]
        exact exact_zero
      · rw [held]
        exact each _ (List.mem_map_of_mem (listed key member))
    have both : usage.counted inputs + usage.counted outputs =
        usage.counts.sum := by omega
    have whole := running _ List.prefix_rfl
    rw [← both] at whole
    rw [(alone inputs fun _ => List.mem_append_left _).add
      (alone outputs fun _ => List.mem_append_right _) whole, both, ← same]
    exact ⟨(int_eq_iff processor _).mpr small, rfl, rfl⟩

theorem balanced_iff (each : ∀ count ∈ usage.counts, Exact count)
    (running : ∀ front, front <+: usage.counts → Exact front.sum) :
    usage.Balanced ↔
      usage.counts.sum = usage.leading inputs + usage.leading outputs ∧
        usage.counts.sum < 2 ^ 63 := by
  have parts := counts_sum usage
  constructor
  · intro balanced
    have leadIn := single_iff.mp balanced.inputs
    have leadOut := single_iff.mp balanced.outputs
    refine ⟨by omega, ?_⟩
    rw [parts]
    have bound (input : String) (given : input ∈ inputs) :
        usage.count input + (outputs.map usage.count).sum < 2 ^ 63 := by
      rcases balanced.outputs.sum_eq with none_ | ⟨output, got, second⟩
      · have least := (balanced.sums input given "output_tokens"
          (by decide)).2
        omega
      · rw [second]
        exact (balanced.sums input given output got).2
    rcases balanced.inputs.sum_eq with none_ | ⟨input, given, first⟩
    · have least := bound "input_tokens" (by decide)
      omega
    · rw [first]
      exact bound input given
  · rintro ⟨same, small⟩
    have given := @counted_le_sum usage inputs
    have got := @counted_le_sum usage outputs
    have leadIn := @leading_le_counted usage inputs
    have leadOut := @leading_le_counted usage outputs
    have singleIn : usage.Single inputs := single_iff.mpr (by omega)
    have singleOut : usage.Single outputs := single_iff.mpr (by omega)
    have counted (key : String) (member : key ∈ inputs ++ outputs) :
        Exact (usage.count key) := each _ (List.mem_map_of_mem member)
    have whole := running _ List.prefix_rfl
    refine ⟨singleIn, singleOut, counted, fun input given output got => ?_⟩
    have first := counted input (List.mem_append_left _ given)
    have second := counted output (List.mem_append_right _ got)
    rcases singleIn.count_eq given with zero | all
    · rw [zero, Nat.zero_add]
      refine ⟨second, ?_⟩
      rcases singleOut.count_eq got with none_ | all <;> omega
    · rcases singleOut.count_eq got with zero | rest
      · rw [zero, Nat.add_zero]
        exact ⟨first, by omega⟩
      · rw [all, rest, ← parts]
        exact ⟨whole, small⟩

theorem agrees_of_balanced (absent : totals.findSome? usage = none)
    (balanced : usage.Balanced) : usage.Agrees processor := by
  have each : ∀ count ∈ usage.counts, Exact count :=
    List.forall_mem_map.mpr balanced.counts
  have running := running_of_balanced balanced
  exact (agrees_of_exact processor absent each running).mpr
    ((balanced_iff each running).mp balanced)

end Together

theorem plain_of_unusable {usage : Usage}
    (unusable : ∀ total, totals.findSome? usage.count? ≠ some (total + 1)) :
    usage.Plain ↔
      if totals.findSome? usage = none then usage.Balanced
      else ∀ key ∈ totals ++ inputs ++ outputs, usage.count key = 0 := by
  unfold Plain
  cases first : totals.findSome? usage.count? with
  | none => exact Iff.rfl
  | some value =>
      cases value with
      | zero => exact Iff.rfl
      | succ total => exact absurd first (unusable total)

/-- The ports agree on the usage objects that leave nothing to choose, and on no
others but for what rounding hides. -/
theorem agrees_iff (usage : Usage) (processor : Go.Processor) :
    (usage.Plain → usage.Agrees processor) ∧
    (¬usage.Rounds → (usage.Agrees processor → usage.Plain)) := by
  by_cases positive : ∃ total, totals.findSome? usage.count? = some (total + 1)
  · obtain ⟨total, first⟩ := positive
    have both : usage.Agrees processor ↔ usage.Plain := by
      rw [agrees_of_positive processor first, Plain, first]
      rfl
    exact ⟨both.mpr, fun _ => both.mp⟩
  · have unusable : ∀ total,
        totals.findSome? usage.count? ≠ some (total + 1) :=
      fun total first => positive ⟨total, first⟩
    rw [plain_of_unusable unusable]
    by_cases absent : totals.findSome? usage = none
    · rw [if_pos absent]
      refine ⟨agrees_of_balanced processor absent, fun exact_ agrees => ?_⟩
      obtain ⟨each, running⟩ := not_not.mp fun rounded =>
        exact_ ⟨absent, rounded⟩
      exact (balanced_iff each running).mpr
        ((agrees_of_exact processor absent each running).mp agrees)
    · rw [if_neg absent]
      obtain ⟨held, present⟩ := Option.ne_none_iff_exists'.mp absent
      have both := agrees_of_unusable processor unusable present
      exact ⟨both.mpr, fun _ => both.mp⟩

/-- The processors that hand back the least integer. -/
def sample : Go.Processor :=
  { overflow := fun _ => -2 ^ 63
    fits := fun _ => by omega }

/-- Five tokens in and seven out, and a second name of the input without any. -/
def inAndOut : Usage := fun key =>
  if key = "input_tokens" then some (some 5)
  else if key = "prompt_tokens" then some none
  else if key = "outputTokens" then some (some 7)
  else none

theorem inAndOut_agrees : inAndOut.Plain ∧ ¬inAndOut.Rounds ∧
    Python.usageTotalTokens inAndOut = 12 ∧ inAndOut.Agrees sample := by
  have counts : ∀ key ∈ inputs ++ outputs, inAndOut.count key ≤ 7 := by decide
  have plain : inAndOut.Plain := by
    have balanced : inAndOut.Balanced := by
      refine ⟨?_, ?_, ?_, ?_⟩
      · unfold Single
        decide
      · unfold Single
        decide
      · intro key member
        exact exact_of_small ((counts key member).trans (by norm_num))
      · intro input given output got
        have first := counts input (List.mem_append_left _ given)
        have second := counts output (List.mem_append_right _ got)
        exact ⟨exact_of_small (by omega), by omega⟩
    exact balanced
  have unrounded : ¬inAndOut.Rounds := by
    rintro ⟨_, rounded⟩
    have small : inAndOut.counts.sum ≤ 2 ^ 53 := by decide
    exact rounded ⟨exact_of_sum_le small, exact_of_front small⟩
  exact ⟨plain, unrounded, by decide, (agrees_iff inAndOut sample).1 plain⟩

/-- Both names of the input, five tokens each. -/
def aliased : Usage := fun key =>
  if key = "input_tokens" ∨ key = "prompt_tokens" then some (some 5) else none

theorem aliased_counted_twice :
    Python.usageTotalTokens aliased = 5 ∧
      Go.usageTotalTokens sample aliased = 10 ∧ ¬aliased.Agrees sample := by
  have python : Python.usageTotalTokens aliased = 5 := by decide
  have go : Go.usageTotalTokens sample aliased = 10 := by
    have counts_ : aliased.counts = [5, 5, 0, 0, 0, 0] := by decide
    rw [go_of_absent (by decide), counts_, sum_of_small (by decide)]
    exact (int_eq_iff sample 10).mpr (by norm_num)
  refine ⟨python, go, ?_⟩
  rintro ⟨same, _⟩
  rw [python, go] at same
  exact absurd same (by decide)

end Usage

end AgentLedger
