import AgentLedger.Foundation.Binary64
import AgentLedger.Foundation.Entries
import Mathlib.Data.String.Basic

namespace AgentLedger.Rust

open Foundation

/-! The values of the Rust port.  A `HashMap` is the list of its entries in key
order: no function of the port depends on the order of iteration. -/

/-- An `f64`, as its bits. -/
structure F64 where
  bits : BitVec 64
  deriving DecidableEq, Repr

namespace F64

/-- Neither an infinity nor a NaN. -/
def finite (number : F64) : Bool :=
  decide (number.bits.toNat / 2 ^ 52 % 2 ^ 11 ≠ 2 ^ 11 - 1)

/-- The nearest number, if it is no larger than all of them. -/
def ofRat (value : Rat) : F64 :=
  let sign := if value < 0 then 2 ^ 63 else 0
  let exponent := (Binary64.lastBit value + 1074).toNat
  let digits := (Binary64.roundEven
    (|value| / (2 : Rat) ^ Binary64.lastBit value)).toNat
  if value = 0 then ⟨0⟩
  else ⟨BitVec.ofNat 64
    (sign + min (exponent * 2 ^ 52 + digits) (2047 * 2 ^ 52))⟩

def isNegative (number : F64) : Bool :=
  decide (number.bits.toNat / 2 ^ 63 = 1)

def isNaN (number : F64) : Bool :=
  !number.finite && decide (number.bits.toNat % 2 ^ 52 ≠ 0)

/-- A finite number. -/
def toRat (number : F64) : Rat :=
  let exponent : Nat := number.bits.toNat / 2 ^ 52 % 2 ^ 11
  let digits : Nat := number.bits.toNat % 2 ^ 52
  let size : Rat :=
    if exponent = 0 then digits * (2 : Rat) ^ (-1074 : Int)
    else (2 ^ 52 + digits) * (2 : Rat) ^ ((exponent : Int) - 1075)
  if number.isNegative then -size else size

def nan : F64 := ⟨0x7ff8000000000000⟩

def ofNat (number : Nat) : F64 := ofRat number

def add (first second : F64) : F64 :=
  if first.isNaN || second.isNaN then nan
  else if !first.finite then
    if !second.finite && first.bits ≠ second.bits then nan else first
  else if !second.finite then second
  else if first.toRat + second.toRat = 0 then
    if first.isNegative && second.isNegative then first else ⟨0⟩
  else ofRat (first.toRat + second.toRat)

/-- `partial_cmp`: a NaN has no order. -/
def partialCmp (first second : F64) : Option Ordering :=
  if first.isNaN || second.isNaN then none
  else if first.finite && second.finite then
    some (compare first.toRat second.toRat)
  else if first.bits = second.bits then some .eq
  else if !first.finite then some (if first.isNegative then .lt else .gt)
  else some (if second.isNegative then .gt else .lt)

/-- `<=` -/
def le (first second : F64) : Bool :=
  (first.partialCmp second).any (· ≠ .gt)

end F64

inductive Value
  | null
  | bool (value : Bool)
  | number (value : F64)
  | string (value : String)
  | array (values : List Value)
  | object (entries : List (String × Value))
  deriving Repr

namespace Value

mutual
/-- How deep arrays and objects are nested. -/
def depth : Value → Nat
  | array values => depthItems values + 1
  | object entries => depthEntries entries + 1
  | _ => 0

def depthItems : List Value → Nat
  | [] => 0
  | value :: rest => max value.depth (depthItems rest)

def depthEntries : List (String × Value) → Nat
  | [] => 0
  | (_, value) :: rest => max value.depth (depthEntries rest)
end

theorem depthEntries_le_iff {entries : List (String × Value)} {bound : Nat} :
    depthEntries entries ≤ bound ↔
      ∀ entry ∈ entries, entry.2.depth ≤ bound := by
  induction entries with
  | nil => simp [depthEntries]
  | cons entry rest ih =>
      obtain ⟨key, value⟩ := entry
      simp [depthEntries, ih]

theorem depthEntries_collect (entries : List (String × Value)) :
    depthEntries (Entries.collect entries) ≤ depthEntries entries := by
  rw [depthEntries_le_iff]
  intro entry member
  exact depthEntries_le_iff.mp (Nat.le_refl _) entry
    (Entries.mem_of_collect member)

mutual
/-- Every number is finite. -/
def finite : Value → Bool
  | number value => value.finite
  | array values => finiteItems values
  | object entries => finiteEntries entries
  | _ => true

def finiteItems : List Value → Bool
  | [] => true
  | value :: rest => value.finite && finiteItems rest

def finiteEntries : List (String × Value) → Bool
  | [] => true
  | (_, value) :: rest => value.finite && finiteEntries rest
end

mutual
/-- Every object has its entries in key order. -/
def Ordered : Value → Prop
  | array values => OrderedItems values
  | object entries => Entries.Ordered entries ∧ OrderedEntries entries
  | _ => True

def OrderedItems : List Value → Prop
  | [] => True
  | value :: rest => value.Ordered ∧ OrderedItems rest

def OrderedEntries : List (String × Value) → Prop
  | [] => True
  | (_, value) :: rest => value.Ordered ∧ OrderedEntries rest
end

theorem orderedEntries_iff {entries : List (String × Value)} :
    OrderedEntries entries ↔ ∀ entry ∈ entries, entry.2.Ordered := by
  induction entries with
  | nil => simp [OrderedEntries]
  | cons entry rest ih =>
      obtain ⟨key, value⟩ := entry
      simp [OrderedEntries, ih]

theorem OrderedEntries.insert {entries : List (String × Value)}
    (ordered : OrderedEntries entries) {value : Value}
    (own : value.Ordered) (key : String) :
    OrderedEntries (Entries.insert key value entries) := by
  rw [orderedEntries_iff] at ordered ⊢
  intro entry member
  rcases Entries.mem_insert member with rfl | held
  · exact own
  · exact ordered entry held

theorem OrderedEntries.collect {entries : List (String × Value)}
    (ordered : OrderedEntries entries) :
    OrderedEntries (Entries.collect entries) := by
  have built (held : List (String × Value)) (start : OrderedEntries held) :
      OrderedEntries (entries.foldl (fun held entry =>
        Entries.insert entry.1 entry.2 held) held) := by
    induction entries generalizing held with
    | nil => exact start
    | cons entry rest ih => exact ih ordered.2 _ (start.insert ordered.1 entry.1)
  exact built [] trivial

end Value

/-- A `HashMap<String, Value>`. -/
structure State where
  entries : List (String × Value)
  ordered : (Value.object entries).Ordered

namespace State

@[ext] theorem ext {first second : State}
    (same : first.entries = second.entries) : first = second := by
  cases first
  cases second
  cases same
  rfl

def new : State := ⟨[], List.Pairwise.nil, trivial⟩

def toValue (state : State) : Value := .object state.entries

def depth (state : State) : Nat := state.toValue.depth

def finite (state : State) : Bool := state.toValue.finite

def isEmpty (state : State) : Bool := state.entries.isEmpty

def insert (state : State) (key : String) (value : Value)
    (own : value.Ordered) : State where
  entries := Entries.insert key value state.entries
  ordered := ⟨state.ordered.1.insert key value, state.ordered.2.insert own key⟩

end State

/-- `RuntimeError`: a message. -/
structure RuntimeError where
  message : String
  deriving DecidableEq, Repr

/-- A function of the port that may fail. -/
abbrev Result (α : Type) := Except RuntimeError α

theorem bind_eq_ok {α β : Type} {first : Result α} {next : α → Result β}
    {value : β} : (first >>= next) = .ok value ↔
      ∃ middle, first = .ok middle ∧ next middle = .ok value := by
  cases first with
  | error error => exact ⟨fun same => (by cases same), fun ⟨_, same, _⟩ => by
      cases same⟩
  | ok middle =>
      refine ⟨fun same => ⟨middle, rfl, same⟩, ?_⟩
      rintro ⟨_, same, later⟩
      cases same
      exact later

/-- FNV-1a over the bytes, in hexadecimal. -/
def stableHash (input : String) : String :=
  let hash := input.toUTF8.toList.foldl (fun hash byte =>
    (hash ^^^ byte.toUInt64) * 0x100000001b3) (0xcbf29ce484222325 : UInt64)
  let digits := Nat.toDigits 16 hash.toNat
  String.ofList (List.replicate (16 - digits.length) '0' ++ digits)

end AgentLedger.Rust
