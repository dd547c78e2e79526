import Mathlib.Data.List.Basic

namespace Foundation

/-! Methods of a store that read it, write to it, and then answer or fail: what
came before a failure stays written. -/

structure Outcome (ε Write α : Type) where
  result : Except ε α
  writes : List Write
  /-- The store is saved before the method answers. -/
  saves : Bool

namespace Outcome

variable {ε Write α : Type}

def answer (value : α) (writes : List Write) : Outcome ε Write α :=
  ⟨.ok value, writes, true⟩

/-- There is nothing to write. -/
def early (value : α) : Outcome ε Write α := ⟨.ok value, [], false⟩

def refuse (error : ε) : Outcome ε Write α := ⟨.error error, [], false⟩

def map {β : Type} (change : α → β) (outcome : Outcome ε Write α) :
    Outcome ε Write β :=
  ⟨outcome.result.map change, outcome.writes, outcome.saves⟩

/-- What is checked before anything is written. -/
def attempt : Except ε (Outcome ε Write α) → Outcome ε Write α
  | .ok outcome => outcome
  | .error error => refuse error

end Outcome

section Apply

variable {Write σ : Type} (apply : Write → σ → σ)

/-- The writes, one after the other. -/
def applyAll (writes : List Write) (state : σ) : σ :=
  writes.foldl (fun state write => apply write state) state

@[simp] theorem applyAll_nil (state : σ) : applyAll apply [] state = state :=
  rfl

@[simp] theorem applyAll_cons (write : Write) (writes : List Write)
    (state : σ) : applyAll apply (write :: writes) state =
      applyAll apply writes (apply write state) := rfl

theorem applyAll_append (first second : List Write) (state : σ) :
    applyAll apply (first ++ second) state =
      applyAll apply second (applyAll apply first state) :=
  List.foldl_append

variable {apply}

theorem applyAll_keeps (good : σ → Prop) {writes : List Write}
    (each : ∀ write ∈ writes, ∀ state, good state → good (apply write state))
    {state : σ} (start : good state) : good (applyAll apply writes state) := by
  induction writes generalizing state with
  | nil => exact start
  | cons write rest ih =>
      apply ih
      · exact fun other member => each other (List.mem_cons_of_mem _ member)
      · exact each write List.mem_cons_self state start

theorem applyAll_same {β : Type} (view : σ → β) {writes : List Write}
    (each : ∀ write ∈ writes, ∀ state, view (apply write state) = view state)
    (state : σ) : view (applyAll apply writes state) = view state :=
  applyAll_keeps (fun reached => view reached = view state)
    (fun write member reached same => (each write member reached).trans same)
    rfl

end Apply

end Foundation
