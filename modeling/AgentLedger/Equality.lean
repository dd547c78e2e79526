import AgentLedger.Diff

namespace AgentLedger

open Foundation

/-! What Python's `==` sees of JSON values: everything but the types of the
numbers. -/

mutual
/-- The value with every number, and every truth value, as a float. -/
def loosen : Json → Json
  | .bool value => .float (if value then 1 else 0)
  | .int value => .float value
  | .arr items => .arr (loosenItems items)
  | .obj fields => .obj (loosenFields fields)
  | value => value

def loosenItems : List Json → List Json
  | [] => []
  | item :: rest => loosen item :: loosenItems rest

def loosenFields : List (String × Json) → List (String × Json)
  | [] => []
  | (key, value) :: rest => (key, loosen value) :: loosenFields rest
end

inductive NumberType
  | bool
  | int
  | float
  deriving DecidableEq, Repr

mutual
/-- The types of the numbers in a value, from left to right. -/
def numberTypes : Json → List NumberType
  | .bool _ => [.bool]
  | .int _ => [.int]
  | .float _ => [.float]
  | .arr items => numberTypesItems items
  | .obj fields => numberTypesFields fields
  | _ => []

def numberTypesItems : List Json → List NumberType
  | [] => []
  | item :: rest => numberTypes item ++ numberTypesItems rest

def numberTypesFields : List (String × Json) → List NumberType
  | [] => []
  | (_, value) :: rest => numberTypes value ++ numberTypesFields rest
end

mutual
theorem pyEq_iff : ∀ left right : Json,
    pyEq left right = true ↔ loosen left = loosen right
  | .null, right => by cases right <;> simp [pyEq, number?, loosen]
  | .bool left, right => by cases right <;> simp [pyEq, number?, loosen]
  | .int left, right => by cases right <;> simp [pyEq, number?, loosen]
  | .float left, right => by cases right <;> simp [pyEq, number?, loosen]
  | .str left, right => by cases right <;> simp [pyEq, number?, loosen]
  | .arr left, right => by
      cases right <;> simp [pyEq, number?, loosen, pyEqItems_iff left]
  | .obj left, right => by
      cases right <;> simp [pyEq, number?, loosen, pyEqFields_iff left]

theorem pyEqItems_iff : ∀ left right : List Json,
    pyEqItems left right = true ↔ loosenItems left = loosenItems right
  | [], right => by cases right <;> simp [pyEqItems, loosenItems]
  | left :: lefts, right => by
      cases right <;>
        simp [pyEqItems, loosenItems, pyEq_iff left, pyEqItems_iff lefts]

theorem pyEqFields_iff : ∀ left right : List (String × Json),
    pyEqFields left right = true ↔ loosenFields left = loosenFields right
  | [], right => by cases right <;> simp [pyEqFields, loosenFields]
  | (key, left) :: lefts, right => by
      cases right with
      | nil => simp [pyEqFields, loosenFields]
      | cons field rights =>
          obtain ⟨other, right⟩ := field
          simp [pyEqFields, loosenFields, pyEq_iff left, pyEqFields_iff lefts,
            and_assoc]
end

/-! ### What is left to tell -/

mutual
theorem length_numberTypes_loosen : ∀ value : Json,
    (numberTypes (loosen value)).length = (numberTypes value).length
  | .null => rfl
  | .bool _ => rfl
  | .int _ => rfl
  | .float _ => rfl
  | .str _ => rfl
  | .arr items => length_numberTypesItems_loosen items
  | .obj fields => length_numberTypesFields_loosen fields

theorem length_numberTypesItems_loosen : ∀ items : List Json,
    (numberTypesItems (loosenItems items)).length =
      (numberTypesItems items).length
  | [] => rfl
  | item :: rest => by
      simp [loosenItems, numberTypesItems, length_numberTypes_loosen item,
        length_numberTypesItems_loosen rest]

theorem length_numberTypesFields_loosen : ∀ fields : List (String × Json),
    (numberTypesFields (loosenFields fields)).length =
      (numberTypesFields fields).length
  | [] => rfl
  | (key, value) :: rest => by
      simp [loosenFields, numberTypesFields, length_numberTypes_loosen value,
        length_numberTypesFields_loosen rest]
end

private theorem length_numberTypes {left right : Json}
    (same : loosen left = loosen right) :
    (numberTypes left).length = (numberTypes right).length := by
  rw [← length_numberTypes_loosen left, same, length_numberTypes_loosen]

mutual
/-- Values that `==` cannot tell apart are equal if their numbers have the same
types. -/
theorem eq_of_loosen : ∀ {left right : Json}, loosen left = loosen right →
    numberTypes left = numberTypes right → left = right
  | .null, right, same, _ => by cases right <;> simp_all [loosen]
  | .bool left, right, same, types => by
      cases right with
      | bool right => cases left <;> cases right <;> simp_all [loosen]
      | _ => simp_all [loosen, numberTypes]
  | .int left, right, same, types => by
      cases right <;> simp_all [loosen, numberTypes]
  | .float left, right, same, types => by
      cases right <;> simp_all [loosen, numberTypes]
  | .str left, right, same, _ => by cases right <;> simp_all [loosen]
  | .arr left, right, same, types => by
      cases right with
      | arr right =>
          simp only [loosen, Json.arr.injEq] at same
          exact congrArg Json.arr (eqItems_of_loosen same types)
      | _ => simp [loosen] at same
  | .obj left, right, same, types => by
      cases right with
      | obj right =>
          simp only [loosen, Json.obj.injEq] at same
          exact congrArg Json.obj (eqFields_of_loosen same types)
      | _ => simp [loosen] at same

theorem eqItems_of_loosen : ∀ {left right : List Json},
    loosenItems left = loosenItems right →
    numberTypesItems left = numberTypesItems right → left = right
  | [], right, same, _ => by cases right <;> simp_all [loosenItems]
  | left :: lefts, right, same, types => by
      cases right with
      | nil => simp [loosenItems] at same
      | cons right rights =>
          simp only [loosenItems, List.cons.injEq] at same
          obtain ⟨first, others⟩ :=
            List.append_inj types (length_numberTypes same.1)
          rw [eq_of_loosen same.1 first, eqItems_of_loosen same.2 others]

theorem eqFields_of_loosen : ∀ {left right : List (String × Json)},
    loosenFields left = loosenFields right →
    numberTypesFields left = numberTypesFields right → left = right
  | [], right, same, _ => by cases right <;> simp_all [loosenFields]
  | (key, left) :: lefts, right, same, types => by
      cases right with
      | nil => simp [loosenFields] at same
      | cons field rights =>
          obtain ⟨other, right⟩ := field
          simp only [loosenFields, List.cons.injEq, Prod.mk.injEq] at same
          obtain ⟨first, others⟩ :=
            List.append_inj types (length_numberTypes same.1.2)
          rw [same.1.1, eq_of_loosen same.1.2 first,
            eqFields_of_loosen same.2 others]
end

/-! ### Entries that may be missing -/

/-- Where `None` stands for a missing entry, `==` takes the two as one. -/
def Blurred (left right : Option Json) : Prop :=
  loosen (left.getD .null) = loosen (right.getD .null)

/-- Both are there or neither, and their numbers have the same types. -/
def SameForm (left right : Option Json) : Prop :=
  left.isSome = right.isSome ∧
    numberTypes (left.getD .null) = numberTypes (right.getD .null)

theorem blurred_iff {left right : Option Json} :
    Blurred left right ↔ pyEq (left.getD .null) (right.getD .null) = true :=
  (pyEq_iff _ _).symm

theorem eq_iff_sameForm {left right : Option Json}
    (blurred : Blurred left right) : left = right ↔ SameForm left right := by
  constructor
  · intro same
    subst same
    exact ⟨rfl, rfl⟩
  · rintro ⟨present, types⟩
    have same := eq_of_loosen blurred types
    cases left <;> cases right <;> simp_all

end AgentLedger
