import AgentLedger.Tools.Schema

namespace AgentLedger

open Foundation

/-! What the keywords of a schema mean, and that `validateToolSchema` decides
it. -/

mutual
/-- Equality of JSON values: numbers by their value, booleans apart. -/
def jsonEq : Json → Json → Bool
  | .null, .null => true
  | .bool left, .bool right => left == right
  | .str left, .str right => left == right
  | .arr left, .arr right => jsonEqItems left right
  | .obj left, .obj right => jsonEqFields left right
  | left, right =>
      match numberOf left, numberOf right with
      | some left, some right => decide (left.toRat = right.toRat)
      | _, _ => false

def jsonEqItems : List Json → List Json → Bool
  | [], [] => true
  | left :: lefts, right :: rights =>
      jsonEq left right && jsonEqItems lefts rights
  | _, _ => false

def jsonEqFields : Fields → Fields → Bool
  | [], [] => true
  | (key, left) :: lefts, (other, right) :: rights =>
      key == other && (jsonEq left right && jsonEqFields lefts rights)
  | _, _ => false
end

mutual
/-- Python tells apart no more than JSON does. -/
theorem pyEq_of_jsonEq : ∀ left right : Json,
    jsonEq left right = true → pyEq left right = true
  | .null, right => by
      cases right <;> simp [jsonEq, pyEq, numberOf]
  | .bool left, right => by
      cases right <;> simp [jsonEq, pyEq, numberOf, number?]
      rintro rfl
      rfl
  | .int left, right => by
      cases right <;> simp [jsonEq, pyEq, numberOf, number?, Number.toRat]
      exact of_decide_eq_true
  | .float left, right => by
      cases right <;> simp [jsonEq, pyEq, numberOf, number?, Number.toRat] <;>
        exact of_decide_eq_true
  | .str left, right => by
      cases right <;> simp [jsonEq, pyEq, numberOf]
  | .arr left, right => by
      have items := pyEqItems_of_jsonEqItems left
      cases right <;> simp [jsonEq, pyEq, numberOf]
      apply items
  | .obj left, right => by
      have fields := pyEqFields_of_jsonEqFields left
      cases right <;> simp [jsonEq, pyEq, numberOf]
      apply fields

theorem pyEqItems_of_jsonEqItems : ∀ left right : List Json,
    jsonEqItems left right = true → pyEqItems left right = true
  | [], right => by
      cases right <;> simp [jsonEqItems, pyEqItems]
  | item :: rest, right => by
      cases right with
      | nil => simp [jsonEqItems]
      | cons other others =>
          simp only [jsonEqItems, pyEqItems, Bool.and_eq_true]
          rintro ⟨first, last⟩
          exact ⟨pyEq_of_jsonEq item other first,
            pyEqItems_of_jsonEqItems rest others last⟩

theorem pyEqFields_of_jsonEqFields : ∀ left right : Fields,
    jsonEqFields left right = true → pyEqFields left right = true
  | [], right => by
      cases right <;> simp [jsonEqFields, pyEqFields]
  | (key, held) :: rest, right => by
      cases right with
      | nil => simp [jsonEqFields]
      | cons other others =>
          simp only [jsonEqFields, pyEqFields, Bool.and_eq_true]
          rintro ⟨named, first, last⟩
          exact ⟨named, pyEq_of_jsonEq held other.2 first,
            pyEqFields_of_jsonEqFields rest others last⟩
end

/-- Where implementations of the keywords differ: what is an integer, whether
`required` asks for an object, which items are the same, and when a number is
a multiple. -/
structure Reading where
  integer : Json → Bool
  requiresObject : Bool
  unique : List Json → Bool
  multiple : Number → Number → Bool

namespace Reading

/-- The reading of the JSON Schema standard. -/
def standard : Reading where
  integer := fun value => match numberOf value with
    | some number => decide (number.toRat.den = 1)
    | none => false
  requiresObject := false
  unique := fun items =>
    decide (items.Pairwise fun left right => jsonEq left right = false)
  multiple := fun value multiple =>
    decide ((value.toRat / multiple.toRat).den = 1)

/-- The reading of `validate_tool_schema`: an integer is written as one, only
objects have required properties, items are the same when they are written the
same, and a multiple is one up to a tolerance. -/
def runtime : Reading where
  integer := fun value => match value with
    | .int _ => true
    | _ => false
  requiresObject := true
  unique := fun items => decide items.Nodup
  multiple := fun value multiple =>
    match trueDivide value multiple with
    | .ok quotient => nearInteger quotient
    | .error _ => false

end Reading

namespace Keywords

variable (reading : Reading) (search : String → String → Bool)

def hasType (value : Json) : JsonType → Bool
  | .integer => reading.integer value
  | expected => matchesOne value expected

def typeValid (value : Json) : Option ExpectedType → Bool
  | none => true
  | some (.one expected) => hasType reading value expected
  | some (.any expected) => expected.any (hasType reading value)

/-- A bound that is missing holds. -/
def bounded (limit : Option Number) (holds : Rat → Bool) : Bool :=
  limit.all fun limit => holds limit.toRat

variable (keywords : Keywords)

def constValid (value : Json) : Bool :=
  keywords.const.all fun const => jsonEq value const

def enumValid (value : Json) : Bool :=
  keywords.enum.all fun enum => enum.any (jsonEq value)

def requiredValid (fields : Fields) : Bool :=
  (keywords.required.getD []).all fun key =>
    decide (key ∈ fields.map Prod.fst)

def sizeValid (fields : Fields) : Bool :=
  bounded keywords.minProperties (fun limit => decide (limit ≤ fields.length)) &&
  bounded keywords.maxProperties fun limit => decide (fields.length ≤ limit)

def lengthValid (elements : List Json) : Bool :=
  bounded keywords.minItems (fun limit => decide (limit ≤ elements.length)) &&
  bounded keywords.maxItems fun limit => decide (elements.length ≤ limit)

def stringValid (value : Json) : Bool :=
  match value with
  | .str text =>
      bounded keywords.minLength (fun limit => decide (limit ≤ text.length)) &&
      (bounded keywords.maxLength (fun limit => decide (text.length ≤ limit)) &&
      keywords.pattern.all fun pattern => search pattern text)
  | _ => true

def multipleValid (value : Number) : Bool :=
  keywords.multipleOf.all fun multiple =>
    decide (multiple.toRat = 0) || reading.multiple value multiple

def numberValid (value : Json) : Bool :=
  match numberOf value with
  | some value =>
      bounded keywords.minimum (fun limit => decide (limit ≤ value.toRat)) &&
      (bounded keywords.maximum (fun limit => decide (value.toRat ≤ limit)) &&
      (bounded keywords.exclusiveMinimum
        (fun limit => decide (limit < value.toRat)) &&
      (bounded keywords.exclusiveMaximum
        (fun limit => decide (value.toRat < limit)) &&
      keywords.multipleValid reading value)))
  | none => true

end Keywords

namespace Schema

variable (reading : Reading) (search : String → String → Bool)

/-- A property that is missing is valid. -/
def fieldValid (fields : Fields) (key : String) (valid : Json → Bool) : Bool :=
  (Fields.get? fields key).all valid

def additionalValid (additional : Additional (Json → Bool))
    (extra : List String) (fields : Fields) : Bool :=
  match additional with
  | .allowed allowed => allowed || extra.isEmpty
  | .schema valid => extra.all fun key => fieldValid fields key valid

def objectValid (keywords : Keywords) (properties : List (String × (Json → Bool)))
    (additional : Additional (Json → Bool)) (value : Json) : Bool :=
  match value with
  | .obj fields =>
      keywords.requiredValid fields &&
      ((properties.all fun property =>
        fieldValid fields property.1 property.2) &&
      (additionalValid additional
        (extraKeys (properties.map Prod.fst) fields) fields &&
      keywords.sizeValid fields))
  | _ => keywords.required.isNone || !reading.requiresObject

def arrayValid (keywords : Keywords) (items : Option (Json → Bool))
    (value : Json) : Bool :=
  match value with
  | .arr elements =>
      (items.all fun valid => elements.all valid) &&
      ((!keywords.uniqueItems || reading.unique elements) &&
      keywords.lengthValid elements)
  | _ => true

mutual
/-- Whether the value is valid against the schema. -/
def valid : Schema → Json → Bool
  | .mk keywords allOf anyOf oneOf not properties additionalProperties items,
      value =>
      ((valids allOf).all fun valid => valid value) &&
      ((anyOf.isEmpty || (valids anyOf).any fun valid => valid value) &&
      ((oneOf.isEmpty ||
        decide (((valids oneOf).countP fun valid => valid value) = 1)) &&
      (((validOf not).all fun valid => !valid value) &&
      (keywords.constValid value &&
      (keywords.enumValid value &&
      (Keywords.typeValid reading value keywords.type &&
      (objectValid reading keywords (propertyValids properties)
        (additionalValids additionalProperties) value &&
      (arrayValid reading keywords (validOf items) value &&
      (keywords.stringValid search value &&
      keywords.numberValid reading value)))))))))

def valids : List Schema → List (Json → Bool)
  | [] => []
  | schema :: rest => valid schema :: valids rest

def validOf : Option Schema → Option (Json → Bool)
  | none => none
  | some schema => some (valid schema)

def propertyValids : List (String × Schema) → List (String × (Json → Bool))
  | [] => []
  | (key, schema) :: rest => (key, valid schema) :: propertyValids rest

def additionalValids : Additional Schema → Additional (Json → Bool)
  | .allowed allowed => .allowed allowed
  | .schema schema => .schema (valid schema)
end

end Schema

/-! ### Outcomes -/

/-- The check passes, or refuses, as the verdict says. -/
def Judges (outcome : Except PyError Unit) (verdict : Bool) : Prop :=
  schemaPasses outcome = .ok verdict

namespace Judges

variable {outcome rest : Except PyError Unit} {verdict other : Bool}

theorem passed : Judges (.ok ()) true :=
  rfl

theorem refused (message : String) : Judges (refuse message) false :=
  rfl

theorem ite_refuse {condition : Prop} [Decidable condition]
    (message : String) :
    Judges (if condition then .ok () else refuse message)
      (decide condition) := by
  split
  · rename_i holds
    rw [decide_eq_true holds]
    exact passed
  · rename_i fails
    rw [decide_eq_false fails]
    exact refused message

theorem iff_ok (judges : Judges outcome verdict) :
    outcome = .ok () ↔ verdict = true := by
  cases outcome with
  | ok answer =>
      cases judges
      exact iff_of_true rfl rfl
  | error problem =>
      simp only [Judges, schemaPasses] at judges
      split at judges
      · cases judges
        exact iff_of_false nofun nofun
      · cases judges

theorem bind (judges : Judges outcome verdict)
    (next : verdict = true → Judges rest other) :
    Judges (outcome >>= fun _ => rest) (verdict && other) := by
  cases outcome with
  | ok answer =>
      cases judges
      exact next rfl
  | error problem =>
      simp only [Judges, schemaPasses] at judges
      split at judges
      · rename_i validation
        cases judges
        simp [Judges, schemaPasses, Bind.bind, Except.bind, validation]
      · cases judges

theorem forM {α : Type} {items : List α} {check : α → Except PyError Unit}
    {valid : α → Bool} (each : ∀ item ∈ items, Judges (check item) (valid item)) :
    Judges (items.forM check) (items.all valid) := by
  induction items with
  | nil => exact passed
  | cons item rest ih =>
      rw [List.all_cons]
      apply bind (each item (List.mem_cons_self ..))
      intro _
      exact ih fun other member => each other (List.mem_cons_of_mem _ member)

end Judges

section Lists

variable {checks : List Check} {valids : List (Json → Bool)} {value : Json}
  {path : String}

/-- Each check judges as its meaning does. -/
def Agree (check : Check) (valid : Json → Bool) (value : Json) : Prop :=
  ∀ path, Judges (check value path) (valid value)

theorem anyPasses_eq
    (agree : List.Forall₂ (fun check valid => Agree check valid value)
      checks valids) :
    anyPasses value path checks = .ok (valids.any fun valid => valid value) := by
  induction agree with
  | nil => rfl
  | cons first _ ih =>
      have judged : schemaPasses _ = .ok _ := first path
      rw [anyPasses, judged, List.any_cons]
      rename_i valid _ _ _
      cases valid value with
      | true => rfl
      | false => exact ih

theorem countPasses_eq
    (agree : List.Forall₂ (fun check valid => Agree check valid value)
      checks valids) :
    countPasses value path checks =
      .ok (valids.countP fun valid => valid value) := by
  induction agree with
  | nil => rfl
  | cons first _ ih =>
      have judged : schemaPasses _ = .ok _ := first path
      rw [countPasses, judged, ih, List.countP_cons]
      exact congrArg Except.ok (Nat.add_comm ..)

end Lists

/-! ### The keywords that hold no schema -/

section Leaves

variable {host : Host} {keywords : Keywords} {value : Json} {path : String}

theorem judges_bound {limit : Option Number} {value : Rat}
    {comparison : Comparison} {holds : Rat → Bool}
    (fits : ∀ limit, comparison.fails value limit = !holds limit) :
    Judges (host.checkBound limit value path comparison)
      (Keywords.bounded limit holds) := by
  cases limit with
  | none => exact .passed
  | some limit =>
      simp only [Host.checkBound, Keywords.bounded, Option.all_some, fits]
      cases holds limit.toRat with
      | true => exact .passed
      | false => exact .refused _

theorem judges_const
    (plain : ∀ const, keywords.const = some const →
      pyEq value const = true → jsonEq value const = true) :
    Judges (host.checkConst keywords.const value path)
      (keywords.constValid value) := by
  unfold Host.checkConst Keywords.constValid
  cases known : keywords.const with
  | none => exact .passed
  | some const =>
      have same : jsonEq value const = pyEq value const := by
        apply Bool.eq_iff_iff.mpr
        exact ⟨pyEq_of_jsonEq value const, plain const known⟩
      simp only [Option.all_some, same]
      cases pyEq value const with
      | true => exact .passed
      | false => exact .refused _

theorem judges_enum
    (plain : ∀ enum, keywords.enum = some enum →
      enum.any (pyEq value) = true → enum.any (jsonEq value) = true) :
    Judges (host.checkEnum keywords.enum value path)
      (keywords.enumValid value) := by
  unfold Host.checkEnum Keywords.enumValid
  cases known : keywords.enum with
  | none => exact .passed
  | some enum =>
      have same : enum.any (jsonEq value) = enum.any (pyEq value) := by
        apply Bool.eq_iff_iff.mpr
        refine ⟨?_, plain enum known⟩
        simp only [List.any_eq_true]
        rintro ⟨each, listed, equal⟩
        exact ⟨each, listed, pyEq_of_jsonEq value each equal⟩
      simp only [Option.all_some, same]
      cases enum.any (pyEq value) with
      | true => exact .passed
      | false => exact .refused _

theorem hasType_runtime (expected : JsonType) :
    Keywords.hasType .runtime value expected = matchesOne value expected := by
  cases expected <;> cases value <;> rfl

theorem judges_type {type : Option ExpectedType} :
    Judges (host.checkType type value path)
      (Keywords.typeValid .runtime value type) := by
  cases type with
  | none => exact .passed
  | some expected =>
      have same : Keywords.typeValid .runtime value (some expected) =
          matchesJsonType value expected := by
        cases expected with
        | one expected => exact hasType_runtime expected
        | any expected =>
            unfold Keywords.typeValid matchesJsonType
            exact congrArg expected.any (funext hasType_runtime)
      simp only [Host.checkType, same]
      cases matchesJsonType value expected with
      | true => exact .passed
      | false => exact .refused _

theorem judges_required {fields : Fields} :
    Judges (checkRequired (keywords.required.getD []) fields path)
      (keywords.requiredValid fields) := by
  apply Judges.forM
  intro key _
  exact .ite_refuse _

theorem judges_unique (seen elements : List Json) :
    Judges (checkUnique path seen elements)
      (decide (elements.Nodup ∧ ∀ item ∈ elements, item ∉ seen)) := by
  induction elements generalizing seen with
  | nil => exact .passed
  | cons item rest ih =>
      unfold checkUnique
      have split : decide ((item :: rest).Nodup ∧
            ∀ each ∈ item :: rest, each ∉ seen) =
          (decide (item ∉ seen) && decide (rest.Nodup ∧
            ∀ each ∈ rest, each ∉ item :: seen)) := by
        rw [← Bool.decide_and]
        apply decide_eq_decide.mpr
        simp only [List.nodup_cons, List.mem_cons, forall_eq_or_imp, not_or]
        grind
      rw [split]
      by_cases present : item ∈ seen
      · simp only [present, not_true, decide_false,
          Bool.false_and]
        exact .refused _
      · simp only [present, not_false_eq_true, decide_true,
          Bool.true_and]
        exact ih (item :: seen)

theorem judges_uniqueItems {elements : List Json} :
    Judges (checkUniqueItems keywords elements path)
      (!keywords.uniqueItems || Reading.runtime.unique elements) := by
  unfold checkUniqueItems
  cases keywords.uniqueItems with
  | false => exact .passed
  | true =>
      have judged := @judges_unique path [] elements
      simpa [Reading.runtime] using judged

theorem judges_string :
    Judges (host.checkString keywords value path)
      (keywords.stringValid host.search value) := by
  unfold Host.checkString Keywords.stringValid
  cases value with
  | str text =>
      apply Judges.bind (judges_bound fun limit => by
        simp [Comparison.fails, ← not_lt])
      intro _
      apply Judges.bind (judges_bound fun limit => by
        simp [Comparison.fails, ← not_lt])
      intro _
      cases keywords.pattern with
      | none => exact .passed
      | some pattern =>
          simp only [Option.all_some]
          cases host.search pattern text with
          | true => exact .passed
          | false => exact .refused _
  | _ => exact .passed

theorem judges_multiple {number : Number}
    (plain : ∀ multiple, keywords.multipleOf = some multiple →
      multiple.toRat ≠ 0 → ∃ quotient, trueDivide number multiple = .ok quotient) :
    Judges (host.checkMultiple keywords.multipleOf number path)
      (keywords.multipleValid .runtime number) := by
  unfold Host.checkMultiple Keywords.multipleValid
  cases known : keywords.multipleOf with
  | none => exact .passed
  | some multiple =>
      by_cases zero : multiple.toRat = 0
      · simp only [Option.all_some, zero, decide_true, Bool.true_or]
        exact .passed
      · obtain ⟨quotient, divided⟩ := plain multiple known zero
        simp only [Option.all_some, zero, decide_false, Bool.false_or, divided,
          Reading.runtime]
        change Judges (if nearInteger quotient = true then _ else _) _
        cases nearInteger quotient with
        | true => exact .passed
        | false => exact .refused _

theorem judges_number
    (plain : ∀ number multiple, numberOf value = some number →
      keywords.multipleOf = some multiple → multiple.toRat ≠ 0 →
      ∃ quotient, trueDivide number multiple = .ok quotient) :
    Judges (host.checkNumber keywords value path)
      (keywords.numberValid .runtime value) := by
  unfold Host.checkNumber Keywords.numberValid
  cases known : numberOf value with
  | none => exact .passed
  | some number =>
      apply Judges.bind (judges_bound fun limit => by
        simp [Comparison.fails, ← not_lt])
      intro _
      apply Judges.bind (judges_bound fun limit => by
        simp [Comparison.fails, ← not_lt])
      intro _
      apply Judges.bind (judges_bound fun limit => by
        simp [Comparison.fails, ← not_lt])
      intro _
      apply Judges.bind (judges_bound fun limit => by
        simp [Comparison.fails, ← not_lt])
      intro _
      apply judges_multiple
      intro multiple
      exact plain number multiple known

end Leaves

/-! ### Whole schemas -/

namespace Schema

def keywords : Schema → Keywords
  | .mk keywords .. => keywords

/-- A part of the schema and the part of the value that it is checked on. -/
inductive Child : Schema → Json → Schema → Json → Prop
  | allOf {keywords allOf anyOf oneOf not properties additional items sub}
      {value : Json} (listed : sub ∈ allOf) :
      Child (.mk keywords allOf anyOf oneOf not properties additional items)
        value sub value
  | anyOf {keywords allOf anyOf oneOf not properties additional items sub}
      {value : Json} (listed : sub ∈ anyOf) :
      Child (.mk keywords allOf anyOf oneOf not properties additional items)
        value sub value
  | oneOf {keywords allOf anyOf oneOf not properties additional items sub}
      {value : Json} (listed : sub ∈ oneOf) :
      Child (.mk keywords allOf anyOf oneOf not properties additional items)
        value sub value
  | not {keywords allOf anyOf oneOf properties additional items sub}
      {value : Json} :
      Child (.mk keywords allOf anyOf oneOf (some sub) properties additional
        items) value sub value
  | property {keywords allOf anyOf oneOf not properties additional items key
        sub fields held} (listed : (key, sub) ∈ properties)
      (found : Fields.get? fields key = some held) :
      Child (.mk keywords allOf anyOf oneOf not properties additional items)
        (.obj fields) sub held
  | additional {keywords allOf anyOf oneOf not properties items key sub fields
        held} (extra : key ∈ extraKeys (properties.map Prod.fst) fields)
      (found : Fields.get? fields key = some held) :
      Child (.mk keywords allOf anyOf oneOf not properties (.schema sub) items)
        (.obj fields) sub held
  | item {keywords allOf anyOf oneOf not properties additional sub elements
        held} (listed : held ∈ elements) :
      Child (.mk keywords allOf anyOf oneOf not properties additional
        (some sub)) (.arr elements) sub held

/-- The places where a check of the value can get. -/
inductive Reaches : Schema → Json → Schema → Json → Prop
  | here (schema : Schema) (value : Json) : Reaches schema value schema value
  | child {schema value sub held last final}
      (first : Child schema value sub held)
      (rest : Reaches sub held last final) : Reaches schema value last final

end Schema

/-- No `const` or `enum` takes a boolean for the number that Python takes it
for, and no division by `multipleOf` leaves the range of floats. -/
structure Keywords.Plain (keywords : Keywords) (value : Json) : Prop where
  const : ∀ const, keywords.const = some const →
    pyEq value const = true → jsonEq value const = true
  enum : ∀ enum, keywords.enum = some enum →
    enum.any (pyEq value) = true → enum.any (jsonEq value) = true
  multipleOf : ∀ number multiple, numberOf value = some number →
    keywords.multipleOf = some multiple → multiple.toRat ≠ 0 →
    ∃ quotient, trueDivide number multiple = .ok quotient

def Schema.Clear (schema : Schema) (value : Json) : Prop :=
  ∀ sub held, schema.Reaches value sub held → sub.keywords.Plain held

section Whole

variable {host : Host} {keywords : Keywords} {path : String}

theorem Schema.Clear.child {schema sub : Schema} {value held : Json}
    (clear : schema.Clear value) (child : schema.Child value sub held) :
    sub.Clear held := by
  intro last final reached
  exact clear last final (.child child reached)

theorem judges_items {check : Check} {valid : Json → Bool}
    {elements : List Json}
    (agree : ∀ item ∈ elements, Agree check valid item) (index : Nat) :
    Judges (checkItemsFrom check path index elements) (elements.all valid) := by
  induction elements generalizing index with
  | nil => exact .passed
  | cons item rest ih =>
      unfold checkItemsFrom
      rw [List.all_cons]
      apply Judges.bind (agree item (List.mem_cons_self ..) _)
      intro _
      exact ih (fun other listed => agree other
        (List.mem_cons_of_mem _ listed)) (index + 1)

theorem judges_property {fields : Fields} {key : String} {check : Check}
    {valid : Json → Bool}
    (agree : ∀ held, Fields.get? fields key = some held →
      Agree check valid held) :
    Judges (checkProperty fields path key check)
      (Schema.fieldValid fields key valid) := by
  unfold checkProperty Schema.fieldValid
  cases found : Fields.get? fields key with
  | none => exact .passed
  | some held => exact agree held found _

theorem judges_anyOf {checks : List Check} {valids : List (Json → Bool)}
    {value : Json}
    (agree : List.Forall₂ (fun check valid => Agree check valid value)
      checks valids) :
    Judges (Host.checkAnyOf checks value path)
      (valids.isEmpty || valids.any fun valid => valid value) := by
  unfold Host.checkAnyOf
  cases agree with
  | nil => exact .passed
  | cons first rest =>
      rw [anyPasses_eq (.cons first rest)]
      simp only [List.isEmpty_cons, Bool.false_or]
      cases List.any _ _ with
      | true => exact .passed
      | false => exact .refused _

theorem judges_oneOf {checks : List Check} {valids : List (Json → Bool)}
    {value : Json}
    (agree : List.Forall₂ (fun check valid => Agree check valid value)
      checks valids) :
    Judges (Host.checkOneOf checks value path)
      (valids.isEmpty ||
        decide ((valids.countP fun valid => valid value) = 1)) := by
  unfold Host.checkOneOf
  cases agree with
  | nil => exact .passed
  | cons first rest =>
      rw [countPasses_eq (.cons first rest)]
      simp only [List.isEmpty_cons, Bool.false_or]
      generalize List.countP _ _ = found
      by_cases one : found = 1
      · subst one
        exact .passed
      · rw [decide_eq_false one]
        change Judges (if found ≠ 1 then _ else _) false
        rw [if_pos one]
        exact .refused _

theorem judges_not {check : Option Check} {valid : Option (Json → Bool)}
    {value : Json}
    (agree : Option.Rel (fun check valid => ∀ held, held = value →
      Agree check valid held) check valid) :
    Judges (Host.checkNot check value path)
      (valid.all fun valid => !valid value) := by
  cases agree with
  | none => exact .passed
  | some agrees =>
      rename_i check valid
      have judged : schemaPasses (check value path) = .ok (valid value) :=
        agrees value rfl path
      simp only [Host.checkNot, judged, Option.all_some]
      cases valid value with
      | true => exact .refused _
      | false => exact .passed

/-- A check of the properties, and its meaning, for the fields of a value. -/
def PropertiesAgree (fields : Fields) : List (String × Check) →
    List (String × (Json → Bool)) → Prop :=
  List.Forall₂ fun check valid => check.1 = valid.1 ∧
    ∀ held, Fields.get? fields check.1 = some held →
      Agree check.2 valid.2 held

theorem PropertiesAgree.names {fields : Fields}
    {checks : List (String × Check)} {valids : List (String × (Json → Bool))}
    (agree : PropertiesAgree fields checks valids) :
    checks.map Prod.fst = valids.map Prod.fst := by
  induction agree with
  | nil => rfl
  | cons first _ ih => rw [List.map_cons, List.map_cons, first.1, ih]

theorem PropertiesAgree.judges {fields : Fields}
    {checks : List (String × Check)} {valids : List (String × (Json → Bool))}
    (agree : PropertiesAgree fields checks valids) :
    Judges
      (checks.forM fun property =>
        checkProperty fields path property.1 property.2)
      (valids.all fun property =>
        Schema.fieldValid fields property.1 property.2) := by
  induction agree with
  | nil => exact .passed
  | cons first _ ih =>
      rw [List.all_cons]
      apply Judges.bind
      · rw [← first.1]
        exact judges_property first.2
      · intro _
        exact ih

/-- The check of the other properties, and its meaning. -/
inductive AdditionalAgree (fields : Fields) (extra : List String) :
    Additional Check → Additional (Json → Bool) → Prop
  | allowed (allowed : Bool) :
      AdditionalAgree fields extra (.allowed allowed) (.allowed allowed)
  | schema {check valid}
      (agree : ∀ key held, key ∈ extra → Fields.get? fields key = some held →
        Agree check valid held) :
      AdditionalAgree fields extra (.schema check) (.schema valid)

theorem AdditionalAgree.judges {fields : Fields} {extra : List String}
    {check : Additional Check} {valid : Additional (Json → Bool)}
    (agree : AdditionalAgree fields extra check valid) :
    Judges (host.checkAdditional check extra fields path)
      (Schema.additionalValid valid extra fields) := by
  cases agree with
  | allowed allowed =>
      unfold Host.checkAdditional Schema.additionalValid
      cases allowed <;> cases extra <;>
        first | exact .passed | exact .refused _
  | schema agree =>
      apply Judges.forM
      intro key listed
      exact judges_property fun held found => agree key held listed found

theorem judges_object {checks : List (String × Check)}
    {valids : List (String × (Json → Bool))} {check : Additional Check}
    {valid : Additional (Json → Bool)} {value : Json}
    (properties : ∀ fields, value = .obj fields →
      PropertiesAgree fields checks valids)
    (additional : ∀ fields, value = .obj fields →
      AdditionalAgree fields (extraKeys (checks.map Prod.fst) fields)
        check valid) :
    Judges (host.checkObject keywords checks check value path)
      (Schema.objectValid .runtime keywords valids valid value) := by
  unfold Host.checkObject Schema.objectValid
  cases value with
  | obj fields =>
      have agrees := properties fields rfl
      have others := additional fields rfl
      apply Judges.bind judges_required
      intro _
      apply Judges.bind agrees.judges
      intro _
      apply Judges.bind
      · rw [← agrees.names]
        exact others.judges
      intro _
      apply Judges.bind (judges_bound fun limit => by
        simp [Comparison.fails, ← not_lt])
      intro _
      exact judges_bound fun limit => by simp [Comparison.fails, ← not_lt]
  | _ =>
      cases keywords.required with
      | none => exact .passed
      | some required => exact .refused _

theorem judges_array {check : Option Check} {valid : Option (Json → Bool)}
    {value : Json}
    (agree : ∀ elements, value = .arr elements →
      Option.Rel (fun check valid => ∀ item ∈ elements, Agree check valid item)
        check valid) :
    Judges (host.checkArray keywords check value path)
      (Schema.arrayValid .runtime keywords valid value) := by
  unfold Host.checkArray Schema.arrayValid
  cases value with
  | arr elements =>
      apply Judges.bind
      · cases agree elements rfl with
        | none => exact .passed
        | some agrees => exact judges_items agrees 0
      intro _
      apply Judges.bind judges_uniqueItems
      intro _
      apply Judges.bind (judges_bound fun limit => by
        simp [Comparison.fails, ← not_lt])
      intro _
      exact judges_bound fun limit => by simp [Comparison.fails, ← not_lt]
  | _ => exact .passed

theorem Schema.isEmpty_valids {reading : Reading}
    {search : String → String → Bool} (schemas : List Schema) :
    (valids reading search schemas).isEmpty = schemas.isEmpty := by
  cases schemas <;> rfl

theorem Host.names_propertyChecks (host : Host)
    (properties : List (String × Schema)) :
    (host.propertyChecks properties).map Prod.fst =
      properties.map Prod.fst := by
  induction properties with
  | nil => rfl
  | cons property rest ih =>
      rw [Host.propertyChecks, List.map_cons, List.map_cons, ih]

theorem judges_allOf {checks : List Check} {valids : List (Json → Bool)}
    {value : Json}
    (agree : List.Forall₂ (fun check valid => Agree check valid value)
      checks valids) :
    Judges (checks.forM fun check => check value path)
      (valids.all fun valid => valid value) := by
  induction agree with
  | nil => exact .passed
  | cons first _ ih =>
      rw [List.all_cons]
      apply Judges.bind (first path)
      intro _
      exact ih

mutual
/-- The validation decides what the schema means, by induction over it. -/
theorem judges_schema (host : Host) : ∀ (schema : Schema) (value : Json),
    schema.Clear value →
    Agree (host.validateToolSchema schema)
      (schema.valid .runtime host.search) value
  | .mk keywords allOf anyOf oneOf not properties additional items, value,
      clear => by
      intro path
      have plain := clear _ _ (.here _ value)
      unfold Host.validateToolSchema Schema.valid
      apply Judges.bind
      · exact judges_allOf (agree_checks host allOf value fun sub listed =>
          clear.child (.allOf listed))
      intro _
      apply Judges.bind
      · rw [← Schema.isEmpty_valids]
        exact judges_anyOf (agree_checks host anyOf value fun sub listed =>
          clear.child (.anyOf listed))
      intro _
      apply Judges.bind
      · rw [← Schema.isEmpty_valids]
        exact judges_oneOf (agree_checks host oneOf value fun sub listed =>
          clear.child (.oneOf listed))
      intro _
      apply Judges.bind
      · apply judges_not
        exact agree_checkOf host not (fun held => held = value)
          fun sub known held same => by
            subst known same
            exact clear.child .not
      intro _
      apply Judges.bind (judges_const plain.const)
      intro _
      apply Judges.bind (judges_enum plain.enum)
      intro _
      apply Judges.bind judges_type
      intro _
      apply Judges.bind
      · apply judges_object
        · rintro fields rfl
          exact agree_properties host properties fields
            fun key sub listed held found =>
              clear.child (.property listed found)
        · rintro fields rfl
          rw [Host.names_propertyChecks]
          exact agree_additional host additional fields _
            fun sub known key listed held found => by
              subst known
              exact clear.child (.additional listed found)
      intro _
      apply Judges.bind
      · apply judges_array
        rintro elements rfl
        exact agree_checkOf host items (fun held => held ∈ elements)
          fun sub known held listed => by
            subst known
            exact clear.child (.item listed)
      intro _
      apply Judges.bind judges_string
      intro _
      exact judges_number plain.multipleOf

theorem agree_checks (host : Host) : ∀ (schemas : List Schema) (value : Json),
    (∀ sub ∈ schemas, sub.Clear value) →
    List.Forall₂ (fun check valid => Agree check valid value)
      (host.checks schemas) (Schema.valids .runtime host.search schemas)
  | [], _, _ => .nil
  | schema :: rest, value, clear =>
      .cons (judges_schema host schema value (clear _ (List.mem_cons_self ..)))
        (agree_checks host rest value fun sub listed =>
          clear sub (List.mem_cons_of_mem _ listed))

theorem agree_checkOf (host : Host) : ∀ (schema : Option Schema)
    (here : Json → Prop),
    (∀ sub, schema = some sub → ∀ held, here held → sub.Clear held) →
    Option.Rel (fun check valid => ∀ held, here held → Agree check valid held)
      (host.checkOf schema) (Schema.validOf .runtime host.search schema)
  | none, _, _ => .none
  | some schema, _, clear => .some fun held listed =>
      judges_schema host schema held (clear schema rfl held listed)

theorem agree_properties (host : Host) : ∀ (properties : List (String × Schema))
    (fields : Fields),
    (∀ key sub, (key, sub) ∈ properties → ∀ held,
      Fields.get? fields key = some held → sub.Clear held) →
    PropertiesAgree fields (host.propertyChecks properties)
      (Schema.propertyValids .runtime host.search properties)
  | [], _, _ => .nil
  | (key, schema) :: rest, fields, clear =>
      .cons ⟨rfl, fun held found => judges_schema host schema held
          (clear key schema (List.mem_cons_self ..) held found)⟩
        (agree_properties host rest fields fun other sub listed =>
          clear other sub (List.mem_cons_of_mem _ listed))

theorem agree_additional (host : Host) : ∀ (additional : Additional Schema)
    (fields : Fields) (extra : List String),
    (∀ sub, additional = .schema sub → ∀ key ∈ extra, ∀ held,
      Fields.get? fields key = some held → sub.Clear held) →
    AdditionalAgree fields extra (host.additionalCheck additional)
      (Schema.additionalValids .runtime host.search additional)
  | .allowed allowed, _, _, _ => .allowed allowed
  | .schema schema, _, _, clear => .schema fun key held listed found =>
      judges_schema host schema held (clear schema rfl key listed held found)
end

/-- The validation passes exactly what is valid, in the runtime's reading.  A
schema's `const` and `enum` mean `jsonEq`, with booleans apart from numbers, where
the runtime asks `==`. -/
theorem validateToolSchema_iff_valid (host : Host) (schema : Schema)
    (value : Json) (path : String) (clear : schema.Clear value) :
    host.validateToolSchema schema value path = .ok () ↔
      schema.valid .runtime host.search value = true :=
  (judges_schema host schema value clear path).iff_ok

end Whole

def quietHost : Host where
  repr := fun _ => ""
  str := fun _ => ""
  search := fun _ _ => true

/-- A schema of keywords that hold no schema. -/
def Keywords.alone (keywords : Keywords) : Schema :=
  .mk keywords [] [] [] none [] (.allowed true) none

/-- An object with a mode, which is one of two texts. -/
def modeSchema : Schema :=
  .mk { type := some (.one .object), required := some ["mode"] } [] [] [] none
    [("mode", Keywords.alone { enum := some [.str "fast", .str "safe"] })]
    (.allowed false) none

theorem mode_valid :
    modeSchema.Clear (.obj [("mode", .str "safe")]) ∧
    quietHost.validateToolSchema modeSchema (.obj [("mode", .str "safe")])
      "args" = .ok () := by
  have clear : modeSchema.Clear (.obj [("mode", .str "safe")]) := by
    intro sub held reached
    cases reached with
    | here => exact ⟨nofun, nofun, nofun⟩
    | child first rest =>
        cases first with
        | property listed found =>
            cases List.eq_of_mem_singleton listed
            cases found
            cases rest with
            | here =>
                refine ⟨nofun, ?_, nofun⟩
                intro enum known
                cases known
                decide
            | child deeper =>
                cases deeper with
                | allOf none => cases none
                | anyOf none => cases none
                | oneOf none => cases none
        | allOf none => cases none
        | anyOf none => cases none
        | oneOf none => cases none
  refine ⟨clear, ?_⟩
  apply (validateToolSchema_iff_valid quietHost modeSchema _ _ clear).mpr
  decide

/-- Each point on which the reading of the runtime is not the standard's:
required properties of a number, the integer 1.0, equal items 1 and 1.0, and a
multiple that is none. -/
theorem runtime_reading_differs :
    (quietHost.validateToolSchema (Keywords.alone { required := some [] })
        (.int 3) "$" ≠ .ok () ∧
      (Keywords.alone { required := some [] }).valid .standard
        quietHost.search (.int 3) = true) ∧
    (quietHost.validateToolSchema
        (Keywords.alone { type := some (.one .integer) }) (.float 1) "$" ≠
        .ok () ∧
      (Keywords.alone { type := some (.one .integer) }).valid .standard
        quietHost.search (.float 1) = true) ∧
    (quietHost.validateToolSchema (Keywords.alone { uniqueItems := true })
        (.arr [.int 1, .float 1]) "$" = .ok () ∧
      (Keywords.alone { uniqueItems := true }).valid .standard
        quietHost.search (.arr [.int 1, .float 1]) = false) ∧
    (quietHost.validateToolSchema
        (Keywords.alone { multipleOf := some (.int 10000000000000) }) (.int 1)
        "$" = .ok () ∧
      (Keywords.alone { multipleOf := some (.int 10000000000000) }).valid
        .standard quietHost.search (.int 1) = false) ∧
    ¬∀ (host : Host) (schema : Schema) (value : Json) (path : String),
      host.validateToolSchema schema value path = .ok () ↔
        schema.valid .standard host.search value = true := by
  have required : quietHost.validateToolSchema
        (Keywords.alone { required := some [] }) (.int 3) "$" ≠ .ok () ∧
      (Keywords.alone { required := some [] }).valid .standard
        quietHost.search (.int 3) = true := by
    decide
  refine ⟨required, by decide, by decide, by decide +kernel, ?_⟩
  intro follows
  exact required.1 ((follows _ _ _ _).mpr required.2)

end AgentLedger
