import AgentLedger.Equality
import AgentLedger.Ports.Requests
import AgentLedger.Ports.Schemas
import AgentLedger.Tools.Validation

namespace AgentLedger.Ports

open Foundation

/-! What the keywords mean in each language, and where the four agree. -/

/-- The points on which the languages differ. -/
structure Meaning where
  /-- The value equals a constant of the schema. -/
  same : Json → Json → Bool
  length : String → Nat
  /-- Keywords apply without the type that they belong to. -/
  untyped : Bool
  /-- `array` and `null` are types. -/
  knowsAll : Bool
  /-- An object may have any keys, unless the schema has properties. -/
  lenient : Bool

namespace Meaning

variable (meaning : Meaning)

def typeFits (type : Option String) (value : Json) : Bool :=
  if type = some "object" then value matches .obj _
  else if type = some "string" then value matches .str _
  else if type = some "number" ∨ type = some "integer" then
    value matches .int _
  else if type = some "boolean" then value matches .bool _
  else if meaning.knowsAll ∧ type = some "array" then value matches .arr _
  else if meaning.knowsAll ∧ type = some "null" then value matches .null
  else true

def constFits (keywords : PlainKeywords) (value : Json) : Bool :=
  keywords.const.all fun document => meaning.same document.json value

def enumFits (keywords : PlainKeywords) (value : Json) : Bool :=
  keywords.enum.all fun items =>
    items.any fun document => meaning.same document.json value

def requiredFits (keywords : PlainKeywords) (fields : Fields) : Bool :=
  (keywords.required.getD []).all fun key => key ∈ Fields.keys fields

def closedFits (keywords : PlainKeywords) (names : Option (List String))
    (fields : Fields) : Bool :=
  !keywords.closed || (meaning.lenient && names.isNone) ||
    (Fields.keys fields).all fun key => key ∈ names.getD []

def objectFits (keywords : PlainKeywords) (names : Option (List String))
    (childrenFit : Fields → Bool) (value : Json) : Bool :=
  match value with
  | .obj fields =>
      if meaning.untyped ∨ keywords.type = some "object" then
        requiredFits keywords fields &&
          (childrenFit fields && meaning.closedFits keywords names fields)
      else true
  | _ => !meaning.untyped || keywords.required.isNone

def lengthFits (keywords : PlainKeywords) (text : String) : Bool :=
  (keywords.minLength.all fun limit => limit.1 ≤ (meaning.length text : Int)) &&
    keywords.maxLength.all fun limit => (meaning.length text : Int) ≤ limit.1

def stringFits (keywords : PlainKeywords) (value : Json) : Bool :=
  match value with
  | .str text =>
      if meaning.untyped ∨ keywords.type = some "string" then
        meaning.lengthFits keywords text
      else true
  | _ => true

def rangeFits (keywords : PlainKeywords) (number : Int) : Bool :=
  (keywords.minimum.all fun limit => limit.1 ≤ number) &&
    keywords.maximum.all fun limit => number ≤ limit.1

def numberFits (keywords : PlainKeywords) (value : Json) : Bool :=
  match value with
  | .int number =>
      if meaning.untyped ∨ keywords.type = some "number" ∨
          keywords.type = some "integer" then rangeFits keywords number
      else true
  | _ => true

/-- The verdict of a language that looks at the keywords of the type only. -/
def typedFits (keywords : PlainKeywords) (names : Option (List String))
    (childrenFit : Fields → Bool) (value : Json) : Bool :=
  if keywords.type = some "object" then
    match value with
    | .obj fields => requiredFits keywords fields &&
        (childrenFit fields && meaning.closedFits keywords names fields)
    | _ => false
  else if keywords.type = some "string" then
    match value with
    | .str text => meaning.lengthFits keywords text
    | _ => false
  else if keywords.type = some "number" ∨ keywords.type = some "integer" then
    match value with
    | .int number => rangeFits keywords number
    | _ => false
  else if keywords.type = some "boolean" then value matches .bool _
  else true

theorem typedFits_eq (typed : meaning.untyped = false)
    (known : meaning.knowsAll = false) (keywords : PlainKeywords)
    (names : Option (List String)) (childrenFit : Fields → Bool)
    (value : Json) :
    meaning.typedFits keywords names childrenFit value =
      (meaning.typeFits keywords.type value &&
      (meaning.objectFits keywords names childrenFit value &&
      (meaning.stringFits keywords value &&
      meaning.numberFits keywords value))) := by
  unfold typedFits typeFits objectFits stringFits numberFits
  rw [typed, known]
  by_cases object : keywords.type = some "object"
  · cases value <;> simp [object]
  by_cases string : keywords.type = some "string"
  · cases value <;> simp [string]
  by_cases number : keywords.type = some "number" ∨
      keywords.type = some "integer"
  · cases value <;> simp [object, string, number]
  · cases value <;> simp [object, string, number]

def keywordsFit (keywords : PlainKeywords) (names : Option (List String))
    (childrenFit : Fields → Bool) (value : Json) : Bool :=
  meaning.constFits keywords value &&
  (meaning.enumFits keywords value &&
  (meaning.typeFits keywords.type value &&
  (meaning.objectFits keywords names childrenFit value &&
  (meaning.stringFits keywords value &&
  meaning.numberFits keywords value))))

mutual
/-- The value is as the schema says. -/
def fits : PlainSchema → Json → Bool
  | .bare keywords => meaning.keywordsFit keywords none fun _ => true
  | .object keywords properties =>
      meaning.keywordsFit keywords (some (properties.map Prod.fst))
        (childrenFit properties)

def childrenFit : List (String × PlainSchema) → Fields → Bool
  | [], _ => true
  | (key, schema) :: rest, fields =>
      (match Fields.get? fields key with
        | some child => fits schema child
        | none => true) && childrenFit rest fields
end

end Meaning

/-! ### Checks and what they decide -/

/-- The check passes as the verdict says. -/
def Decides {ε : Type} (outcome : Except ε Unit) (verdict : Bool) : Prop :=
  outcome = .ok () ↔ verdict = true

namespace Decides

variable {ε : Type} {outcome rest : Except ε Unit} {verdict other : Bool}

theorem passed : Decides (.ok () : Except ε Unit) true := ⟨fun _ => rfl,
  fun _ => rfl⟩

theorem failed (error : ε) : Decides (.error error) false := ⟨nofun, nofun⟩

theorem ite {condition : Prop} [Decidable condition] (error : ε) :
    Decides (if condition then .ok () else .error error)
      (decide condition) := by
  split
  · rename_i holds
    rw [decide_eq_true holds]
    exact passed
  · rename_i fails
    rw [decide_eq_false fails]
    exact failed error

theorem bind (decides : Decides outcome verdict)
    (next : verdict = true → Decides rest other) :
    Decides (outcome >>= fun _ => rest) (verdict && other) := by
  cases outcome with
  | ok value =>
      have holds : verdict = true := decides.mp rfl
      rw [holds, Bool.true_and]
      exact next holds
  | error error =>
      have fails : verdict = false := by
        cases verdict with
        | false => rfl
        | true => exact nomatch decides.mpr rfl
      rw [fails, Bool.false_and]
      exact failed error

theorem forM {α : Type} {items : List α} {check : α → Except ε Unit}
    {valid : α → Bool}
    (each : ∀ item ∈ items, Decides (check item) (valid item)) :
    Decides (items.forM check) (items.all valid) := by
  induction items with
  | nil => exact passed
  | cons item rest ih =>
      rw [List.all_cons]
      apply bind (each item List.mem_cons_self)
      intro _
      exact ih fun other member => each other (List.mem_cons_of_mem _ member)

theorem congr (decides : Decides outcome verdict) (same : verdict = other) :
    Decides outcome other :=
  same ▸ decides

end Decides

/-! ### Go and TypeScript -/

namespace Dialect

variable (dialect : Dialect)

def meaning : Meaning where
  same := dialect.same
  length := dialect.length
  untyped := false
  knowsAll := false
  lenient := false

theorem decides_limit {limit : Option Limit} {fails : Int → Bool}
    {holds : Limit → Bool} (opposite : ∀ limit, fails limit.1 = !holds limit)
    (message : String) :
    Decides (checkLimit limit fails message) (limit.all holds) := by
  cases limit with
  | none => exact .passed
  | some limit =>
      rw [checkLimit, opposite, Option.all_some]
      cases holds limit with
      | true => exact .passed
      | false => exact .failed _

theorem decides_const (keywords : PlainKeywords) (value : Json)
    (path : String) : Decides (dialect.checkConst keywords.const value path)
      (dialect.meaning.constFits keywords value) := by
  unfold checkConst Meaning.constFits
  cases keywords.const with
  | none => exact .passed
  | some document => exact (Decides.ite _).congr Bool.decide_eq_true

theorem decides_enum (keywords : PlainKeywords) (value : Json)
    (path : String) : Decides (dialect.checkEnum keywords.enum value path)
      (dialect.meaning.enumFits keywords value) := by
  unfold checkEnum Meaning.enumFits
  cases keywords.enum with
  | none => exact .passed
  | some documents => exact (Decides.ite _).congr Bool.decide_eq_true

theorem decides_object {keywords : PlainKeywords}
    {properties : List (String × PortCheck)} {names : Option (List String)}
    {childrenFit : Fields → Bool} {fields : Fields} {path : String}
    (listed : properties.map Prod.fst = names.getD [])
    (children : Decides (checkProperties properties fields path)
      (childrenFit fields)) :
    Decides (checkObject keywords properties (.obj fields) path)
      (Meaning.requiredFits keywords fields && (childrenFit fields &&
        dialect.meaning.closedFits keywords names fields)) := by
  apply Decides.bind (Decides.forM fun key _ => Decides.ite _)
  intro _
  apply Decides.bind children
  intro _
  unfold checkAdditional Meaning.closedFits
  rw [listed]
  cases keywords.closed with
  | false => exact .passed
  | true => exact Decides.forM fun key _ => Decides.ite _

theorem decides_string (keywords : PlainKeywords) (text path : String) :
    Decides (dialect.checkString keywords (.str text) path)
      (dialect.meaning.lengthFits keywords text) := by
  apply Decides.bind
  · apply decides_limit
    intro limit
    rw [← decide_not, decide_eq_decide]
    exact not_le.symm
  · intro _
    apply decides_limit
    intro limit
    rw [← decide_not, decide_eq_decide]
    exact not_le.symm

theorem decides_number (keywords : PlainKeywords) (number : Int)
    (path : String) : Decides (checkNumber keywords (.int number) path)
      (Meaning.rangeFits keywords number) := by
  have whole : ¬(keywords.type = some "integer" ∧ (number : Rat).den ≠ 1) :=
    fun ⟨_, fraction⟩ => fraction (Rat.den_intCast number)
  unfold checkNumber number?
  dsimp only
  rw [if_neg whole]
  apply Decides.bind
  · apply decides_limit
    intro limit
    rw [← decide_not, decide_eq_decide, not_le]
    exact Int.cast_lt
  · intro _
    apply decides_limit
    intro limit
    rw [← decide_not, decide_eq_decide, not_le]
    exact Int.cast_lt

theorem decides_type {keywords : PlainKeywords}
    {properties : List (String × PortCheck)} {names : Option (List String)}
    {childrenFit : Fields → Bool} {value : Json} {path : String}
    (moderate : Moderate value)
    (listed : properties.map Prod.fst = names.getD [])
    (children : ∀ fields, value = .obj fields →
      Decides (checkProperties properties fields path) (childrenFit fields)) :
    Decides (dialect.checkType keywords properties value path)
      (dialect.meaning.typedFits keywords names childrenFit value) := by
  unfold checkType Meaning.typedFits
  split
  · cases value with
    | obj fields => exact dialect.decides_object listed (children fields rfl)
    | _ => exact .failed _
  split
  · cases value with
    | str text => exact dialect.decides_string keywords text path
    | _ => exact .failed _
  split
  · cases value with
    | int number => exact decides_number keywords number path
    | float number => exact moderate.elim
    | _ => exact .failed _
  split
  · cases value with
    | bool value => exact .passed
    | _ => exact .failed _
  · exact .passed

theorem fst_propertyChecks (properties : List (String × PlainSchema)) :
    (dialect.propertyChecks properties).map Prod.fst =
      properties.map Prod.fst := by
  induction properties with
  | nil => rfl
  | cons property rest ih =>
      rw [propertyChecks, List.map_cons, List.map_cons, ih]

mutual
theorem decides : (schema : PlainSchema) → (value : Json) → Moderate value →
    (path : String) →
    Decides (dialect.validate schema value path)
      (dialect.meaning.fits schema value)
  | .bare keywords, value, moderate, path => by
      apply Decides.bind (dialect.decides_const keywords value path)
      intro _
      apply Decides.bind (dialect.decides_enum keywords value path)
      intro _
      rw [← Meaning.typedFits_eq _ rfl rfl]
      exact dialect.decides_type moderate rfl fun _ _ => .passed
  | .object keywords properties, value, moderate, path => by
      apply Decides.bind (dialect.decides_const keywords value path)
      intro _
      apply Decides.bind (dialect.decides_enum keywords value path)
      intro _
      rw [← Meaning.typedFits_eq _ rfl rfl]
      apply dialect.decides_type moderate (dialect.fst_propertyChecks properties)
      rintro fields rfl
      exact decides_children properties fields moderate path

theorem decides_children : (properties : List (String × PlainSchema)) →
    (fields : Fields) → Moderate (.obj fields) → (path : String) →
    Decides (checkProperties (dialect.propertyChecks properties) fields path)
      (dialect.meaning.childrenFit properties fields)
  | [], _, _, _ => .passed
  | (key, schema) :: rest, fields, moderate, path => by
      apply Decides.bind
      · dsimp only
        cases found : Fields.get? fields key with
        | none => exact .passed
        | some child =>
            exact decides schema child (Json.composedFields_iff.mp moderate _
              (Fields.mem_of_get? found)).2 _
      · intro _
        exact decides_children rest fields moderate path
end

end Dialect

/-! ### The reference runtime -/

/-- Python's `==` on the values, and the keywords whatever the type. -/
def pythonMeaning : Meaning where
  same := fun expected value => pyEq value.normal expected.normal
  length := String.length
  untyped := true
  knowsAll := true
  lenient := false

section Keys

variable {fields : Fields}

theorem mem_keys_iff {key : String} :
    key ∈ Fields.keys fields ↔ (Fields.get? fields key).isSome := by
  induction fields with
  | nil => simp [Fields.keys, Fields.get?]
  | cons field rest ih =>
      obtain ⟨first, value⟩ := field
      rw [Fields.keys, List.map_cons, List.mem_cons, Fields.get?]
      by_cases same : first = key
      · simp [same]
      · rw [if_neg same, ← ih, Fields.keys]
        exact ⟨fun listed => listed.resolve_left (Ne.symm same), .inr⟩

theorem mem_keys_normalFields {key : String} :
    key ∈ Fields.keys (Json.normalFields fields) ↔ key ∈ Fields.keys fields := by
  rw [mem_keys_iff, mem_keys_iff, Json.get?_normalFields, Option.isSome_map]

theorem all_keys_normalFields (good : String → Bool) :
    (Fields.keys (Json.normalFields fields)).all good =
      (Fields.keys fields).all good := by
  apply Bool.eq_iff_iff.mpr
  rw [List.all_eq_true, List.all_eq_true]
  exact forall_congr' fun key => by rw [mem_keys_normalFields]

theorem extraKeys_eq_nil {names : List String} :
    extraKeys names (Json.normalFields fields) = [] ↔
      ∀ key ∈ Fields.keys fields, key ∈ names := by
  rw [extraKeys, List.eq_nil_iff_forall_not_mem]
  apply forall_congr'
  intro key
  rw [(List.perm_insertionSort (· ≤ ·) _).mem_iff, List.mem_filter,
    decide_eq_true_eq, not_and, not_not, ← mem_keys_normalFields]
  rfl

end Keys

section Python

variable {host : Host} {keywords : PlainKeywords} {value : Json} {path : String}

theorem decides_bound {limit : Option Limit} {number : Int}
    {comparison : Comparison} {holds : Limit → Bool}
    (opposite : ∀ limit : Limit,
      comparison.fails number limit.1 = !holds limit) :
    Decides (host.checkBound (limit.map fun limit => .int limit.1) number path
      comparison) (limit.all holds) := by
  cases limit with
  | none => exact .passed
  | some limit =>
      have fails : comparison.fails number (Number.int limit.1).toRat =
        !holds limit := opposite limit
      rw [Option.map_some, Host.checkBound, fails, Option.all_some]
      cases holds limit with
      | true => exact .passed
      | false => exact .failed _

theorem atLeast_fails (number : Int) (limit : Limit) :
    Comparison.atLeast.fails number limit.1 = !decide (limit.1 ≤ number) := by
  rw [← decide_not, Comparison.fails, decide_eq_decide, not_le]
  exact Int.cast_lt

theorem atMost_fails (number : Int) (limit : Limit) :
    Comparison.atMost.fails number limit.1 = !decide (number ≤ limit.1) := by
  rw [← decide_not, Comparison.fails, decide_eq_decide, not_le]
  exact Int.cast_lt

theorem python_const :
    Decides (host.checkConst keywords.python.const value.normal path)
      (pythonMeaning.constFits keywords value) := by
  unfold Host.checkConst Meaning.constFits PlainKeywords.python
  cases keywords.const with
  | none => exact .passed
  | some document => exact (Decides.ite _).congr Bool.decide_eq_true

theorem python_enum :
    Decides (host.checkEnum keywords.python.enum value.normal path)
      (pythonMeaning.enumFits keywords value) := by
  unfold Host.checkEnum Meaning.enumFits PlainKeywords.python
  cases keywords.enum with
  | none => exact .passed
  | some documents =>
      apply (Decides.ite _).congr
      rw [Bool.decide_eq_true, List.any_map]
      rfl

theorem all_matchesOne (moderate : Moderate value) (name : String) :
    (jsonType? name).all (matchesOne value.normal) =
      pythonMeaning.typeFits (some name) value := by
  unfold jsonType?
  split
  case h_8 => simp_all [Meaning.typeFits]
  all_goals cases value <;> first | rfl | exact moderate.elim

theorem python_type (moderate : Moderate value) :
    Decides (host.checkType keywords.python.type value.normal path)
      (pythonMeaning.typeFits keywords.type value) := by
  unfold Host.checkType PlainKeywords.python
  cases keywords.type with
  | none => exact .passed
  | some name =>
      rw [← all_matchesOne moderate, Option.bind_some]
      cases jsonType? name with
      | none => exact .passed
      | some type => exact (Decides.ite _).congr Bool.decide_eq_true

theorem python_object {properties : List (String × Check)}
    {names : Option (List String)} {childrenFit : Fields → Bool}
    (listed : properties.map Prod.fst = names.getD [])
    (children : ∀ fields, value = .obj fields →
      Decides (properties.forM fun property =>
        checkProperty (Json.normalFields fields) path property.1 property.2)
        (childrenFit fields)) :
    Decides (host.checkObject keywords.python properties
        (.allowed (!keywords.closed)) value.normal path)
      (pythonMeaning.objectFits keywords names childrenFit value) := by
  cases value with
  | obj fields =>
      rw [Meaning.objectFits, if_pos (.inl rfl)]
      apply Decides.bind
      · apply (Decides.forM fun key _ => Decides.ite _).congr
        unfold Meaning.requiredFits
        congr 1
        funext key
        exact decide_eq_decide.mpr mem_keys_normalFields
      intro _
      apply Decides.bind (children fields rfl)
      intro _
      have same : pythonMeaning.closedFits keywords names fields =
          (pythonMeaning.closedFits keywords names fields && (true && true)) := by
        rw [Bool.and_self, Bool.and_true]
      rw [same]
      apply Decides.bind
      · unfold Host.checkAdditional Meaning.closedFits
        rw [listed]
        cases keywords.closed with
        | false => exact .passed
        | true =>
            have verdict : (!true || pythonMeaning.lenient && names.isNone ||
                (Fields.keys fields).all fun key => key ∈ names.getD []) =
                decide (extraKeys (names.getD [])
                  (Json.normalFields fields) = []) := by
              rw [Bool.eq_iff_iff, decide_eq_true_eq, extraKeys_eq_nil]
              simp [pythonMeaning]
            rw [verdict]
            dsimp only
            split
            · rename_i extra
              exact (Decides.failed _).congr (decide_eq_false extra.2).symm
            · rename_i none
              exact Decides.passed.congr (decide_eq_true
                (not_not.mp fun extra => none ⟨rfl, extra⟩)).symm
      intro _
      apply Decides.bind .passed
      intro _
      exact .passed
  | _ =>
      unfold Host.checkObject Meaning.objectFits PlainKeywords.python
      cases keywords.required with
      | none => exact .passed
      | some required => exact .failed _

theorem python_string :
    Decides (host.checkString keywords.python value.normal path)
      (pythonMeaning.stringFits keywords value) := by
  cases value with
  | str text =>
      rw [Meaning.stringFits, if_pos (.inl rfl)]
      apply Decides.bind
      · exact decides_bound (atLeast_fails text.length)
      intro _
      rw [← Bool.and_true (Option.all _ _)]
      apply Decides.bind
      · exact decides_bound (atMost_fails text.length)
      intro _
      exact .passed
  | _ => exact .passed

theorem python_number (moderate : Moderate value) :
    Decides (host.checkNumber keywords.python value.normal path)
      (pythonMeaning.numberFits keywords value) := by
  cases value with
  | int number =>
      rw [Meaning.numberFits, if_pos (.inl rfl), Meaning.rangeFits]
      apply Decides.bind (decides_bound (atLeast_fails number))
      intro _
      rw [← Bool.and_true (Option.all _ _)]
      apply Decides.bind (decides_bound (atMost_fails number))
      intro _
      exact .passed
  | float number => exact moderate.elim
  | _ => exact .passed

theorem python_keywords {properties : List (String × Schema)}
    {names : Option (List String)} {childrenFit : Fields → Bool}
    (moderate : Moderate value)
    (listed : properties.map Prod.fst = names.getD [])
    (children : ∀ fields, value = .obj fields →
      Decides ((host.propertyChecks properties).forM fun property =>
        checkProperty (Json.normalFields fields) path property.1 property.2)
        (childrenFit fields)) :
    Decides (host.validateToolSchema (.mk keywords.python [] [] [] none
        properties (.allowed (!keywords.closed)) none) value.normal path)
      (pythonMeaning.keywordsFit keywords names childrenFit value) := by
  unfold Host.validateToolSchema
  rw [Meaning.keywordsFit,
    ← Bool.true_and (pythonMeaning.stringFits keywords value && _)]
  apply Decides.bind python_const
  intro _
  apply Decides.bind python_enum
  intro _
  apply Decides.bind (python_type moderate)
  intro _
  apply Decides.bind
  · apply python_object _ children
    rw [Host.names_propertyChecks, listed]
  intro _
  apply Decides.bind
  · cases value <;> exact .passed
  intro _
  apply Decides.bind python_string
  intro _
  exact python_number moderate

theorem fst_pythonProperties (properties : List (String × PlainSchema)) :
    (pythonProperties properties).map Prod.fst = properties.map Prod.fst := by
  induction properties with
  | nil => rfl
  | cons property rest ih =>
      rw [pythonProperties, List.map_cons, List.map_cons, ih]

mutual
theorem python_decides (host : Host) : (schema : PlainSchema) →
    (value : Json) → Moderate value → (path : String) →
    Decides (host.validateToolSchema schema.python value.normal path)
      (pythonMeaning.fits schema value)
  | .bare _, _, moderate, _ => python_keywords moderate rfl fun _ _ => .passed
  | .object _ properties, value, moderate, path => by
      apply python_keywords moderate (fst_pythonProperties properties)
      rintro fields rfl
      exact python_children host properties fields moderate path

theorem python_children (host : Host) :
    (properties : List (String × PlainSchema)) → (fields : Fields) →
    Moderate (.obj fields) → (path : String) →
    Decides ((host.propertyChecks (pythonProperties properties)).forM
        fun property => checkProperty (Json.normalFields fields) path
          property.1 property.2)
      (pythonMeaning.childrenFit properties fields)
  | [], _, _, _ => .passed
  | (key, schema) :: rest, fields, moderate, path => by
      apply Decides.bind
      · unfold checkProperty
        dsimp only
        rw [Json.get?_normalFields]
        cases found : Fields.get? fields key with
        | none => exact .passed
        | some child =>
            exact python_decides host schema child
              (Json.composedFields_iff.mp moderate _
                (Fields.mem_of_get? found)).2 _
      · intro _
        exact python_children host rest fields moderate path
end

end Python

/-! ### Rust -/

end AgentLedger.Ports

namespace AgentLedger.Rust

open Foundation Ports

/-- `==` on values, on bytes, and any keys for an object without
`properties`. -/
def meaning : Meaning where
  same := fun expected value => expected.normal = value.normal
  length := String.utf8ByteSize
  untyped := false
  knowsAll := false
  lenient := true

theorem eq_ofInt {first second : Int} (own : |first| < 2 ^ 53)
    (other : |second| < 2 ^ 53) :
    (Value.ofJson (.int first)).eq (.ofJson (.int second)) = true ↔
      first = second := by
  have left := F64.ofRat_intCast own.le
  have right := F64.ofRat_intCast other.le
  rw [Value.ofJson, Value.ofJson, Value.eq, decide_eq_true_eq,
    F64.partialCmp_of_finite left.1 right.1, left.2, right.2,
    Option.some.injEq, compare_eq_iff_eq]
  exact Int.cast_inj

mutual
/-- On these values `==` is equality. -/
theorem eq_ofJson : (first second : Json) → Moderate first →
    Moderate second → ((Value.ofJson first).eq (.ofJson second) = true ↔
      first = second)
  | .null, second, _, _ => by cases second <;> simp [Value.ofJson, Value.eq]
  | .bool first, second, _, _ => by
      cases second <;> simp [Value.ofJson, Value.eq]
  | .int first, second, own, other => by
      cases second with
      | int second => rw [eq_ofInt own other, Json.int.injEq]
      | float second => exact other.elim
      | _ => simp [Value.ofJson, Value.eq]
  | .float _, _, own, _ => own.elim
  | .str first, second, _, _ => by
      cases second <;> simp [Value.ofJson, Value.eq]
  | .arr first, second, own, other => by
      cases second with
      | arr second =>
          rw [Value.ofJson, Value.ofJson, Value.eq,
            eq_valuesOf first second own other, Json.arr.injEq]
      | _ => simp [Value.ofJson, Value.eq]
  | .obj first, second, own, other => by
      cases second with
      | obj second =>
          rw [Value.ofJson, Value.ofJson, Value.eq,
            eq_entriesOf first second own other, Json.obj.injEq]
      | _ => simp [Value.ofJson, Value.eq]

theorem eq_valuesOf : (first second : List Json) →
    Moderate (.arr first) → Moderate (.arr second) →
    (itemsEq (valuesOf first) (valuesOf second) = true ↔ first = second)
  | [], second, _, _ => by cases second <;> simp [valuesOf, itemsEq]
  | first :: firsts, second, own, other => by
      cases second with
      | nil => simp [valuesOf, itemsEq]
      | cons second seconds =>
          rw [valuesOf, valuesOf, itemsEq, Bool.and_eq_true,
            eq_ofJson first second own.1 other.1,
            eq_valuesOf firsts seconds own.2 other.2, List.cons.injEq]

theorem eq_entriesOf : (first second : List (String × Json)) →
    Moderate (.obj first) → Moderate (.obj second) →
    (entriesEq (entriesOf first) (entriesOf second) = true ↔ first = second)
  | [], second, _, _ => by cases second <;> simp [entriesOf, entriesEq]
  | (key, first) :: firsts, second, own, other => by
      cases second with
      | nil => simp [entriesOf, entriesEq]
      | cons field seconds =>
          obtain ⟨name, second⟩ := field
          rw [entriesOf, entriesOf, entriesEq, Bool.and_eq_true,
            Bool.and_eq_true, beq_iff_eq,
            eq_ofJson first second own.2.1 other.2.1,
            eq_entriesOf firsts seconds own.2.2 other.2.2, List.cons.injEq,
            Prod.mk.injEq, and_assoc]
end

section Keywords

variable {keywords : PlainKeywords} {value : Json} {path : String}

theorem eq_document (document : Document) (moderate : Moderate value) :
    (Value.ofJson document.json.normal).eq (.ofJson value.normal) =
      meaning.same document.json value := by
  rw [Bool.eq_iff_iff, eq_ofJson _ _ (Json.Composed.normal _ document.moderate)
    (Json.Composed.normal _ moderate)]
  exact decide_eq_true_iff.symm

theorem decides_const (moderate : Moderate value) :
    Decides (checkConst keywords.const (.ofJson value.normal) path)
      (meaning.constFits keywords value) := by
  unfold checkConst Meaning.constFits
  cases keywords.const with
  | none => exact .passed
  | some document =>
      dsimp only
      rw [eq_document document moderate]
      exact (Decides.ite _).congr Bool.decide_eq_true

theorem decides_enum (moderate : Moderate value) :
    Decides (checkEnum keywords.enum (.ofJson value.normal) path)
      (meaning.enumFits keywords value) := by
  unfold checkEnum Meaning.enumFits
  cases keywords.enum with
  | none => exact .passed
  | some documents =>
      simp only [eq_document _ moderate]
      exact (Decides.ite _).congr Bool.decide_eq_true

theorem decides_limit {limit : Option Limit} {fails : F64 → Bool}
    {holds : Limit → Bool}
    (opposite : ∀ limit : Limit, fails (.ofRat limit.1) = !holds limit)
    (message : String) :
    Decides (checkLimit limit fails message) (limit.all holds) := by
  cases limit with
  | none => exact .passed
  | some limit =>
      rw [checkLimit, opposite, Option.all_some]
      cases holds limit with
      | true => exact .passed
      | false => exact .failed _

theorem decides_string (text : String) :
    Decides (checkString keywords (.string text) path)
      (meaning.lengthFits keywords text) := by
  have count := fun limit : Limit =>
    have number := F64.ofRat_intCast limit.2.le
    F64.ofNat_lt_iff text.utf8ByteSize number.1 number.2 limit.2
  apply Decides.bind
  · apply decides_limit
    intro limit
    rw [← decide_not, Bool.eq_iff_iff, decide_eq_true_eq, not_le]
    exact (count limit).1
  · intro _
    apply decides_limit
    intro limit
    rw [← decide_not, Bool.eq_iff_iff, decide_eq_true_eq, not_le]
    exact (count limit).2

theorem decides_number {number : Int} (small : |number| < 2 ^ 53) :
    Decides (checkNumber keywords (.number (.ofRat number)) path)
      (Meaning.rangeFits keywords number) := by
  have own := F64.ofRat_intCast small.le
  have whole : hasFraction (.ofRat number) = false := by
    rw [hasFraction, own.1, own.2]
    simp
  have plain : ¬(keywords.type = some "integer" ∧
      hasFraction (.ofRat number) = true) := by
    rw [whole]
    exact fun given => nomatch given.2
  unfold checkNumber
  dsimp only
  rw [if_neg plain]
  apply Decides.bind
  · apply decides_limit
    intro limit
    have other := F64.ofRat_intCast limit.2.le
    rw [← decide_not, Bool.eq_iff_iff, decide_eq_true_eq, not_le,
      F64.lt_iff_of_finite own.1 other.1, own.2, other.2]
    exact Int.cast_lt
  · intro _
    apply decides_limit
    intro limit
    have other := F64.ofRat_intCast limit.2.le
    rw [← decide_not, Bool.eq_iff_iff, decide_eq_true_eq, not_le,
      F64.lt_iff_of_finite other.1 own.1, own.2, other.2]
    exact Int.cast_lt

theorem fst_entriesOf (fields : Fields) :
    (entriesOf fields).map Prod.fst = Fields.keys fields := by
  induction fields with
  | nil => rfl
  | cons field rest ih =>
      rw [entriesOf, List.map_cons, ih]
      rfl

/-- The check of the properties that an object has. -/
abbrev checkProperties (properties : List (String × ValueCheck))
    (entries : List (String × Value)) (path : String) : Result Unit :=
  properties.forM fun property =>
    match Entries.get? property.1 entries with
    | some child => property.2 child (path ++ "." ++ property.1)
    | none => .ok ()

theorem decides_object {properties : Option (List (String × ValueCheck))}
    {names : Option (List String)} {childrenFit : Fields → Bool}
    {fields : Fields}
    (listed : properties.map (fun each => each.map Prod.fst) = names)
    (children : Decides (checkProperties (properties.getD [])
        (entriesOf (Json.normalFields fields)) path) (childrenFit fields)) :
    Decides (checkObject keywords properties
        (.ofJson (Json.obj fields).normal) path)
      (Meaning.requiredFits keywords fields && (childrenFit fields &&
        meaning.closedFits keywords names fields)) := by
  apply Decides.bind
  · apply (Decides.forM fun key _ => Decides.ite _).congr
    unfold Meaning.requiredFits
    congr 1
    funext key
    rw [Bool.decide_eq_true, get?_entriesOf, Option.isSome_map,
      Json.get?_normalFields, Option.isSome_map, Bool.eq_iff_iff,
      decide_eq_true_eq, Ports.mem_keys_iff]
  intro _
  subst listed
  cases properties with
  | none =>
      have fit : childrenFit fields = true := children.mp rfl
      rw [fit, Bool.true_and]
      exact Decides.passed.congr (by simp [Meaning.closedFits, meaning])
  | some properties =>
      apply Decides.bind children
      intro _
      unfold Meaning.closedFits
      rw [fst_entriesOf, ← all_keys_normalFields]
      cases keywords.closed with
      | false => exact .passed
      | true => exact Decides.forM fun key _ => Decides.ite _

theorem decides_type {properties : Option (List (String × ValueCheck))}
    {names : Option (List String)} {childrenFit : Fields → Bool}
    (moderate : Moderate value)
    (listed : properties.map (fun each => each.map Prod.fst) = names)
    (children : ∀ fields, value = .obj fields →
      Decides (checkProperties (properties.getD [])
        (entriesOf (Json.normalFields fields)) path) (childrenFit fields)) :
    Decides (checkType keywords properties (.ofJson value.normal) path)
      (meaning.typedFits keywords names childrenFit value) := by
  unfold checkType Meaning.typedFits
  split
  · cases value with
    | obj fields => exact decides_object listed (children fields rfl)
    | _ => exact .failed _
  split
  · cases value with
    | str text => exact decides_string text
    | _ => exact .failed _
  split
  · cases value with
    | int number => exact decides_number moderate
    | float number => exact moderate.elim
    | _ => exact .failed _
  split
  · cases value with
    | bool value => exact .passed
    | _ => exact .failed _
  · exact .passed

end Keywords

theorem fst_propertyChecks (properties : List (String × PlainSchema)) :
    (propertyChecks properties).map Prod.fst = properties.map Prod.fst := by
  induction properties with
  | nil => rfl
  | cons property rest ih =>
      rw [propertyChecks, List.map_cons, List.map_cons, ih]

mutual
theorem decides : (schema : PlainSchema) → (value : Json) → Moderate value →
    (path : String) →
    Decides (validateToolSchema schema (.ofJson value.normal) path)
      (meaning.fits schema value)
  | .bare keywords, value, moderate, path => by
      apply Decides.bind (decides_const moderate)
      intro _
      apply Decides.bind (decides_enum moderate)
      intro _
      rw [← Meaning.typedFits_eq _ rfl rfl]
      exact decides_type moderate rfl fun _ _ => .passed
  | .object keywords properties, value, moderate, path => by
      apply Decides.bind (decides_const moderate)
      intro _
      apply Decides.bind (decides_enum moderate)
      intro _
      rw [← Meaning.typedFits_eq _ rfl rfl]
      have listed : (some (propertyChecks properties)).map
          (fun each => each.map Prod.fst) = some (properties.map Prod.fst) :=
        congrArg some (fst_propertyChecks properties)
      apply decides_type moderate listed
      rintro fields rfl
      exact decides_children properties fields moderate path

theorem decides_children : (properties : List (String × PlainSchema)) →
    (fields : Fields) → Moderate (.obj fields) → (path : String) →
    Decides (checkProperties (propertyChecks properties)
        (entriesOf (Json.normalFields fields)) path)
      (meaning.childrenFit properties fields)
  | [], _, _, _ => .passed
  | (key, schema) :: rest, fields, moderate, path => by
      apply Decides.bind
      · dsimp only
        rw [get?_entriesOf, Json.get?_normalFields]
        cases found : Fields.get? fields key with
        | none => exact .passed
        | some child =>
            exact decides schema child (Json.composedFields_iff.mp moderate _
              (Fields.mem_of_get? found)).2 _
      · intro _
        exact decides_children rest fields moderate path
end

end AgentLedger.Rust
