import AgentLedger.Ports.Validation

namespace AgentLedger

open Foundation

/-! Where the four validations agree. -/

namespace TypeScript

/-! ### The order of the members -/

theorem get?_eq_some_iff {fields : Fields} (nodup : (Fields.keys fields).Nodup)
    {key : String} {value : Json} :
    Fields.get? fields key = some value ↔ (key, value) ∈ fields := by
  induction fields with
  | nil => simp [Fields.get?]
  | cons field rest ih =>
      obtain ⟨first, held⟩ := field
      obtain ⟨fresh, later⟩ := List.nodup_cons.mp nodup
      rw [Fields.get?, List.mem_cons, Prod.mk.injEq]
      by_cases same : first = key
      · subst same
        rw [if_pos rfl, Option.some.injEq]
        constructor
        · exact fun found => .inl ⟨rfl, found.symm⟩
        · rintro (⟨_, found⟩ | listed)
          · exact found.symm
          · exact absurd (List.mem_map_of_mem listed) fresh
      · rw [if_neg same, ih later]
        exact ⟨.inr, fun found => found.resolve_left fun here =>
          same here.1.symm⟩

theorem normalFields_of_perm {first second : Fields}
    (perm : first.Perm second) (nodup : (Fields.keys first).Nodup) :
    Json.normalFields first = Json.normalFields second := by
  have other : (Fields.keys second).Nodup := (perm.map Prod.fst).nodup nodup
  apply Json.CanonicalFields.ext (Json.canonical_normalFields first)
    (Json.canonical_normalFields second)
  intro key
  rw [Json.get?_normalFields, Json.get?_normalFields]
  congr 1
  apply Option.ext
  intro value
  rw [get?_eq_some_iff nodup, get?_eq_some_iff other, perm.mem_iff]

theorem ownOrder_perm (fields : Fields) : (ownOrder fields).Perm fields := by
  have sorted := (List.perm_insertionSort
    (fun first second : String × Json => (arrayIndex? first.1).getD 0 ≤
      (arrayIndex? second.1).getD 0)
    (fields.filter fun field => (arrayIndex? field.1).isSome)).append_right
    (fields.filter fun field => (arrayIndex? field.1).isNone)
  apply sorted.trans
  have others : (fun field : String × Json => (arrayIndex? field.1).isNone) =
      fun field => !(arrayIndex? field.1).isSome := by
    funext field
    rw [Option.not_isSome]
  rw [others]
  exact List.filter_append_perm _ fields

theorem keys_parsedFields (fields : Fields) :
    Fields.keys (parsedFields fields) = Fields.keys fields := by
  induction fields with
  | nil => rfl
  | cons field rest ih =>
      obtain ⟨key, value⟩ := field
      exact congrArg (key :: ·) ih

mutual
/-- It is the same JSON value. -/
theorem normal_parsed : (value : Json) → value.Distinct →
    (parsed value).normal = value.normal
  | .arr items, distinct => congrArg Json.arr (normal_parsedItems items distinct)
  | .obj fields, distinct => by
      have nodup : (Fields.keys (parsedFields fields)).Nodup := by
        rw [keys_parsedFields]
        exact (Json.distinctFields_iff.mp distinct).1
      have perm := ownOrder_perm (parsedFields fields)
      rw [parsed, Json.normal, Json.normal,
        ← normalFields_of_perm perm.symm nodup, normal_parsedFields fields distinct]
  | .null, _ => rfl
  | .bool _, _ => rfl
  | .int _, _ => rfl
  | .float _, _ => rfl
  | .str _, _ => rfl

theorem normal_parsedItems : (items : List Json) → Json.DistinctItems items →
    Json.normalItems (parsedItems items) = Json.normalItems items
  | [], _ => rfl
  | item :: rest, distinct => by
      rw [parsedItems, Json.normalItems, Json.normalItems,
        normal_parsed item distinct.1, normal_parsedItems rest distinct.2]

theorem normal_parsedFields : (fields : List (String × Json)) →
    Json.DistinctFields fields →
    Json.normalFields (parsedFields fields) = Json.normalFields fields
  | [], _ => rfl
  | (key, value) :: rest, distinct => by
      rw [parsedFields, Json.normalFields, Json.normalFields,
        normal_parsed value distinct.2.1, normal_parsedFields rest distinct.2.2]
end

/-! ### The length of a text -/

theorem length_le_utf16Length (text : String) :
    text.length ≤ utf16Length text := by
  rw [← String.length_toList, utf16Length]
  induction text.toList with
  | nil => exact le_refl 0
  | cons char rest ih =>
      rw [List.length_cons, List.map_cons, List.sum_cons]
      split <;> omega

theorem utf16Length_push (text : String) (char : Char) :
    utf16Length (text.push char) =
      utf16Length text + if char.toNat < 0x10000 then 1 else 2 := by
  simp [utf16Length]

theorem utf16Units_le (char : Char) :
    (if char.toNat < 0x10000 then 1 else 2) ≤ char.utf8Size := by
  have positive := char.utf8Size_pos
  split
  · exact positive
  · rename_i large
    have size : char.toNat = char.val.toNat := rfl
    unfold Char.utf8Size
    dsimp only
    split
    · rename_i ascii
      have small : char.val.toNat ≤ 0x7F := UInt32.le_iff_toNat_le.mp ascii
      omega
    split
    · exact le_refl 2
    split
    · decide
    · decide

theorem utf16Length_le_utf8ByteSize (text : String) :
    utf16Length text ≤ text.utf8ByteSize := by
  induction text using String.push_induction with
  | empty => exact Nat.zero_le _
  | push text char ih =>
      rw [utf16Length_push, String.utf8ByteSize_push]
      exact Nat.add_le_add ih (utf16Units_le char)

end TypeScript

namespace Ports

/-! ### Readings -/

def Port.meaning : Port → Meaning
  | .python => pythonMeaning
  | .go => { same := Go.sameSyntax, length := String.utf8ByteSize,
             untyped := false, knowsAll := false, lenient := false }
  | .typeScript => { same := TypeScript.sameText,
                     length := TypeScript.utf16Length, untyped := false,
                     knowsAll := false, lenient := false }
  | .rust => Rust.meaning

/-- How the messages of the languages show values. -/
structure Shown where
  host : Host
  go : Json → String
  typeScript : Json → String

/-- The validation of the language passes the value. -/
def Accepts (shown : Shown) (schema : PlainSchema) (value : Document)
    (path : String) : Port → Prop
  | .python => shown.host.validateToolSchema schema.python value.json.normal
      path = .ok ()
  | .go => Go.validateToolSchema shown.go schema value.json path = .ok ()
  | .typeScript =>
      TypeScript.validateToolSchema shown.typeScript schema value.json path =
        .ok ()
  | .rust => Rust.validateToolSchema schema (.ofJson value.json.normal) path =
      .ok ()

theorem accepts_iff (shown : Shown) (schema : PlainSchema) (value : Document)
    (path : String) (port : Port) : Accepts shown schema value path port ↔
      port.meaning.fits schema value.json = true := by
  cases port with
  | python => exact python_decides shown.host schema _ value.moderate path
  | go => exact (Go.dialect shown.go).decides schema _ value.moderate _
  | typeScript =>
      exact (TypeScript.dialect shown.typeScript).decides schema _
        value.moderate _
  | rust => exact Rust.decides schema _ value.moderate path

/-! ### The readings of one value -/

/-- The reading lies between those of TypeScript and the reference runtime, and
knows fewer keywords. -/
structure Between (meaning : Meaning) : Prop where
  typed : meaning.untyped = false
  known : meaning.knowsAll = false
  same : ∀ first second : Json, first.Distinct → second.Distinct →
    TypeScript.sameText first second = true → meaning.same first second = true
  python : ∀ first second, meaning.same first second = true →
    first.Distinct → second.Distinct →
      pythonMeaning.same first second = true
  least : ∀ text, text.length ≤ meaning.length text
  most : ∀ text, meaning.length text ≤ text.utf8ByteSize

theorem python_same {first second : Json} (same : first.normal = second.normal) :
    pythonMeaning.same first second = true := by
  unfold pythonMeaning
  rw [pyEq_iff, same]

theorem typeScript_same {first second : Json} (own : first.Distinct)
    (other : second.Distinct) (same : TypeScript.sameText first second = true) :
    first.normal = second.normal := by
  have parsed := of_decide_eq_true same
  rw [← TypeScript.normal_parsed first own, parsed,
    TypeScript.normal_parsed second other]

theorem length_le_utf8ByteSize (text : String) :
    text.length ≤ text.utf8ByteSize :=
  (TypeScript.length_le_utf16Length text).trans
    (TypeScript.utf16Length_le_utf8ByteSize text)

theorem between_meaning {port : Port} (other : port ≠ .python) :
    Between port.meaning := by
  cases port with
  | python => exact absurd rfl other
  | typeScript =>
      exact ⟨rfl, rfl, fun _ _ _ _ same => same,
        fun _ _ same own other => python_same (typeScript_same own other same),
        TypeScript.length_le_utf16Length,
        TypeScript.utf16Length_le_utf8ByteSize⟩
  | go =>
      exact ⟨rfl, rfl, fun _ _ own other same =>
          decide_eq_true (typeScript_same own other same),
        fun _ _ same _ _ => python_same (of_decide_eq_true same),
        length_le_utf8ByteSize, fun _ => le_refl _⟩
  | rust =>
      exact ⟨rfl, rfl, fun _ _ own other same =>
          decide_eq_true (typeScript_same own other same),
        fun _ _ same _ _ => python_same (of_decide_eq_true same),
        length_le_utf8ByteSize, fun _ => le_refl _⟩

/-! ### Where no difference matters -/

/-- Each difference between the languages, where it does not matter for the
value: constants that the reference runtime takes for the value are written as
it is; the types are known to all; keywords of other types hold; the object
without `properties` is empty where it is closed; and the characters of a text
are enough, and few enough, exactly where its bytes are. -/
structure KeywordsUndisputed (keywords : PlainKeywords)
    (names : Option (List String)) (childrenFit : Fields → Bool)
    (childrenUndisputed : Fields → Prop) (value : Json) : Prop where
  const : ∀ document ∈ keywords.const,
    pythonMeaning.same document.json value = true →
      TypeScript.sameText document.json value = true
  enum : ∀ documents ∈ keywords.enum, ∀ document ∈ documents,
    pythonMeaning.same document.json value = true →
      ∃ other ∈ documents, TypeScript.sameText other.json value = true
  array : keywords.type = some "array" → ∃ items, value = .arr items
  null : keywords.type = some "null" → value = .null
  closed : keywords.type = some "object" → ∀ fields, value = .obj fields →
    names = none → keywords.closed = true → fields = []
  children : keywords.type = some "object" → ∀ fields, value = .obj fields →
    childrenUndisputed fields
  object : keywords.type ≠ some "object" →
    pythonMeaning.objectFits keywords names childrenFit value = true
  shortest : keywords.type = some "string" → ∀ text, value = .str text →
    ∀ limit ∈ keywords.minLength, limit.1 ≤ (text.utf8ByteSize : Int) →
      limit.1 ≤ (text.length : Int)
  longest : keywords.type = some "string" → ∀ text, value = .str text →
    ∀ limit ∈ keywords.maxLength, (text.length : Int) ≤ limit.1 →
      (text.utf8ByteSize : Int) ≤ limit.1
  string : keywords.type ≠ some "string" →
    pythonMeaning.stringFits keywords value = true
  number : keywords.type ≠ some "number" → keywords.type ≠ some "integer" →
    pythonMeaning.numberFits keywords value = true

mutual
/-- No difference between the languages matters for the value. -/
def Undisputed : PlainSchema → Json → Prop
  | .bare keywords =>
      KeywordsUndisputed keywords none (fun _ => true) fun _ => True
  | .object keywords properties =>
      KeywordsUndisputed keywords (some (properties.map Prod.fst))
        (pythonMeaning.childrenFit properties) (ChildrenUndisputed properties)

def ChildrenUndisputed : List (String × PlainSchema) → Fields → Prop
  | [], _ => True
  | (key, schema) :: rest, fields =>
      (∀ child, Fields.get? fields key = some child →
        Undisputed schema child) ∧ ChildrenUndisputed rest fields
end

section Keywords

variable {keywords : PlainKeywords} {names : Option (List String)}
  {childrenFit : Fields → Bool} {childrenUndisputed : Fields → Prop}
  {value : Json} {meaning : Meaning}

theorem const_agrees
    (undisputed : KeywordsUndisputed keywords names childrenFit
      childrenUndisputed value)
    (between : Between meaning) (distinct : value.Distinct) :
    meaning.constFits keywords value = pythonMeaning.constFits keywords value := by
  unfold Meaning.constFits
  cases known : keywords.const with
  | none => rfl
  | some document =>
      rw [Option.all_some, Option.all_some, Bool.eq_iff_iff]
      constructor
      · exact fun same => between.python _ _ same document.distinct distinct
      · exact fun same => between.same _ _ document.distinct distinct
          (undisputed.const document known same)

theorem enum_agrees
    (undisputed : KeywordsUndisputed keywords names childrenFit
      childrenUndisputed value)
    (between : Between meaning) (distinct : value.Distinct) :
    meaning.enumFits keywords value = pythonMeaning.enumFits keywords value := by
  unfold Meaning.enumFits
  cases known : keywords.enum with
  | none => rfl
  | some documents =>
      rw [Option.all_some, Option.all_some, Bool.eq_iff_iff, List.any_eq_true,
        List.any_eq_true]
      constructor
      · rintro ⟨document, listed, same⟩
        exact ⟨document, listed,
          between.python _ _ same document.distinct distinct⟩
      · rintro ⟨document, listed, same⟩
        obtain ⟨other, member, own⟩ :=
          undisputed.enum documents known document listed same
        exact ⟨other, member, between.same _ _ other.distinct distinct own⟩

theorem type_agrees
    (undisputed : KeywordsUndisputed keywords names childrenFit
      childrenUndisputed value)
    (between : Between meaning) :
    meaning.typeFits keywords.type value =
      pythonMeaning.typeFits keywords.type value := by
  unfold Meaning.typeFits
  rw [between.known]
  by_cases array : keywords.type = some "array"
  · obtain ⟨items, rfl⟩ := undisputed.array array
    simp [array]
  by_cases null : keywords.type = some "null"
  · rw [undisputed.null null]
    simp [null]
  · simp [array, null]

theorem lengths_agree {text : String} (between : Between meaning)
    (shortest : ∀ limit ∈ keywords.minLength,
      limit.1 ≤ (text.utf8ByteSize : Int) → limit.1 ≤ (text.length : Int))
    (longest : ∀ limit ∈ keywords.maxLength,
      (text.length : Int) ≤ limit.1 → (text.utf8ByteSize : Int) ≤ limit.1) :
    meaning.lengthFits keywords text = pythonMeaning.lengthFits keywords text := by
  have least : (text.length : Int) ≤ meaning.length text := by
    exact_mod_cast between.least text
  have most : (meaning.length text : Int) ≤ text.utf8ByteSize := by
    exact_mod_cast between.most text
  unfold Meaning.lengthFits
  congr 1
  · cases known : keywords.minLength with
    | none => rfl
    | some limit =>
        rw [Option.all_some, Option.all_some, decide_eq_decide]
        exact ⟨fun fits => shortest limit known (fits.trans most),
          fun fits => le_trans fits least⟩
  · cases known : keywords.maxLength with
    | none => rfl
    | some limit =>
        rw [Option.all_some, Option.all_some, decide_eq_decide]
        exact ⟨fun fits => least.trans fits,
          fun fits => most.trans (longest limit known fits)⟩

theorem closed_agrees {fields : Fields}
    (empty : names = none → keywords.closed = true → fields = []) :
    meaning.closedFits keywords names fields =
      pythonMeaning.closedFits keywords names fields := by
  unfold Meaning.closedFits
  cases names with
  | some names => simp [pythonMeaning]
  | none =>
      cases closed : keywords.closed with
      | false => rfl
      | true => simp [empty rfl closed, Fields.keys]

theorem typed_agrees
    (undisputed : KeywordsUndisputed keywords names childrenFit
      childrenUndisputed value)
    (between : Between meaning) {ownFit : Fields → Bool}
    (children : ∀ fields, value = .obj fields → childrenUndisputed fields →
      ownFit fields = childrenFit fields) :
    meaning.typedFits keywords names ownFit value =
      (pythonMeaning.typeFits keywords.type value &&
      (pythonMeaning.objectFits keywords names childrenFit value &&
      (pythonMeaning.stringFits keywords value &&
      pythonMeaning.numberFits keywords value))) := by
  rw [← type_agrees undisputed between]
  by_cases object : keywords.type = some "object"
  · cases value with
    | obj fields =>
        have same := children fields rfl
          (undisputed.children object fields rfl)
        have closed := @closed_agrees keywords names meaning fields
          (undisputed.closed object fields rfl)
        simp [Meaning.typedFits, Meaning.typeFits, Meaning.objectFits,
          Meaning.stringFits, Meaning.numberFits, object, same, closed]
    | _ => simp [Meaning.typedFits, Meaning.typeFits, object]
  rw [undisputed.object object, Bool.true_and]
  by_cases string : keywords.type = some "string"
  · cases value with
    | str text =>
        have same := lengths_agree between
          (undisputed.shortest string text rfl)
          (undisputed.longest string text rfl)
        simp [Meaning.typedFits, Meaning.typeFits, Meaning.stringFits,
          Meaning.numberFits, pythonMeaning, string, same]
    | _ => simp [Meaning.typedFits, Meaning.typeFits, string]
  rw [undisputed.string string, Bool.true_and]
  by_cases number : keywords.type = some "number" ∨
      keywords.type = some "integer"
  · cases value with
    | int value =>
        simp [Meaning.typedFits, Meaning.typeFits, Meaning.numberFits,
          pythonMeaning, object, string, number]
    | _ => simp [Meaning.typedFits, Meaning.typeFits, object, string, number]
  have range := undisputed.number (fun known => number (.inl known))
    fun known => number (.inr known)
  rw [range, Bool.and_true]
  simp [Meaning.typedFits, Meaning.typeFits, object, string, number,
    between.known]

theorem keywords_agree
    (undisputed : KeywordsUndisputed keywords names childrenFit
      childrenUndisputed value)
    (between : Between meaning) (distinct : value.Distinct)
    {ownFit : Fields → Bool}
    (children : ∀ fields, value = .obj fields → childrenUndisputed fields →
      ownFit fields = childrenFit fields) :
    meaning.keywordsFit keywords names ownFit value =
      pythonMeaning.keywordsFit keywords names childrenFit value := by
  rw [Meaning.keywordsFit, Meaning.keywordsFit,
    const_agrees undisputed between distinct,
    enum_agrees undisputed between distinct,
    ← typed_agrees undisputed between children,
    ← Meaning.typedFits_eq meaning between.typed between.known]

end Keywords

mutual
/-- The languages agree on a value that no difference matters for. -/
theorem fits_agrees {meaning : Meaning} (between : Between meaning) :
    (schema : PlainSchema) → (value : Json) → value.Distinct →
    Undisputed schema value →
    meaning.fits schema value = pythonMeaning.fits schema value
  | .bare _, _, distinct, undisputed =>
      keywords_agree undisputed between distinct fun _ _ _ => rfl
  | .object _ properties, value, distinct, undisputed => by
      apply keywords_agree undisputed between distinct
      rintro fields rfl below
      exact children_agree between properties fields distinct below

theorem children_agree {meaning : Meaning} (between : Between meaning) :
    (properties : List (String × PlainSchema)) → (fields : Fields) →
    Json.DistinctFields fields → ChildrenUndisputed properties fields →
    meaning.childrenFit properties fields =
      pythonMeaning.childrenFit properties fields
  | [], _, _, _ => rfl
  | (key, schema) :: rest, fields, distinct, undisputed => by
      rw [Meaning.childrenFit, Meaning.childrenFit,
        children_agree between rest fields distinct undisputed.2]
      congr 1
      have child := undisputed.1
      cases found : Fields.get? fields key with
      | none => rfl
      | some held =>
          exact fits_agrees between schema held (distinct.value found)
            (child held found)
end

/-! ### Values that all accept -/

section Accepted

variable {keywords : PlainKeywords} {names : Option (List String)}
  {value : Json} {meaning : Meaning} {childrenFit : Fields → Bool}

theorem keywordsFit_iff :
    meaning.keywordsFit keywords names childrenFit value = true ↔
      meaning.constFits keywords value = true ∧
      meaning.enumFits keywords value = true ∧
      meaning.typeFits keywords.type value = true ∧
      meaning.objectFits keywords names childrenFit value = true ∧
      meaning.stringFits keywords value = true ∧
      meaning.numberFits keywords value = true := by
  simp only [Meaning.keywordsFit, Bool.and_eq_true]

theorem children_fit {fields : Fields}
    (fits : meaning.keywordsFit keywords names childrenFit (.obj fields) =
      true) (object : keywords.type = some "object") :
    childrenFit fields = true ∧
      meaning.closedFits keywords names fields = true := by
  have whole := (keywordsFit_iff.mp fits).2.2.2.1
  rw [Meaning.objectFits, if_pos (.inr object), Bool.and_eq_true,
    Bool.and_eq_true] at whole
  exact whole.2

theorem keywords_undisputed {childrenFit : Port → Fields → Bool}
    {childrenUndisputed : Fields → Prop}
    (fits : ∀ port : Port, port.meaning.keywordsFit keywords names
      (childrenFit port) value = true)
    (children : ∀ fields, value = .obj fields →
      (∀ port, childrenFit port fields = true) → childrenUndisputed fields) :
    KeywordsUndisputed keywords names (childrenFit .python) childrenUndisputed
      value := by
  obtain ⟨_, _, type, object, string, number⟩ :=
    keywordsFit_iff.mp (fits .python)
  obtain ⟨const, enum, _⟩ := keywordsFit_iff.mp (fits .typeScript)
  have lengths : ∀ text, value = .str text →
      pythonMeaning.lengthFits keywords text = true := by
    rintro text rfl
    rwa [Meaning.stringFits, if_pos (.inl rfl)] at string
  have bytes : keywords.type = some "string" → ∀ text, value = .str text →
      Port.go.meaning.lengthFits keywords text = true := by
    rintro typed text rfl
    have own := (keywordsFit_iff.mp (fits .go)).2.2.2.2.1
    rwa [Meaning.stringFits, if_pos (.inr typed)] at own
  constructor
  case const =>
    intro document known _
    rw [Meaning.constFits, Option.mem_def.mp known] at const
    exact const
  case enum =>
    intro documents known _ _ _
    rw [Meaning.enumFits, Option.mem_def.mp known] at enum
    exact List.any_eq_true.mp enum
  case array =>
    intro typed
    rw [typed] at type
    cases value with
    | arr items => exact ⟨items, rfl⟩
    | _ => cases type
  case null =>
    intro typed
    rw [typed] at type
    cases value with
    | null => rfl
    | _ => cases type
  case closed =>
    rintro typed fields rfl none closed
    have whole := (children_fit (fits .go) typed).2
    subst none
    rw [Meaning.closedFits, closed] at whole
    cases fields with
    | nil => rfl
    | cons field rest =>
        rw [Fields.keys, List.map_cons, List.all_cons] at whole
        simp [Port.meaning] at whole
  case children =>
    rintro typed fields rfl
    exact children fields rfl fun port => (children_fit (fits port) typed).1
  case object => exact fun _ => object
  case shortest =>
    intro _ text known limit bound _
    have least := lengths text known
    rw [Meaning.lengthFits, Option.mem_def.mp bound, Bool.and_eq_true] at least
    exact of_decide_eq_true least.1
  case longest =>
    intro typed text known limit bound _
    have most := bytes typed text known
    rw [Meaning.lengthFits, Option.mem_def.mp bound, Bool.and_eq_true] at most
    exact of_decide_eq_true most.2
  case string => exact fun _ => string
  case number => exact fun _ _ => number

end Accepted

mutual
theorem undisputed_of_fits : (schema : PlainSchema) → (value : Json) →
    (∀ port : Port, port.meaning.fits schema value = true) →
    Undisputed schema value
  | .bare _, _, fits =>
      @keywords_undisputed _ _ _ (fun _ _ => true) _ fits fun _ _ _ => trivial
  | .object _ properties, value, fits => by
      apply @keywords_undisputed _ _ _
        (fun port => port.meaning.childrenFit properties) _ fits
      rintro fields rfl below
      exact undisputed_of_children properties fields below

theorem undisputed_of_children : (properties : List (String × PlainSchema)) →
    (fields : Fields) →
    (∀ port : Port, port.meaning.childrenFit properties fields = true) →
    ChildrenUndisputed properties fields
  | [], _, _ => trivial
  | (key, schema) :: rest, fields, fits => by
      have each := fun port => Bool.and_eq_true_iff.mp (fits port)
      constructor
      · intro child found
        apply undisputed_of_fits schema child
        intro port
        have own := (each port).1
        rwa [found] at own
      · exact undisputed_of_children rest fields fun port => (each port).2
end

/-! ### Agreement -/

section Agreement

variable {shown : Shown} {schema : PlainSchema} {value : Document}
  {path : String}

/-- Where no difference matters, the languages agree. -/
theorem agree_of_undisputed (undisputed : Undisputed schema value.json)
    (port : Port) : Accepts shown schema value path port ↔
      Accepts shown schema value path .python := by
  rw [accepts_iff, accepts_iff]
  by_cases python : port = .python
  · rw [python]
  · rw [fits_agrees (between_meaning python) schema value.json value.distinct
      undisputed]
    exact Iff.rfl

/-- Where they agree on a value that passes, no difference matters. -/
theorem accepted_iff : (∀ port, Accepts shown schema value path port) ↔
    Undisputed schema value.json ∧
      Accepts shown schema value path .python := by
  constructor
  · intro accepted
    exact ⟨undisputed_of_fits schema value.json fun port =>
      (accepts_iff shown schema value path port).mp (accepted port),
      accepted .python⟩
  · rintro ⟨undisputed, python⟩ port
    exact (agree_of_undisputed undisputed port).mpr python

end Agreement

/-- All four validations pass the value, or all four refuse it: exactly where
no difference between the languages matters, or each language has a keyword of
its own reading that the value breaks.  Each reading has its own equality of
documents; Python's is `pyEq`. -/
theorem schemas_agree_iff (shown : Shown) (schema : PlainSchema)
    (value : Document) (path : String) :
    ((∀ port, Accepts shown schema value path port) ∨
        ∀ port, ¬Accepts shown schema value path port) ↔
      Undisputed schema value.json ∨
        ∀ port : Port, port.meaning.fits schema value.json = false := by
  have refusal : (∀ port, ¬Accepts shown schema value path port) ↔
      ∀ port : Port, port.meaning.fits schema value.json = false := by
    simp only [accepts_iff, Bool.not_eq_true]
  rw [← refusal]
  constructor
  · rintro (accepted | refused)
    · exact .inl (accepted_iff.mp accepted).1
    · exact .inr refused
  · rintro (undisputed | refused)
    · by_cases python : Accepts shown schema value path .python
      · exact .inl (accepted_iff.mpr ⟨undisputed, python⟩)
      · exact .inr fun port accepted =>
          python ((agree_of_undisputed undisputed port).mp accepted)
    · exact .inr refused

/-- A text of one character, which is two bytes. -/
def letter : Document := ⟨.str "é", trivial, trivial⟩

def oneCharacter : PlainSchema :=
  .bare { type := some "string", maxLength := some ⟨1, by decide⟩ }

def plainShown : Shown where
  host := quietHost
  go := fun _ => ""
  typeScript := fun _ => ""

theorem schemas_disagree :
    ¬∀ (shown : Shown) (schema : PlainSchema) (value : Document)
      (path : String), (∀ port, Accepts shown schema value path port) ∨
        ∀ port, ¬Accepts shown schema value path port := by
  intro agree
  rcases agree plainShown oneCharacter letter "$" with accepted | refused
  · have passes := (accepts_iff _ _ _ _ _).mp (accepted .go)
    exact absurd passes (by decide)
  · exact refused .python ((accepts_iff _ _ _ _ _).mpr (by decide))

end Ports

end AgentLedger
