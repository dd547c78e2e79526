import AgentLedger.Policy.Listed
import Mathlib.Data.Fintype.EquivFin

namespace AgentLedger

open Foundation

/-! What the engine of a policy text denies. -/

open PolicyText

namespace PolicyText

variable (builtins : Builtins)

/-- The names that the listing comes to; none, where its line is taken for the
head of another list. -/
def Listing.taken : Listing → Option (List String)
  | .block _ items =>
      some (items.map fun item => String.ofList item.2.read)
  | .single _ scalar =>
      if endsOpen scalar.read then none
      else if scalar.read = "true".toList ∨ scalar.read = "false".toList ∨
          scalar.read.all builtins.isDigit then some []
      else some ((stripQuotes scalar.read).map String.singleton)

namespace RoleText

variable (role : RoleText)

/-- The names that the text lists under the key. -/
def listed (key : RoleKey) : List String :=
  match role.entries.lookup key with
  | none => []
  | some listing => listing.names.map String.ofList

def taken (key : RoleKey) : Option (List String) :=
  (role.entries.lookup key).bind (Listing.taken builtins)

def Named (key : RoleKey) (name : String) : Prop :=
  name ∈ (role.taken builtins key).getD []

def policy : RolePolicy where
  allowTools := role.taken builtins .allowTools
  denyTools := (role.taken builtins .denyTools).getD []
  allowRisk := role.taken builtins .allowRisk
  denyRisk := (role.taken builtins .denyRisk).getD []

end RoleText

end PolicyText

namespace PolicyEngine

variable {builtins : Builtins}

private theorem foldlM_strings (texts held : List String) :
    (texts.map Json.str).foldlM (fun held item =>
      match item with
      | .arr _ => .error (.typeError "unhashable type: 'list'")
      | .obj _ => .error (.typeError "unhashable type: 'dict'")
      | item => .ok (held ++ (Json.str? item).toList)) held =
        (.ok (held ++ texts) : Except PyError (List String)) := by
  induction texts generalizing held with
  | nil =>
      rw [List.append_nil]
      rfl
  | cons text rest ih =>
      rw [List.map_cons, List.foldlM_cons]
      have later := ih (held ++ [text])
      rw [List.append_assoc, List.singleton_append] at later
      exact later

theorem setOf_strings (texts : List String) :
    setOf (.arr (texts.map Json.str)) = .ok texts := by
  cases texts with
  | nil => rfl
  | cons text rest => exact foldlM_strings (text :: rest) []

theorem setOf_text (text : List Char) :
    setOf (.str (String.ofList text)) = .ok (text.map String.singleton) := by
  unfold setOf
  cases text with
  | nil => rfl
  | cons first rest =>
      have some : truthy (.str (String.ofList (first :: rest))) = true := by
        simp [truthy]
      rw [if_pos some]
      have letters : iterate (.str (String.ofList (first :: rest))) =
          .ok (((first :: rest).map String.singleton).map Json.str) := by
        rw [iterate, String.toList_ofList, List.map_map]
        rfl
      rw [letters]
      exact foldlM_strings _ []

theorem setOf_int {number : Int} {names : List String}
    (made : setOf (.int number) = .ok names) : names = [] := by
  rw [setOf] at made
  by_cases zero : number = 0
  · rw [zero] at made
    cases made
    rfl
  · rw [if_pos (by simp [truthy, zero])] at made
    cases made

theorem setOf_scalar {text : List Char} (some : text ≠ []) {value : Json}
    (read : scalarOf builtins text = .ok value) {names : List String}
    (made : setOf value = .ok names) :
    names = (if text = "true".toList ∨ text = "false".toList ∨
        text.all builtins.isDigit then []
      else (stripQuotes text).map String.singleton) ∧ value ≠ .null := by
  unfold scalarOf at read
  by_cases yes : text = "true".toList
  · rw [if_pos yes] at read
    cases read
    cases made
  by_cases no : text = "false".toList
  · rw [if_neg yes, if_pos no] at read
    cases read
    cases made
    rw [if_pos (.inr (.inl no))]
    exact ⟨rfl, by simp⟩
  have filled : text.isEmpty = false := by simp [some]
  rw [if_neg yes, if_neg no, filled] at read
  by_cases digits : text.all builtins.isDigit = true
  · rw [digits] at read
    rw [if_pos (.inr (.inr digits))]
    obtain ⟨number, _, same⟩ := bind_ok read
    cases same
    exact ⟨setOf_int made, by simp⟩
  · rw [Bool.not_eq_true] at digits
    rw [digits] at read
    cases read
    rw [setOf_text] at made
    cases made
    rw [digits, if_neg]
    · exact ⟨rfl, by simp⟩
    · rintro (same | same | same)
      · exact yes same
      · exact no same
      · cases same

theorem setOf_listing {listing : Listing} {value : Option Json}
    (read : listing.read builtins = .ok value) {names : List String}
    (made : setOf (value.getD .null) = .ok names) :
    listing.taken builtins = value.map (fun _ => names) ∧
      value ≠ some .null := by
  cases listing with
  | block head items =>
      cases read
      have texts : items.map (fun item => item.2.item) =
          (items.map fun item => String.ofList item.2.read).map Json.str := by
        rw [List.map_map]
        rfl
      rw [Option.getD_some, texts, setOf_strings] at made
      cases made
      exact ⟨rfl, by simp⟩
  | single margin scalar =>
      rw [Listing.read] at read
      rw [Listing.taken]
      cases opened : endsOpen scalar.read with
      | true =>
          rw [opened] at read
          cases read
          exact ⟨rfl, by simp⟩
      | false =>
          rw [opened, if_neg (by simp)] at read
          cases parsed : scalarOf builtins scalar.read with
          | error error =>
              rw [parsed] at read
              cases read
          | ok scalarValue =>
              rw [parsed] at read
              cases read
              obtain ⟨same, other⟩ :=
                setOf_scalar scalar.read_ne_nil parsed made
              rw [if_neg (by simp), same, Option.map_some]
              refine ⟨?_, by simpa using other⟩
              split
              · rfl
              · rfl

theorem optionalSet_listing {listing : Listing} {value : Option Json}
    (read : listing.read builtins = .ok value) {names : Option (List String)}
    (made : optionalSet (value.getD .null) = .ok names) :
    listing.taken builtins = names := by
  cases value with
  | none =>
      have none : setOf (Option.getD (none : Option Json) .null) = .ok [] := rfl
      rw [(setOf_listing read none).1]
      cases made
      rfl
  | some value =>
      rw [Option.getD_some] at made
      by_cases missing : value = .null
      · rw [missing] at read
        have none : setOf (Option.getD (some .null) .null) = .ok [] := rfl
        exact absurd rfl (setOf_listing read none).2
      · have unfolded : optionalSet value = (setOf value).map some := by
          cases value with
          | null => exact absurd rfl missing
          | _ => rfl
        rw [unfolded] at made
        cases held : setOf value with
        | error error =>
            rw [held] at made
            cases made
        | ok names =>
            rw [held] at made
            cases made
            exact (setOf_listing read held).1

section Roles

variable {role : RoleText} {fields : Fields}
  (read : role.ReadAs builtins fun key => Fields.get? fields key.name)

include read

theorem setOf_taken {key : RoleKey} {names : List String}
    (made : setOf (getOrNone fields key.name) = .ok names) :
    names = (role.taken builtins key).getD [] := by
  have known := read key
  rw [RoleText.taken]
  cases entry : role.entries.lookup key with
  | none =>
      rw [entry] at known
      have absent : Fields.get? fields key.name = none := known
      rw [getOrNone, absent] at made
      cases made
      rfl
  | some listing =>
      rw [entry] at known
      have taken : listing.taken builtins =
          (Fields.get? fields key.name).map fun _ => names :=
        (setOf_listing known made).1
      rw [Option.bind_some, taken]
      cases held : Fields.get? fields key.name with
      | none =>
          rw [getOrNone, held] at made
          cases made
          rfl
      | some value => rfl

theorem optionalSet_taken {key : RoleKey} {names : Option (List String)}
    (made : optionalSet (getOrNone fields key.name) = .ok names) :
    names = role.taken builtins key := by
  have known := read key
  rw [RoleText.taken]
  cases entry : role.entries.lookup key with
  | none =>
      rw [entry] at known
      have absent : Fields.get? fields key.name = none := known
      rw [getOrNone, absent] at made
      cases made
      rfl
  | some listing =>
      rw [entry] at known
      exact (optionalSet_listing known made).symm

theorem roleFromDict_policy {policy : RolePolicy}
    (made : roleFromDict (.obj fields) = .ok policy) :
    policy = role.policy builtins := by
  have entries : mappingOf (.obj fields) "get" = .ok fields := by
    cases fields <;> rfl
  rw [roleFromDict, entries] at made
  obtain ⟨_, same, made⟩ := bind_ok made
  cases same
  obtain ⟨allowTools, first, made⟩ := bind_ok made
  obtain ⟨denyTools, second, made⟩ := bind_ok made
  obtain ⟨allowRisk, third, made⟩ := bind_ok made
  obtain ⟨denyRisk, fourth, made⟩ := bind_ok made
  cases made
  rw [RoleText.policy,
    @optionalSet_taken _ _ _ read .allowTools _ first,
    @setOf_taken _ _ _ read .denyTools _ second,
    @optionalSet_taken _ _ _ read .allowRisk _ third,
    @setOf_taken _ _ _ read .denyRisk _ fourth]

end Roles

theorem policyOf_held {held : Fields} {roles : List (String × RolePolicy)}
    (made : (held.mapM fun entry => do
      return (entry.1, ← roleFromDict entry.2)) = .ok roles)
    {name : String} {value : Json} (known : Fields.get? held name = some value) :
    ∃ policy, roleFromDict value = .ok policy ∧
      policyOf roles name = some policy := by
  induction held generalizing roles with
  | nil => cases known
  | cons entry rest ih =>
      obtain ⟨first, own⟩ := entry
      rw [List.mapM_cons] at made
      obtain ⟨named, line, made⟩ := bind_ok made
      obtain ⟨policy, read, same⟩ := bind_ok line
      cases same
      obtain ⟨others, later, same⟩ := bind_ok made
      cases same
      rw [Fields.get?] at known
      rw [policyOf, List.find?_cons]
      by_cases same : first = name
      · rw [if_pos same] at known
        cases known
        simp only [same, decide_true]
        exact ⟨policy, read, rfl⟩
      · rw [if_neg same] at known
        simp only [same, decide_false]
        exact ih later known

end PolicyEngine

open PolicyEngine

variable {builtins : Builtins} {document : Document} {engine : PolicyEngine}

theorem loaded_document
    (loaded : loadPolicy builtins document.text = .ok engine) :
    (∀ role ∈ document.roles,
      engine.rolePolicy role.key = some (role.policy builtins)) ∧
      ∃ defaults, engine.defaultByRisk = defaultsOf defaults := by
  obtain ⟨data, parsed, made⟩ := bind_ok loaded
  obtain ⟨state, same, told⟩ := parse_document parsed
  subst same
  obtain ⟨defaults, _, made⟩ := bind_ok made
  obtain ⟨held, items, made⟩ := bind_ok made
  obtain ⟨roles, each, made⟩ := bind_ok made
  cases made
  refine ⟨?_, defaults, rfl⟩
  intro role member
  obtain ⟨fields, known, read⟩ := told.held role member
  have top : Fields.get? held role.key = some (.obj fields) := by
    rw [view] at known
    rw [getOrNone] at items
    split at known
    · rename_i roles top
      rw [top] at items
      cases roles with
      | nil => cases known
      | cons first rest =>
          cases items
          exact known
    · cases known
  obtain ⟨policy, ok, found⟩ := policyOf_held each top
  rw [roleFromDict_policy read ok] at found
  simp only [rolePolicy, found]
  rfl

/-! ### What is denied and what is allowed -/

namespace PolicyEngine

variable {role name : String} {policy : RolePolicy}

theorem exists_quiet_risk {defaults : Fields}
    (made : engine.defaultByRisk = defaultsOf defaults)
    (listed : List String) :
    ∃ riskLevel, riskLevel ∉ listed ∧
      (engine.checkDefault riskLevel).allowed = true := by
  have infinite : Infinite String :=
    Infinite.of_injective String.ofList fun _ _ => String.ofList_injective
  obtain ⟨riskLevel, fresh⟩ := Infinite.exists_notMem_finset
    (listed ++ highRiskLevels ++ defaults.map Prod.fst).toFinset
  simp only [List.mem_toFinset, List.mem_append, not_or] at fresh
  obtain ⟨⟨unlisted, low⟩, silent⟩ := fresh
  have absent : engine.defaultByRisk riskLevel = none := by
    rw [made, defaultsOf]
    cases known : Fields.get? defaults riskLevel with
    | none => rfl
    | some value =>
        have member := Fields.mem_of_get? known
        exact absurd (List.mem_map.mpr ⟨_, member, rfl⟩) silent
  refine ⟨riskLevel, unlisted, ?_⟩
  rw [checkDefault, absent, if_neg (by simp), if_neg (by simp), if_neg low]

theorem denied_iff (known : engine.rolePolicy role = some policy)
    {defaults : Fields} (made : engine.defaultByRisk = defaultsOf defaults) :
    (∀ riskLevel,
        (engine.checkToolPolicy role name riskLevel).allowed = false) ↔
      name ∈ policy.denyTools ∨
        (name ∉ policy.allowTools.getD [] ∧
          (policy.allowTools.isSome || policy.allowRisk.isSome) = true ∧
          ∀ riskLevel ∈ policy.allowRisk.getD [],
            riskLevel ∈ policy.denyRisk) := by
  constructor
  · intro denied
    by_cases listed : name ∈ policy.denyTools
    · exact .inl listed
    refine .inr ⟨?_, ?_, ?_⟩
    · intro allowed
      have answer := denied ""
      simp [checkToolPolicy, known, listed, allowed] at answer
    · obtain ⟨riskLevel, unlisted, quiet⟩ :=
        exists_quiet_risk made (policy.denyRisk ++ policy.allowRisk.getD [])
      rw [List.mem_append, not_or] at unlisted
      have answer := denied riskLevel
      cases missed : policy.allowTools.isSome || policy.allowRisk.isSome with
      | true => rfl
      | false =>
          rw [Bool.or_eq_false_iff] at missed
          by_cases allowed : name ∈ policy.allowTools.getD []
          · simp [checkToolPolicy, known, listed, allowed] at answer
          · simp [checkToolPolicy, known, listed, allowed, unlisted, missed,
              quiet] at answer
    · intro riskLevel allowedRisk
      by_contra undenied
      have answer := denied riskLevel
      by_cases allowed : name ∈ policy.allowTools.getD []
      · simp [checkToolPolicy, known, listed, allowed] at answer
      · simp [checkToolPolicy, known, listed, allowed, undenied, allowedRisk]
          at answer
  · intro listed riskLevel
    rcases listed with listed | ⟨unnamed, missed, covered⟩
    · simp [checkToolPolicy, known, listed]
    · by_cases listed : name ∈ policy.denyTools
      · simp [checkToolPolicy, known, listed]
      by_cases denied : riskLevel ∈ policy.denyRisk
      · simp [checkToolPolicy, known, listed, unnamed, denied]
      · have silent : riskLevel ∉ policy.allowRisk.getD [] :=
          fun allowed => denied (covered riskLevel allowed)
        simp only [checkToolPolicy, known, if_neg listed, if_neg unnamed,
          if_neg denied, if_neg silent, if_pos missed]

theorem allowed_by_name_iff (known : engine.rolePolicy role = some policy)
    (riskLevel : String) :
    (engine.checkToolPolicy role name riskLevel).rule = .roleAllowTool ↔
      name ∈ policy.allowTools.getD [] ∧ name ∉ policy.denyTools := by
  by_cases listed : name ∈ policy.denyTools
  · simp [checkToolPolicy, known, listed]
  by_cases allowed : name ∈ policy.allowTools.getD []
  · simp [checkToolPolicy, known, listed, allowed]
  · have other :
        (engine.checkToolPolicy role name riskLevel).rule ≠ .roleAllowTool := by
      simp only [checkToolPolicy, known, if_neg listed, if_neg allowed,
        checkDefault]
      repeat' split
      all_goals simp
    simp [other, allowed]

/-- The engine denies what is listed as denied, and allows by its name what is
listed as allowed and not denied, and nothing else. -/
structure Honours (engine : PolicyEngine) (role : RoleText) : Prop where
  denied : ∀ name ∈ role.listed .denyTools, ∀ riskLevel,
    (engine.checkToolPolicy role.key name riskLevel).allowed = false
  allowed : ∀ name riskLevel,
    (engine.checkToolPolicy role.key name riskLevel).rule = .roleAllowTool ↔
      name ∈ role.listed .allowTools ∧ name ∉ role.listed .denyTools

end PolicyEngine

/-- What the listings of the role come to is what they list, where it
matters. -/
structure PolicyText.RoleText.TakenAsListed (builtins : Builtins)
    (role : RoleText) : Prop where
  denied : ∀ name ∈ role.listed .denyTools,
    role.Named builtins .denyTools name ∨
      (¬ role.Named builtins .allowTools name ∧
        ((role.taken builtins .allowTools).isSome ||
          (role.taken builtins .allowRisk).isSome) = true ∧
        ∀ riskLevel, role.Named builtins .allowRisk riskLevel →
          role.Named builtins .denyRisk riskLevel)
  allowed : ∀ name,
    (role.Named builtins .allowTools name ∧
        ¬ role.Named builtins .denyTools name) ↔
      name ∈ role.listed .allowTools ∧ name ∉ role.listed .denyTools

/-- The engine of a policy text honours its listings exactly where they are
taken as they are listed. -/
theorem listings_honoured_iff
    (loaded : loadPolicy builtins document.text = .ok engine) :
    (∀ role ∈ document.roles, engine.Honours role) ↔
      ∀ role ∈ document.roles, role.TakenAsListed builtins := by
  obtain ⟨policies, defaults, made⟩ := loaded_document loaded
  constructor
  · intro honoured role member
    have known := policies role member
    have own := honoured role member
    refine ⟨?_, ?_⟩
    · intro name listed
      exact (denied_iff known made).mp (own.denied name listed)
    · intro name
      exact (allowed_by_name_iff known "").symm.trans (own.allowed name "")
  · intro taken role member
    have known := policies role member
    have own := taken role member
    refine ⟨?_, ?_⟩
    · intro name listed
      exact (denied_iff known made).mpr (own.denied name listed)
    · intro name riskLevel
      exact (allowed_by_name_iff known riskLevel).trans (own.allowed name)

/-! ### One denial, written in two ways -/

def asciiBuiltins : Builtins where
  isDigit := Char.isDigit
  toInt := fun text => .ok (text.toNat?.getD 0)
  repr := fun text => "'" ++ text ++ "'"
  str := fun value =>
    match value with
    | .bool true => "True"
    | .bool false => "False"
    | .int value => toString value
    | _ => ""

def bareMargin : Margin where
  above := []
  note := ⟨none, by simp⟩

def executorTitle : Title where
  text := "Executor".toList
  admitted := ⟨⟨'E', "xecutor".toList, rfl, by decide, by decide⟩, by decide,
    by decide, by decide, by decide, by decide⟩
  bare := by decide
  oneLine := by
    rw [OneLine, ← List.all_iff_forall_prop]
    decide

def shellItem (style : Quoting) (admitted : style.Admits "shell.exec".toList) :
    Scalar where
  name := "shell.exec".toList
  style := style
  admitted := admitted
  oneLine := by
    rw [OneLine, ← List.all_iff_forall_prop]
    decide

/-- A policy that lists the item alone under `deny_tools`. -/
def denyingItem (item : Scalar) : Document where
  sections := [.roles bareMargin
    [{ margin := bareMargin
       name := executorTitle
       entries := [(.denyTools, .block bareMargin [(bareMargin, item)])]
       distinct := List.nodup_singleton _ }]]
  distinct := List.nodup_singleton _

def plainShell : Scalar :=
  shellItem .plain ⟨⟨'s', "hell.exec".toList, rfl, by decide, by decide⟩,
    by decide, by decide, by decide, by decide, by decide⟩

def quotedShell : Scalar := shellItem .double ⟨by decide, by decide⟩

theorem plain_denial_honoured :
    ∃ engine,
      loadPolicy asciiBuiltins (denyingItem plainShell).text = .ok engine ∧
      ∀ role ∈ (denyingItem plainShell).roles, engine.Honours role := by
  refine ⟨_, rfl, (listings_honoured_iff rfl).mpr ?_⟩
  intro role member
  rw [List.mem_singleton.mp member]
  refine ⟨?_, ?_⟩
  · intro name listed
    exact .inl (by rwa [RoleText.Named])
  · intro name
    constructor
    · rintro ⟨named, _⟩
      cases named
    · rintro ⟨listed, _⟩
      cases listed

/-- A denial that is quoted in a block list is not honoured. -/
theorem quoted_denial_ignored :
    ∃ engine,
      loadPolicy asciiBuiltins (denyingItem quotedShell).text = .ok engine ∧
      ¬ ∀ role ∈ (denyingItem quotedShell).roles, engine.Honours role := by
  refine ⟨_, rfl, ?_⟩
  intro honoured
  have own := honoured _ (List.mem_singleton_self _)
  have denied := own.denied "shell.exec" (by decide) "low"
  revert denied
  decide

end AgentLedger
