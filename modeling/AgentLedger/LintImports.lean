import AgentLedger.Lint
import Mathlib.Data.List.TakeWhile

namespace AgentLedger.Lint

/-! What a dotted name denotes, and when the linter resolves it to that. -/

/-! ### The names that imports bind -/

/-- What a name is bound to. -/
abbrev Scope := Identifier → Option Path

namespace Scope

/-- `import a.b.c` binds `a` to the package `a`; with `as`, the name to the
module. -/
def runImport (scope : Scope) (imported : ModuleAlias) : Scope :=
  match imported.asname with
  | some asname => Function.update scope asname (some imported.name)
  | none =>
      Function.update scope imported.name.first (some ⟨imported.name.first, []⟩)

/-- `from a.b import c`. -/
def runImportFrom (module_ : Path) (scope : Scope) (imported : MemberAlias) :
    Scope :=
  Function.update scope (imported.asname.getD imported.name)
    (some ⟨module_.first, module_.rest ++ [imported.name]⟩)

def run (scope : Scope) : Statement → Scope
  | .import_ names => names.foldl runImport scope
  | .importFrom module_ names => names.foldl (runImportFrom module_) scope
  | .call _ => scope

/-- The fully qualified name. -/
def denoted (scope : Scope) (callee : Path) : Option Path :=
  (scope callee.first).map fun bound =>
    ⟨bound.first, bound.rest ++ callee.rest⟩

end Scope

/-- `a.b.c` as an expression. -/
def Path.expr (path : Path) : Expr :=
  path.rest.foldl Expr.attribute (.name path.first)

/-- One name that an import binds; `package` where the name is that of the first
package of the path. -/
structure Binding where
  name : Identifier
  path : Path
  package : Bool

namespace Binding

def denotes (binding : Binding) : Path :=
  if binding.package then ⟨binding.path.first, []⟩ else binding.path

/-- The last identifier of the path. -/
def last (binding : Binding) : Identifier :=
  binding.path.rest.getLastD binding.path.first

/-- The linter joins the path and the rest of the name at the right place: a
package that is bound by `import a.b` is followed by `b`, and no other path is
followed by its own last identifier. -/
def Aligned (binding : Binding) (rest : List Identifier) : Prop :=
  if binding.package ∧ binding.path.rest ≠ [] then
    ∃ second, binding.path.rest = [second] ∧ rest.head? = some second
  else rest.head? ≠ some binding.last

end Binding

def ModuleAlias.binding (imported : ModuleAlias) : Binding :=
  match imported.asname with
  | some asname => ⟨asname, imported.name, false⟩
  | none => ⟨imported.name.first, imported.name, true⟩

def MemberAlias.binding (module_ : Path) (imported : MemberAlias) : Binding :=
  ⟨imported.asname.getD imported.name,
    ⟨module_.first, module_.rest ++ [imported.name]⟩, false⟩

def Statement.bindings : Statement → List Binding
  | .import_ names => names.map ModuleAlias.binding
  | .importFrom module_ names => names.map (MemberAlias.binding module_)
  | .call _ => []

/-- The last of the bindings of a name. -/
def lastBinding (bindings : List Binding) (name : Identifier) :
    Option Binding :=
  bindings.reverse.find? fun binding => binding.name = name

/-! ### Dotted texts -/

section Dotted

variable {names others : List Identifier} {first : Identifier}

@[simp] theorem dotted_nil : dotted [] = [] := rfl

@[simp] theorem dotted_singleton : dotted [first] = first.text := by
  simp [dotted]

theorem dotted_cons (present : others ≠ []) :
    dotted (first :: others) = first.text ++ '.' :: dotted others := by
  rw [dotted, List.map_cons, List.intercalate_cons_of_ne_nil (by simpa)]
  simp [dotted]

theorem dotted_append (left : names ≠ []) (right : others ≠ []) :
    dotted (names ++ others) = dotted names ++ '.' :: dotted others := by
  induction names with
  | nil => exact absurd rfl left
  | cons first rest ih =>
      cases rest with
      | nil => simp [dotted_cons right]
      | cons second rest =>
          have whole : dotted (first :: (second :: rest ++ others)) =
              first.text ++ '.' :: dotted (second :: rest ++ others) :=
            dotted_cons (by simp)
          have front : dotted (first :: second :: rest) =
              first.text ++ '.' :: dotted (second :: rest) :=
            dotted_cons (by simp)
          rw [List.cons_append, whole, ih (by simp), front]
          simp

theorem dotted_eq_nil_iff : dotted names = [] ↔ names = [] := by
  cases names with
  | nil => simp
  | cons first rest =>
      cases rest with
      | nil => simpa using first.present
      | cons second rest => simp [dotted_cons]

theorem splitOn_dotted (present : names ≠ []) :
    (dotted names).splitOn '.' = names.map Identifier.text := by
  refine List.splitOn_intercalate '.' ?_ (by simpa using present)
  intro part member
  obtain ⟨name, _, rfl⟩ := List.mem_map.mp member
  exact name.plain

theorem dotted_inj (left : names ≠ []) (right : others ≠ []) :
    dotted names = dotted others ↔ names = others := by
  refine ⟨fun same => ?_, congrArg dotted⟩
  have parts := congrArg (List.splitOn '.') same
  rw [splitOn_dotted left, splitOn_dotted right] at parts
  exact List.map_injective_iff.mpr (fun _ _ => Identifier.ext) parts

theorem partitionDot_dotted :
    partitionDot (dotted (first :: names)) = (first.text, dotted names) := by
  have inside : ∀ letter ∈ first.text, (letter != '.') = true := by
    intro letter member
    simpa using fun same : letter = '.' => first.plain (same ▸ member)
  cases names with
  | nil =>
      rw [dotted_singleton, partitionDot,
        List.takeWhile_eq_self_iff.mpr inside,
        List.dropWhile_eq_nil_iff.mpr inside]
      rfl
  | cons second rest =>
      rw [dotted_cons (by simp), partitionDot,
        List.takeWhile_append_of_pos inside,
        List.dropWhile_append_of_pos inside]
      simp

theorem qualify_dotted (present : names ≠ []) :
    qualify (dotted names) (dotted others) = dotted (names ++ others) := by
  cases others with
  | nil => simp [qualify]
  | cons second rest =>
      have given : dotted (second :: rest) ≠ [] := by
        simp [dotted_eq_nil_iff]
      rw [qualify, if_neg (by simpa using given),
        dotted_append present (by simp)]

theorem lastPart_text (path : Path) :
    lastPart path.text = (path.rest.getLastD path.first).text := by
  rw [lastPart, Path.text, splitOn_dotted (by simp [Path.names]), Path.names,
    List.map_cons, List.getLastD_cons, List.getLastD_map]

theorem dottedName_expr (path : Path) :
    dottedName path.expr = some path.text := by
  have chain (names rest : List Identifier) (present : names ≠ [])
      (value : Expr) (named : dottedName value = some (dotted names)) :
      dottedName (rest.foldl Expr.attribute value) =
        some (dotted (names ++ rest)) := by
    induction rest generalizing names value with
    | nil => rw [List.append_nil, List.foldl_nil, named]
    | cons attr rest ih =>
        have next : dottedName (.attribute value attr) =
            some (dotted (names ++ [attr])) := by
          rw [dottedName, named, dotted_append present (by simp),
            dotted_singleton]
        rw [List.foldl_cons, ih (names ++ [attr]) (by simp) _ next,
          List.append_assoc]
        rfl
  exact chain [path.first] path.rest (by simp) _ (by simp [dottedName])

end Dotted

/-! ### What the visitor has seen -/

section Visits

variable {bindings : List Binding} {visitor : Visitor} {scope : Scope}

theorem lastBinding_append (binding : Binding) (name : Identifier) :
    lastBinding (bindings ++ [binding]) name =
      if binding.name = name then some binding
      else lastBinding bindings name := by
  simp only [lastBinding, List.reverse_append, List.reverse_cons,
    List.reverse_nil, List.nil_append, List.singleton_append, List.find?_cons]
  by_cases same : binding.name = name
  · simp [same]
  · simp [same]

/-- Both know the last binding of every name. -/
structure Tracks (rules : List BoundaryLintRule) (bindings : List Binding)
    (visitor : Visitor) (scope : Scope) : Prop where
  rules : visitor.rules = rules
  objects : ∀ name, visitor.objectAliases name = none
  aliases : ∀ name : Identifier, visitor.importAliases name.text =
    (lastBinding bindings name).map fun binding => binding.path.text
  scope : ∀ name, scope name = (lastBinding bindings name).map Binding.denotes

variable {rules : List BoundaryLintRule}

theorem tracks_nil : Tracks rules [] { rules := rules } fun _ => none where
  rules := rfl
  objects := fun _ => rfl
  aliases := fun _ => rfl
  scope := fun _ => rfl

private theorem Tracks.bind (tracks : Tracks rules bindings visitor scope)
    (binding : Binding) :
    Tracks rules (bindings ++ [binding])
      (visitor.setAlias binding.name.text binding.path.text)
      (Function.update scope binding.name (some binding.denotes)) where
  rules := tracks.rules
  objects := tracks.objects
  aliases := by
    intro name
    rw [lastBinding_append]
    by_cases same : binding.name = name
    · subst same
      simp [Visitor.setAlias]
    · have apart : name.text ≠ binding.name.text := fun texts =>
        same (Identifier.ext texts.symm)
      rw [if_neg same, Visitor.setAlias, ← tracks.aliases]
      exact Function.update_of_ne apart _ _
  scope := by
    intro name
    rw [lastBinding_append]
    by_cases same : binding.name = name
    · subst same
      simp
    · rw [if_neg same, ← tracks.scope]
      exact Function.update_of_ne (Ne.symm same) _ _

private theorem Tracks.import_ (tracks : Tracks rules bindings visitor scope)
    (imported : ModuleAlias) :
    Tracks rules (bindings ++ [imported.binding])
      (visitor.visitImport imported) (scope.runImport imported) := by
  have bound := tracks.bind imported.binding
  obtain ⟨name, asname⟩ := imported
  cases asname with
  | some asname => exact bound
  | none =>
      have key : (partitionDot name.text).1 = name.first.text := by
        rw [Path.text, Path.names, partitionDot_dotted]
      rw [Visitor.visitImport]
      simp only [key]
      exact bound

private theorem Tracks.importFrom (tracks : Tracks rules bindings visitor scope)
    (module_ : Path) (imported : MemberAlias) :
    Tracks rules (bindings ++ [imported.binding module_])
      (visitor.visitImportFrom module_ imported)
      (scope.runImportFrom module_ imported) := by
  have bound := tracks.bind (imported.binding module_)
  have target : module_.text ++ '.' :: imported.name.text =
      (imported.binding module_).path.text := by
    simp only [MemberAlias.binding, Path.text, Path.names]
    rw [← List.cons_append, dotted_append (by simp) (by simp),
      dotted_singleton]
  rw [Visitor.visitImportFrom, target]
  exact bound

theorem Tracks.visit (tracks : Tracks rules bindings visitor scope)
    (statement : Statement) :
    Tracks rules (bindings ++ statement.bindings) (visitor.visit statement)
      (scope.run statement) := by
  cases statement with
  | import_ names =>
      simp only [Statement.bindings, Visitor.visit, Scope.run]
      induction names generalizing bindings visitor scope with
      | nil => simpa using tracks
      | cons imported rest ih =>
          have later := ih (tracks.import_ imported)
          rw [List.append_assoc] at later
          exact later
  | importFrom module_ names =>
      simp only [Statement.bindings, Visitor.visit, Scope.run]
      induction names generalizing bindings visitor scope with
      | nil => simpa using tracks
      | cons imported rest ih =>
          have later := ih (tracks.importFrom module_ imported)
          rw [List.append_assoc] at later
          exact later
  | call node =>
      rw [Statement.bindings, List.append_nil]
      exact ⟨tracks.rules, tracks.objects, tracks.aliases, tracks.scope⟩

theorem Tracks.visits (tracks : Tracks rules bindings visitor scope)
    (statements : List Statement) :
    Tracks rules (bindings ++ statements.flatMap Statement.bindings)
      (statements.foldl Visitor.visit visitor)
      (statements.foldl Scope.run scope) := by
  induction statements generalizing bindings visitor scope with
  | nil => simpa using tracks
  | cons statement rest ih =>
      have later := ih (tracks.visit statement)
      rw [List.append_assoc] at later
      exact later

end Visits

/-! ### The resolved name -/

/-- The names that the linter joins. -/
def Binding.resolved (binding : Binding) (rest : List Identifier) :
    List Identifier :=
  binding.path.names ++
    if rest.head? = some binding.last then rest.tail else rest

section Resolved

variable {bindings : List Binding} {visitor : Visitor} {scope : Scope}
  {rules : List BoundaryLintRule} {binding : Binding} {callee : Path}

theorem resolvedCallee_eq (tracks : Tracks rules bindings visitor scope)
    (bound : lastBinding bindings callee.first = some binding) :
    visitor.resolvedCallee callee.expr =
      some (dotted (binding.resolved callee.rest)) := by
  have target := tracks.aliases callee.first
  rw [bound, Option.map_some] at target
  have named : binding.path.names ≠ [] := by simp [Path.names]
  rw [Visitor.resolvedCallee, dottedName_expr, Path.text, Path.names]
  dsimp only
  rw [partitionDot_dotted, tracks.objects]
  dsimp only
  rw [target]
  dsimp only
  rw [lastPart_text, Binding.resolved]
  cases callee.rest with
  | nil =>
      simp only [dotted_nil, List.isEmpty_nil, Bool.not_true, Bool.false_and,
        Bool.false_eq_true, if_false, List.head?_nil, reduceCtorEq]
      exact congrArg some (@qualify_dotted binding.path.names [] named)
  | cons next rest =>
      have given : (!(dotted (next :: rest)).isEmpty) = true := by
        simpa using dotted_eq_nil_iff.not.mpr (List.cons_ne_nil next rest)
      rw [partitionDot_dotted, given, Bool.true_and, List.head?_cons,
        List.tail_cons, Option.some.injEq]
      dsimp only
      by_cases same : next = binding.last
      · have texts : (binding.path.rest.getLastD binding.path.first).text =
            next.text := by rw [same, Binding.last]
        rw [if_pos (congrArg some same), texts,
          if_pos (beq_self_eq_true next.text)]
        exact qualify_dotted named
      · have texts : ¬ ((binding.path.rest.getLastD binding.path.first).text ==
            next.text) = true := by
          intro equal
          exact same (Identifier.ext (eq_of_beq equal)).symm
        rw [if_neg fun equal => same (Option.some.inj equal), if_neg texts]
        exact qualify_dotted named

theorem denoted_eq (tracks : Tracks rules bindings visitor scope)
    (bound : lastBinding bindings callee.first = some binding) :
    scope.denoted callee = some
      ⟨binding.denotes.first, binding.denotes.rest ++ callee.rest⟩ := by
  rw [Scope.denoted, tracks.scope, bound]
  rfl

theorem resolved_cases (binding : Binding) (rest : List Identifier) :
    (∃ later, rest = binding.last :: later ∧
        binding.resolved rest = binding.path.names ++ later) ∨
      rest.head? ≠ some binding.last ∧
        binding.resolved rest = binding.path.names ++ rest := by
  by_cases same : rest.head? = some binding.last
  · left
    cases rest with
    | nil => cases same
    | cons next later =>
        cases same
        refine ⟨later, rfl, ?_⟩
        rw [Binding.resolved]
        exact congrArg (binding.path.names ++ ·) (if_pos rfl)
  · right
    exact ⟨same, by rw [Binding.resolved, if_neg same]⟩

theorem resolved_eq_iff (rest : List Identifier) :
    binding.resolved rest = binding.denotes.names ++ rest ↔
      binding.Aligned rest := by
  by_cases package : binding.package = true ∧ binding.path.rest ≠ []
  · rw [Binding.Aligned, if_pos package, Binding.denotes, if_pos package.1]
    simp only [Path.names, List.cons_append, List.nil_append]
    rcases resolved_cases binding rest with
      ⟨later, rfl, resolved⟩ | ⟨apart, resolved⟩
    · rw [resolved, Path.names, List.cons_append, List.cons.injEq]
      simp only [true_and, List.head?_cons, Option.some.injEq]
      constructor
      · intro same
        have sizes := congrArg List.length same
        simp only [List.length_append, List.length_cons] at sizes
        obtain ⟨second, single⟩ : ∃ second, binding.path.rest = [second] :=
          List.length_eq_one_iff.mp (by omega)
        exact ⟨second, single, by rw [Binding.last, single]; rfl⟩
      · rintro ⟨second, single, last⟩
        rw [single, last]
        rfl
    · rw [resolved, Path.names, List.cons_append, List.cons.injEq]
      simp only [true_and]
      constructor
      · intro same
        have sizes := congrArg List.length same
        simp only [List.length_append] at sizes
        exact absurd (List.eq_nil_of_length_eq_zero (by omega)) package.2
      · rintro ⟨second, single, starts⟩
        refine absurd ?_ apart
        rw [starts, Binding.last, single]
        rfl
  · have own : binding.denotes.names = binding.path.names := by
      rw [Binding.denotes]
      split
      · rename_i plain
        have single : binding.path.rest = [] := by
          by_contra more
          exact package ⟨plain, more⟩
        simp [Path.names, single]
      · rfl
    rw [Binding.Aligned, if_neg package, own]
    rcases resolved_cases binding rest with
      ⟨later, rfl, resolved⟩ | ⟨apart, resolved⟩
    · rw [resolved, List.append_cancel_left_eq]
      refine iff_of_false ?_ (by simp)
      intro same
      have sizes := congrArg List.length same
      simp only [List.length_cons] at sizes
      omega
    · exact iff_of_true resolved apart

end Resolved

/-! ### What is reported -/

/-- The name matches a rule, or a check that the linter has of its own. -/
def Matches (rules : List BoundaryLintRule) (node : CallNode) (name : Text) :
    Prop :=
  scanSpecialCall node name ≠ [] ∨ ∃ rule ∈ rules, rule.matches_ name = true

theorem findingsOf_ne_nil_iff {rules : List BoundaryLintRule}
    {node : CallNode} {name : Text} :
    findingsOf rules node name ≠ [] ↔ Matches rules node name := by
  rw [findingsOf, Matches]
  cases special : scanSpecialCall node name with
  | cons finding rest => simp
  | nil =>
      simp only [List.isEmpty_nil, if_true, ne_eq, not_true, false_or,
        Option.toList_eq_nil_iff, Option.map_eq_none_iff]
      exact Option.isSome_iff_ne_none.symm.trans List.find?_isSome

/-- A call through a dotted name in front of which the statements stand: its
name is resolved to what it denotes, and it is reported for that name. -/
def Resolves (rules : List BoundaryLintRule) (statements : List Statement)
    (callee : Path) (args : Arguments) (ignored : Bool) : Prop :=
  let visitor := statements.foldl Visitor.visit { rules := rules }
  let node : CallNode := ⟨callee.expr, args, ignored⟩
  ∀ name,
    (statements.foldl Scope.run fun _ => none).denoted callee = some name →
    visitor.resolvedCallee node.func = some name.text ∧
      (visitor.reported node ≠ [] ↔
        ignored = false ∧ Matches rules node name.text)

theorem resolves_iff (rules : List BoundaryLintRule)
    (statements : List Statement) (callee : Path) (args : Arguments)
    (ignored : Bool) :
    Resolves rules statements callee args ignored ↔
      ∀ binding,
        lastBinding (statements.flatMap Statement.bindings) callee.first =
          some binding →
        binding.Aligned callee.rest := by
  have tracks := (@tracks_nil rules).visits statements
  rw [List.nil_append] at tracks
  cases found : lastBinding (statements.flatMap Statement.bindings)
      callee.first with
  | none =>
      refine iff_of_true ?_ (by simp)
      intro name denoted
      rw [Scope.denoted, tracks.scope, found] at denoted
      cases denoted
  | some binding =>
      have resolved := resolvedCallee_eq tracks found
      have denoted := denoted_eq tracks found
      have same_iff : some (dotted (binding.resolved callee.rest)) =
          some (Path.text ⟨binding.denotes.first,
            binding.denotes.rest ++ callee.rest⟩) ↔
            binding.Aligned callee.rest := by
        rw [Option.some.injEq, Path.text, dotted_inj
          (by simp [Binding.resolved, Path.names]) (by simp [Path.names]),
          ← resolved_eq_iff]
        rfl
      simp only [Resolves, denoted, resolved, Option.some.injEq, forall_eq']
      rw [← same_iff]
      simp only [Option.some.injEq]
      refine and_iff_left_of_imp fun same => ?_
      have present : dotted (binding.resolved callee.rest) ≠ [] := by
        simp [dotted_eq_nil_iff, Binding.resolved, Path.names]
      rw [Visitor.reported, Visitor.callee]
      simp only [resolved, same, tracks.rules]
      rw [same] at present
      cases ignored with
      | true => simp
      | false =>
          simp only [Bool.or_false, true_and]
          rw [if_neg (by simpa using present), findingsOf_ne_nil_iff]

private def urllib : Identifier :=
  ⟨"urllib".toList, by decide, by decide⟩

private def request : Identifier :=
  ⟨"request".toList, by decide, by decide⟩

private def parse : Identifier :=
  ⟨"parse".toList, by decide, by decide⟩

private def urlopen : Identifier :=
  ⟨"urlopen".toList, by decide, by decide⟩

/-- After `import urllib.request` and `import urllib.parse`, a call of
`urllib.request.urlopen` is looked up in the second module. -/
theorem shared_package_missed :
    ¬ ∀ rules statements callee args ignored,
      Resolves rules statements callee args ignored := by
  intro all
  have resolved := (all []
    [.import_ [⟨⟨urllib, [request]⟩, none⟩],
      .import_ [⟨⟨urllib, [parse]⟩, none⟩]]
    ⟨urllib, [request, urlopen]⟩ {} false
    ⟨urllib, [request, urlopen]⟩ (by decide)).1
  revert resolved
  decide

end AgentLedger.Lint
