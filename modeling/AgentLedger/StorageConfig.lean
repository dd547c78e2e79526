import AgentLedger.Foundation.Json
import AgentLedger.Foundation.Pattern

namespace AgentLedger

open Foundation

/-! `storage_mysql.py`, `storage_postgres.py`: the data source name that is
printed, with its password replaced. -/

/-- `(://[^:/@]+:)([^@]+)(@)`. -/
def passwordPattern : List Pattern.Piece :=
  [.text [':', '/', '/'],
    .run fun letter => !([':', '/', '@'].contains letter),
    .text [':'],
    .run fun letter => letter != '@',
    .text ['@']]

/-- `\1***\3`. -/
def withoutPassword : List (List Char) → List Char
  | [slashes, user, colon, _, at_] =>
      slashes ++ user ++ colon ++ ['*', '*', '*'] ++ at_
  | found => found.flatten

/-- `re.sub` of the password. -/
def redact (dsn : List Char) : List Char :=
  Pattern.sub passwordPattern withoutPassword dsn

structure MySQLStoreConfig where
  dsn : String
  database : Option String := none

namespace MySQLStoreConfig

def redactedDsn (config : MySQLStoreConfig) : String :=
  String.ofList (redact config.dsn.toList)

def toDict (config : MySQLStoreConfig) : Json :=
  .obj
    [("database", (config.database.map Json.str).getD .null),
      ("dsn", .str config.redactedDsn)]

end MySQLStoreConfig

structure PostgresStoreConfig where
  dsn : String
  schema : String := "public"

namespace PostgresStoreConfig

def redactedDsn (config : PostgresStoreConfig) : String :=
  String.ofList (redact config.dsn.toList)

def toDict (config : PostgresStoreConfig) : Json :=
  .obj [("dsn", .str config.redactedDsn), ("schema", .str config.schema)]

end PostgresStoreConfig

/-! ### The parts of a data source name -/

/-- What `urlparse` can take for a password: the authority ends at the first of
`/?#`. -/
structure Password where
  letters : List Char
  given : letters ≠ []
  plain : ∀ letter ∈ letters, letter ∉ ['/', '?', '#']

@[ext] theorem Password.ext {first second : Password}
    (letters : first.letters = second.letters) : first = second := by
  cases first
  cases second
  cases letters
  rfl

/-- The parts around a password.  The user ends at the first colon of the user
information, and the host starts after the last `@` of the authority. -/
structure Dsn where
  scheme : List Char
  user : List Char
  host : List Char
  rest : List Char
  scheme_plain : ∀ letter ∈ scheme, letter ∉ [':', '/']
  user_plain : ∀ letter ∈ user, letter ∉ [':', '/', '?', '#']
  host_plain : ∀ letter ∈ host, letter ∉ ['@', '/', '?', '#']
  rest_starts : ∀ first later, rest = first :: later →
    first ∈ ['/', '?', '#']

namespace Dsn

/-- What stands before the password. -/
def front (dsn : Dsn) : List Char :=
  dsn.scheme ++ ([':', '/', '/'] ++ (dsn.user ++ [':']))

def letters (dsn : Dsn) (password : Password) : List Char :=
  dsn.front ++ (password.letters ++ '@' :: (dsn.host ++ dsn.rest))

def text (dsn : Dsn) (password : Password) : String :=
  String.ofList (dsn.letters password)

/-- The user name is one that the pattern takes for one. -/
def named (dsn : Dsn) : Bool :=
  !dsn.user.isEmpty && !dsn.user.contains '@'

end Dsn

namespace Password

/-- It starts with an `@`, so that the pattern finds none before it. -/
def early (password : Password) : Bool :=
  password.letters.head? = some '@'

/-- What the pattern takes for part of the host. -/
def remains (password : Password) : List Char :=
  password.letters.dropWhile fun letter => letter != '@'

theorem no_slash (password : Password) : '/' ∉ password.letters := by
  intro member
  simpa using password.plain '/' member

end Password

/-- What is printed in the place of the password. -/
def Dsn.shown (dsn : Dsn) (password : Password) : List Char :=
  if dsn.named && !password.early then
    ['*', '*', '*'] ++ password.remains
  else password.letters

/-! ### Where the pattern matches -/

private theorem unmatched_of_ne {letter : Char} (other : ':' ≠ letter)
    (rest : List Char) :
    Pattern.matched passwordPattern (letter :: rest) = none :=
  Pattern.matched_text_ne other _ _ _

private theorem unmatched_colon {rest : List Char}
    (ends : ∀ later, rest ≠ '/' :: later) :
    Pattern.matched passwordPattern (':' :: rest) = none := by
  rw [passwordPattern, Pattern.matched, if_neg]
  intro starts
  cases rest with
  | nil => simp at starts
  | cons first later =>
      simp only [List.isPrefixOf, Bool.and_eq_true, beq_iff_eq] at starts
      exact ends later (by rw [← starts.2.1])

/-- A part without slashes is kept. -/
theorem redact_append {before rest : List Char} (plain : '/' ∉ before)
    (ends : ∀ later, rest ≠ '/' :: later) :
    redact (before ++ rest) = before ++ redact rest := by
  apply Pattern.sub_append_of_unmatched
  intro first letter behind same
  by_cases colon : ':' = letter
  · subst colon
    apply unmatched_colon
    intro later starts
    cases behind with
    | nil => exact ends later starts
    | cons next behind =>
        apply plain
        rw [same, List.cons.inj starts |>.1]
        simp
  · exact unmatched_of_ne colon _

section Match

variable {dsn : Dsn} {password : Password} {behind : List Char}

private theorem among_user {letter : Char} (member : letter ∈ dsn.user)
    (other : letter ≠ '@') : (!([':', '/', '@'].contains letter)) = true := by
  have plain := dsn.user_plain letter member
  simp only [List.mem_cons, List.not_mem_nil, or_false, not_or] at plain
  simp [plain.1, plain.2.1, other]

private theorem head?_letters : ∃ first later,
    password.letters = first :: later ∧
      (password.early = true ↔ first = '@') := by
  cases same : password.letters with
  | nil => exact absurd same password.given
  | cons first later => exact ⟨first, later, rfl, by simp [Password.early, same]⟩

/-- The password that is found ends at the first `@`. -/
private theorem matched_named (named : dsn.named = true)
    (late : password.early = false) :
    ∃ hidden after,
      password.remains ++ '@' :: behind = '@' :: after ∧
      Pattern.matched passwordPattern
        ([':', '/', '/'] ++ (dsn.user ++ ([':'] ++
          (password.letters ++ '@' :: behind)))) =
        some ([[':', '/', '/'], dsn.user, [':'], hidden, ['@']], after) := by
  obtain ⟨present, plain⟩ : dsn.user ≠ [] ∧ '@' ∉ dsn.user := by
    simpa [Dsn.named] using named
  obtain ⟨first, later, letters, starts⟩ := @head?_letters password
  have apart : first ≠ '@' := by
    intro same
    rw [starts.mpr same] at late
    cases late
  obtain ⟨after, remaining⟩ : ∃ after,
      password.remains ++ '@' :: behind = '@' :: after := by
    cases found : password.remains with
    | nil => exact ⟨behind, rfl⟩
    | cons next rest =>
        have stop := List.head?_dropWhile_not (fun letter => letter != '@')
          password.letters
        rw [show password.letters.dropWhile (fun letter => letter != '@') =
          next :: rest from found] at stop
        have at_ : next = '@' := by simpa using stop
        exact ⟨rest ++ '@' :: behind, by rw [at_, List.cons_append]⟩
  have split : password.letters ++ '@' :: behind =
      password.letters.takeWhile (fun letter => letter != '@') ++
        ('@' :: after) := by
    rw [← remaining, ← List.append_assoc, Password.remains,
      List.takeWhile_append_dropWhile]
  refine ⟨password.letters.takeWhile fun letter => letter != '@', after,
    remaining, ?_⟩
  rw [passwordPattern, Pattern.matched_text, Pattern.matched_run (by rfl)
    (fun letter member => among_user member fun same =>
      plain (same ▸ member)) present (by
        intro other behind starts
        cases starts
        rfl),
    Pattern.matched_text, split, Pattern.matched_run (by rfl)
      (fun letter member => List.mem_takeWhile_imp member) (by
        rw [letters, List.takeWhile_cons_of_pos (by simpa using apart)]
        exact List.cons_ne_nil _ _) (by
        intro other behind starts
        cases starts
        rfl)]
  have found := Pattern.matched_text ['@'] [] after
  rw [List.singleton_append] at found
  rw [found]
  rfl

private theorem unmatched_unnamed (unnamed : dsn.named = false) :
    Pattern.matched passwordPattern
      ([':', '/', '/'] ++ (dsn.user ++ ([':'] ++ behind))) = none := by
  rw [passwordPattern, Pattern.matched_text]
  have split := List.takeWhile_append_dropWhile
    (p := fun letter => letter != '@') (l := dsn.user)
  cases found : dsn.user.dropWhile fun letter => letter != '@' with
  | nil =>
      have plain : '@' ∉ dsn.user := by
        intro member
        rw [found, List.append_nil] at split
        rw [← split] at member
        simpa using List.mem_takeWhile_imp member
      have empty : dsn.user = [] := by
        simpa [Dsn.named, plain] using unnamed
      rw [empty, List.nil_append, Pattern.matched_run_outside]
      · rfl
      · intro other later starts
        cases starts
        rfl
  | cons next rest =>
      have at_ : next = '@' := by
        have stop := List.head?_dropWhile_not (fun letter => letter != '@')
          dsn.user
        rw [found] at stop
        simpa using stop
      rw [found, at_] at split
      rw [← split, List.append_assoc]
      cases taken : dsn.user.takeWhile fun letter => letter != '@' with
      | nil =>
          rw [List.nil_append, Pattern.matched_run_outside]
          · rfl
          · intro other later starts
            cases starts
            rfl
      | cons first more =>
          rw [Pattern.matched_run (by rfl) (by
              intro letter member
              rw [← taken] at member
              exact among_user (List.takeWhile_prefix _ |>.subset member)
                (by simpa using List.mem_takeWhile_imp member))
            (List.cons_ne_nil _ _) (by
              intro other later starts
              cases starts
              rfl),
            List.cons_append, Pattern.matched_text_ne (by decide)]
          rfl

private theorem unmatched_early (named : dsn.named = true)
    (early : password.early = true) :
    Pattern.matched passwordPattern
      ([':', '/', '/'] ++ (dsn.user ++ ([':'] ++
        (password.letters ++ behind)))) = none := by
  obtain ⟨present, plain⟩ : dsn.user ≠ [] ∧ '@' ∉ dsn.user := by
    simpa [Dsn.named] using named
  obtain ⟨first, later, letters, starts⟩ := @head?_letters password
  rw [passwordPattern, Pattern.matched_text, Pattern.matched_run (by rfl)
    (fun letter member => among_user member fun same =>
      plain (same ▸ member)) present (by
        intro other behind starts
        cases starts
        rfl),
    Pattern.matched_text, letters, starts.mp early, List.cons_append,
    Pattern.matched_run_outside]
  · rfl
  · intro other later starts
    cases starts
    rfl

end Match

/-! ### What is printed -/

section Printed

variable (dsn : Dsn) (password first second : Password)

private theorem redact_at (rest : List Char) :
    redact ('@' :: rest) = '@' :: redact rest :=
  Pattern.sub_of_unmatched (unmatched_of_ne (by decide) rest)

private theorem no_slash_remains : '/' ∉ password.remains := fun member =>
  password.no_slash (List.dropWhile_suffix _ |>.subset member)

private theorem redact_hidden (named : dsn.named = true)
    (late : password.early = false) (behind : List Char) :
    redact ([':', '/', '/'] ++ (dsn.user ++ ([':'] ++
        (password.letters ++ '@' :: behind)))) =
      [':', '/', '/'] ++ (dsn.user ++ ([':'] ++
        (['*', '*', '*'] ++ password.remains ++ '@' :: redact behind))) := by
  obtain ⟨hidden, after, remaining, found⟩ :=
    @matched_named dsn password behind named late
  have kept : '@' :: redact after =
      password.remains ++ '@' :: redact behind := by
    rw [← redact_at, ← remaining, redact_append (no_slash_remains password)
      (by simp), redact_at]
  have replaced : redact ([':', '/', '/'] ++ (dsn.user ++ ([':'] ++
      (password.letters ++ '@' :: behind)))) =
        withoutPassword [[':', '/', '/'], dsn.user, [':'], hidden, ['@']] ++
          redact after := Pattern.sub_of_matched found
  rw [replaced, List.append_assoc ['*', '*', '*'], ← kept]
  simp [withoutPassword]

private theorem redact_kept
    (unmatched : Pattern.matched passwordPattern
      ([':', '/', '/'] ++ (dsn.user ++ ([':'] ++
        (password.letters ++ '@' :: behind)))) = none) :
    redact ([':', '/', '/'] ++ (dsn.user ++ ([':'] ++
        (password.letters ++ '@' :: behind)))) =
      [':', '/', '/'] ++ (dsn.user ++ ([':'] ++
        (password.letters ++ '@' :: redact behind))) := by
  have no_slash : '/' ∉ dsn.user ++ ([':'] ++ password.letters) := by
    intro member
    rcases List.mem_append.mp member with inUser | later
    · simpa using dsn.user_plain '/' inUser
    · rcases List.mem_append.mp later with colon | inPassword
      · simp at colon
      · exact password.no_slash inPassword
  have slash (rest : List Char) : redact ('/' :: rest) = '/' :: redact rest :=
    Pattern.sub_of_unmatched (unmatched_of_ne (by decide) rest)
  have later := @redact_append _ ('@' :: behind) no_slash (by simp)
  simp only [List.append_assoc] at later
  calc redact ([':', '/', '/'] ++ (dsn.user ++ ([':'] ++
          (password.letters ++ '@' :: behind))))
      = ':' :: redact ('/' :: '/' :: (dsn.user ++ ([':'] ++
          (password.letters ++ '@' :: behind)))) :=
        Pattern.sub_of_unmatched unmatched
    _ = ':' :: '/' :: '/' :: redact (dsn.user ++ ([':'] ++
          (password.letters ++ '@' :: behind))) := by rw [slash, slash]
    _ = _ := by rw [later, redact_at]; rfl

/-- All but the password is printed as it stands, but for what the pattern finds
behind it. -/
theorem redact_letters :
    redact (dsn.letters password) =
      dsn.front ++ (dsn.shown password ++
        '@' :: redact (dsn.host ++ dsn.rest)) := by
  have scheme_plain : '/' ∉ dsn.scheme := by
    intro member
    simpa using dsn.scheme_plain '/' member
  rw [Dsn.letters, Dsn.front, List.append_assoc, List.append_assoc,
    List.append_assoc, redact_append scheme_plain (by simp)]
  rw [List.append_assoc, List.append_assoc, List.append_assoc]
  congr 1
  cases named : dsn.named with
  | false =>
      rw [redact_kept dsn password (unmatched_unnamed named), Dsn.shown, named]
      rfl
  | true =>
      cases early : password.early with
      | true =>
          rw [redact_kept dsn password (unmatched_early named early),
            Dsn.shown, named, early]
          rfl
      | false =>
          rw [redact_hidden dsn password named early, Dsn.shown, named, early]
          rfl

/-- The password does not show, or it is the same. -/
def Dsn.Conceals : Prop :=
  first = second ∨
    dsn.user ≠ [] ∧ '@' ∉ dsn.user ∧
      first.letters.head? ≠ some '@' ∧ second.letters.head? ≠ some '@' ∧
      first.remains = second.remains

/-- A password that is printed is not printed as one that is not. -/
private theorem shown_ne (early : first.early = true) (rest : List Char) :
    first.letters ≠ ['*', '*', '*'] ++ rest := by
  obtain ⟨letter, later, letters, starts⟩ := @head?_letters first
  rw [letters, starts.mp early]
  simp

theorem shown_eq_iff :
    dsn.shown first = dsn.shown second ↔ dsn.Conceals first second := by
  have same_iff : first.letters = second.letters ↔ first = second :=
    ⟨Password.ext, congrArg Password.letters⟩
  have early_iff (password : Password) :
      password.letters.head? = some '@' ↔ password.early = true := by
    simp [Password.early]
  have named_iff : dsn.user ≠ [] ∧ '@' ∉ dsn.user ↔ dsn.named = true := by
    simp [Dsn.named]
  rw [Dsn.Conceals, ← and_assoc, named_iff, Ne, Ne, early_iff, early_iff]
  cases named : dsn.named with
  | false => simp [Dsn.shown, named, same_iff]
  | true =>
      cases firstEarly : first.early with
      | true =>
          cases secondEarly : second.early with
          | true => simp [Dsn.shown, named, firstEarly, secondEarly, same_iff]
          | false =>
              have apart : first ≠ second := by
                intro same
                rw [same, secondEarly] at firstEarly
                cases firstEarly
              simp only [Dsn.shown, named, firstEarly, secondEarly, apart]
              simpa using shown_ne first firstEarly second.remains
      | false =>
          cases secondEarly : second.early with
          | true =>
              have apart : first ≠ second := by
                intro same
                rw [same, secondEarly] at firstEarly
                cases firstEarly
              simp only [Dsn.shown, named, firstEarly, secondEarly, apart]
              simpa using (shown_ne second secondEarly first.remains).symm
          | false =>
              simp only [Dsn.shown, named, firstEarly, secondEarly]
              constructor
              · intro same
                exact .inr ⟨trivial, by simp, by simp,
                  List.append_cancel_left same⟩
              · rintro (rfl | ⟨_, _, _, same⟩)
                · rfl
                · simp [same]

theorem redact_eq_iff :
    redact (dsn.text first).toList = redact (dsn.text second).toList ↔
      dsn.Conceals first second := by
  rw [Dsn.text, Dsn.text, String.toList_ofList, String.toList_ofList,
    redact_letters, redact_letters, List.append_cancel_left_eq,
    List.append_cancel_right_eq, shown_eq_iff]

end Printed

/-- The name that is printed does not depend on the password, exactly if the
pattern finds the password where `urlparse` does. -/
theorem redactions_agree_iff (dsn : Dsn) (first second : Password)
    (database : Option String) (schema : String) :
    (((MySQLStoreConfig.mk (dsn.text first) database).redactedDsn =
          (MySQLStoreConfig.mk (dsn.text second) database).redactedDsn ∧
        (MySQLStoreConfig.mk (dsn.text first) database).toDict =
          (MySQLStoreConfig.mk (dsn.text second) database).toDict) ↔
      dsn.Conceals first second) ∧
    (((PostgresStoreConfig.mk (dsn.text first) schema).redactedDsn =
          (PostgresStoreConfig.mk (dsn.text second) schema).redactedDsn ∧
        (PostgresStoreConfig.mk (dsn.text first) schema).toDict =
          (PostgresStoreConfig.mk (dsn.text second) schema).toDict) ↔
      dsn.Conceals first second) := by
  have printed : String.ofList (redact (dsn.text first).toList) =
      String.ofList (redact (dsn.text second).toList) ↔
        dsn.Conceals first second :=
    ⟨fun same => (redact_eq_iff dsn first second).mp
        (String.ofList_injective same),
      fun conceals => congrArg String.ofList
        ((redact_eq_iff dsn first second).mpr conceals)⟩
  constructor
  · rw [← printed]
    constructor
    · exact fun both => both.1
    · intro same
      refine ⟨same, ?_⟩
      simp only [MySQLStoreConfig.toDict, MySQLStoreConfig.redactedDsn, same]
  · rw [← printed]
    constructor
    · exact fun both => both.1
    · intro same
      refine ⟨same, ?_⟩
      simp only [PostgresStoreConfig.toDict, PostgresStoreConfig.redactedDsn,
        same]

/-- `mysql://:first@db/app`, of a user without a name. -/
theorem nameless_password_printed :
    (MySQLStoreConfig.mk "mysql://:first@db/app" none).redactedDsn =
        "mysql://:first@db/app" ∧
      (MySQLStoreConfig.mk "mysql://:first@db/app" none).redactedDsn ≠
        (MySQLStoreConfig.mk "mysql://:other@db/app" none).redactedDsn := by
  decide

end AgentLedger
