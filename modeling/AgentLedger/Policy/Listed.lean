import AgentLedger.Policy.Denials

namespace AgentLedger

open Foundation

namespace PolicyText

/-! What a whole text is parsed to. -/

section Runs

variable {builtins : Builtins} {state after : ParserState}
  {told : List RoleText}

theorem Told.roleLines (holds : Told builtins told state)
    (current : state.current = some "roles") (role : RoleText)
    (fresh : ∀ earlier ∈ told, earlier.key ≠ role.key)
    (read : readLines builtins role.lines state = .ok after) :
    Told builtins (told ++ [role]) after ∧
      after.current = some "roles" := by
  rw [RoleText.lines, readLines_append] at read
  obtain ⟨middle, line, more⟩ := bind_ok read
  obtain ⟨raw, same⟩ := @readLines_margin builtins state 2
    (role.name.text ++ [':']) (role.name.begins _) role.margin
  rw [same, core_open role.name.bare] at line
  have begun := holds.role current role fresh line
  have none : ∀ entry ∈ role.entries,
      (fun _ : RoleKey => (none : Option Json)) entry.1 = none := by
    intro entry _
    rfl
  obtain ⟨final, reached, held⟩ :=
    begun.all role.key_ne_empty role.entries role.distinct none more
  exact ⟨holds.next fresh reached held, reached.current⟩

theorem Told.roleTexts (listed : List RoleText)
    (distinct : ((told ++ listed).map RoleText.key).Nodup)
    (holds : Told builtins told state)
    (current : state.current = some "roles")
    (read : readLines builtins (listed.flatMap RoleText.lines) state =
      .ok after) :
    Told builtins (told ++ listed) after := by
  induction listed generalizing told state with
  | nil =>
      cases read
      rw [List.append_nil]
      exact holds
  | cons role rest ih =>
      have fresh : ∀ earlier ∈ told, earlier.key ≠ role.key := by
        intro earlier member same
        rw [List.map_append, List.map_cons, List.nodup_append] at distinct
        obtain ⟨_, _, apart⟩ := distinct
        exact apart _ (List.mem_map.mpr ⟨earlier, member, rfl⟩) _
          List.mem_cons_self same
      rw [List.flatMap_cons, readLines_append] at read
      obtain ⟨middle, line, more⟩ := bind_ok read
      obtain ⟨next, still⟩ := holds.roleLines current role fresh line
      have parts : told ++ role :: rest = (told ++ [role]) ++ rest := by simp
      rw [parts] at distinct ⊢
      exact ih distinct next still more

theorem Told.opened (holds : Told builtins told state)
    (absent : Fields.get? state.data "roles" = none)
    (top : Fields.get? after.data "roles" = some (.obj [])) :
    Told builtins told after := by
  have before (name : String) : view state.data name = none := by
    rw [view, absent]
  refine ⟨.inr ⟨[], top⟩, ?_, ?_⟩
  · intro role member
    obtain ⟨fields, held, _⟩ := holds.held role member
    rw [before] at held
    cases held
  · intro name _
    rw [view, top]
    rfl

theorem Told.header (holds : Told builtins told state) {name raw : List Char}
    (read : dispatch builtins raw 0 (name ++ [':']) state = .ok after) :
    Told builtins told after ∧
      after.current = some (String.ofList name) := by
  have dispatched : dispatch builtins raw 0 (name ++ [':']) state =
      stepTop builtins (name ++ [':']) state := by
    simp [dispatch]
  rw [dispatched, stepTop, if_pos (endsOpen_open _), List.dropLast_concat]
    at read
  obtain ⟨data, set, same⟩ := bind_ok read
  cases same
  refine ⟨?_, rfl⟩
  simp only [setDefault, Except.ok.injEq] at set
  cases known : Fields.get? state.data (String.ofList name) with
  | some value =>
      rw [known] at set
      subst set
      exact holds.beside rfl
  | none =>
      rw [known] at set
      subst set
      by_cases roles : String.ofList name = "roles"
      · rw [roles] at known ⊢
        apply holds.opened known
        rw [Fields.get?_set, if_pos rfl]
      · apply holds.beside
        rw [Fields.get?_set, if_neg (Ne.symm roles)]

theorem core_title {front : List Char} (bare : '#' ∉ front) (title : Title) :
    rstrip (uncommented (front ++ title.text)) = front ++ title.text := by
  have plain : '#' ∉ front ++ title.text := by
    simp [bare, title.bare]
  obtain ⟨⟨first, rest, same, solid, _⟩, trimmed, _⟩ := title.admitted
  rw [uncommented_plain plain, same, rstrip_append_solid solid]
  rw [same, rstrip_solid solid] at trimmed
  rw [trimmed]

theorem Told.version (holds : Told builtins told state) (value : Title)
    {raw : List Char}
    (read : dispatch builtins raw 0 ("version: ".toList ++ value.text) state =
      .ok after) : Told builtins told after := by
  have dispatched : dispatch builtins raw 0
      ("version: ".toList ++ value.text) state =
        stepTop builtins ("version: ".toList ++ value.text) state := by
    simp [dispatch]
  obtain ⟨⟨first, rest, text, _⟩, _, closed, _⟩ := value.admitted
  have some : value.text ≠ [] := by
    rw [text]
    exact List.cons_ne_nil _ _
  have parts : "version: ".toList ++ value.text =
      "version".toList ++ ':' :: ' ' :: value.text := rfl
  have unbroken : ∀ letter ∈ "version".toList, letter ≠ ':' :=
    List.all_iff_forall_prop.mp (by decide)
  obtain ⟨taken, _⟩ := @takeWhile_front _ (' ' :: value.text) unbroken
  have within : ':' ∈ "version".toList ++ ':' :: ' ' :: value.text := by simp
  have trimmed : strip "version".toList = "version".toList := by decide
  rw [dispatched, stepTop, endsOpen_append some, closed, if_neg (by simp),
    parts, splitScalar, if_pos within, taken, trimmed] at read
  obtain ⟨entry, split, same⟩ := bind_ok read
  obtain ⟨scalar, _, named⟩ := bind_ok split
  cases named
  cases same
  apply holds.beside
  rw [Fields.get?_set, if_neg (by decide)]

theorem Told.effect (holds : Told builtins told state)
    (current : state.current = some "defaults") {raw content : List Char}
    (read : dispatch builtins raw 2 content state = .ok after) :
    Told builtins told after ∧ after.current = some "defaults" := by
  have dispatched : dispatch builtins raw 2 content state =
      stepDefault builtins content state := by
    simp [dispatch, current]
  rw [dispatched, stepDefault] at read
  obtain ⟨entry, split, read⟩ := bind_ok read
  obtain ⟨data, set, read⟩ := bind_ok read
  obtain ⟨defaults, assigned, same⟩ := bind_ok read
  cases same
  refine ⟨?_, current⟩
  apply holds.beside
  rw [Fields.get?_set, if_neg (by decide)]
  simp only [setDefault, Except.ok.injEq] at set
  rw [← set]
  split
  · rfl
  · rw [Fields.get?_set, if_neg (by decide)]

theorem Told.effects (effects : List (Margin × Title × Title))
    (holds : Told builtins told state)
    (current : state.current = some "defaults")
    (read : readLines builtins (effects.flatMap fun effect =>
      effect.1.lines 2 (effect.2.1.text ++ ':' :: ' ' :: effect.2.2.text))
      state = .ok after) : Told builtins told after := by
  induction effects generalizing state with
  | nil =>
      cases read
      exact holds
  | cons effect rest ih =>
      rw [List.flatMap_cons, readLines_append] at read
      obtain ⟨middle, line, more⟩ := bind_ok read
      obtain ⟨raw, same⟩ := @readLines_margin builtins state 2
        (effect.2.1.text ++ ':' :: ' ' :: effect.2.2.text)
        (effect.2.1.begins _) effect.1
      rw [same] at line
      obtain ⟨next, still⟩ := holds.effect current line
      exact ih next still more

theorem Told.section (part : Section)
    (distinct : ((told ++ part.roleTexts).map RoleText.key).Nodup)
    (holds : Told builtins told state)
    (read : readLines builtins part.lines state = .ok after) :
    Told builtins (told ++ part.roleTexts) after := by
  cases part with
  | version margin value =>
      have none : told ++ (Section.version margin value).roleTexts = told :=
        List.append_nil told
      rw [none]
      obtain ⟨raw, same⟩ := @readLines_margin builtins state 0
        ("version: ".toList ++ value.text) ⟨_, _, rfl, by decide, by decide⟩
        margin
      rw [Section.lines, same, core_title (by decide)] at read
      exact holds.version value read
  | defaults margin effects =>
      have none : told ++ (Section.defaults margin effects).roleTexts = told :=
        List.append_nil told
      rw [none]
      rw [Section.lines, readLines_append] at read
      obtain ⟨middle, line, more⟩ := bind_ok read
      obtain ⟨raw, same⟩ := @readLines_margin builtins state 0
        ("defaults".toList ++ [':']) ⟨_, _, rfl, by decide, by decide⟩ margin
      have header : "defaults:".toList = "defaults".toList ++ [':'] := rfl
      rw [header, same, core_open (by decide)] at line
      obtain ⟨next, current⟩ := holds.header line
      exact next.effects effects current more
  | roles margin listed =>
      rw [Section.lines, readLines_append] at read
      obtain ⟨middle, line, more⟩ := bind_ok read
      obtain ⟨raw, same⟩ := @readLines_margin builtins state 0
        ("roles".toList ++ [':']) ⟨_, _, rfl, by decide, by decide⟩ margin
      have header : "roles:".toList = "roles".toList ++ [':'] := rfl
      rw [header, same, core_open (by decide)] at line
      obtain ⟨next, current⟩ := holds.header line
      exact next.roleTexts listed distinct current more

theorem Told.sections (parts : List Section)
    (distinct :
      ((told ++ parts.flatMap Section.roleTexts).map RoleText.key).Nodup)
    (holds : Told builtins told state)
    (read : readLines builtins (parts.flatMap Section.lines) state =
      .ok after) :
    Told builtins (told ++ parts.flatMap Section.roleTexts) after := by
  induction parts generalizing told state with
  | nil =>
      cases read
      rw [List.flatMap_nil, List.append_nil]
      exact holds
  | cons part rest ih =>
      rw [List.flatMap_cons, ← List.append_assoc] at distinct ⊢
      rw [List.flatMap_cons, readLines_append] at read
      obtain ⟨middle, line, more⟩ := bind_ok read
      have first : ((told ++ part.roleTexts).map RoleText.key).Nodup := by
        rw [List.map_append] at distinct
        exact (List.nodup_append.mp distinct).1
      exact ih distinct (holds.section part first line) more

end Runs

/-! ### The lines of a text -/

section Lines

variable {text rest : List Char}

theorem OneLine.append (first : OneLine text) (second : OneLine rest) :
    OneLine (text ++ rest) := by
  intro letter member
  rcases List.mem_append.mp member with before | behind
  · exact first letter before
  · exact second letter behind

theorem OneLine.cons {letter : Char} (plain : isBreak letter = false)
    (rest : OneLine text) : OneLine (letter :: text) := by
  intro other member
  rcases List.mem_cons.mp member with same | member
  · rw [same]
    exact plain
  · exact rest other member

theorem OneLine.nil : OneLine [] := by
  intro letter member
  cases member

theorem OneLine.blanks (indent : Nat) :
    OneLine (List.replicate indent ' ') := by
  intro letter member
  rw [List.eq_of_mem_replicate member]
  decide

theorem splitLines_cons {letter : Char} (plain : isBreak letter = false) :
    splitLines (letter :: text) =
      match splitLines text with
      | [] => [[letter]]
      | line :: more => (letter :: line) :: more := by
  have other : letter ≠ '\r' := by
    rintro rfl
    revert plain
    decide
  rw [splitLines]
  · rw [plain]
    rfl
  · intro _ carriage _
    exact other carriage

theorem splitLines_line (oneLine : OneLine text) :
    splitLines (text ++ '\n' :: rest) = text :: splitLines rest := by
  induction text with
  | nil => rfl
  | cons letter text ih =>
      have later := ih fun other member =>
        oneLine other (List.mem_cons_of_mem _ member)
      rw [List.cons_append, splitLines_cons (oneLine letter List.mem_cons_self),
        later]

theorem splitLines_lines {lines : List (List Char)}
    (oneLine : ∀ line ∈ lines, OneLine line) :
    splitLines (lines.flatMap fun line => line ++ ['\n']) = lines := by
  induction lines with
  | nil => rfl
  | cons line rest ih =>
      rw [List.flatMap_cons, List.append_assoc, List.singleton_append,
        splitLines_line (oneLine line List.mem_cons_self),
        ih fun other member => oneLine other (List.mem_cons_of_mem _ member)]

theorem Margin.oneLine (margin : Margin) (indent : Nat)
    (oneLine : OneLine text) :
    ∀ line ∈ margin.lines indent text, OneLine line := by
  intro line member
  rcases List.mem_append.mp member with above | own
  · obtain ⟨blank, _, rfl⟩ := List.mem_map.mp above
    apply (OneLine.blanks blank.indent).append
    cases comment : blank.comment with
    | none => exact .nil
    | some text => exact .cons (by decide) (blank.oneLine text comment)
  · rw [List.mem_singleton.mp own]
    apply ((OneLine.blanks indent).append oneLine).append
    unfold Note.text
    cases comment : margin.note.comment with
    | none => exact .nil
    | some text =>
        exact .cons (by decide)
          (.cons (by decide) (margin.note.oneLine text comment))

theorem Scalar.writtenOneLine (scalar : Scalar) : OneLine scalar.written := by
  unfold Scalar.written
  have end_ : OneLine ['\''] := .cons (by decide) .nil
  have endDouble : OneLine ['"'] := .cons (by decide) .nil
  cases scalar.style with
  | plain => exact scalar.oneLine
  | single => exact .cons (by decide) (scalar.oneLine.append end_)
  | double => exact .cons (by decide) (scalar.oneLine.append endDouble)

theorem RoleKey.oneLine (key : RoleKey) : OneLine key.text := by
  cases key
  all_goals
    rw [OneLine, ← List.all_iff_forall_prop]
    decide

theorem Listing.oneLine (key : RoleKey) (listing : Listing) :
    ∀ line ∈ listing.lines key, OneLine line := by
  intro line member
  cases listing with
  | block head items =>
      rcases List.mem_append.mp member with first | later
      · exact head.oneLine 4
          (key.oneLine.append (.cons (by decide) .nil)) line first
      · obtain ⟨item, _, member⟩ := List.mem_flatMap.mp later
        exact item.1.oneLine 6
          (.cons (by decide) (.cons (by decide) item.2.writtenOneLine)) line
          member
  | single margin scalar =>
      exact margin.oneLine 4 (key.oneLine.append
        (.cons (by decide) (.cons (by decide) scalar.writtenOneLine))) line
        member

theorem RoleText.oneLine (role : RoleText) :
    ∀ line ∈ role.lines, OneLine line := by
  intro line member
  rcases List.mem_append.mp member with first | later
  · exact role.margin.oneLine 2
      (role.name.oneLine.append (.cons (by decide) .nil)) line first
  · obtain ⟨entry, _, member⟩ := List.mem_flatMap.mp later
    exact entry.2.oneLine entry.1 line member

theorem Section.oneLine (part : Section) :
    ∀ line ∈ part.lines, OneLine line := by
  intro line member
  cases part with
  | version margin value =>
      have name : OneLine "version: ".toList := by
        rw [OneLine, ← List.all_iff_forall_prop]
        decide
      exact margin.oneLine 0 (name.append value.oneLine) line member
  | defaults margin effects =>
      have name : OneLine "defaults:".toList := by
        rw [OneLine, ← List.all_iff_forall_prop]
        decide
      rcases List.mem_append.mp member with first | later
      · exact margin.oneLine 0 name line first
      · obtain ⟨effect, _, member⟩ := List.mem_flatMap.mp later
        exact effect.1.oneLine 2 (effect.2.1.oneLine.append
          (.cons (by decide) (.cons (by decide) effect.2.2.oneLine))) line
          member
  | roles margin listed =>
      have name : OneLine "roles:".toList := by
        rw [OneLine, ← List.all_iff_forall_prop]
        decide
      rcases List.mem_append.mp member with first | later
      · exact margin.oneLine 0 name line first
      · obtain ⟨role, _, member⟩ := List.mem_flatMap.mp later
        exact role.oneLine line member

end Lines

theorem parse_document {builtins : Builtins} {document : Document}
    {data : Fields} (parsed : parse builtins document.text = .ok data) :
    ∃ state, state.data = data ∧ Told builtins document.roles state := by
  rw [parse, Document.text, String.toList_ofList, splitLines_lines] at parsed
  · obtain ⟨state, read, same⟩ := bind_ok parsed
    cases same
    refine ⟨state, rfl, ?_⟩
    have distinct : (document.roles.map RoleText.key).Nodup := by
      have names : document.roles.map RoleText.key =
          (document.roles.map fun role => role.name.text).map String.ofList := by
        rw [List.map_map]
        rfl
      rw [names]
      exact document.distinct.map fun _ _ => String.ofList_injective
    exact Told.sections document.sections distinct told_empty read
  · intro line member
    obtain ⟨part, _, member⟩ := List.mem_flatMap.mp member
    exact part.oneLine line member

end PolicyText

end AgentLedger
