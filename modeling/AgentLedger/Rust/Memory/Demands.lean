import AgentLedger.Rust.Memory.Untrusted

namespace AgentLedger.Rust.Decoding

open Foundation Guarded

/-! Which texts make the decoder of values ask for what it cannot have. -/

/-- The first pair of bytes that is not hexadecimal cuts a character. -/
inductive Cuts : List Char → Prop
  | wide {first : Char} {rest : List Char} (size : 2 < first.utf8Size) :
      Cuts (first :: rest)
  | second {first second : Char} {rest : List Char} (size : first.utf8Size = 1)
      (wide : 1 < second.utf8Size) : Cuts (first :: second :: rest)
  | later {first second : Char} {rest : List Char} {byte : UInt8}
      (read : Hexadecimal.parseByte first second = some byte)
      (cuts : Cuts rest) : Cuts (first :: second :: rest)

def CutsField (field : String) : Prop :=
  field.utf8ByteSize % 2 = 0 ∧ Cuts field.toList

/-- Where a value is expected, a field of the value cuts a character, a vector
is counted longer than the rest of the text or the stack has no level left, and
all before it is in order. -/
inductive Breaches (text : F64Text) : Nat → List Char → Prop
  | stack {input : List Char} : Breaches text 0 input
  | number {stack : Nat} {rest later : List Char} {field : String}
      (read : readUntilColon rest = .ok (field, later))
      (cuts : CutsField field) : Breaches text (stack + 1) ('N' :: rest)
  | string {stack : Nat} {rest later : List Char} {field : String}
      (read : readUntilColon rest = .ok (field, later))
      (cuts : CutsField field) : Breaches text (stack + 1) ('S' :: rest)
  | key {stack : Nat} {rest later middle after : List Char}
      {digits field : String} {count before : Nat}
      {entries : List (String × MapValue)}
      (read : readUntilColon rest = .ok (digits, later))
      (counted : parseUsize digits = .ok count) (more : before < count)
      (whole : (parseMany (parseEntry (parseValue text stack)) before
        later).Yields (entries, middle))
      (next : readUntilColon middle = .ok (field, after))
      (cuts : CutsField field) : Breaches text (stack + 1) ('O' :: rest)
  | member {stack : Nat} {rest later middle after : List Char}
      {digits field name : String} {count before : Nat}
      {entries : List (String × MapValue)}
      (read : readUntilColon rest = .ok (digits, later))
      (counted : parseUsize digits = .ok count) (more : before < count)
      (whole : (parseMany (parseEntry (parseValue text stack)) before
        later).Yields (entries, middle))
      (next : readUntilColon middle = .ok (field, after))
      (named : (hexDecode field).Yields name)
      (breaches : Breaches text stack after) :
      Breaches text (stack + 1) ('O' :: rest)
  | count {stack : Nat} {rest later : List Char} {digits : String}
      {count : Nat} (read : readUntilColon rest = .ok (digits, later))
      (counted : parseUsize digits = .ok count)
      (exceeding : byteLength later < count) :
      Breaches text (stack + 1) ('A' :: rest)
  | item {stack : Nat} {rest later middle : List Char} {digits : String}
      {count before : Nat} {values : List MapValue}
      (read : readUntilColon rest = .ok (digits, later))
      (counted : parseUsize digits = .ok count)
      (fits : count ≤ byteLength later) (more : before < count)
      (whole : (parseMany (parseValue text stack) before later).Yields
        (values, middle)) (breaches : Breaches text stack middle) :
      Breaches text (stack + 1) ('A' :: rest)

/-! ### Hexadecimal fields -/

theorem hexValue_size {char : Char} {digit : Nat}
    (read : JsonText.hexValue char = some digit) : char.utf8Size = 1 := by
  have small : char ≤ 'f' := by
    unfold JsonText.hexValue at read
    split_ifs at read with decimal lower upper
    · exact decimal.2.trans (by decide)
    · exact lower.2
    · exact upper.2.trans (by decide)
  have bound : 'f'.val ≤ 0x7f := by decide
  have below : char.val ≤ 0x7f := UInt32.le_trans (Char.le_def.mp small) bound
  exact if_pos below

theorem parseByte_size {first second : Char} {byte : UInt8}
    (read : Hexadecimal.parseByte first second = some byte) :
    first.utf8Size = 1 ∧ second.utf8Size = 1 := by
  unfold Hexadecimal.parseByte at read
  cases low : JsonText.hexValue second with
  | none =>
      rw [low] at read
      cases read
  | some digit =>
      rw [low] at read
      refine ⟨?_, hexValue_size low⟩
      by_cases plus : first = '+'
      · rw [plus]
        rfl
      · dsimp only at read
        rw [if_neg plus] at read
        obtain ⟨high, found, _⟩ := Option.map_eq_some_iff.mp read
        exact hexValue_size found

theorem takeBytes_wide {first : Char} (rest : List Char)
    (size : 2 < first.utf8Size) : takeBytes 2 (first :: rest) = none := by
  rw [takeBytes, if_neg (by omega)]

theorem takeBytes_single {first : Char} (rest : List Char)
    (size : first.utf8Size = 2) :
    takeBytes 2 (first :: rest) = some ([first], rest) := by
  rw [takeBytes, if_pos (by omega), size, takeBytes]
  rfl

theorem takeBytes_cut {first second : Char} (rest : List Char)
    (size : first.utf8Size = 1) (wide : 1 < second.utf8Size) :
    takeBytes 2 (first :: second :: rest) = none := by
  rw [takeBytes, if_pos (by omega), size, takeBytes, if_neg (by omega)]
  rfl

theorem takeBytes_pair {first second : Char} (rest : List Char)
    (size : first.utf8Size = 1) (other : second.utf8Size = 1) :
    takeBytes 2 (first :: second :: rest) = some ([first, second], rest) := by
  rw [takeBytes, if_pos (by omega), size, takeBytes, if_pos (by omega), other,
    takeBytes]
  rfl

theorem hexBytes_pair {first second : Char} (count : Nat) (rest : List Char)
    (size : first.utf8Size = 1) (other : second.utf8Size = 1) :
    hexBytes (count + 1) (first :: second :: rest) =
      match Hexadecimal.parseByte first second with
      | none => of (.error ⟨"invalid digit found in string"⟩)
      | some byte => do
          let later ← hexBytes count rest
          return byte :: later := by
  rw [hexBytes, takeBytes_pair rest size other]
  rfl

theorem faults_hexBytes {count : Nat} {chars : List Char}
    (size : byteLength chars = 2 * count) :
    (hexBytes count chars).Faults ↔ Cuts chars := by
  induction count generalizing chars with
  | zero =>
      have empty : chars = [] := List.length_eq_zero_iff.mp (by
        have short := length_le_byteLength chars
        omega)
      subst empty
      refine iff_of_false (not_faults_pure _) ?_
      rintro ⟨⟩
  | succ count ih =>
      cases chars with
      | nil => cases size
      | cons first rest =>
          have positive := first.utf8Size_pos
          rcases Nat.lt_trichotomy first.utf8Size 2 with one | two | more
          · have own : first.utf8Size = 1 := by omega
            cases rest with
            | nil =>
                rw [byteLength_cons, own] at size
                simp only [byteLength, List.map_nil, List.sum_nil] at size
                omega
            | cons second rest =>
                rw [byteLength_cons, byteLength_cons] at size
                by_cases other : second.utf8Size = 1
                · rw [hexBytes_pair count rest own other]
                  cases read : Hexadecimal.parseByte first second with
                  | none =>
                      refine iff_of_false (not_faults_of _) ?_
                      intro cuts
                      cases cuts with
                      | wide wide => omega
                      | second _ wide => omega
                      | later found => exact absurd (read ▸ found) (by simp)
                  | some byte =>
                      refine faults_bind.trans ?_
                      rw [ih (by omega)]
                      constructor
                      · rintro (cuts | ⟨later, _, faults⟩)
                        · exact .later read cuts
                        · exact absurd faults (not_faults_pure _)
                      · intro cuts
                        cases cuts with
                        | wide wide => omega
                        | second _ wide => omega
                        | later _ cuts => exact .inl cuts
                · have positive := second.utf8Size_pos
                  have wide : 1 < second.utf8Size := by omega
                  rw [hexBytes, takeBytes_cut rest own wide]
                  exact iff_of_true (faults_halt _) (.second own wide)
          · rw [hexBytes, takeBytes_single rest two]
            refine iff_of_false (not_faults_of _) ?_
            intro cuts
            cases cuts with
            | wide wide => omega
            | second narrow => omega
            | later read =>
                have narrow := (parseByte_size read).1
                omega
          · rw [hexBytes, takeBytes_wide rest more]
            exact iff_of_true (faults_halt _) (.wide more)

theorem parse_of_hexBytes {count : Nat} {chars : List Char} {bytes : List UInt8}
    (size : byteLength chars = 2 * count)
    (yields : (hexBytes count chars).Yields bytes) :
    Hexadecimal.parse chars = some bytes := by
  induction count generalizing chars bytes with
  | zero =>
      have empty : chars = [] := List.length_eq_zero_iff.mp (by
        have short := length_le_byteLength chars
        omega)
      subst empty
      cases yields_pure.mp yields
      rfl
  | succ count ih =>
      cases chars with
      | nil => cases size
      | cons first rest =>
          have positive := first.utf8Size_pos
          rcases Nat.lt_trichotomy first.utf8Size 2 with one | two | more
          · have own : first.utf8Size = 1 := by omega
            cases rest with
            | nil =>
                rw [byteLength_cons, own] at size
                simp only [byteLength, List.map_nil, List.sum_nil] at size
                omega
            | cons second rest =>
                rw [byteLength_cons, byteLength_cons] at size
                by_cases other : second.utf8Size = 1
                · rw [hexBytes_pair count rest own other] at yields
                  rw [Hexadecimal.parse]
                  cases read : Hexadecimal.parseByte first second with
                  | none =>
                      rw [read] at yields
                      cases yields_of.mp yields
                  | some byte =>
                      rw [read] at yields
                      obtain ⟨later, found, yields⟩ := yields_bind.mp yields
                      cases yields_pure.mp yields
                      dsimp only
                      rw [ih (by omega) found]
                      rfl
                · have positive := second.utf8Size_pos
                  have wide : 1 < second.utf8Size := by omega
                  rw [hexBytes, takeBytes_cut rest own wide] at yields
                  exact absurd yields (not_yields_halt _ _)
          · rw [hexBytes, takeBytes_single rest two] at yields
            cases yields_of.mp yields
          · rw [hexBytes, takeBytes_wide rest more] at yields
            exact absurd yields (not_yields_halt _ _)

private theorem byteLength_toList (field : String) :
    byteLength field.toList = field.utf8ByteSize := by
  rw [← utf8ByteSize_ofList, String.ofList_toList]

theorem faults_hexDecode {field : String} :
    (hexDecode field).Faults ↔ CutsField field := by
  rw [hexDecode, CutsField]
  split
  · exact iff_of_false (not_faults_of _) fun cuts => ‹_ ≠ 0› cuts.1
  · have even : field.utf8ByteSize % 2 = 0 := not_not.mp ‹_›
    have size : byteLength field.toList = 2 * (field.utf8ByteSize / 2) := by
      rw [byteLength_toList]
      omega
    rw [faults_bind, faults_hexBytes size, and_iff_right even]
    refine or_iff_left ?_
    rintro ⟨bytes, _, faults⟩
    split at faults
    · exact not_faults_pure _ faults
    · exact not_faults_of _ faults

theorem hexDecode_of_yields {field value : String}
    (yields : (hexDecode field).Yields value) :
    Rust.hexDecode field = .ok value := by
  rw [hexDecode] at yields
  rw [Rust.hexDecode]
  split at yields
  · cases yields_of.mp yields
  · have size : byteLength field.toList = 2 * (field.utf8ByteSize / 2) := by
      rw [byteLength_toList]
      omega
    obtain ⟨bytes, found, yields⟩ := yields_bind.mp yields
    rw [if_neg ‹_›, parse_of_hexBytes size found]
    dsimp only
    cases decoded : String.fromUTF8? ⟨bytes.toArray⟩ with
    | none =>
        rw [decoded] at yields
        cases yields_of.mp yields
    | some text =>
        rw [decoded] at yields
        exact congrArg Except.ok (yields_pure.mp yields)

theorem parseUsize_of_ok {digits : String} {count : Nat}
    (read : parseUsize digits = .ok count) :
    Rust.parseUsize digits = .ok count := by
  unfold parseUsize at read
  unfold Rust.parseUsize
  cases counted : Decimal.parseUnsigned digits with
  | none =>
      rw [counted] at read
      cases read
  | some number =>
      rw [counted] at read
      dsimp only at read
      split at read
      · exact read
      · cases read

/-! ### Values -/

theorem faults_withCapacity {count : Nat} {rest : List Char} :
    (withCapacity count rest).Faults ↔ byteLength rest < count := by
  rw [withCapacity]
  split
  · exact iff_of_true (faults_halt _) ‹_›
  · exact iff_of_false (not_faults_pure _) ‹_›

theorem yields_withCapacity {count : Nat} {rest : List Char} :
    (withCapacity count rest).Yields () ↔ count ≤ byteLength rest := by
  rw [withCapacity]
  split
  · refine iff_of_false (not_yields_halt _ _) ?_
    omega
  · refine iff_of_true (yields_pure.mpr rfl) ?_
    omega

theorem faults_parseMany {α : Type}
    {element : List Char → Decoding (α × List Char)} {count : Nat}
    {input : List Char} :
    (parseMany element count input).Faults ↔
      ∃ before < count, ∃ values middle,
        (parseMany element before input).Yields (values, middle) ∧
          (element middle).Faults := by
  induction count generalizing input with
  | zero =>
      refine iff_of_false (not_faults_pure _) ?_
      rintro ⟨before, none_, _⟩
      exact absurd none_ (Nat.not_lt_zero before)
  | succ count ih =>
      rw [parseMany, faults_bind]
      constructor
      · rintro (faults | ⟨first, one, faults⟩)
        · exact ⟨0, Nat.succ_pos _, [], input, yields_pure.mpr rfl, faults⟩
        · rcases faults_bind.mp faults with faults | ⟨later, _, faults⟩
          · obtain ⟨before, more, values, middle, whole, faults⟩ := ih.mp faults
            refine ⟨before + 1, Nat.succ_lt_succ more, first.1 :: values, middle,
              ?_, faults⟩
            rw [parseMany, yields_bind]
            refine ⟨first, one, yields_bind.mpr ⟨_, whole, ?_⟩⟩
            exact yields_pure.mpr rfl
          · exact absurd faults (not_faults_pure _)
      · rintro ⟨before, more, values, middle, whole, faults⟩
        cases before with
        | zero =>
            cases yields_pure.mp whole
            exact .inl faults
        | succ before =>
            rw [parseMany, yields_bind] at whole
            obtain ⟨first, one, whole⟩ := whole
            obtain ⟨later, others, whole⟩ := yields_bind.mp whole
            cases yields_pure.mp whole
            refine .inr ⟨first, one, faults_bind.mpr (.inl (ih.mpr ?_))⟩
            exact ⟨before, Nat.lt_of_succ_lt_succ more, _, _, others, faults⟩

theorem faults_parseEntry {element : List Char → Decoding (MapValue × List Char)}
    {input : List Char} :
    (parseEntry element input).Faults ↔
      ∃ field after, readUntilColon input = .ok (field, after) ∧
        (CutsField field ∨
          (∃ name, (hexDecode field).Yields name) ∧ (element after).Faults) := by
  rw [parseEntry, faults_of_bind]
  constructor
  · rintro ⟨⟨field, after⟩, read, faults⟩
    refine ⟨field, after, read, ?_⟩
    rcases faults_bind.mp faults with faults | ⟨name, named, faults⟩
    · exact .inl (faults_hexDecode.mp faults)
    · rcases faults_bind.mp faults with faults | ⟨value, _, faults⟩
      · exact .inr ⟨⟨name, named⟩, faults⟩
      · exact absurd faults (not_faults_pure _)
  · rintro ⟨field, after, read, faults⟩
    refine ⟨(field, after), read, faults_bind.mpr ?_⟩
    rcases faults with cuts | ⟨⟨name, named⟩, faults⟩
    · exact .inl (faults_hexDecode.mpr cuts)
    · exact .inr ⟨name, named, faults_bind.mpr (.inl faults)⟩

/-! ### Tag by tag -/

section Tags

variable {text : F64Text} {stack : Nat} {rest : List Char}

private theorem apart {first second : Char} {one two : List Char}
    (same : first :: one = second :: two) (other : first ≠ second) : False :=
  other (List.cons.inj same).1

private theorem faults_field {α : Type} {next : String → Decoding α}
    (quiet : ∀ value, ¬(next value).Faults) {field : String} :
    (hexDecode field >>= next).Faults ↔ CutsField field := by
  rw [faults_bind, faults_hexDecode]
  refine or_iff_left ?_
  rintro ⟨value, _, faults⟩
  exact quiet value faults

theorem faults_number {value : List Char → Decoding (MapValue × List Char)} :
    (parseTagged text value 'N' rest).Faults ↔
      Breaches text (stack + 1) ('N' :: rest) := by
  rw [parseTagged, if_neg (by decide), if_neg (by decide), if_neg (by decide),
    if_pos rfl, faults_of_bind]
  constructor
  · rintro ⟨⟨field, later⟩, read, faults⟩
    rw [faults_field] at faults
    · exact .number read faults
    · intro digits faults
      rcases faults_bind.mp faults with faults | ⟨number, _, faults⟩
      · exact not_faults_of _ faults
      · exact not_faults_pure _ faults
  · intro breaches
    generalize same : 'N' :: rest = input at breaches
    cases breaches with
    | number read cuts =>
        obtain ⟨_, rfl⟩ := List.cons.inj same
        exact ⟨_, read, faults_bind.mpr (.inl (faults_hexDecode.mpr cuts))⟩
    | string => exact (apart same (by decide)).elim
    | key => exact (apart same (by decide)).elim
    | member => exact (apart same (by decide)).elim
    | count => exact (apart same (by decide)).elim
    | item => exact (apart same (by decide)).elim

theorem faults_string {value : List Char → Decoding (MapValue × List Char)} :
    (parseTagged text value 'S' rest).Faults ↔
      Breaches text (stack + 1) ('S' :: rest) := by
  rw [parseTagged, if_neg (by decide), if_neg (by decide), if_neg (by decide),
    if_neg (by decide), if_pos rfl, faults_of_bind]
  constructor
  · rintro ⟨⟨field, later⟩, read, faults⟩
    rw [faults_field fun _ => not_faults_pure _] at faults
    exact .string read faults
  · intro breaches
    generalize same : 'S' :: rest = input at breaches
    cases breaches with
    | string read cuts =>
        obtain ⟨_, rfl⟩ := List.cons.inj same
        exact ⟨_, read, faults_bind.mpr (.inl (faults_hexDecode.mpr cuts))⟩
    | number => exact (apart same (by decide)).elim
    | key => exact (apart same (by decide)).elim
    | member => exact (apart same (by decide)).elim
    | count => exact (apart same (by decide)).elim
    | item => exact (apart same (by decide)).elim

/-- Of the values one level further up it is known already. -/
def Settled (text : F64Text) (stack : Nat) : Prop :=
  ∀ input, (parseValue text stack input).Faults ↔ Breaches text stack input

theorem faults_object (settled : Settled text stack) :
    (parseTagged text (parseValue text stack) 'O' rest).Faults ↔
      Breaches text (stack + 1) ('O' :: rest) := by
  rw [parseTagged, if_neg (by decide), if_neg (by decide), if_neg (by decide),
    if_neg (by decide), if_neg (by decide), if_pos rfl, faults_of_bind]
  constructor
  · rintro ⟨⟨digits, later⟩, read, faults⟩
    obtain ⟨count, counted, faults⟩ := faults_of_bind.mp faults
    rcases faults_bind.mp faults with faults | ⟨value, _, faults⟩
    · obtain ⟨before, more, entries, middle, whole, faults⟩ :=
        faults_parseMany.mp faults
      obtain ⟨field, after, next, faults⟩ := faults_parseEntry.mp faults
      rcases faults with cuts | ⟨⟨name, named⟩, faults⟩
      · exact .key read counted more whole next cuts
      · rw [settled after] at faults
        exact .member read counted more whole next named faults
    · exact absurd faults (not_faults_pure _)
  · intro breaches
    generalize same : 'O' :: rest = input at breaches
    cases breaches with
    | key read counted more whole next cuts =>
        obtain ⟨_, rfl⟩ := List.cons.inj same
        refine ⟨_, read, faults_of_bind.mpr ⟨_, counted, ?_⟩⟩
        refine faults_bind.mpr (.inl (faults_parseMany.mpr ?_))
        refine ⟨_, more, _, _, whole, faults_parseEntry.mpr ?_⟩
        exact ⟨_, _, next, .inl cuts⟩
    | member read counted more whole next named breaches =>
        obtain ⟨_, rfl⟩ := List.cons.inj same
        refine ⟨_, read, faults_of_bind.mpr ⟨_, counted, ?_⟩⟩
        refine faults_bind.mpr (.inl (faults_parseMany.mpr ?_))
        refine ⟨_, more, _, _, whole, faults_parseEntry.mpr ?_⟩
        have faults := (settled _).mpr breaches
        exact ⟨_, _, next, .inr ⟨⟨_, named⟩, faults⟩⟩
    | number => exact (apart same (by decide)).elim
    | string => exact (apart same (by decide)).elim
    | count => exact (apart same (by decide)).elim
    | item => exact (apart same (by decide)).elim

theorem faults_array (settled : Settled text stack) :
    (parseTagged text (parseValue text stack) 'A' rest).Faults ↔
      Breaches text (stack + 1) ('A' :: rest) := by
  rw [parseTagged, if_neg (by decide), if_neg (by decide), if_neg (by decide),
    if_neg (by decide), if_neg (by decide), if_neg (by decide), if_pos rfl,
    faults_of_bind]
  constructor
  · rintro ⟨⟨digits, later⟩, read, faults⟩
    obtain ⟨count, counted, faults⟩ := faults_of_bind.mp faults
    rcases faults_bind.mp faults with faults | ⟨_, fits, faults⟩
    · exact .count read counted (faults_withCapacity.mp faults)
    · have fits := yields_withCapacity.mp fits
      rcases faults_bind.mp faults with faults | ⟨value, _, faults⟩
      · obtain ⟨before, more, values, middle, whole, faults⟩ :=
          faults_parseMany.mp faults
        rw [settled middle] at faults
        exact .item read counted fits more whole faults
      · exact absurd faults (not_faults_pure _)
  · intro breaches
    generalize same : 'A' :: rest = input at breaches
    cases breaches with
    | count read counted exceeding =>
        obtain ⟨_, rfl⟩ := List.cons.inj same
        refine ⟨_, read, faults_of_bind.mpr ⟨_, counted, ?_⟩⟩
        exact faults_bind.mpr (.inl (faults_withCapacity.mpr exceeding))
    | item read counted fits more whole breaches =>
        obtain ⟨_, rfl⟩ := List.cons.inj same
        refine ⟨_, read, faults_of_bind.mpr ⟨_, counted, ?_⟩⟩
        refine faults_bind.mpr (.inr ⟨(), yields_withCapacity.mpr fits, ?_⟩)
        refine faults_bind.mpr (.inl (faults_parseMany.mpr ?_))
        have faults := (settled _).mpr breaches
        exact ⟨_, more, _, _, whole, faults⟩
    | number => exact (apart same (by decide)).elim
    | string => exact (apart same (by decide)).elim
    | key => exact (apart same (by decide)).elim
    | member => exact (apart same (by decide)).elim

theorem faults_other {value : List Char → Decoding (MapValue × List Char)}
    {tag : Char} (known : tag ∉ ['N', 'S', 'O', 'A']) :
    (parseTagged text value tag rest).Faults ↔
      Breaches text (stack + 1) (tag :: rest) := by
  rw [List.mem_cons, List.mem_cons, List.mem_cons, List.mem_singleton] at known
  push Not at known
  refine iff_of_false ?_ ?_
  · unfold parseTagged
    split_ifs
    · exact not_faults_pure _
    · exact not_faults_pure _
    · exact not_faults_pure _
    · exact absurd ‹_› known.1
    · exact absurd ‹_› known.2.1
    · exact absurd ‹_› known.2.2.1
    · exact absurd ‹_› known.2.2.2
    · exact not_faults_of _
  · intro breaches
    cases breaches with
    | number => exact known.1 rfl
    | string => exact known.2.1 rfl
    | key => exact known.2.2.1 rfl
    | member => exact known.2.2.1 rfl
    | count => exact known.2.2.2 rfl
    | item => exact known.2.2.2 rfl

theorem faults_parseValue (input : List Char) :
    (parseValue text stack input).Faults ↔ Breaches text stack input := by
  induction stack generalizing input with
  | zero => exact iff_of_true (faults_halt _) .stack
  | succ stack settled =>
      cases input with
      | nil =>
          refine iff_of_false (not_faults_of _) ?_
          rintro ⟨⟩
      | cons tag rest =>
          rw [parseValue]
          by_cases known : tag ∈ ['N', 'S', 'O', 'A']
          · rw [List.mem_cons, List.mem_cons, List.mem_cons,
              List.mem_singleton] at known
            rcases known with rfl | rfl | rfl | rfl
            · exact faults_number
            · exact faults_string
            · exact faults_object settled
            · exact faults_array settled
          · exact faults_other known

theorem faults_decodeValue {encoded : String} :
    (decodeValue text stack encoded).Faults ↔
      Breaches text stack encoded.toList := by
  rw [decodeValue, faults_bind, faults_parseValue]
  refine or_iff_left ?_
  rintro ⟨read, _, faults⟩
  split at faults
  · exact not_faults_of _ faults
  · exact not_faults_pure _ faults

theorem faults_decodeState {encoded : String} :
    (decodeState text stack encoded).Faults ↔
      Breaches text stack encoded.toList := by
  rw [decodeState, faults_bind, faults_decodeValue]
  refine or_iff_left ?_
  rintro ⟨value, _, faults⟩
  split at faults
  · exact not_faults_pure _ faults
  · exact not_faults_of _ faults

end Tags

/-! ### What comes out is what the decoder of the snapshot reads -/

section Plain

variable {text : F64Text}

theorem bind_ok {α β : Type} {first : Result α} {next : α → Result β}
    {value : α} {result : β} (one : first = .ok value)
    (others : next value = .ok result) : (first >>= next) = .ok result := by
  rw [one]
  exact others

theorem readUntilColon_shorter {input : List Char} {read : String × List Char}
    (found : readUntilColon input = .ok read) :
    read.2.length < input.length := by
  induction input generalizing read with
  | nil => cases found
  | cons char rest ih =>
      rw [readUntilColon] at found
      split at found
      · cases found
        exact Nat.lt_succ_self _
      · cases later : readUntilColon rest with
        | error error =>
            rw [later] at found
            cases found
        | ok inner =>
            rw [later] at found
            cases found
            exact (ih later).trans (Nat.lt_succ_self _)

/-- Of a text that is no longer than given, what the one yields the other reads,
and it never reads backwards. -/
def Plain {α : Type} (bound : Nat)
    (element : List Char → Decoding (α × List Char))
    (plain : List Char → Result (α × List Char)) : Prop :=
  ∀ input read, input.length ≤ bound → (element input).Yields read →
    plain input = .ok read ∧ read.2.length ≤ input.length

theorem Plain.parseMany {α : Type} {bound : Nat}
    {element : List Char → Decoding (α × List Char)}
    {plain : List Char → Result (α × List Char)}
    (same : Plain bound element plain) (count : Nat) :
    Plain bound (parseMany element count) (Rust.parseMany plain count) := by
  induction count with
  | zero =>
      intro input read short yields
      cases yields_pure.mp yields
      exact ⟨rfl, le_rfl⟩
  | succ count ih =>
      intro input read short yields
      obtain ⟨first, one, yields⟩ := yields_bind.mp yields
      obtain ⟨later, others, yields⟩ := yields_bind.mp yields
      cases yields_pure.mp yields
      obtain ⟨one, further⟩ := same _ _ short one
      obtain ⟨others, behind⟩ := ih _ _ (further.trans short) others
      refine ⟨?_, behind.trans further⟩
      apply bind_ok one
      apply bind_ok others
      rfl

theorem Plain.parseEntry {bound : Nat}
    {element : List Char → Decoding (MapValue × List Char)}
    {plain : List Char → Result (MapValue × List Char)}
    (same : Plain bound element plain) :
    Plain bound (parseEntry element) (Rust.parseEntry plain) := by
  intro input read short yields
  obtain ⟨field, found, yields⟩ := yields_bind.mp yields
  obtain ⟨key, named, yields⟩ := yields_bind.mp yields
  obtain ⟨value, held, yields⟩ := yields_bind.mp yields
  cases yields_pure.mp yields
  have shorter := readUntilColon_shorter (yields_of.mp found)
  obtain ⟨held, further⟩ := same _ _ (shorter.le.trans short) held
  refine ⟨?_, further.trans shorter.le⟩
  apply bind_ok (yields_of.mp found)
  apply bind_ok (hexDecode_of_yields named)
  apply bind_ok held
  rfl

theorem plain_parseValue (stack depth : Nat) :
    Plain depth (parseValue text stack) (Rust.parseValue text depth) := by
  induction stack generalizing depth with
  | zero =>
      intro input read short yields
      exact absurd yields (not_yields_halt _ _)
  | succ stack ih =>
      intro input read short yields
      cases input with
      | nil => cases yields_of.mp yields
      | cons tag rest =>
          cases depth with
          | zero => cases short
          | succ depth =>
              have short : rest.length ≤ depth := Nat.le_of_succ_le_succ short
              have behind {later : Nat} (further : later ≤ rest.length) :
                  later ≤ (tag :: rest).length :=
                further.trans (Nat.le_succ _)
              rw [parseValue, parseTagged] at yields
              rw [Rust.parseValue]
              split_ifs at yields ⊢
              · cases yields_pure.mp yields
                exact ⟨rfl, behind le_rfl⟩
              · cases yields_pure.mp yields
                exact ⟨rfl, behind le_rfl⟩
              · cases yields_pure.mp yields
                exact ⟨rfl, behind le_rfl⟩
              · obtain ⟨field, found, yields⟩ := yields_bind.mp yields
                obtain ⟨digits, decoded, yields⟩ := yields_bind.mp yields
                obtain ⟨number, parsed, yields⟩ := yields_bind.mp yields
                cases yields_pure.mp yields
                have found := yields_of.mp found
                refine ⟨?_, behind (readUntilColon_shorter found).le⟩
                apply bind_ok found
                apply bind_ok (hexDecode_of_yields decoded)
                apply bind_ok (yields_of.mp parsed)
                rfl
              · obtain ⟨field, found, yields⟩ := yields_bind.mp yields
                obtain ⟨item, decoded, yields⟩ := yields_bind.mp yields
                cases yields_pure.mp yields
                have found := yields_of.mp found
                refine ⟨?_, behind (readUntilColon_shorter found).le⟩
                apply bind_ok found
                apply bind_ok (hexDecode_of_yields decoded)
                rfl
              · obtain ⟨field, found, yields⟩ := yields_bind.mp yields
                obtain ⟨count, counted, yields⟩ := yields_bind.mp yields
                obtain ⟨entries, held, yields⟩ := yields_bind.mp yields
                cases yields_pure.mp yields
                have found := yields_of.mp found
                have shorter := (readUntilColon_shorter found).le
                obtain ⟨held, further⟩ := (ih depth).parseEntry.parseMany count
                  _ _ (shorter.trans short) held
                refine ⟨?_, behind (further.trans shorter)⟩
                apply bind_ok found
                apply bind_ok (parseUsize_of_ok (yields_of.mp counted))
                apply bind_ok held
                rfl
              · obtain ⟨field, found, yields⟩ := yields_bind.mp yields
                obtain ⟨count, counted, yields⟩ := yields_bind.mp yields
                obtain ⟨_, _, yields⟩ := yields_bind.mp yields
                obtain ⟨values, held, yields⟩ := yields_bind.mp yields
                cases yields_pure.mp yields
                have found := yields_of.mp found
                have shorter := (readUntilColon_shorter found).le
                obtain ⟨held, further⟩ := (ih depth).parseMany count _ _
                  (shorter.trans short) held
                refine ⟨?_, behind (further.trans shorter)⟩
                apply bind_ok found
                apply bind_ok (parseUsize_of_ok (yields_of.mp counted))
                apply bind_ok held
                rfl
              · cases yields_of.mp yields

theorem plain_decodeValue {stack : Nat} {encoded : String} {value : MapValue}
    (yields : (decodeValue text stack encoded).Yields value) :
    Rust.decodeValue text encoded = .ok value := by
  obtain ⟨read, parsed, yields⟩ := yields_bind.mp yields
  apply bind_ok (plain_parseValue stack _ _ _ le_rfl parsed).1
  split at yields
  · cases yields_of.mp yields
  · rw [if_neg ‹_›]
    exact congrArg Except.ok (yields_pure.mp yields)

theorem plain_decodeState {stack : Nat} {encoded : String} {state : State}
    (yields : (decodeState text stack encoded).Yields state) :
    Rust.decodeState text encoded = .ok state := by
  obtain ⟨value, decoded, yields⟩ := yields_bind.mp yields
  apply bind_ok (plain_decodeValue decoded)
  cases held : value.state? with
  | none =>
      rw [held] at yields
      cases yields_of.mp yields
  | some found =>
      rw [held] at yields
      exact congrArg Except.ok (yields_pure.mp yields)

end Plain

end AgentLedger.Rust.Decoding
