import AgentLedger.Foundation.Decimal
import AgentLedger.Foundation.Hexadecimal
import AgentLedger.Rust.Memory.Schema

namespace AgentLedger.Rust

open Foundation

/-! The prefix code of values: a tag, and behind it what the tag counts. -/

theorem stateOf_entries (entries : List (String × MapValue)) :
    (stateOf entries).entries =
      Entries.collect (entries.map fun entry => (entry.1, entry.2.value)) := by
  have built (state : State) : (entries.foldl (fun state entry =>
      state.insert entry.1 entry.2.value entry.2.ordered) state).entries =
        (entries.map fun entry => (entry.1, entry.2.value)).foldl
          (fun held entry => Entries.insert entry.1 entry.2 held)
          state.entries := by
    induction entries generalizing state with
    | nil => rfl
    | cons entry rest ih => exact ih _
  exact built State.new

namespace MapValue

def null : MapValue := ⟨.null, trivial⟩

theorem orderedItems_values (values : List MapValue) :
    Value.OrderedItems (values.map MapValue.value) := by
  induction values with
  | nil => trivial
  | cons value rest ih => exact ⟨value.ordered, ih⟩

def array (values : List MapValue) : MapValue :=
  ⟨.array (values.map MapValue.value), orderedItems_values values⟩

def state? : MapValue → Option State
  | ⟨.object entries, ordered⟩ => some ⟨entries, ordered⟩
  | _ => none

end MapValue

/-! ### Fields -/

def hexEncode (value : String) : String :=
  String.ofList (Hexadecimal.print value.toByteArray.data.toList)

def hexDecode (value : String) : Result String :=
  if value.utf8ByteSize % 2 ≠ 0 then .error ⟨"invalid hex string length"⟩
  else
    match Hexadecimal.parse value.toList with
    | none => .error ⟨"invalid digit found in string"⟩
    | some bytes =>
        match String.fromUTF8? ⟨bytes.toArray⟩ with
        | some decoded => .ok decoded
        | none => .error ⟨"invalid utf-8 sequence"⟩

def invalidNumber (value : String) : RuntimeError :=
  ⟨if value.isEmpty then "cannot parse integer from empty string"
    else "invalid digit found in string"⟩

def parseU64 (value : String) : Result UInt64 :=
  match Decimal.parseUnsigned value with
  | none => .error (invalidNumber value)
  | some number =>
      if number < 2 ^ 64 then .ok (UInt64.ofNat number)
      else .error ⟨"number too large to fit in target type"⟩

/-- What a vector or a map of a process can count. -/
def parseUsize (value : String) : Result Nat :=
  match Decimal.parseUnsigned value with
  | none => .error (invalidNumber value)
  | some number => .ok number

section

variable (text : F64Text)

def parseF64 (value : String) : Result F64 :=
  (text.parse value).mapError fun message => ⟨message⟩

/-! ### Values -/

mutual
def encodeValue : Value → List Char
  | .null => ['Z']
  | .bool true => ['T']
  | .bool false => ['F']
  | .number item => 'N' :: ((hexEncode (text.print item)).toList ++ [':'])
  | .string item => 'S' :: ((hexEncode item).toList ++ [':'])
  | .object entries =>
      'O' :: (entries.length.repr.toList ++ ':' :: encodeEntries entries)
  | .array values =>
      'A' :: (values.length.repr.toList ++ ':' :: encodeItems values)

def encodeItems : List Value → List Char
  | [] => []
  | value :: rest => encodeValue value ++ encodeItems rest

def encodeEntries : List (String × Value) → List Char
  | [] => []
  | (key, value) :: rest =>
      (hexEncode key).toList ++ ':' :: (encodeValue value ++ encodeEntries rest)
end

def readUntilColon : List Char → Result (String × List Char)
  | [] => .error ⟨"missing encoded value delimiter"⟩
  | char :: rest =>
      if char = ':' then .ok ("", rest)
      else (readUntilColon rest).map fun read =>
        (String.ofList (char :: read.1.toList), read.2)

/-- So many elements, one behind the other. -/
def parseMany {α : Type} (element : List Char → Result (α × List Char)) :
    Nat → List Char → Result (List α × List Char)
  | 0, input => .ok ([], input)
  | count + 1, input => do
      let first ← element input
      let later ← parseMany element count first.2
      return (first.1 :: later.1, later.2)

def parseEntry (element : List Char → Result (MapValue × List Char))
    (input : List Char) : Result ((String × MapValue) × List Char) := do
  let read ← readUntilColon input
  let key ← hexDecode read.1
  let value ← element read.2
  return ((key, value.1), value.2)

/-- The first byte of the character, as a character. -/
def leadingByte (char : Char) : Char :=
  Char.ofUInt8 ((String.utf8EncodeChar char).headD 0)

/-- A value, and what stands behind it.  A value nests no deeper than its text
is long. -/
def parseValue : Nat → List Char → Result (MapValue × List Char)
  | _, [] => .error ⟨"unexpected end of encoded value"⟩
  | 0, _ => .error ⟨"unexpected end of encoded value"⟩
  | depth + 1, tag :: rest =>
      if tag = 'Z' then .ok (.null, rest)
      else if tag = 'T' then .ok (.bool true, rest)
      else if tag = 'F' then .ok (.bool false, rest)
      else if tag = 'N' then do
        let read ← readUntilColon rest
        let digits ← hexDecode read.1
        let number ← parseF64 text digits
        return (.number number, read.2)
      else if tag = 'S' then do
        let read ← readUntilColon rest
        let item ← hexDecode read.1
        return (.string item, read.2)
      else if tag = 'O' then do
        let read ← readUntilColon rest
        let count ← parseUsize read.1
        let entries ← parseMany (parseEntry (parseValue depth)) count read.2
        return (.object (stateOf entries.1), entries.2)
      else if tag = 'A' then do
        let read ← readUntilColon rest
        let count ← parseUsize read.1
        let values ← parseMany (parseValue depth) count read.2
        return (.array values.1, values.2)
      else .error ⟨"unknown encoded value tag: " ++
        String.singleton (leadingByte tag)⟩

def decodeValue (encoded : String) : Result MapValue := do
  let read ← parseValue text encoded.toList.length encoded.toList
  if read.2 ≠ [] then .error ⟨"trailing bytes in encoded value"⟩
  else return read.1

def encodeState (state : State) : String :=
  String.ofList (encodeValue text state.toValue)

def decodeState (encoded : String) : Result State := do
  let value ← decodeValue text encoded
  match value.state? with
  | some state => return state
  | none => .error ⟨"encoded state was not an object"⟩

end

/-! ### What is written is read back -/

theorem isAlphanum_of_mem_hexEncode {value : String} {char : Char}
    (member : char ∈ (hexEncode value).toList) : char.isAlphanum = true := by
  rw [hexEncode, String.toList_ofList] at member
  exact Hexadecimal.isAlphanum_of_mem member

theorem not_mem_hexEncode (value : String) {char : Char}
    (symbol : char.isAlphanum = false) : char ∉ (hexEncode value).toList := by
  intro member
  rw [isAlphanum_of_mem_hexEncode member] at symbol
  cases symbol

theorem hexDecode_hexEncode (value : String) :
    hexDecode (hexEncode value) = .ok value := by
  have size : (hexEncode value).utf8ByteSize =
      2 * value.toByteArray.data.toList.length :=
    Hexadecimal.utf8ByteSize_print _
  rw [hexDecode, size, if_neg (by omega), hexEncode, String.toList_ofList,
    Hexadecimal.parse_print]
  have whole : (⟨value.toByteArray.data.toList.toArray⟩ : ByteArray) =
      value.toByteArray := rfl
  simp only [whole, String.fromUTF8?, dif_pos value.isValidUTF8]
  rfl

theorem parseU64_toString (number : UInt64) :
    parseU64 (toString number) = .ok number := by
  have shown : toString number = number.toNat.repr := rfl
  rw [parseU64, shown, Decimal.parseUnsigned_repr]
  simp only [if_pos number.toNat_lt, UInt64.ofNat_toNat]

theorem parseUsize_repr (number : Nat) : parseUsize number.repr = .ok number := by
  rw [parseUsize, Decimal.parseUnsigned_repr]

theorem readUntilColon_append {field : String} (free : ':' ∉ field.toList)
    (rest : List Char) :
    readUntilColon (field.toList ++ ':' :: rest) = .ok (field, rest) := by
  have general (chars : List Char) (free : ':' ∉ chars) :
      readUntilColon (chars ++ ':' :: rest) = .ok (String.ofList chars, rest) := by
    induction chars with
    | nil => rfl
    | cons char later ih =>
        have other : char ≠ ':' := fun same =>
          free (same ▸ List.mem_cons_self ..)
        rw [List.cons_append, readUntilColon, if_neg other,
          ih fun member => free (List.mem_cons_of_mem _ member)]
        simp only [Except.map, String.toList_ofList]
  have read := general field.toList free
  rwa [String.ofList_toList] at read

section RoundTrip

variable {text : F64Text}

theorem parseF64_print (lawful : text.Lawful) {number : F64}
    (finite : number.finite = true) :
    parseF64 text (text.print number) = .ok number := by
  rw [parseF64, lawful.parse_print number finite]
  rfl

private theorem readHex (value : String) (rest : List Char) :
    readUntilColon ((hexEncode value).toList ++ ':' :: rest) =
      .ok (hexEncode value, rest) :=
  readUntilColon_append (not_mem_hexEncode value rfl) rest

private theorem readCount (count : Nat) (rest : List Char) :
    readUntilColon (count.repr.toList ++ ':' :: rest) =
      .ok (count.repr, rest) := by
  apply readUntilColon_append
  intro member
  have digit := Decimal.isDigit_of_mem member
  exact absurd digit (by decide)

theorem parseMany_cons {α : Type}
    {element : List Char → Result (α × List Char)} {count : Nat}
    {input middle rest : List Char} {first : α} {later : List α}
    (one : element input = .ok (first, middle))
    (others : parseMany element count middle = .ok (later, rest)) :
    parseMany element (count + 1) input = .ok (first :: later, rest) := by
  rw [parseMany, one]
  change (parseMany element count middle >>= _) = _
  rw [others]
  rfl

mutual
theorem parseValue_encodeValue (lawful : text.Lawful) :
    (value : Value) → (ordered : value.Ordered) → value.finite = true →
      (depth : Nat) → value.depth < depth → (rest : List Char) →
      parseValue text depth (encodeValue text value ++ rest) =
        .ok (⟨value, ordered⟩, rest)
  | .null, _, _, depth + 1, _, rest => rfl
  | .bool true, _, _, depth + 1, _, rest => rfl
  | .bool false, _, _, depth + 1, _, rest => rfl
  | .number item, _, finite, depth + 1, _, rest => by
      rw [encodeValue, List.cons_append, List.append_assoc, parseValue]
      rw [if_neg (by decide), if_neg (by decide), if_neg (by decide),
        if_pos rfl, List.singleton_append, readHex]
      change (hexDecode (hexEncode (text.print item)) >>= _) = _
      rw [hexDecode_hexEncode]
      change (parseF64 text (text.print item) >>= _) = _
      rw [parseF64_print lawful finite]
      rfl
  | .string item, _, _, depth + 1, _, rest => by
      rw [encodeValue, List.cons_append, List.append_assoc, parseValue]
      rw [if_neg (by decide), if_neg (by decide), if_neg (by decide),
        if_neg (by decide), if_pos rfl, List.singleton_append, readHex]
      change (hexDecode (hexEncode item) >>= _) = _
      rw [hexDecode_hexEncode]
      rfl
  | .array values, ordered, finite, depth + 1, enough, rest => by
      have shallow : Value.depthItems values < depth := Nat.lt_of_succ_lt_succ
        enough
      obtain ⟨read, same, parsed⟩ := parseMany_encodeItems lawful values ordered
        finite depth shallow rest
      rw [encodeValue, List.cons_append, List.append_assoc, parseValue]
      rw [if_neg (by decide), if_neg (by decide), if_neg (by decide),
        if_neg (by decide), if_neg (by decide), if_neg (by decide), if_pos rfl,
        List.cons_append, readCount]
      change (parseUsize values.length.repr >>= _) = _
      rw [parseUsize_repr]
      change (parseMany (parseValue text depth) values.length
        (encodeItems text values ++ rest) >>= _) = _
      rw [parsed]
      subst same
      rfl
  | .object entries, ordered, finite, depth + 1, enough, rest => by
      have shallow : Value.depthEntries entries < depth :=
        Nat.lt_of_succ_lt_succ enough
      obtain ⟨read, same, parsed⟩ := parseMany_encodeEntries lawful entries
        ordered.2 finite depth shallow rest
      rw [encodeValue, List.cons_append, List.append_assoc, parseValue]
      rw [if_neg (by decide), if_neg (by decide), if_neg (by decide),
        if_neg (by decide), if_neg (by decide), if_pos rfl, List.cons_append,
        readCount]
      change (parseUsize entries.length.repr >>= _) = _
      rw [parseUsize_repr]
      change (parseMany (parseEntry (parseValue text depth)) entries.length
        (encodeEntries text entries ++ rest) >>= _) = _
      rw [parsed]
      have whole : (stateOf read).entries = entries := by
        rw [stateOf_entries, same]
        exact Entries.collect_of_ordered ordered.1
      have built : MapValue.object (stateOf read) =
          ⟨.object entries, ordered⟩ := by
        apply MapValue.ext
        exact congrArg Value.object whole
      exact congrArg (fun value => Except.ok (value, rest)) built

theorem parseMany_encodeItems (lawful : text.Lawful) :
    (values : List Value) → Value.OrderedItems values →
      Value.finiteItems values = true → (depth : Nat) →
      Value.depthItems values < depth → (rest : List Char) →
      ∃ read : List MapValue, read.map MapValue.value = values ∧
        parseMany (parseValue text depth) values.length
          (encodeItems text values ++ rest) = .ok (read, rest)
  | [], _, _, _, _, rest => ⟨[], rfl, rfl⟩
  | value :: values, ordered, finite, depth, enough, rest => by
      rw [Value.finiteItems, Bool.and_eq_true] at finite
      rw [Value.depthItems, Nat.max_lt] at enough
      obtain ⟨read, same, parsed⟩ := parseMany_encodeItems lawful values
        ordered.2 finite.2 depth enough.2 rest
      have first := parseValue_encodeValue lawful value ordered.1 finite.1 depth
        enough.1 (encodeItems text values ++ rest)
      refine ⟨⟨value, ordered.1⟩ :: read, by rw [List.map_cons, same], ?_⟩
      rw [encodeItems, List.append_assoc]
      exact parseMany_cons first parsed

theorem parseMany_encodeEntries (lawful : text.Lawful) :
    (entries : List (String × Value)) → Value.OrderedEntries entries →
      Value.finiteEntries entries = true → (depth : Nat) →
      Value.depthEntries entries < depth → (rest : List Char) →
      ∃ read : List (String × MapValue),
        read.map (fun entry => (entry.1, entry.2.value)) = entries ∧
        parseMany (parseEntry (parseValue text depth)) entries.length
          (encodeEntries text entries ++ rest) = .ok (read, rest)
  | [], _, _, _, _, rest => ⟨[], rfl, rfl⟩
  | (key, value) :: entries, ordered, finite, depth, enough, rest => by
      rw [Value.finiteEntries, Bool.and_eq_true] at finite
      rw [Value.depthEntries, Nat.max_lt] at enough
      obtain ⟨read, same, parsed⟩ := parseMany_encodeEntries lawful entries
        ordered.2 finite.2 depth enough.2 rest
      have first := parseValue_encodeValue lawful value ordered.1 finite.1 depth
        enough.1 (encodeEntries text entries ++ rest)
      refine ⟨(key, ⟨value, ordered.1⟩) :: read, by rw [List.map_cons, same], ?_⟩
      rw [encodeEntries, List.append_assoc, List.cons_append, List.append_assoc]
      refine parseMany_cons ?_ parsed
      rw [parseEntry, readHex]
      change (hexDecode (hexEncode key) >>= _) = _
      rw [hexDecode_hexEncode]
      change (parseValue text depth _ >>= _) = _
      rw [first]
      rfl
end

mutual
theorem depth_lt_length : (value : Value) →
    value.depth < (encodeValue text value).length
  | .null => Nat.one_pos
  | .bool true => Nat.one_pos
  | .bool false => Nat.one_pos
  | .number _ => Nat.succ_pos _
  | .string _ => Nat.succ_pos _
  | .array values => by
      have inner := depthItems_le_length values
      simp only [encodeValue, Value.depth, List.length_cons, List.length_append]
      omega
  | .object entries => by
      have inner := depthEntries_le_length entries
      simp only [encodeValue, Value.depth, List.length_cons, List.length_append]
      omega

theorem depthItems_le_length : (values : List Value) →
    Value.depthItems values ≤ (encodeItems text values).length
  | [] => Nat.le_refl _
  | value :: values => by
      have first := depth_lt_length value
      have later := depthItems_le_length values
      simp only [encodeItems, Value.depthItems, List.length_append]
      omega

theorem depthEntries_le_length : (entries : List (String × Value)) →
    Value.depthEntries entries ≤ (encodeEntries text entries).length
  | [] => Nat.le_refl _
  | (key, value) :: entries => by
      have first := depth_lt_length value
      have later := depthEntries_le_length entries
      simp only [encodeEntries, Value.depthEntries, List.length_append,
        List.length_cons]
      omega
end

theorem decodeValue_encodeValue (lawful : text.Lawful) (value : MapValue)
    (finite : value.value.finite = true) :
    decodeValue text (String.ofList (encodeValue text value.value)) =
      .ok value := by
  have parsed := parseValue_encodeValue lawful value.value value.ordered finite
    _ (@depth_lt_length text value.value) []
  rw [List.append_nil] at parsed
  rw [decodeValue, String.toList_ofList, parsed]
  rfl

theorem decodeState_encodeState (lawful : text.Lawful) (state : State)
    (finite : state.finite = true) :
    decodeState text (encodeState text state) = .ok state := by
  have value := decodeValue_encodeValue lawful (.object state) finite
  rw [decodeState]
  change (decodeValue text (String.ofList (encodeValue text
    (MapValue.object state).value)) >>= _) = _
  rw [value]
  rfl

end RoundTrip

end AgentLedger.Rust
