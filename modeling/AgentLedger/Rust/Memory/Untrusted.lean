import AgentLedger.Foundation.Guarded
import AgentLedger.Rust.Memory.Snapshot

namespace AgentLedger.Rust

open Foundation

/-! The decoders of the snapshot, with what a text makes them ask for: slices
of its bytes, vectors as long as it says, a stack as high as it is nested. -/

inductive Demand
  | slice
  | capacity (count remaining : Nat)
  | stack

/-- A demand that cannot be met, or that the rest of the text does not bear
out, ends the decoding. -/
abbrev Decoding (Value : Type) := Guarded Demand RuntimeError Value

namespace Decoding

open Guarded

/-! ### Fields -/

/-- `u8::from_str_radix`, of two bytes. -/
def fromStrRadix : List Char → Option UInt8
  | [first, second] => Hexadecimal.parseByte first second
  | _ => none

/-- The loop of `hex_decode`: as often as given, the next two bytes. -/
def hexBytes : Nat → List Char → Decoding (List UInt8)
  | 0, _ => pure []
  | count + 1, chars =>
      match takeBytes 2 chars with
      | none => halt .slice
      | some (pair, rest) =>
          match fromStrRadix pair with
          | none => of (.error ⟨"invalid digit found in string"⟩)
          | some byte => do
              let later ← hexBytes count rest
              return byte :: later

def hexDecode (value : String) : Decoding String :=
  if value.utf8ByteSize % 2 ≠ 0 then
    of (.error ⟨"invalid hex string length"⟩)
  else do
    let bytes ← hexBytes (value.utf8ByteSize / 2) value.toList
    match String.fromUTF8? ⟨bytes.toArray⟩ with
    | some decoded => return decoded
    | none => of (.error ⟨"invalid utf-8 sequence"⟩)

/-- `str::parse::<usize>`, of 64 bits. -/
def parseUsize (value : String) : Result Nat :=
  match Decimal.parseUnsigned value with
  | none => .error (invalidNumber value)
  | some number =>
      if number < 2 ^ 64 then .ok number
      else .error ⟨"number too large to fit in target type"⟩

/-- A vector for so many elements, which the rest of the text is to hold. -/
def withCapacity (count : Nat) (rest : List Char) : Decoding Unit :=
  if byteLength rest < count then halt (.capacity count (byteLength rest))
  else pure ()

/-! ### Values -/

def parseMany {α : Type} (element : List Char → Decoding (α × List Char)) :
    Nat → List Char → Decoding (List α × List Char)
  | 0, input => pure ([], input)
  | count + 1, input => do
      let first ← element input
      let later ← parseMany element count first.2
      return (first.1 :: later.1, later.2)

def parseEntry (element : List Char → Decoding (MapValue × List Char))
    (input : List Char) : Decoding ((String × MapValue) × List Char) := do
  let read ← of (readUntilColon input)
  let key ← hexDecode read.1
  let value ← element read.2
  return ((key, value.1), value.2)

variable (text : F64Text)

/-- What stands behind a tag, with `value` for the values in it. -/
def parseTagged (value : List Char → Decoding (MapValue × List Char))
    (tag : Char) (rest : List Char) : Decoding (MapValue × List Char) :=
  if tag = 'Z' then pure (.null, rest)
  else if tag = 'T' then pure (.bool true, rest)
  else if tag = 'F' then pure (.bool false, rest)
  else if tag = 'N' then do
    let read ← of (readUntilColon rest)
    let digits ← hexDecode read.1
    let number ← of (parseF64 text digits)
    return (.number number, read.2)
  else if tag = 'S' then do
    let read ← of (readUntilColon rest)
    let item ← hexDecode read.1
    return (.string item, read.2)
  else if tag = 'O' then do
    let read ← of (readUntilColon rest)
    let count ← of (parseUsize read.1)
    let entries ← parseMany (parseEntry value) count read.2
    return (.object (stateOf entries.1), entries.2)
  else if tag = 'A' then do
    let read ← of (readUntilColon rest)
    let count ← of (parseUsize read.1)
    withCapacity count read.2
    let values ← parseMany value count read.2
    return (.array values.1, values.2)
  else of (.error ⟨"unknown encoded value tag: " ++
    String.singleton (leadingByte tag)⟩)

/-- Every value in an array or an object is a call of its own, for which the
stack, as the caller of `decode_value` leaves it, holds so many levels. -/
def parseValue : Nat → List Char → Decoding (MapValue × List Char)
  | 0, _ => halt .stack
  | _ + 1, [] => of (.error ⟨"unexpected end of encoded value"⟩)
  | stack + 1, tag :: rest => parseTagged text (parseValue stack) tag rest

variable (stack : Nat)

def decodeValue (encoded : String) : Decoding MapValue := do
  let read ← parseValue text stack encoded.toList
  if read.2 ≠ [] then of (.error ⟨"trailing bytes in encoded value"⟩)
  else return read.1

def decodeState (encoded : String) : Decoding State := do
  let value ← decodeValue text stack encoded
  match value.state? with
  | some state => return state
  | none => of (.error ⟨"encoded state was not an object"⟩)

end Decoding

end AgentLedger.Rust
