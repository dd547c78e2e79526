import AgentLedger.Foundation.JsonText

namespace Foundation

/-! Bytes and words in hexadecimal digits. -/

namespace Hexadecimal

open JsonText (hexDigit hexValue)

def printByte (byte : UInt8) : List Char :=
  [hexDigit (byte.toNat / 16), hexDigit (byte.toNat % 16)]

/-- Two characters; the first may be a plus sign. -/
def parseByte (first second : Char) : Option UInt8 :=
  match hexValue second with
  | none => none
  | some low =>
      if first = '+' then some (UInt8.ofNat low)
      else (hexValue first).map fun high => UInt8.ofNat (high * 16 + low)

def print (bytes : List UInt8) : List Char := bytes.flatMap printByte

def parse : List Char → Option (List UInt8)
  | first :: second :: rest =>
      match parseByte first second with
      | some byte => (parse rest).map (byte :: ·)
      | none => none
  | _ => some []

theorem hexValue_hexDigit : ∀ digit < 16, hexValue (hexDigit digit) =
    some digit := by
  decide

private theorem hexDigit_solid : ∀ digit < 16,
    (hexDigit digit).isAlphanum = true := by
  decide

private theorem hexDigit_ne_plus : ∀ digit < 16, hexDigit digit ≠ '+' := by
  decide

theorem parse_printByte (byte : UInt8) :
    parseByte (hexDigit (byte.toNat / 16)) (hexDigit (byte.toNat % 16)) =
      some byte := by
  have small : byte.toNat < 256 := byte.toNat_lt
  rw [parseByte, hexValue_hexDigit _ (by omega), hexValue_hexDigit _ (by omega)]
  simp only [if_neg (hexDigit_ne_plus (byte.toNat / 16) (by omega)),
    Option.map_some]
  rw [Nat.div_add_mod' byte.toNat 16, UInt8.ofNat_toNat]

theorem parse_print (bytes : List UInt8) : parse (print bytes) = some bytes := by
  induction bytes with
  | nil => rfl
  | cons byte rest ih =>
      have split : print (byte :: rest) = hexDigit (byte.toNat / 16) ::
          hexDigit (byte.toNat % 16) :: print rest := rfl
      rw [split, parse, parse_printByte]
      simp only [ih, Option.map_some]

private theorem hexDigit_size : ∀ digit < 16,
    (hexDigit digit).utf8Size = 1 := by
  decide

/-- Every digit is one byte of the text. -/
theorem utf8ByteSize_print (bytes : List UInt8) :
    (String.ofList (print bytes)).utf8ByteSize = 2 * bytes.length := by
  have single (char : Char) (size : char.utf8Size = 1) (rest : List Char) :
      (String.ofList (char :: rest)).utf8ByteSize =
        1 + (String.ofList rest).utf8ByteSize := by
    have split : String.ofList (char :: rest) =
        String.singleton char ++ String.ofList rest := by
      apply String.toList_injective
      simp
    rw [split, String.utf8ByteSize_append, String.utf8ByteSize_singleton, size]
  induction bytes with
  | nil => rfl
  | cons byte rest ih =>
      have small : byte.toNat < 256 := byte.toNat_lt
      have split : print (byte :: rest) = hexDigit (byte.toNat / 16) ::
          hexDigit (byte.toNat % 16) :: print rest := rfl
      rw [split, single _ (hexDigit_size _ (by omega)),
        single _ (hexDigit_size _ (by omega)), ih, List.length_cons]
      omega

theorem isAlphanum_of_mem {bytes : List UInt8} {char : Char}
    (member : char ∈ print bytes) : char.isAlphanum = true := by
  obtain ⟨byte, _, shown⟩ := List.mem_flatMap.mp member
  have small : byte.toNat < 256 := byte.toNat_lt
  rcases List.mem_pair.mp shown with rfl | rfl
  · exact hexDigit_solid _ (by omega)
  · exact hexDigit_solid _ (by omega)

end Hexadecimal

end Foundation
