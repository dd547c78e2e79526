import AgentLedger.Errors
import AgentLedger.Foundation.Json
import AgentLedger.Foundation.Trimming

namespace AgentLedger

open Foundation

/-! Python's built-ins on JSON values and texts. -/

/-- Python's truth value. -/
def truthy : Json → Bool
  | .null => false
  | .bool value => value
  | .int value => decide (value ≠ 0)
  | .float value => decide (value ≠ 0)
  | .str value => !value.isEmpty
  | .arr items => !items.isEmpty
  | .obj fields => !fields.isEmpty

/-- `fields.get(key)`. -/
def getOrNone (fields : Fields) (key : String) : Json :=
  (Fields.get? fields key).getD .null

/-- `mapping.get(key)`, where it is not falsy. -/
def given (fields : Fields) (key : String) : Option Json :=
  (Fields.get? fields key).filter truthy

/-- `str.upper` of one character.  What is no ASCII letter and becomes none is
left as it is. -/
def upperChar (letter : Char) : List Char :=
  match letter with
  | 'ı' => ['I']
  | 'ſ' => ['S']
  | 'ﬀ' => ['F', 'F']
  | 'ﬁ' => ['F', 'I']
  | 'ﬂ' => ['F', 'L']
  | 'ﬃ' => ['F', 'F', 'I']
  | 'ﬄ' => ['F', 'F', 'L']
  | 'ﬅ' => ['S', 'T']
  | 'ﬆ' => ['S', 'T']
  | letter => [letter.toUpper]

def upper (text : String) : String :=
  String.ofList (text.toList.flatMap upperChar)

/-- `str.lower` of one character, to the same extent; the first is the Kelvin
sign. -/
def lowerChar (letter : Char) : Char :=
  if letter = '\u212A' then 'k' else letter.toLower

def lower (text : String) : String :=
  String.ofList (text.toList.map lowerChar)

/-- `str.isspace` of one character. -/
def isSpace (letter : Char) : Bool :=
  let code := letter.toNat
  (9 ≤ code && code ≤ 13) || (28 ≤ code && code ≤ 32) ||
    (0x2000 ≤ code && code ≤ 0x200A) ||
    [0x85, 0xA0, 0x1680, 0x2028, 0x2029, 0x202F, 0x205F, 0x3000].contains code

/-- `not text.strip()`. -/
def isBlank (text : String) : Bool := text.toList.all isSpace

/-- `text.strip()`. -/
def strip (text : String) : String :=
  String.ofList (trim isSpace text.toList)

/-- The zeros of the scripts with decimal digits of their own (Unicode 14); the
other nine digits follow each. -/
def decimalZeros : List Nat :=
  [0x30, 0x660, 0x6F0, 0x7C0, 0x966, 0x9E6, 0xA66, 0xAE6, 0xB66, 0xBE6, 0xC66,
    0xCE6, 0xD66, 0xDE6, 0xE50, 0xED0, 0xF20, 0x1040, 0x1090, 0x17E0, 0x1810,
    0x1946, 0x19D0, 0x1A80, 0x1A90, 0x1B50, 0x1BB0, 0x1C40, 0x1C50, 0xA620,
    0xA8D0, 0xA900, 0xA9D0, 0xA9F0, 0xAA50, 0xABF0, 0xFF10, 0x104A0, 0x10D30,
    0x11066, 0x110F0, 0x11136, 0x111D0, 0x112F0, 0x11450, 0x114D0, 0x11650,
    0x116C0, 0x11730, 0x118E0, 0x11950, 0x11C50, 0x11D50, 0x11DA0, 0x16A60,
    0x16AC0, 0x16B50, 0x1D7CE, 0x1D7D8, 0x1D7E2, 0x1D7EC, 0x1D7F6, 0x1E140,
    0x1E2F0, 0x1E950, 0x1FBF0]

def decimalOf (letter : Char) : Option Nat :=
  let code := letter.toNat
  (decimalZeros.find? fun start => start ≤ code && code < start + 10).map
    fun start => code - start

/-- What `int` passes over at both ends of a text; `str.strip` takes the four
separators of ASCII as well. -/
def isIntSpace (letter : Char) : Bool :=
  isSpace letter && !(28 ≤ letter.toNat && letter.toNat ≤ 31)

/-- Decimal digits, single underscores between them. -/
def digitsOf : List Char → Option (List Nat)
  | [] => none
  | [letter] => (decimalOf letter).map fun digit => [digit]
  | letter :: '_' :: rest => do
      let digit ← decimalOf letter
      let digits ← digitsOf rest
      return digit :: digits
  | letter :: rest => do
      let digit ← decimalOf letter
      let digits ← digitsOf rest
      return digit :: digits

/-- `sys.get_int_max_str_digits()`. -/
def maxStrDigits : Nat := 4300

def naturalOf (letters : List Char) : Option Int :=
  ((digitsOf letters).filter fun digits => digits.length ≤ maxStrDigits).map
    fun digits => (digits.foldl (fun value digit => 10 * value + digit) 0 : Nat)

/-- `int(text)`. -/
def intOf (text : String) : Option Int :=
  match trim isIntSpace text.toList with
  | '+' :: rest => naturalOf rest
  | '-' :: rest => (naturalOf rest).map fun value => -value
  | letters => naturalOf letters

example : intOf " +1_0\u00A0" = some 10 := by decide

/-- What iterating over a value yields. -/
def iterate : Json → Except PyError (List Json)
  | .arr items => .ok items
  | .str text => .ok (text.toList.map fun letter => .str (String.singleton letter))
  | .obj fields => .ok (fields.map fun field => .str field.1)
  | .null => .error (.typeError "'NoneType' object is not iterable")
  | .bool _ => .error (.typeError "'bool' object is not iterable")
  | .int _ => .error (.typeError "'int' object is not iterable")
  | .float _ => .error (.typeError "'float' object is not iterable")

/-- `isinstance(value, str)`. -/
def Json.str? : Json → Option String
  | .str text => some text
  | _ => none

end AgentLedger
