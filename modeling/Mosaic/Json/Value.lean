import Mosaic.Decimal.Layout
import Mosaic.Ordered

/-!
# JSON values and their text

A number is an integer that fits into sixty-four bits, signed or unsigned, or else
a double, kept as its bits. An object is a list of members: tables with free keys
keep theirs sorted, and records list theirs in the order of declaration.

`Value.text` is the compact text: no blanks, only the escapes that have to be.
-/

set_option autoImplicit false

namespace Mosaic.Json

/-- An integer that fits into sixty-four bits, with or without a sign. -/
structure Integer where
  value : Int
  lower : -0x8000000000000000 ≤ value := by omega
  upper : value < 0x10000000000000000 := by omega
deriving DecidableEq

/-- A number: an integer of the admitted range, or a double by its bits. -/
inductive Number where
  | integer (n : Integer)
  | float (bits : UInt64)
deriving DecidableEq

/-- A JSON value. -/
inductive Value where
  | null
  | bool (b : Bool)
  | number (n : Number)
  | string (s : String)
  | array (items : List Value)
  | object (members : List (String × Value))

namespace Number

/-- A natural number as a JSON number; the largest admitted one stands for all beyond. -/
def ofNat (n : Nat) : Number :=
  .integer ⟨(min n (0x10000000000000000 - 1) : Nat), by omega, by omega⟩

/-- An integer as a JSON number, clamped to the admitted range. -/
def ofInt (i : Int) : Number :=
  .integer ⟨max (-0x8000000000000000) (min i (0x10000000000000000 - 1)), by omega, by omega⟩

/-- Doubles are written in place from a hundred thousandth up to sixteen places. -/
def floatLayout : Decimal.Layout := ⟨-5, 15⟩

/-- The decimal digits of an integer with its sign. -/
def integerChars (i : Int) : List Char :=
  if i < 0 then '-' :: Nat.toDigits 10 i.natAbs else Nat.toDigits 10 i.natAbs

/-- The characters of a number. -/
def chars : Number → List Char
  | integer n => integerChars n.value
  | float bits => floatLayout.float bits

/-- The text of a number. -/
def text (n : Number) : String := String.ofList n.chars

end Number

namespace Value

/-- A natural number as a value. -/
def nat (n : Nat) : Value := .number (.ofNat n)

/-- An integer as a value. -/
def int (i : Int) : Value := .number (.ofInt i)

/-- A value that may be absent. -/
def option {α : Type} (write : α → Value) : Option α → Value
  | none => .null
  | some a => write a

/-- A list of values written one by one. -/
def list {α : Type} (write : α → Value) (items : List α) : Value := .array (items.map write)

/-- The value of a member, of the first one with that key. -/
def get? (key : String) : Value → Option Value
  | .object members => Ordered.find? key members
  | _ => none

end Value

/-- The digits of a byte in base sixteen, two of them. -/
def hexPair (n : Nat) : List Char := [Nat.digitChar (n / 16), Nat.digitChar (n % 16)]

/-- What stands for a character inside a JSON string. -/
def escapeChar (c : Char) : List Char :=
  if c = '"' then ['\\', '"']
  else if c = '\\' then ['\\', '\\']
  else if c = '\x08' then ['\\', 'b']
  else if c = '\x0c' then ['\\', 'f']
  else if c = '\n' then ['\\', 'n']
  else if c = '\r' then ['\\', 'r']
  else if c = '\t' then ['\\', 't']
  else if c.toNat < 0x20 then ['\\', 'u', '0', '0'] ++ hexPair c.toNat
  else [c]

/-- A string between its quotes. -/
def stringChars (s : String) : List Char := '"' :: s.toList.flatMap escapeChar ++ ['"']

mutual

/-- The characters of a value. -/
def Value.chars : Value → List Char
  | .null => ['n', 'u', 'l', 'l']
  | .bool true => ['t', 'r', 'u', 'e']
  | .bool false => ['f', 'a', 'l', 's', 'e']
  | .number n => n.chars
  | .string s => stringChars s
  | .array items => '[' :: itemChars items ++ [']']
  | .object members => '\x7b' :: memberChars members ++ ['\x7d']

/-- The elements of an array with commas between them. -/
def itemChars : List Value → List Char
  | [] => []
  | [item] => item.chars
  | item :: rest => item.chars ++ ',' :: itemChars rest

/-- The members of an object with commas between them. -/
def memberChars : List (String × Value) → List Char
  | [] => []
  | [(key, value)] => stringChars key ++ ':' :: value.chars
  | (key, value) :: rest => stringChars key ++ ':' :: value.chars ++ ',' :: memberChars rest

end

/-- The compact text of a value. -/
def Value.text (v : Value) : String := String.ofList v.chars

end Mosaic.Json
