import Mosaic.Json.Value
import Mosaic.Text.Quoted

/-!
# Why a document is refused

A document is refused because its text is malformed or because a value does not
have the shape that its reader expects. Each refusal has a kind, which tells a
text that ended too early from one that is wrong, and one line of words.
-/

set_option autoImplicit false

namespace Mosaic.Json

/-- What is wrong with a text. -/
inductive Malformed where
  | endInValue
  | endInObject
  | endInList
  | endInString
  | expectedValue
  | expectedWord
  | expectedListEnd
  | expectedObjectEnd
  | expectedColon
  | trailingComma
  | trailingCharacters
  | keyNotString
  | invalidNumber
  | numberOutOfRange
  | invalidEscape
  | loneSurrogate
  | brokenSurrogate
  | controlCharacter
  | tooDeep
deriving DecidableEq, Repr

namespace Malformed

/-- The words for a malformed text. -/
def message : Malformed → String
  | endInValue => "EOF while parsing a value"
  | endInObject => "EOF while parsing an object"
  | endInList => "EOF while parsing a list"
  | endInString => "EOF while parsing a string"
  | expectedValue => "expected value"
  | expectedWord => "expected ident"
  | expectedListEnd => "expected `,` or `]`"
  | expectedObjectEnd => "expected `,` or `\x7d`"
  | expectedColon => "expected `:`"
  | trailingComma => "trailing comma"
  | trailingCharacters => "trailing characters"
  | keyNotString => "key must be a string"
  | invalidNumber => "invalid number"
  | numberOutOfRange => "number out of range"
  | invalidEscape => "invalid escape"
  | loneSurrogate => "lone leading surrogate in hex escape"
  | brokenSurrogate => "unexpected end of hex escape"
  | controlCharacter => "control character (\\u0000-\\u001F) found while parsing a string"
  | tooDeep => "recursion limit exceeded"

/-- Whether the text ended too early. -/
def isEnd : Malformed → Bool
  | endInValue | endInObject | endInList | endInString => true
  | _ => false

end Malformed

/-- What was found where something else was expected. -/
inductive Found where
  | null
  | bool (b : Bool)
  | number (n : Number)
  | string (s : String)
  | sequence
  | map
deriving DecidableEq

/-- The words for what was found. -/
def Found.text : Found → String
  | null => "null"
  | bool b => s!"boolean `{b}`"
  | number (.integer n) => s!"integer `{n.value}`"
  | number n => s!"floating point `{n.text}`"
  | string s => s!"string {Text.quote s}"
  | sequence => "sequence"
  | map => "map"

/-- Why a value does not fit its reader. -/
inductive Mismatch where
  | wrongType (found : Found) (expected : String)
  | wrongValue (found : Found) (expected : String)
  | wrongLength (length : Nat) (expected : String)
  | missingField (name : String)
  | duplicateField (name : String)
  | unknownVariant (name : String) (known : List String)
  | rejected (message : String)
deriving DecidableEq

/-- The variants an unknown one is compared with. -/
def variantList : List String → String
  | [] => "there are no variants"
  | [only] => s!"expected `{only}`"
  | [first, second] => s!"expected `{first}` or `{second}`"
  | several => "expected one of " ++ ", ".intercalate (several.map fun name => s!"`{name}`")

/-- The words for a value that does not fit. -/
def Mismatch.message : Mismatch → String
  | wrongType found expected => s!"invalid type: {found.text}, expected {expected}"
  | wrongValue found expected => s!"invalid value: {found.text}, expected {expected}"
  | wrongLength length expected => s!"invalid length {length}, expected {expected}"
  | missingField name => s!"missing field `{name}`"
  | duplicateField name => s!"duplicate field `{name}`"
  | unknownVariant name known => s!"unknown variant `{name}`, {variantList known}"
  | rejected message => message

/-- Why a document is refused. -/
inductive Refusal where
  | malformed (fault : Malformed)
  | mismatch (fault : Mismatch)
deriving DecidableEq

/-- The kinds of refusal. -/
inductive RefusalKind where
  | badText
  | earlyEnd
  | badData
deriving DecidableEq, Repr

namespace Refusal

/-- The words for a refusal. -/
def message : Refusal → String
  | malformed fault => fault.message
  | mismatch fault => fault.message

/-- The kind of a refusal. -/
def kind : Refusal → RefusalKind
  | malformed fault => if fault.isEnd then .earlyEnd else .badText
  | mismatch _ => .badData

end Refusal

end Mosaic.Json
