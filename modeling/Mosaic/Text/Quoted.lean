import Mosaic.Text.Hidden

/-!
# Quoted text

Names inside messages are shown between quotes. A quote, a backslash and the
common controls are escaped by a letter, every other hidden character by its
code point in braces, and all else stands for itself.

## Main definitions

* `escape` — what stands for one character between the quotes
* `quote` — a whole text between quotes
-/

set_option autoImplicit false

namespace Mosaic.Text

/-- The digits of a number in base sixteen, small letters, no leading zero. -/
def hexDigits (n : Nat) : List Char := Nat.toDigits 16 n

/-- What stands for a character between quotes. -/
def escape (c : Char) : List Char :=
  if c = '"' then ['\\', '"']
  else if c = '\\' then ['\\', '\\']
  else if c = '\n' then ['\\', 'n']
  else if c = '\r' then ['\\', 'r']
  else if c = '\t' then ['\\', 't']
  else if c = '\x00' then ['\\', '0']
  else if isHidden c then ['\\', 'u', '\x7b'] ++ hexDigits c.toNat ++ ['\x7d']
  else [c]

/-- A text between quotes, each character escaped. -/
def quote (s : String) : String :=
  String.ofList ('"' :: s.toList.flatMap escape ++ ['"'])

/-- A visible character other than the quote and the backslash stands for itself. -/
theorem escape_of_visible (c : Char) (quoteless : c ≠ '"') (plain : c ≠ '\\')
    (low : 0x20 ≤ c.toNat) (shown : isHidden c = false) : escape c = [c] := by
  have apart (d : Char) (small : d.toNat < 0x20) : c ≠ d := by
    rintro rfl; omega
  simp [escape, quoteless, plain, shown, apart '\n' (by decide), apart '\r' (by decide),
    apart '\t' (by decide), apart '\x00' (by decide)]

end Mosaic.Text
