/-!
# Digits in base sixteen

The digits with the values ten to fifteen are letters, of either case.
-/

set_option autoImplicit false

namespace Mosaic.Text

/-- The value of a digit in base sixteen. -/
def hexDigit? (c : Char) : Option Nat :=
  if '0' ≤ c ∧ c ≤ '9' then some (c.toNat - '0'.toNat)
  else if 'a' ≤ c ∧ c ≤ 'f' then some (c.toNat - 'a'.toNat + 10)
  else if 'A' ≤ c ∧ c ≤ 'F' then some (c.toNat - 'A'.toNat + 10)
  else none

/-- The value of digits in base sixteen, most significant first. -/
def hexValue? (digits : List Char) : Option Nat :=
  digits.foldlM (fun n c => (hexDigit? c).map (16 * n + ·)) 0

/-- A digit written for a value below sixteen reads back as that value. -/
theorem hexDigit?_digitChar (n : Nat) (small : n < 16) : hexDigit? (Nat.digitChar n) = some n := by
  have all : ∀ m : Fin 16, hexDigit? (Nat.digitChar m) = some m.val := by decide
  exact all ⟨n, small⟩

end Mosaic.Text
