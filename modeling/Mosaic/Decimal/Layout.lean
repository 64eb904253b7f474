import Mosaic.Decimal.Shortest

/-!
# Writing a decimal

A layout says which decimals are written with their digits in place and which by a
power of ten. `Layout.float` writes a double: the shortest digits that read back,
laid out, with the sign in front.
-/

set_option autoImplicit false

namespace Mosaic.Decimal

/-- The powers of ten between which digits are written in place. -/
structure Layout where
  /-- The least power of the leading digit written in place. -/
  least : Int
  /-- The greatest power of the leading digit written in place. -/
  greatest : Int
deriving DecidableEq, Repr

namespace Layout

/-- The digits of a positive decimal. In place they always have a point with a digit on
either side; otherwise the power of ten follows with its sign. -/
def magnitude (l : Layout) (d : Scaled) : List Char :=
  let digits := Nat.toDigits 10 d.digits
  let power : Int := d.exponent + (digits.length - 1 : Nat)
  if l.least ≤ power ∧ power ≤ l.greatest then
    if 0 ≤ d.exponent then
      digits ++ List.replicate d.exponent.toNat '0' ++ ['.', '0']
    else if 0 ≤ power then
      digits.take (power.toNat + 1) ++ '.' :: digits.drop (power.toNat + 1)
    else
      '0' :: '.' :: List.replicate (-power - 1).toNat '0' ++ digits
  else
    let mantissa :=
      match digits with
      | [] => []
      | [single] => [single]
      | first :: rest => first :: '.' :: rest
    mantissa ++ 'e' :: (if power < 0 then '-' else '+') :: Nat.toDigits 10 power.natAbs

/-- A finite double given by its bits. -/
def float (l : Layout) (bits : UInt64) : List Char :=
  let digits :=
    match Binary.ofBits? bits with
    | some b => l.magnitude b.shortest
    | none => ['0', '.', '0']
  if bits.toNat < 0x8000000000000000 then digits else '-' :: digits

end Layout

end Mosaic.Decimal
