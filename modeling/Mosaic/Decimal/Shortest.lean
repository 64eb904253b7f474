/-!
# The shortest decimal that reads back

A finite binary number stands for an interval: the reals that round to it. Among
the decimals in the interval, `shortest` picks one with the fewest digits, and of
several such the nearest to the number, an even last digit deciding a tie.

The search runs over decimal grids, from a coarse one to finer ones. If a grid has
a point in the interval then so has one of the two neighbours of the number on
that grid, so the two neighbours are all that has to be tried. All arithmetic is
exact.

## Main definitions

* `Binary` — a positive number given by its mantissa and binary exponent
* `Binary.ofBits?` — the magnitude behind the bits of a double
* `Binary.hit?` — the neighbour chosen on one grid, if one lies in the interval
* `Binary.shortest` — the point on the coarsest grid that has one
-/

set_option autoImplicit false

namespace Mosaic.Decimal

/-- A decimal: a whole number of units, the unit a power of ten. -/
structure Scaled where
  digits : Nat
  exponent : Int
deriving DecidableEq, Repr

/-- A positive binary number: a mantissa times a power of two. The flag tells whether the
number below is only half as far away as the number above. -/
structure Binary where
  mantissa : Nat
  exponent : Int
  narrowBelow : Bool
deriving DecidableEq, Repr

namespace Binary

/-- The magnitude behind the bits of a double; nothing for zero and for what is not finite. -/
def ofBits? (bits : UInt64) : Option Binary :=
  let fraction : Nat := bits.toNat % 0x10000000000000
  let biased : Nat := bits.toNat / 0x10000000000000 % 0x800
  if biased = 2047 then none
  else if biased = 0 then
    if fraction = 0 then none else some ⟨fraction, -1074, false⟩
  else some ⟨0x10000000000000 + fraction, (biased : Int) - 1075, fraction == 0 && biased > 1⟩

/-- The number as a fraction whose numerator counts quarters of the last place. -/
def numerator (b : Binary) : Nat := 4 * b.mantissa * Nat.pow 2 b.exponent.toNat

/-- The denominator that goes with `numerator`. -/
def denominator (b : Binary) : Nat := 4 * Nat.pow 2 (-b.exponent).toNat

/-- The lower end of the interval, over the common denominator. -/
def lower (b : Binary) : Nat :=
  b.numerator - (if b.narrowBelow then 1 else 2) * Nat.pow 2 b.exponent.toNat

/-- The upper end of the interval, over the common denominator. -/
def upper (b : Binary) : Nat := b.numerator + 2 * Nat.pow 2 b.exponent.toNat

/-- Whether a fraction lies in the interval. The ends belong to it if the mantissa is even. -/
def admits (b : Binary) (point scale : Nat) : Bool :=
  if b.mantissa % 2 = 0 then b.lower * scale ≤ point && point ≤ b.upper * scale
  else b.lower * scale < point && point < b.upper * scale

/-- On the grid of a power of ten: the neighbour of the number to be written, if there is one. -/
def hit? (b : Binary) (exponent : Int) : Option Nat :=
  let unit := b.denominator * Nat.pow 10 exponent.toNat
  let scale := Nat.pow 10 (-exponent).toNat
  let below := b.numerator * scale / unit
  let above := below + 1
  match b.admits (below * unit) scale, b.admits (above * unit) scale with
  | true, true =>
    let twice := 2 * (b.numerator * scale)
    let middle := (below + above) * unit
    if twice < middle then some below
    else if middle < twice then some above
    else if below % 2 = 0 then some below else some above
  | true, false => some below
  | false, true => some above
  | false, false => none

/-- The first hit on the grids from an exponent downwards. -/
def search (b : Binary) : Nat → Int → Scaled
  | 0, exponent => ⟨0, exponent⟩
  | steps + 1, exponent =>
    match b.hit? exponent with
    | some digits => ⟨digits, exponent⟩
    | none => b.search steps (exponent - 1)

/-- The shortest decimal in the interval. No grid finer than the last place of the
smallest number is ever needed, which bounds the search. -/
def shortest (b : Binary) : Scaled :=
  let start := (Nat.toDigits 10 (b.numerator / b.denominator)).length
  b.search (start + 400) start

end Binary

end Mosaic.Decimal
