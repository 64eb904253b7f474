import Mathlib.Algebra.Order.Floor.Semifield
import Mathlib.Data.Rat.Floor
import Mathlib.Tactic.Ring
import Mosaic.Placement

/-!
# How large a stream is shown

The size of a surface is computed in whole numbers: products, quotients whose remainders are
dropped, and one branch for each axis that may be stretched. In exact arithmetic there is less to
say. The visible window is stretched to square samples along the one axis where that makes it
longer, it is zoomed, and only the last number is cut down to a whole one and to the largest word.

Both are the same size. Nothing is lost by dropping remainders on the way, no product needs more
than 128 bits, and no ratio ever brings a zero to a division. Therefore terms with a common factor
do not matter, and a stream that is turned beforehand is shown as large as one that is turned in
the end.

## Main definitions

* `Ratio.value`, `Ratio.Expands` — what a ratio stands for, and the same ratio in larger terms
* `Placement.exactWidth`, `Placement.exactHeight` — the size in exact arithmetic
* `stretchedWide` — the computation step by step, in words of 128 bits
* `Placement.SizingLaw` — the computed size against the exact one

## Main results

* `Placement.stretched_eq` — quotients of quotients are what is left of the exact numbers
* `stretchedWide_eq` — every step of the computation is possible
* `Placement.sizeFor_keeps_sizing_law` — the law where the source decides
* `Placement.sizeFor_upright` — turning a stream beforehand does not matter
-/

set_option autoImplicit false

namespace Mosaic

/-! ## Ratios -/

namespace Ratio

variable {r r' : Ratio} {factor : Nat}

/-- What a ratio stands for; one where a term is zero. -/
def value (r : Ratio) : ℚ := r.orOne.num.toNat / r.orOne.den.toNat

/-- The terms of a ratio multiplied by a factor are the terms of another one. -/
structure Expands (factor : Nat) (r r' : Ratio) : Prop where
  positive : 0 < factor
  num : r'.num.toNat = factor * r.num.toNat
  den : r'.den.toNat = factor * r.den.toNat

theorem orOne_num_pos (r : Ratio) : 0 < r.orOne.num.toNat :=
  Nat.pos_of_ne_zero fun zero => r.orOne_num_ne_zero (UInt32.toNat_inj.mp zero)

theorem orOne_den_pos (r : Ratio) : 0 < r.orOne.den.toNat :=
  Nat.pos_of_ne_zero fun zero => r.orOne_den_ne_zero (UInt32.toNat_inj.mp zero)

theorem value_pos (r : Ratio) : 0 < r.value :=
  div_pos (Nat.cast_pos.mpr r.orOne_num_pos) (Nat.cast_pos.mpr r.orOne_den_pos)

theorem orOne_inverse (r : Ratio) : r.inverse.orOne = r.orOne.inverse := by
  have same : (r.inverse.num = 0 ∨ r.inverse.den = 0) ↔ r.num = 0 ∨ r.den = 0 := Or.comm
  by_cases zero : r.num = 0 ∨ r.den = 0
  · rw [orOne, orOne, if_pos zero, if_pos (same.mpr zero)]
    rfl
  · rw [orOne, orOne, if_neg zero, if_neg (mt same.mp zero)]

theorem value_inverse (r : Ratio) : r.inverse.value = r.value⁻¹ := by
  rw [value, orOne_inverse, value, inv_div]
  rfl

/-- The terms of an expanded ratio are zero where those of the ratio are. -/
theorem Expands.zero_iff (h : r.Expands factor r') :
    (r'.num = 0 ∨ r'.den = 0) ↔ r.num = 0 ∨ r.den = 0 := by
  have nonzero : factor ≠ 0 := h.positive.ne'
  simp only [← UInt32.toNat_inj, h.num, h.den, UInt32.toNat_zero, Nat.mul_eq_zero, nonzero,
    false_or]

/-- An expanded ratio stands for the same. -/
theorem Expands.value_eq (h : r.Expands factor r') : r'.value = r.value := by
  by_cases zero : r.num = 0 ∨ r.den = 0
  · rw [value, value, orOne, orOne, if_pos zero, if_pos (h.zero_iff.mpr zero)]
  · have nonzero : (factor : ℚ) ≠ 0 := Nat.cast_ne_zero.mpr h.positive.ne'
    rw [value, value, orOne, orOne, if_neg zero, if_neg (mt h.zero_iff.mp zero), h.num, h.den,
      Nat.cast_mul, Nat.cast_mul, mul_div_mul_left _ _ nonzero]

end Ratio

/-! ## In words of 128 bits -/

/-- A number multiplied by a word, unless the product needs more than 128 bits. -/
def mulWide (n : Nat) (factor : UInt32) : Option Nat :=
  if n * factor.toNat < 2 ^ 128 then some (n * factor.toNat) else none

/-- A number divided by a word, without the remainder, unless the word is zero. -/
def divWide (n : Nat) (divisor : UInt32) : Option Nat :=
  if divisor = 0 then none else some (n / divisor.toNat)

/-- A length multiplied by one factor after the other and then divided likewise. -/
def scaleWide (length : UInt32) (factors divisors : List UInt32) : Option Nat := do
  let product ← factors.foldlM mulWide length.toNat
  divisors.foldlM divWide product

/-- Width and height after stretching and zooming, step by step in words of 128 bits; nothing if a
step is not possible. -/
def stretchedWide (width height : UInt32) (sar zoom : Ratio) : Option (Nat × Nat) := do
  if sar.num ≥ sar.den then
    return (← scaleWide width [sar.num, zoom.num] [sar.den, zoom.den],
      ← scaleWide height [zoom.num] [zoom.den])
  else
    return (← scaleWide width [zoom.num] [zoom.den],
      ← scaleWide height [sar.den, zoom.num] [sar.num, zoom.den])

section Wide

variable {factors divisors : List UInt32} {n bits : Nat} {length : UInt32}

/-- Each factor adds no more than its 32 bits to a product. -/
theorem foldlM_mulWide (short : n < 2 ^ bits) (fits : bits + 32 * factors.length ≤ 128) :
    factors.foldlM mulWide n = some (factors.foldl (fun m factor => m * factor.toNat) n) := by
  induction factors generalizing n bits with
  | nil => rfl
  | cons factor rest ih =>
    rw [List.length_cons] at fits
    have longer : n * factor.toNat < 2 ^ (bits + 32) := by
      rw [Nat.pow_add]
      exact Nat.mul_lt_mul'' short factor.toNat_lt
    have wide : n * factor.toNat < 2 ^ 128 :=
      Nat.lt_of_lt_of_le longer (Nat.pow_le_pow_right Nat.two_pos (by omega))
    rw [List.foldlM_cons, mulWide, if_pos wide]
    -- The rest starts from a longer number and has one factor less to go.
    exact ih longer (by omega)

theorem foldlM_divWide (nonzero : ∀ divisor ∈ divisors, divisor ≠ 0) :
    divisors.foldlM divWide n = some (divisors.foldl (fun m divisor => m / divisor.toNat) n) := by
  induction divisors generalizing n with
  | nil => rfl
  | cons divisor rest ih =>
    rw [List.foldlM_cons, divWide, if_neg (nonzero divisor List.mem_cons_self)]
    exact ih fun divisor later => nonzero divisor (List.mem_cons_of_mem _ later)

/-- Three words have a product of at most 96 bits, so up to two factors are possible. -/
theorem scaleWide_eq (few : factors.length ≤ 2) (nonzero : ∀ divisor ∈ divisors, divisor ≠ 0) :
    scaleWide length factors divisors =
      some (divisors.foldl (fun m divisor => m / divisor.toNat)
        (factors.foldl (fun m factor => m * factor.toNat) length.toNat)) := by
  rw [scaleWide, foldlM_mulWide length.toNat_lt (by omega)]
  exact foldlM_divWide nonzero

/-- Every step of the computation is possible, and it comes to the size after stretching. -/
theorem stretchedWide_eq (width height : UInt32) (sar zoom : Ratio) :
    stretchedWide width height sar.orOne zoom.orOne =
      some (Placement.stretched width.toNat height.toNat sar.orOne zoom.orOne) := by
  have sn := sar.orOne_num_ne_zero
  have sd := sar.orOne_den_ne_zero
  have zd := zoom.orOne_den_ne_zero
  rw [stretchedWide, Placement.stretched]
  simp only [ge_iff_le, UInt32.le_iff_toNat_le]
  split
  · rw [scaleWide_eq (by simp) (by simp [sd, zd]), scaleWide_eq (by simp) (by simp [zd])]
    rfl
  · rw [scaleWide_eq (by simp) (by simp [zd]), scaleWide_eq (by simp) (by simp [sn, zd])]
    rfl

end Wide

namespace Placement

variable {p : Placement} {f : VideoFormat}

/-! ## In exact arithmetic -/

/-- The width of the visible window after stretching and zooming. -/
def exactWidth (p : Placement) (f : VideoFormat) : ℚ :=
  f.visibleWidth.toNat * max 1 f.sar.value * p.zoom.value

/-- The height of the visible window after stretching and zooming. -/
def exactHeight (p : Placement) (f : VideoFormat) : ℚ :=
  f.visibleHeight.toNat * max 1 f.sar.value⁻¹ * p.zoom.value

/-- Dropping the remainder of two divisions drops no more than dropping it once. -/
theorem floor_div_div (n a b : Nat) : ⌊(n : ℚ) / (a * b)⌋₊ = n / a / b := by
  rw [Nat.div_div_eq_div_mul, ← Nat.cast_mul, Nat.floor_div_eq_div]

/-- The numbers that are computed are what is left of the exact ones. -/
theorem stretched_eq (width height : Nat) (sar zoom : Ratio) :
    stretched width height sar.orOne zoom.orOne =
      (⌊width * max 1 sar.value * zoom.value⌋₊, ⌊height * max 1 sar.value⁻¹ * zoom.value⌋₊) := by
  have sn : (0 : ℚ) < sar.orOne.num.toNat := Nat.cast_pos.mpr sar.orOne_num_pos
  have sd : (0 : ℚ) < sar.orOne.den.toNat := Nat.cast_pos.mpr sar.orOne_den_pos
  have plain (n : Nat) : ⌊(n : ℚ) * zoom.value⌋₊ =
      n * zoom.orOne.num.toNat / zoom.orOne.den.toNat := by
    rw [Ratio.value, ← mul_div_assoc, ← Nat.cast_mul, Nat.floor_div_eq_div]
  rw [stretched]
  -- The branch for wide samples is the one where the width is the axis that gets longer.
  split
  · rename_i wide
    have long : 1 ≤ sar.value := (one_le_div sd).mpr (Nat.cast_le.mpr wide)
    rw [max_eq_right long, max_eq_left (inv_le_one_of_one_le₀ long), mul_one, plain,
      ← floor_div_div]
    have product : ((width * sar.orOne.num.toNat * zoom.orOne.num.toNat : Nat) : ℚ) /
        (sar.orOne.den.toNat * zoom.orOne.den.toNat) = width * sar.value * zoom.value := by
      rw [Ratio.value, Ratio.value, Nat.cast_mul, Nat.cast_mul]
      ring
    rw [product]
  · rename_i narrow
    have short : sar.value ≤ 1 := (div_le_one sd).mpr (Nat.cast_le.mpr (Nat.le_of_not_ge narrow))
    rw [max_eq_left short, max_eq_right ((one_le_inv₀ sar.value_pos).mpr short), mul_one, plain,
      ← floor_div_div]
    have product : ((height * sar.orOne.den.toNat * zoom.orOne.num.toNat : Nat) : ℚ) /
        (sar.orOne.num.toNat * zoom.orOne.den.toNat) = height * sar.value⁻¹ * zoom.value := by
      rw [Ratio.value, Ratio.value, inv_div, Nat.cast_mul, Nat.cast_mul]
      ring
    rw [product]

/-! ## The size before turning -/

/-- The size for a stream as it is stored, before it is turned. -/
def unturned (p : Placement) (f : VideoFormat) : Size :=
  p.sizeFor { f with orientation := .topLeft }

/-- Where no size is requested in full, the source decides. -/
theorem unturned_eq (undecided : ¬(p.width ≠ 0 ∧ p.height ≠ 0)) :
    p.unturned f = ⟨clampWord ⌊p.exactWidth f⌋₊, clampWord ⌊p.exactHeight f⌋₊⟩ := by
  rw [unturned, sizeFor, if_neg undecided, stretched_eq]
  rfl

theorem sizeFor_eq_unturned (undecided : ¬(p.width ≠ 0 ∧ p.height ≠ 0)) :
    p.sizeFor f =
      if f.orientation.transposes then (p.unturned f).transpose else p.unturned f := by
  rw [unturned_eq undecided, sizeFor, if_neg undecided, stretched_eq]
  rfl

/-- Size is decided by the exact numbers, the orientation and what is requested. -/
theorem sizeFor_congr {p' : Placement} {f' : VideoFormat}
    (undecided : ¬(p.width ≠ 0 ∧ p.height ≠ 0)) (undecided' : ¬(p'.width ≠ 0 ∧ p'.height ≠ 0))
    (orientation : f'.orientation = f.orientation) (width : p'.exactWidth f' = p.exactWidth f)
    (height : p'.exactHeight f' = p.exactHeight f) : p'.sizeFor f' = p.sizeFor f := by
  rw [sizeFor_eq_unturned undecided, sizeFor_eq_unturned undecided', unturned_eq undecided,
    unturned_eq undecided', orientation, width, height]

/-- A stream lying on its side is stretched along the other axis. -/
theorem unturned_transpose (undecided : ¬(p.width ≠ 0 ∧ p.height ≠ 0)) :
    p.unturned f.transpose = (p.unturned f).transpose := by
  have width : p.exactWidth f.transpose = p.exactHeight f := by
    rw [exactWidth, exactHeight, VideoFormat.transpose, Ratio.value_inverse]
  have height : p.exactHeight f.transpose = p.exactWidth f := by
    rw [exactWidth, exactHeight, VideoFormat.transpose, Ratio.value_inverse, inv_inv]
  rw [unturned_eq undecided, unturned_eq undecided, width, height]
  rfl

theorem toNat_unturned (undecided : ¬(p.width ≠ 0 ∧ p.height ≠ 0)) :
    (p.unturned f).width.toNat = min (2 ^ 32 - 1) ⌊p.exactWidth f⌋₊ ∧
      (p.unturned f).height.toNat = min (2 ^ 32 - 1) ⌊p.exactHeight f⌋₊ := by
  rw [unturned_eq undecided, toNat_clampWord, toNat_clampWord]
  exact ⟨Nat.min_comm _ _, Nat.min_comm _ _⟩

/-- To stretch a length makes it no shorter, and where there is nothing to stretch it stays. -/
theorem le_floor_stretch (length : UInt32) {stretch : ℚ} (longer : 1 ≤ stretch) :
    length.toNat ≤ min (2 ^ 32 - 1) ⌊length.toNat * stretch⌋₊ := by
  have word : length.toNat < 2 ^ 32 := length.toNat_lt
  refine le_min (Nat.le_sub_one_of_lt word) (Nat.le_floor ?_)
  exact le_mul_of_one_le_right (Nat.cast_nonneg _) longer

theorem floor_unstretched (length : UInt32) :
    min (2 ^ 32 - 1) ⌊(length.toNat * 1 : ℚ)⌋₊ = length.toNat := by
  have word : length.toNat < 2 ^ 32 := length.toNat_lt
  rw [mul_one, Nat.floor_natCast]
  exact Nat.min_eq_right (Nat.le_sub_one_of_lt word)

/-- What the source decides is the exact size as far as it is a whole number of pixels and a
word. -/
structure SizingLaw (p : Placement) (f : VideoFormat) : Prop where
  turned : p.sizeFor f =
    if f.orientation.transposes then (p.unturned f).transpose else p.unturned f
  width : (p.unturned f).width.toNat =
    min (2 ^ 32 - 1) ⌊f.visibleWidth.toNat * max 1 f.sar.value * p.zoom.value⌋₊
  height : (p.unturned f).height.toNat =
    min (2 ^ 32 - 1) ⌊f.visibleHeight.toNat * max 1 f.sar.value⁻¹ * p.zoom.value⌋₊
  /-- No product needs more than 128 bits, and no divisor is zero. -/
  possible : stretchedWide f.visibleWidth f.visibleHeight f.sar.orOne p.zoom.orOne =
    some (stretched f.visibleWidth.toNat f.visibleHeight.toNat f.sar.orOne p.zoom.orOne)
  /-- Without a zoom the window is stretched along one axis at most, and never shrunk. -/
  unzoomed : p.zoom.value = 1 →
    (f.visibleWidth ≤ (p.unturned f).width ∧ f.visibleHeight ≤ (p.unturned f).height) ∧
      ((p.unturned f).width = f.visibleWidth ∨ (p.unturned f).height = f.visibleHeight)
  /-- Terms with a common factor do not matter. -/
  sar : ∀ factor r, f.sar.Expands factor r → p.sizeFor { f with sar := r } = p.sizeFor f
  zoom : ∀ factor r, p.zoom.Expands factor r → { p with zoom := r }.sizeFor f = p.sizeFor f

theorem unturned_of_unzoomed (undecided : ¬(p.width ≠ 0 ∧ p.height ≠ 0))
    (unzoomed : p.zoom.value = 1) :
    (f.visibleWidth ≤ (p.unturned f).width ∧ f.visibleHeight ≤ (p.unturned f).height) ∧
      ((p.unturned f).width = f.visibleWidth ∨ (p.unturned f).height = f.visibleHeight) := by
  obtain ⟨width, height⟩ := toNat_unturned (f := f) undecided
  rw [exactWidth, unzoomed, mul_one] at width
  rw [exactHeight, unzoomed, mul_one] at height
  simp only [UInt32.le_iff_toNat_le, ← UInt32.toNat_inj, width, height]
  refine ⟨⟨le_floor_stretch _ (le_max_left _ _), le_floor_stretch _ (le_max_left _ _)⟩, ?_⟩
  -- Of a ratio and its inverse one is at most one, and along that axis nothing is stretched.
  rcases le_total f.sar.value 1 with short | long
  · rw [max_eq_left short]
    exact .inl (floor_unstretched _)
  · rw [max_eq_left (inv_le_one_of_one_le₀ long)]
    exact .inr (floor_unstretched _)

/-- Where the source decides, the size is the exact one, whatever the numbers are. -/
theorem sizeFor_keeps_sizing_law (p : Placement) (f : VideoFormat)
    (undecided : ¬(p.width ≠ 0 ∧ p.height ≠ 0)) : SizingLaw p f where
  turned := sizeFor_eq_unturned undecided
  width := (toNat_unturned undecided).1
  height := (toNat_unturned undecided).2
  possible := stretchedWide_eq _ _ _ _
  unzoomed := unturned_of_unzoomed undecided
  sar := by
    intro factor r expands
    refine sizeFor_congr undecided undecided rfl ?_ ?_
    · rw [exactWidth, exactWidth, expands.value_eq]
    · rw [exactHeight, exactHeight, expands.value_eq]
  zoom := by
    intro factor r expands
    refine sizeFor_congr undecided undecided rfl ?_ ?_
    · rw [exactWidth, exactWidth, expands.value_eq]
    · rw [exactHeight, exactHeight, expands.value_eq]

/-- A stream with long samples that stands on its side. -/
def reclining : VideoFormat :=
  { VideoFormat.whole .i420 720 576 with sar := ⟨16, 15⟩, orientation := .rightTop }

/-- A width alone decides nothing, so the stream is shown at three halves of its own size. -/
theorem reclining_keeps_sizing_law :
    ¬((1280 : UInt32) ≠ 0 ∧ (0 : UInt32) ≠ 0) ∧ SizingLaw ⟨1280, 0, ⟨3, 2⟩⟩ reclining ∧
      sizeFor ⟨1280, 0, ⟨3, 2⟩⟩ reclining = ⟨864, 1152⟩ :=
  ⟨by decide, sizeFor_keeps_sizing_law ⟨1280, 0, ⟨3, 2⟩⟩ reclining (by decide), by decide⟩

/-! ## Turning beforehand -/

/-- A stream is shown as large when it is turned beforehand as when its size is turned in the
end. -/
theorem sizeFor_upright (p : Placement) (f : VideoFormat) : p.sizeFor f.upright = p.sizeFor f := by
  by_cases undecided : p.width ≠ 0 ∧ p.height ≠ 0
  · -- A size that is requested in full is not turned at all.
    rw [sizeFor_of_requested p _ undecided.1 undecided.2,
      sizeFor_of_requested p _ undecided.1 undecided.2]
  rw [sizeFor_eq_unturned undecided (f := f)]
  cases lying : f.orientation.transposes with
  | false =>
    rw [VideoFormat.upright, lying]
    rfl
  | true =>
    rw [if_pos rfl, ← unturned_transpose undecided, VideoFormat.upright, lying]
    rfl

end Placement

end Mosaic
