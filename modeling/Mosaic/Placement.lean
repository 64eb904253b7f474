import Mosaic.Format

/-!
# Requested sizes

A placement asks for an overall size and a zoom. `Placement.sizeFor` is the size
of a surface that shows a stream under a placement. A size with both components
given is taken as it is. Otherwise the visible window is stretched along one axis
by the sample aspect, never shrunk, then zoomed; the products are exact, and a
result beyond the largest word becomes the largest word.
-/

set_option autoImplicit false

namespace Mosaic

/-- The size of a surface in pixels. -/
structure Size where
  width : UInt32
  height : UInt32
deriving DecidableEq, Repr

namespace Size

/-- The size with its components exchanged. -/
def transpose (s : Size) : Size := ⟨s.height, s.width⟩

/-- Width and height as they appear in messages. -/
def text (s : Size) : String := s!"{s.width}x{s.height}"

/-- The form in which a size appears inside an inspected value. -/
def inspect (s : Size) : String :=
  s!"DisplaySize \x7b width: {s.width}, height: {s.height} \x7d"

end Size

/-- The word nearest to a number: itself, or the largest word. -/
def clampWord (n : Nat) : UInt32 := UInt32.ofNat (min n (0x100000000 - 1))

theorem toNat_clampWord (n : Nat) : (clampWord n).toNat = min n (0x100000000 - 1) := by
  rw [clampWord, UInt32.toNat_ofNat', Nat.mod_eq_of_lt (by omega)]

/-- A requested overall size, zero where the source decides, and a zoom. -/
structure Placement where
  width : UInt32
  height : UInt32
  zoom : Ratio
deriving DecidableEq, Repr

namespace Placement

/-- Nothing requested: the source decides, at its own scale. -/
def free : Placement := ⟨0, 0, .one⟩

/-- The same placement asking for another size. -/
def resize (p : Placement) (size : Size) : Placement :=
  { p with width := size.width, height := size.height }

/-- Width and height of a visible window after stretching by the sample aspect and zooming. -/
def stretched (width height : Nat) (sar zoom : Ratio) : Nat × Nat :=
  let sn := sar.num.toNat
  let sd := sar.den.toNat
  let zn := zoom.num.toNat
  let zd := zoom.den.toNat
  if sn ≥ sd then (width * sn * zn / sd / zd, height * zn / zd)
  else (width * zn / zd, height * sd * zn / sn / zd)

/-- The size of a surface that shows a stream under this placement. -/
def sizeFor (p : Placement) (f : VideoFormat) : Size :=
  if p.width ≠ 0 ∧ p.height ≠ 0 then ⟨p.width, p.height⟩
  else
    let (width, height) :=
      stretched f.visibleWidth.toNat f.visibleHeight.toNat f.sar.orOne p.zoom.orOne
    let size : Size := ⟨clampWord width, clampWord height⟩
    if f.orientation.transposes then size.transpose else size

/-- A size requested in full is granted whatever the stream. -/
theorem sizeFor_of_requested (p : Placement) (f : VideoFormat)
    (width : p.width ≠ 0) (height : p.height ≠ 0) : p.sizeFor f = ⟨p.width, p.height⟩ := by
  rw [sizeFor, if_pos ⟨width, height⟩]

end Placement

end Mosaic
