/-!
# Formats of picture streams

A format says how the pictures of a stream are stored: the pixel layout, the
stored size, the visible window inside it, how the picture has to be turned to
stand upright, and the aspect of one sample.

`VideoFormat.upright` is the format after turning. Orientations that transpose
the picture exchange every horizontal quantity with its vertical partner; all
others only lose their orientation.
-/

set_option autoImplicit false

namespace Mosaic

/-- Four bytes that name a pixel layout. -/
structure Chroma where
  first : UInt8
  second : UInt8
  third : UInt8
  fourth : UInt8
deriving DecidableEq, Repr

namespace Chroma

/-- Planar luma and chroma, the layout of the demonstration stream. -/
def i420 : Chroma := ⟨73, 52, 50, 48⟩

/-- The four bytes in order. -/
def toList (c : Chroma) : List UInt8 := [c.first, c.second, c.third, c.fourth]

/-- The layout named by the first four entries of a list, padded with spaces. -/
def ofList (bytes : List UInt8) : Chroma :=
  ⟨bytes.getD 0 32, bytes.getD 1 32, bytes.getD 2 32, bytes.getD 3 32⟩

/-- Each byte is written as the character with its code point. -/
def text (c : Chroma) : String :=
  String.ofList (c.toList.map fun b => Char.ofNat b.toNat)

/-- The form used when a whole format is inspected. -/
def inspect (c : Chroma) : String :=
  s!"Chroma([{c.first}, {c.second}, {c.third}, {c.fourth}])"

@[simp] theorem ofList_toList (c : Chroma) : ofList c.toList = c := rfl

end Chroma

/-- A ratio of two words, kept as given and never reduced. -/
structure Ratio where
  num : UInt32
  den : UInt32
deriving DecidableEq, Repr

namespace Ratio

/-- The ratio one to one. -/
def one : Ratio := ⟨1, 1⟩

/-- A ratio with a zero term says nothing and counts as one to one. -/
def orOne (r : Ratio) : Ratio :=
  if r.num = 0 ∨ r.den = 0 then one else r

/-- The ratio with its terms exchanged. -/
def inverse (r : Ratio) : Ratio := ⟨r.den, r.num⟩

/-- The form used when a whole format is inspected. -/
def inspect (r : Ratio) : String :=
  s!"Rational \x7b num: {r.num}, den: {r.den} \x7d"

theorem orOne_num_ne_zero (r : Ratio) : r.orOne.num ≠ 0 := by
  unfold orOne; split
  · decide
  · rename_i h; exact fun h' => h (Or.inl h')

theorem orOne_den_ne_zero (r : Ratio) : r.orOne.den ≠ 0 := by
  unfold orOne; split
  · decide
  · rename_i h; exact fun h' => h (Or.inr h')

end Ratio

/-- Where the first stored row and column end up once the picture is upright. -/
inductive Orientation where
  | topLeft
  | topRight
  | bottomRight
  | bottomLeft
  | leftTop
  | leftBottom
  | rightTop
  | rightBottom
deriving DecidableEq, Repr

namespace Orientation

/-- Every orientation, in the order in which they are listed to a reader. -/
def all : List Orientation :=
  [topLeft, topRight, bottomRight, bottomLeft, leftTop, leftBottom, rightTop, rightBottom]

/-- The name used in documents and in printed formats. -/
def name : Orientation → String
  | topLeft => "TopLeft"
  | topRight => "TopRight"
  | bottomRight => "BottomRight"
  | bottomLeft => "BottomLeft"
  | leftTop => "LeftTop"
  | leftBottom => "LeftBottom"
  | rightTop => "RightTop"
  | rightBottom => "RightBottom"

/-- Whether showing the picture upright exchanges its width and height. -/
def transposes : Orientation → Bool
  | leftTop | leftBottom | rightTop | rightBottom => true
  | topLeft | topRight | bottomRight | bottomLeft => false

theorem mem_all (o : Orientation) : o ∈ all := by cases o <;> decide

end Orientation

/-- How the pictures of one stream are stored. -/
structure VideoFormat where
  chroma : Chroma
  width : UInt32
  height : UInt32
  xOffset : UInt32
  yOffset : UInt32
  visibleWidth : UInt32
  visibleHeight : UInt32
  orientation : Orientation
  sar : Ratio
deriving DecidableEq, Repr

namespace VideoFormat

/-- An upright format with square samples whose visible window is the whole picture. -/
def whole (chroma : Chroma) (width height : UInt32) : VideoFormat where
  chroma := chroma
  width := width
  height := height
  xOffset := 0
  yOffset := 0
  visibleWidth := width
  visibleHeight := height
  orientation := .topLeft
  sar := .one

/-- Exchanges every horizontal quantity with its vertical partner. -/
def transpose (f : VideoFormat) : VideoFormat :=
  { f with
    width := f.height
    height := f.width
    xOffset := f.yOffset
    yOffset := f.xOffset
    visibleWidth := f.visibleHeight
    visibleHeight := f.visibleWidth
    sar := f.sar.inverse }

/-- The same stream after turning: always upright, transposed if the orientation asks for it. -/
def upright (f : VideoFormat) : VideoFormat :=
  { (if f.orientation.transposes then f.transpose else f) with orientation := .topLeft }

/-- One line: layout, stored size, visible window, sample aspect and orientation. -/
def text (f : VideoFormat) : String :=
  s!"{f.chroma.text} {f.width}x{f.height} (visible {f.visibleWidth}x{f.visibleHeight}" ++
    s!"+{f.xOffset}+{f.yOffset}, sar {f.sar.num}:{f.sar.den}, {f.orientation.name})"

/-- The form in which a compositor shows its source when it is inspected. -/
def inspect (f : VideoFormat) : String :=
  s!"VideoFormat \x7b chroma: {f.chroma.inspect}, width: {f.width}, height: {f.height}, " ++
    s!"x_offset: {f.xOffset}, y_offset: {f.yOffset}, visible_width: {f.visibleWidth}, " ++
    s!"visible_height: {f.visibleHeight}, orientation: {f.orientation.name}, " ++
    s!"sar: {f.sar.inspect} \x7d"

@[simp] theorem orientation_upright (f : VideoFormat) : f.upright.orientation = .topLeft := rfl

@[simp] theorem chroma_upright (f : VideoFormat) : f.upright.chroma = f.chroma := by
  unfold upright; split <;> rfl

/-- Turning an upright stream changes nothing. -/
theorem upright_upright (f : VideoFormat) : f.upright.upright = f.upright := rfl

end VideoFormat

end Mosaic
