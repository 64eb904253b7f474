import Mosaic.Input
import Mosaic.Partition.Output
import Mosaic.Settings

/-!
# Walls

A wall cuts the visible window of a source into columns and rows and shows each
tile in a region of its own, row by row. The tiles of a row share their height and
the tiles of a column their width; what a division leaves over goes to the last
row and the last column.

## Main definitions

* `span` — one of the equal parts of a length, the last one longer
* `Wall.cellAt` — the tile with an index
* `Wall.create` — the wall of a source, or why there is none
* `Wall.locate` — a pointer event of one tile in the coordinates of the source
-/

set_option autoImplicit false

namespace Mosaic

open Json

/-- The largest number of columns or rows. -/
def Wall.maxSide : Nat := 16

/-- What a wall can be asked for. -/
structure WallOptions where
  cols : UInt32
  rows : UInt32
  /-- The tiles that are shown; without a list all of them are. -/
  active : Option (List Nat)
  /-- The display backend of every tile that is shown. -/
  module : String
deriving DecidableEq, Repr

namespace WallOptions

/-- Three by three tiles, all shown. -/
def standard : WallOptions := ⟨3, 3, none, ""⟩

/-- The number of tiles. -/
def tiles (o : WallOptions) : Nat := o.cols.toNat * o.rows.toNat

/-- Whether a tile is shown. -/
def shows (o : WallOptions) (index : Nat) : Bool :=
  match o.active with
  | none => true
  | some listed => listed.contains index

/-- The options of a wall in documents. -/
def record : Record WallOptions where
  title := "WallOptions"
  initial := standard
  complete := false
  fields := [
    wordField "cols" cols fun n o => { o with cols := n },
    wordField "rows" rows fun n o => { o with rows := n },
    .of "active" (option (sequence count)) active (fun a o => { o with active := a })
      (.option (.list .nat)),
    .of "module" text module (fun m o => { o with module := m }) .string]

end WallOptions

/-- A stretch of a length: where it starts and how long it is. -/
structure Span where
  start : Nat
  length : Nat
deriving DecidableEq, Repr

/-- One of so many equal parts of a length; the last part takes what is left over. -/
def span (total parts index : Nat) : Span :=
  let start := index * (total / parts)
  ⟨start, if index + 1 = parts then total - start else total / parts⟩

/-- A wall: its tiles row by row. -/
structure Wall where
  cells : List Cell
deriving DecidableEq, Repr

/-- Why a source has no wall. -/
inductive WallError where
  | outOfRange (cols rows : UInt32)
  | tooSmall (source : Size) (cols rows : UInt32)
  | noSuchTile (index count : Nat)
deriving DecidableEq, Repr

/-- The chain of causes for a source without a wall. -/
def WallError.cause : WallError → Cause
  | outOfRange cols rows =>
    .ofMessage s!"wall of {cols}x{rows} tiles is out of range 1..={Wall.maxSide}"
  | tooSmall source cols rows =>
    .ofMessage s!"source {source.text} too small for a {cols}x{rows} wall"
  | noSuchTile index count =>
    .ofMessage s!"active tile {index} outside a wall of {count} tiles"

namespace Wall

/-- A word for a number that is one. -/
def wordOf (n : Nat) : UInt32 := UInt32.ofNat n

/-- The tile with an index: its column and row are the remainder and the quotient by the
number of columns. -/
def cellAt (source : VideoFormat) (o : WallOptions) (index : Nat) : Except Fault Cell := do
  let column := span source.visibleWidth.toNat o.cols.toNat (index % o.cols.toNat)
  let row := span source.visibleHeight.toNat o.rows.toNat (index / o.cols.toNat)
  -- A tile is stored whole: its offset inside the source is part of the origin.
  let format :=
    { VideoFormat.whole source.chroma (wordOf column.length) (wordOf row.length) with
      sar := source.sar }
  let origin ←
    Origin.shift ⟨source.xOffset, source.yOffset⟩ ⟨wordOf column.start, wordOf row.start⟩
  return ⟨if o.shows index then .shown o.module format else .inactive format, origin⟩

/-- Whether a side has an admitted number of tiles. -/
def sideAllowed (n : UInt32) : Bool := 1 ≤ n.toNat && n.toNat ≤ maxSide

/-- What is wrong with a wall of a source, if anything. -/
def refusal? (source : VideoFormat) (o : WallOptions) : Option WallError :=
  if !(sideAllowed o.cols && sideAllowed o.rows) then some (.outOfRange o.cols o.rows)
  else if source.visibleWidth < o.cols ∨ source.visibleHeight < o.rows then
    some (.tooSmall ⟨source.visibleWidth, source.visibleHeight⟩ o.cols o.rows)
  else
    match (o.active.getD []).find? fun index => o.tiles ≤ index with
    | some index => some (.noSuchTile index o.tiles)
    | none => none

/-- The wall of a source, or why there is none. -/
def create (source : VideoFormat) (o : WallOptions) : Except Fault (Except WallError Wall) :=
  match refusal? source o with
  | some e => .ok (.error e)
  | none => ((List.range o.tiles).mapM (cellAt source o)).map fun cells => .ok ⟨cells⟩

/-- The integer nearest to a number that fits into a coordinate. -/
def clampCoordinate (i : Int) : Int32 := Int32.ofInt (max (-0x80000000) (min i (0x80000000 - 1)))

/-- A coordinate moved by a word. The word is taken as a coordinate, so one that is too large
for it counts as negative; the sum is clamped. -/
def shiftCoordinate (c : Int32) (offset : UInt32) : Int32 :=
  clampCoordinate (c.toInt + offset.toInt32.toInt)

/-- A pointer event of one tile in the coordinates of the source. Tiles that do not exist or
are not shown have none. -/
def locate (w : Wall) (index : Nat) (event : MouseEvent) : Option MouseEvent :=
  match w.cells[index]? with
  | none => none
  | some cell =>
    if cell.output.active then
      match event with
      | .moved x y =>
        some (.moved (shiftCoordinate x cell.origin.x) (shiftCoordinate y cell.origin.y))
      | event => some event
    else none

end Wall

end Mosaic
