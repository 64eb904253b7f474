import Mosaic.Picture

/-!
# Outputs of a partition

An output describes one region: the display backend that shows it, the format of
its pictures, and whether it is shown at all. A cell is an output together with the
place of its pictures inside the source.
-/

set_option autoImplicit false

namespace Mosaic

/-- The description of one region. -/
structure Output where
  /-- The display backend; the empty name leaves the choice to whoever creates displays. -/
  module : String
  format : VideoFormat
  /-- An inactive region has neither window nor display and gets no pictures. -/
  active : Bool
deriving DecidableEq, Repr

/-- An output that is shown by a backend. -/
def Output.shown (module : String) (format : VideoFormat) : Output := ⟨module, format, true⟩

/-- An output that is not shown. -/
def Output.inactive (format : VideoFormat) : Output := ⟨"", format, false⟩

/-- An output and the place of its pictures inside the source. -/
structure Cell where
  output : Output
  origin : Origin
deriving DecidableEq, Repr

/-- The view that fills a cell; an inactive cell stays empty. -/
def Cell.view? (c : Cell) : Option (VideoFormat × Origin) :=
  if c.output.active then some (c.output.format, c.origin) else none

/-- What one picture becomes: a slot for each region, empty where a region gets no picture.
There may be fewer or more slots than regions. -/
abbrev Slots := List (Option Picture)

end Mosaic
