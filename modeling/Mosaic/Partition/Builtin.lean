import Mosaic.Crew
import Mosaic.Partition.Clone
import Mosaic.Partition.Wall

/-!
# The algorithms at hand

Clones and walls both lay cells out once and for all and fill each shown cell with
a view into the picture. They differ in where pointer events go: a wall moves them
to the place of the tile, a clone is the source itself.

## Main definitions

* `Builtin.split`, `Builtin.locate` — what becomes of pictures and of pointer events
* `BuiltinName.create` — lays out a source as the settings ask
* `Builtin.partitioner`, `Builtin.registry` — the algorithms as a compositor finds them
-/

set_option autoImplicit false

namespace Mosaic

/-- A partition laid out once and for all. -/
inductive Builtin where
  | clone (cells : List Cell)
  | wall (wall : Wall)
deriving DecidableEq, Repr

/-- The algorithms at hand. -/
inductive BuiltinName where
  | clone
  | wall
deriving DecidableEq, Repr

namespace Builtin

/-- The cells of a partition. -/
def cells : Builtin → List Cell
  | clone cells => cells
  | wall w => w.cells

/-- The outputs of a partition. -/
def outputs (b : Builtin) : List Output := b.cells.map Cell.output

/-- The views that one picture becomes. -/
def split (b : Builtin) (picture : Picture) (ledger : Ledger) : Except Fault (Slots × Ledger) :=
  ledger.views picture (b.cells.map Cell.view?)

/-- A pointer event of one region in the coordinates of the source. -/
def locate (b : Builtin) (index : Nat) (event : MouseEvent) : Option MouseEvent :=
  match b with
  | clone _ => some event
  | wall w => w.locate index event

end Builtin

namespace BuiltinName

/-- The name under which an algorithm is asked for. -/
def text : BuiltinName → String
  | clone => "clone"
  | wall => "wall"

/-- Lays a source out as the settings ask. -/
def create (name : BuiltinName) (source : VideoFormat) (settings : SplitSettings) :
    Except Fault (Except Cause Builtin) :=
  match name with
  | clone =>
    match settings.optionsAs CloneOptions.record.decode with
    | .error cause => .ok (.error cause)
    | .ok options =>
      match Clone.create source options with
      | .error e => .ok (.error e.cause)
      | .ok cells => .ok (.ok (.clone cells))
  | wall =>
    match settings.optionsAs WallOptions.record.decode with
    | .error cause => .ok (.error cause)
    | .ok options =>
      match Wall.create source options with
      | .error fault => .error fault
      | .ok (.error e) => .ok (.error e.cause)
      | .ok (.ok w) => .ok (.ok (.wall w))

end BuiltinName

/-- The algorithms at hand as a compositor uses them. -/
def Builtin.partitioner {σ ι : Type} : Partitioner σ ι Builtin where
  outputs := outputs
  filter b picture := do
    let slots ← Run.consuming picture (b.split picture)
    return (.ok slots, b)
  locate b index event := return (b.locate index event, b)
  sizeFor _ format placement := placement.sizeFor format
  drop _ := return

/-- The algorithms at hand by name. -/
def Builtin.registry {σ ι : Type} : Registry (Constructor σ ι Builtin) :=
  [BuiltinName.clone, .wall].foldl
    (fun r name => r.register name.text fun source settings =>
      Run.attempt (name.create source settings))
    .empty

end Mosaic
