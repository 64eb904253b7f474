import Mosaic.World

/-!
# Those a compositor works with

An algorithm splits pictures, and a backend makes windows and displays. Both are
known only by what can be asked of them, so a compositor works alike with any
algorithm, any kind of window and any kind of display.

A window may report at any time. What windows report while they or their displays
are being made is a function of the moment (`Backend.opening`): the reports are
handled before the call in question returns. While a display prepares or shows a
picture its window may report inputs (`Backend.showing`); it does not report a
resize then, since the region is locked.
-/

set_option autoImplicit false

namespace Mosaic

/-- An algorithm that splits pictures: its states are of type `A`. -/
structure Partitioner (σ ι A : Type) where
  /-- The regions of the partition, fixed for good. -/
  outputs : A → List Output
  /-- Splits a picture. The hold on it passes to the algorithm, the holds on the slots to
  the caller. -/
  filter : A → Picture → Run σ ι (Except Cause Slots × A)
  /-- A pointer event of one region in the coordinates of the source; nothing to drop it. -/
  locate : A → Nat → MouseEvent → Run σ ι (Option MouseEvent × A)
  /-- The size of a region that shows a format. -/
  sizeFor : A → VideoFormat → Placement → Size
  /-- Lets the algorithm go. -/
  drop : A → Run σ ι Unit

/-- The two steps of showing a picture. -/
inductive FrameStage where
  | prepare
  | display
deriving DecidableEq, Repr

/-- Makes windows of type `W` and displays of type `D`, and drives them. -/
structure Backend (σ ι W D : Type) where
  /-- What windows report while a step of setting up a region runs. -/
  opening : RegionStage → Nat → σ → List (Nat × WindowEvent)
  /-- What the window of a region reports while its display runs a step. -/
  showing : FrameStage → Nat → σ → List InputEvent
  newWindow : Nat → WindowSettings → Run σ ι (Except Cause W)
  enable : W → WindowSettings → Run σ ι (Except Cause Unit × W)
  disable : W → Run σ ι W
  dropWindow : W → Run σ ι Unit
  newDisplay : Nat → DisplayRequest → Run σ ι (Except Cause D)
  prepare : D → Picture → Option Overlay → Tick → Run σ ι D
  display : D → Picture → Run σ ι D
  control : D → ControlQuery → Run σ ι (Except DisplayError Unit × D)
  close : D → Run σ ι D
  dropDisplay : D → Run σ ι Unit

/-- The algorithm and the backend that a compositor works with. -/
structure Crew (σ ι A W D : Type) where
  algorithm : Partitioner σ ι A
  backend : Backend σ ι W D

/-- Makes an algorithm for a source, or says why there is none. -/
abbrev Constructor (σ ι A : Type) := VideoFormat → SplitSettings → Run σ ι (Except Cause A)

end Mosaic
