import Mosaic.Rehearsal.Rig

/-!
# What a session gives

Each step of a session gives an entry: what came of it, the journal and the notices
since the entry before, and what shows of the compositor and of the probe
afterwards.

## Main definitions

* `RegionView`, `CompositorView`, `ProbeView` — what shows of a state
* `Session.Result`, `Session.Entry` — what a step gives
-/

set_option autoImplicit false

namespace Mosaic

/-- What shows of a region. -/
structure RegionView where
  index : Nat
  size : Size
  hasWindow : Bool
  hasDisplay : Bool
deriving DecidableEq, Repr

/-- What shows of a compositor. -/
structure CompositorView where
  isOpen : Bool
  placement : Size
  held : ButtonMask
  regions : List RegionView

/-- What shows of a probe. -/
structure ProbeView where
  created : Nat
  dropped : Nat
  filterCalls : Nat
  produced : List Sighting

/-- What shows of a region. -/
def Region.view {W D : Type} (r : Region W D) : RegionView :=
  ⟨r.index, r.size, r.window.isSome, r.display.isSome⟩

/-- What shows of a compositor. -/
def Compositor.view {A W D : Type} (c : Compositor A W D) : CompositorView :=
  ⟨c.isOpen, ⟨c.placement.width, c.placement.height⟩, c.held, c.regions.map Region.view⟩

namespace Session

/-- What comes of a step. -/
inductive Result where
  | nothing
  | unavailable
  | broken (fault : Fault)
  | opened (algorithm : String) (source : VideoFormat)
  | notOpened (error : OpenError)
  /-- The size that was acknowledged and whether the lock was held then. -/
  | acknowledged (answer : Option (Size × Bool))
  | endpoint (index : Nat) (locked : Bool)
  | count (n : Nat)
  | windowEnabled (enabled : Bool) (index : Nat)
  | windowDisabled (enabled : Bool) (index : Nat)
  | displayMade (answer : Except Cause Unit)
  | meters (depth : Nat) (meters : List Meter)
  | inbox (events : Option (List InputEvent))
  | answered (answer : Except DisplayError Unit)
  | outputs (outputs : List Output)
  | text (text : Option String)
  | regions (regions : List RegionView)

/-- What a step gives. -/
structure Entry where
  result : Result
  rows : List Rig.Row
  notices : List Notice
  state : Option CompositorView
  probe : Option ProbeView

end Session

end Mosaic
