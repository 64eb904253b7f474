import Mosaic.Compositor.Control
import Mosaic.Compositor.Frame
import Mosaic.Compositor.Open

/-!
# Operations on a compositor

Whoever uses a compositor feeds it pictures, sends it control queries, lets it handle
inputs and closes it, and the windows report to it. A use of a compositor is a list
of such operations after its opening.

## Main definitions

* `Operation` — what can be done with a compositor
* `Operation.perform`, `performAll` — does it
* `use` — opens a compositor, performs operations and closes it
-/

set_option autoImplicit false

namespace Mosaic.Compositor

variable {σ ι A W D : Type}

/-- What can be done with a compositor. -/
inductive Operation where
  | prepare (picture : Picture) (overlay : Option Overlay) (date : Tick)
  | display
  | control (query : ControlQuery)
  | drain
  /-- The window of a region reports. -/
  | report (index : Nat) (event : WindowEvent)
  | close
deriving DecidableEq

/-- Performs one operation. -/
def Operation.perform (crew : Crew σ ι A W D) : Operation → Act σ ι A W D Unit
  | prepare picture overlay date => Compositor.prepare crew picture overlay date
  | display => Compositor.display crew
  | control query => do let _ ← Compositor.control crew query
  | drain => do let _ ← Compositor.drain crew
  | report index event => Compositor.report crew index event
  | close => Compositor.close crew

/-- Performs several operations in their order. -/
def performAll (crew : Crew σ ι A W D) : List Operation → Act σ ι A W D Unit
  | [] => pure ()
  | operation :: rest => do
    operation.perform crew
    performAll crew rest

/-- Opens a compositor, performs operations on it and closes it, if it could be opened. -/
def use (crew : Crew σ ι A W D) (registry : Registry (Constructor σ ι A))
    (settings : SplitSettings) (source : VideoFormat) (parent : Option ParentWindow)
    (operations : List Operation) :
    Run σ (Happening ι) (Except OpenError (Compositor A W D)) := do
  match ← «open» crew registry settings source parent with
  | .error e => return .error e
  | .ok c =>
    let (_, c) ← runIn c (performAll crew (operations ++ [.close]))
    return .ok c

end Mosaic.Compositor
