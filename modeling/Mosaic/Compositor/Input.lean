import Mosaic.Compositor.Resize

/-!
# Handling queued input

Queued inputs are handled in the order in which they were reported. The algorithm
moves pointer events to the coordinates of the source, or drops them; the buttons
held are followed, and everything that is not dropped goes to the parent window.
-/

set_option autoImplicit false

namespace Mosaic.Compositor

open Act

variable {σ ι A W D : Type}

/-- Adds an input to what a parent window received. -/
def receive (event : InputEvent) (parent : ParentWindow) : ParentWindow :=
  { parent with received := parent.received ++ [event] }

/-- Passes an input on to the parent window. -/
def forward (event : InputEvent) : Act σ ι A W D Unit := do
  match (← compositor).parent with
  | none => say (.noParent event)
  | some parent =>
    call (.report event)
    if parent.listening then
      modifyCompositor fun c => { c with parent := some (receive event parent) }
    else say (.receiverGone event)

/-- Handles one input. Once the algorithm is gone nobody can place pointer events any more. -/
def handle (crew : Crew σ ι A W D) (input : RegionInput) : Act σ ι A W D Unit := do
  match input.event with
  | .mouse event =>
    match (← compositor).algorithm with
    | none => pure ()
    | some algorithm =>
      let (located, algorithm) ← ask (.mouseMap input.index event)
        (crew.algorithm.locate algorithm input.index event)
      modifyCompositor fun c => { c with algorithm := some algorithm }
      answered (.located located)
      match located with
      | none => say (.mouseDropped input.index)
      | some event =>
        modifyCompositor fun c => { c with held := c.held.track event }
        forward (.mouse event)
  | event =>
    say (.regionReported input.index event)
    forward event

/-- Handles inputs one after the other, each taken off the queue first. -/
def handleAll (crew : Crew σ ι A W D) : List RegionInput → Act σ ι A W D Unit
  | [] => pure ()
  | input :: rest => do
    -- Off the queue first: an input whose handling breaks off is not handled again.
    modifyCompositor fun c => { c with queue := rest }
    handle crew input
    handleAll crew rest

/-- Handles everything in the queue and counts it. -/
def drain (crew : Crew σ ι A W D) : Act σ ι A W D Nat := do
  let queue := (← compositor).queue
  handleAll crew queue
  return queue.length

end Mosaic.Compositor
