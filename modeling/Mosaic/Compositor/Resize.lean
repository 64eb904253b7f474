import Mosaic.Compositor.Basic

/-!
# Sizes of regions and reports of windows

A region takes a new size under its lock: the size is noted, the display is told,
and only then is the new size acknowledged to whoever asked.

The window of a region reports through `report`. A resize is handled at once, all
other reports wait in the queue.
-/

set_option autoImplicit false

namespace Mosaic.Compositor

open Act

variable {σ ι A W D : Type}

/-- Tells a display its size. A display that does not follow is let be. -/
def setSize (crew : Crew σ ι A W D) (k : Nat) (display : D) (size : Size) : Act σ ι A W D D := do
  let (result, display) ←
    ask (.control k (.displaySize size)) (crew.backend.control display (.displaySize size))
  match result with
  | .ok _ => return display
  | .error e =>
    say (.sizeNotApplied size e)
    return display

/-- Tells the display of a region its size, and whether there is one. -/
def tellDisplay (crew : Crew σ ι A W D) (k : Nat) (size : Size) : Act σ ι A W D Bool := do
  match (← compositor).display? k with
  | none => return false
  | some display =>
    let display ← setSize crew k display size
    changeRegion k fun r => { r with display := some display }
    return true

/-- Gives a region a new size. -/
def resizeRegion (crew : Crew σ ι A W D) (k : Nat) (size : Size) : Act σ ι A W D Unit :=
  withLock k do
    -- The size is noted even where there is no display to tell.
    changeRegion k fun r => { r with size := size }
    let told ← tellDisplay crew k size
    call (.acknowledge k size)
    say (.regionResized k size told)

/-- Queues an input of a region's window. -/
def enqueue (k : Nat) (event : InputEvent) : Act σ ι A W D Unit :=
  modifyCompositor fun c => { c with queue := c.queue ++ [⟨k, event⟩] }

/-- Handles what the window of a region reports: a resize at once, all else later. -/
def report (crew : Crew σ ι A W D) (k : Nat) (event : WindowEvent) : Act σ ι A W D Unit := do
  reported k event
  match event with
  | .input event => enqueue k event
  | .resized size =>
    if k < (← compositor).regions.length then resizeRegion crew k size
    else say (.resizeIgnored k)

/-- Handles several reports one after the other. -/
def reportAll (crew : Crew σ ι A W D) : List (Nat × WindowEvent) → Act σ ι A W D Unit
  | [] => pure ()
  | (k, event) :: rest => do
    report crew k event
    reportAll crew rest

/-- Handles several inputs that one window reports. -/
def reportInputs (crew : Crew σ ι A W D) (k : Nat) (events : List InputEvent) :
    Act σ ι A W D Unit :=
  reportAll crew (events.map fun event => (k, .input event))

end Mosaic.Compositor
