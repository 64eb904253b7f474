import Mosaic.Buttons
import Mosaic.Placement

/-!
# Input reported by windows

A window reports that it was resized, or an input: pointer movement and buttons,
keys, and the wish to close it. A resize is handled where it is reported; inputs
are queued, so they form a type of their own, and no queue can hold a resize.
-/

set_option autoImplicit false

namespace Mosaic

/-- Pointer input, in the pixel coordinates of the window that reports it. -/
inductive MouseEvent where
  | moved (x y : Int32)
  | pressed (button : MouseButton)
  | released (button : MouseButton)
  | doubleClick (button : MouseButton)
deriving DecidableEq, Repr

/-- Input that waits in a queue until it is handled. -/
inductive InputEvent where
  | mouse (event : MouseEvent)
  | key (code : UInt32)
  | closeRequested
deriving DecidableEq, Repr

/-- Everything a window can report. -/
inductive WindowEvent where
  | resized (size : Size)
  | input (event : InputEvent)
deriving DecidableEq, Repr

/-- The form in which a pointer event is shown. -/
def MouseEvent.inspect : MouseEvent → String
  | moved x y => s!"Moved \x7b x: {x}, y: {y} \x7d"
  | pressed button => s!"Pressed({button.name})"
  | released button => s!"Released({button.name})"
  | doubleClick button => s!"DoubleClick({button.name})"

/-- The form in which an input is shown. -/
def InputEvent.inspect : InputEvent → String
  | mouse event => s!"Mouse({event.inspect})"
  | key code => s!"Key({code})"
  | closeRequested => "CloseRequested"

/-- The form in which a report is shown. -/
def WindowEvent.inspect : WindowEvent → String
  | resized size => s!"Resized({size.inspect})"
  | input event => event.inspect

/-- The buttons held after a pointer event: a press adds its button, a release removes it. -/
def ButtonMask.track (held : ButtonMask) : MouseEvent → ButtonMask
  | .pressed button => held.union button.mask
  | .released button => held.difference button.mask
  | .moved _ _ => held
  | .doubleClick _ => held

/-- An input together with the region whose window reported it. -/
structure RegionInput where
  index : Nat
  event : InputEvent
deriving DecidableEq, Repr

end Mosaic
