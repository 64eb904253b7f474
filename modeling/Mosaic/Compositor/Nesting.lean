import Mosaic.Compositor.Control
import Mosaic.Compositor.Frame
import Mosaic.Compositor.Open

/-!
# Compositors as displays

A compositor answers to everything that a display is asked for, so the display of
a region may be a compositor of its own, opened for the format of that region.
What happens inside it is no call of the outer compositor.

## Main definitions

* `Nest` — how the compositors inside a compositor are opened
* `Nest.backend` — the windows of a backend with compositors for displays
-/

set_option autoImplicit false

namespace Mosaic

/-- How the compositors inside a compositor are opened. -/
structure Nest (σ ι A W D : Type) where
  crew : Crew σ ι A W D
  registry : Registry (Constructor σ ι A)
  settings : SplitSettings

namespace Nest

variable {σ ι A W D : Type}

/-- Opens a compositor as the display that a region asks for. -/
def request (n : Nest σ ι A W D) (r : DisplayRequest) :
    Run σ (Happening ι) (Except Cause (Compositor A W D)) := do
  let result ← Compositor.open n.crew n.registry n.settings r.format none
  return result.mapError OpenError.toCause

/-- Lets a compositor act as a display. -/
def step {α : Type} (c : Compositor A W D) (act : Act σ ι A W D α) :
    Run σ (Happening ι) (Compositor A W D) := do
  let (_, c) ← Compositor.runIn c act
  return c

/-- The windows of a backend with compositors for displays. -/
def backend {W' D' : Type} (n : Nest σ ι A W D) (windows : Backend σ (Happening ι) W' D') :
    Backend σ (Happening ι) W' (Compositor A W D) where
  opening := windows.opening
  showing := windows.showing
  newWindow := windows.newWindow
  enable := windows.enable
  disable := windows.disable
  dropWindow := windows.dropWindow
  newDisplay _ request := n.request request
  prepare c picture overlay date := step c (Compositor.prepare n.crew picture overlay date)
  display c _ := step c (Compositor.display n.crew)
  control c query := Compositor.runIn c (Compositor.control n.crew query)
  close c := step c (Compositor.close n.crew)
  dropDisplay c := do let _ ← step c (Compositor.close n.crew)

end Nest

end Mosaic
