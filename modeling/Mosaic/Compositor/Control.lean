import Mosaic.Compositor.Resize

/-!
# Control queries to a compositor

A new display size gives every region the size that the algorithm wants for it.
Changes of the source are taken note of; an unknown query is refused.
-/

set_option autoImplicit false

namespace Mosaic.Compositor

open Act

variable {σ ι A W D : Type}

/-- Gives regions from one on the sizes that the algorithm wants for their outputs. -/
def resizeFrom (crew : Crew σ ι A W D) (algorithm : A) (placement : Placement) :
    Nat → List Output → Act σ ι A W D Unit
  | _, [] => pure ()
  | k, output :: rest => do
    if k < (← compositor).regions.length then
      let size ← consult (.sizeHint k) (crew.algorithm.sizeFor algorithm output.format placement)
      resizeRegion crew k size
      resizeFrom crew algorithm placement (k + 1) rest

/-- Answers a control query. -/
def control (crew : Crew σ ι A W D) (query : ControlQuery) :
    Act σ ι A W D (Except DisplayError Unit) := do
  match query with
  | .displaySize size =>
    say (.displaySize size)
    modifyCompositor fun c => { c with placement := c.placement.resize size }
    let c ← compositor
    match c.algorithm with
    | none => return .ok ()
    | some algorithm =>
      -- The placement asked for is in force already.
      resizeFrom crew algorithm c.placement 0 c.outputs
      return .ok ()
  | .unknown code =>
    say (.unsupported code)
    return .error (.unsupported code)
  | query =>
    say (.acknowledged query)
    return .ok ()

/-- Tells a compositor its size as a display is told. -/
def setSizeOf (crew : Crew σ ι A W D) (size : Size) : Act σ ι A W D Unit := do
  match ← control crew (.displaySize size) with
  | .ok _ => return
  | .error e => say (.sizeNotApplied size e)

end Mosaic.Compositor
