import Mosaic.Compositor.Basic

/-!
# Closing a compositor

Regions are torn down in the reverse order of their making, each display before
its window, and the algorithm goes last. The display goes under the lock of its
region, the window after the lock was given back. Closing again does nothing.
-/

set_option autoImplicit false

namespace Mosaic.Compositor

open Act

variable {σ ι A W D : Type}

/-- Lets a window go. -/
def dropWindow (crew : Crew σ ι A W D) (k : Nat) (window : W) : Act σ ι A W D Unit :=
  ask (.dropWindow k) (crew.backend.dropWindow window)

/-- Hides a window and lets it go. -/
def destroyWindow (crew : Crew σ ι A W D) (k : Nat) (window : W) : Act σ ι A W D Unit := do
  let window ← ask (.disable k) (crew.backend.disable window)
  dropWindow crew k window

/-- Closes a display and lets it go. -/
def destroyDisplay (crew : Crew σ ι A W D) (k : Nat) (display : D) : Act σ ι A W D Unit := do
  let display ← ask (.close k) (crew.backend.close display)
  ask (.dropDisplay k) (crew.backend.dropDisplay display)

/-- Tears a region down: its display under the lock, then its window. -/
def teardown (crew : Crew σ ι A W D) (k : Nat) : Act σ ι A W D Unit := do
  let window ← withLock k do
    match (← compositor).display? k with
    | none => pure ()
    | some display =>
      changeRegion k fun r => { r with display := none }
      destroyDisplay crew k display
      say (.displayDestroyed k)
    -- The window is only taken out here: it goes once the lock is free, since it may wait for
    -- whoever waits for the lock.
    let window := (← compositor).window? k
    changeRegion k fun r => { r with window := none }
    return window
  match window with
  | none => pure ()
  | some window =>
    destroyWindow crew k window
    say (.windowDestroyed k)

/-- Tears down and removes so many regions, the last one first. -/
def teardownLast (crew : Crew σ ι A W D) : Nat → Act σ ι A W D Unit
  | 0 => pure ()
  | count + 1 => do
    teardown crew count
    modifyCompositor fun c => { c with regions := c.regions.take count }
    teardownLast crew count

/-- Lets the algorithm go, if it is still there. -/
def releaseAlgorithm (crew : Crew σ ι A W D) : Act σ ι A W D Unit := do
  let c ← compositor
  match c.algorithm with
  | none => pure ()
  | some algorithm =>
    modifyCompositor fun c => { c with algorithm := none }
    ask .dropAlgorithm (crew.algorithm.drop algorithm)
    say (.released c.algorithmName)

/-- Closes a compositor: pictures are let go, regions torn down, waiting inputs forgotten, and
the algorithm is let go. -/
def close (crew : Crew σ ι A W D) : Act σ ι A W D Unit := do
  let c ← compositor
  -- Nothing is left after an earlier closing.
  if c.algorithm.isNone && c.regions.isEmpty then return
  modifyCompositor fun c => { c with pictures := [] }
  releaseSlots c.pictures
  teardownLast crew c.regions.length
  modifyCompositor fun c => { c with queue := [] }
  releaseAlgorithm crew
  modifyCompositor fun c => { c with outputs := [] }

end Mosaic.Compositor
