import Mosaic.Compositor.Close
import Mosaic.Compositor.Resize

/-!
# Opening a compositor

An algorithm is looked up by name and made for the source after turning. Then each
of its outputs gets a region, in order: a window is made and shown, and a display
is made in it. Under the aborting policy the first step that fails undoes all
regions made so far, and nothing is opened. Under the tolerant policy the region
stays without output, and opening goes on.
-/

set_option autoImplicit false

namespace Mosaic.Compositor

open Act

variable {σ ι A W D : Type}

/-- What becomes of a step that failed: it fails the opening, unless it is tolerated. -/
def stepFailed (policy : FailurePolicy) (index : Nat) (stage : RegionStage) (cause : Cause) :
    Act σ ι A W D (Except OpenError Unit) := do
  match policy with
  | .tolerate =>
    say (.regionWithout index stage cause)
    return .ok ()
  | .abort => return .error (.regionFailed index stage cause)

/-- Handles what windows report while a step of setting up a region runs. -/
def reportOpening (crew : Crew σ ι A W D) (stage : RegionStage) (index : Nat) :
    Act σ ι A W D Unit := do
  reportAll crew (crew.backend.opening stage index (← env))

/-- Puts a new display and its window into a region. A resize that came while the display was
being made is passed on to it. -/
def adopt (crew : Crew σ ι A W D) (output : Output) (index : Nat) (requested : Size)
    (window : W) (display : D) : Act σ ι A W D Unit :=
  withLock index do
    let size := (((← compositor).regions[index]?).map Region.size).getD requested
    -- The window may have been resized while its display was being made.
    let display ←
      if size = requested then pure display else setSize crew index display size
    changeRegion index fun r => { r with display := some display, window := some window }
    say (.regionReady index output.module size)

/-- Makes the display of a region whose window is shown. -/
def openDisplay (crew : Crew σ ι A W D) (policy : FailurePolicy) (output : Output) (index : Nat)
    (settings : WindowSettings) (window : W) : Act σ ι A W D (Except OpenError Unit) := do
  let request : DisplayRequest := ⟨index, output.module, output.format, settings⟩
  let result ← guarding (dropWindow crew index window) do
    askWhile (.newDisplay index request) (reportOpening crew .display index)
      (crew.backend.newDisplay index request)
  answered (.step .display index result.toBool)
  match result with
  | .ok display =>
    adopt crew output index settings.size window display
    return .ok ()
  | .error cause =>
    match policy with
    | .tolerate =>
      -- The window stays, without anything to show in it.
      withLock index (changeRegion index fun r => { r with window := some window })
      stepFailed policy index .display cause
    | .abort =>
      destroyWindow crew index window
      stepFailed policy index .display cause

/-- Makes the window of a region and then its display. -/
def openWindow (crew : Crew σ ι A W D) (policy : FailurePolicy) (output : Output) (index : Nat)
    (settings : WindowSettings) : Act σ ι A W D (Except OpenError Unit) := do
  let result ← askWhile (.newWindow index settings) (reportOpening crew .window index)
    (crew.backend.newWindow index settings)
  answered (.step .window index result.toBool)
  match result with
  | .error cause => stepFailed policy index .window cause
  | .ok window =>
    let (result, window) ← guarding (dropWindow crew index window) do
      askWhile (.enable index settings) (reportOpening crew .enable index)
        (crew.backend.enable window settings)
    answered (.step .enable index result.toBool)
    match result with
    | .error cause =>
      dropWindow crew index window
      stepFailed policy index .enable cause
    | .ok _ => openDisplay crew policy output index settings window

/-- Gives an output its region, in the size that the algorithm wants. -/
def openRegion (crew : Crew σ ι A W D) (settings : SplitSettings) (algorithm : A) (index : Nat)
    (output : Output) : Act σ ι A W D (Except OpenError Unit) := do
  let placement := (← compositor).placement
  let size ← consult (.sizeHint index) (crew.algorithm.sizeFor algorithm output.format placement)
  -- The region is there before its window is made, so the window can already report to it.
  modifyCompositor fun c => { c with regions := c.regions ++ [.bare index size] }
  if output.active then
    openWindow crew settings.regionFailure output index (settings.window.resize size)
  else
    say (.regionInactive index)
    return .ok ()

/-- Gives outputs their regions, up to the first failure. -/
def openRegions (crew : Crew σ ι A W D) (settings : SplitSettings) (algorithm : A) :
    Nat → List Output → Act σ ι A W D (Except OpenError Unit)
  | _, [] => return .ok ()
  | index, output :: rest => do
    match ← openRegion crew settings algorithm index output with
    | .error e => return .error e
    | .ok _ => openRegions crew settings algorithm (index + 1) rest

/-- Gives every output its region. A failure or fault on the way closes what is there. -/
def populate (crew : Crew σ ι A W D) (settings : SplitSettings) (algorithm : A) :
    Act σ ι A W D (Except OpenError Unit) := do
  let outputs := (← compositor).outputs
  match ← guarding (close crew) (openRegions crew settings algorithm 0 outputs) with
  | .error e =>
    say (.openFailed e)
    close crew
    return .error e
  | .ok _ =>
    let c ← compositor
    say (.opened c.algorithmName outputs.length c.source)
    return .ok ()

/-- A compositor that has an algorithm and no regions yet. -/
def unpopulated (crew : Crew σ ι A W D) (settings : SplitSettings) (source : VideoFormat)
    (algorithm : A) (parent : Option ParentWindow) : Compositor A W D where
  source := source
  placement := settings.placement
  algorithmName := settings.algorithmName
  algorithm := some algorithm
  outputs := crew.algorithm.outputs algorithm
  regions := []
  pictures := (crew.algorithm.outputs algorithm).map fun _ => none
  queue := []
  parent := parent
  held := .empty

/-- Lets a compositor act in a world that does not know it yet. -/
def runIn {α : Type} (c : Compositor A W D) (act : Act σ ι A W D α) :
    Run σ (Happening ι) (α × Compositor A W D) := fun w =>
  match act ⟨c, w⟩ with
  | .ok a s => .ok (a, s.compositor) s.world
  | .error fault s => .error fault s.world

/-- Says something before there is a compositor. -/
def announce (notice : Notice) : Run σ (Happening ι) Unit := Run.record (.said notice)

/-- Opens a compositor for a source. -/
def «open» (crew : Crew σ ι A W D) (registry : Registry (Constructor σ ι A))
    (settings : SplitSettings) (source : VideoFormat) (parent : Option ParentWindow) :
    Run σ (Happening ι) (Except OpenError (Compositor A W D)) := do
  let name := settings.algorithmName
  match registry.resolve? name with
  | none =>
    announce (.noModule name)
    return .error (.moduleNotFound name)
  | some construct =>
    announce (.usingModule name)
    let source := source.upright
    match ← Run.within (construct source settings) with
    | .error cause =>
      announce (.initializeFailed name cause)
      return .error (.algorithmFailed name cause)
    | .ok algorithm =>
      let c := unpopulated crew settings source algorithm parent
      if c.outputs.isEmpty then announce (.noOutputs name)
      let (result, c) ← runIn c (populate crew settings algorithm)
      return result.map fun _ => c

end Mosaic.Compositor
