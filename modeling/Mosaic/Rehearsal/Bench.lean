import Mosaic.Headless

/-!
# The bench

A rehearsal runs a compositor with algorithms, windows and displays that can be
told what to do. The bench is what they keep outside of themselves, so that it can
be read while they work and after they are gone: which windows were made, what the
headless displays counted, and what was asked of a probe.

## Main definitions

* `Probe` — what a probe algorithm is told and what it noted
* `Bench` — the environment of a rehearsal
* `metered` — headless displays whose counts outlive them
-/

set_option autoImplicit false

namespace Mosaic

/-- The counts of one headless display. -/
structure Meter where
  region : Nat
  prepared : Nat
  displayed : Nat
deriving DecidableEq, Repr

/-- What probe algorithms are told, and what they noted. -/
structure Probe where
  created : Nat
  dropped : Nat
  /-- The number of pictures it was asked to split. -/
  filterCalls : Nat
  /-- The largest number of parts it gives; without a limit one for each output. -/
  limit : Option Nat
  failsFilter : Bool
  failsCreate : Bool
  /-- A hold on each part that was given last. -/
  produced : List Picture
deriving DecidableEq, Repr

/-- A probe that was told nothing and noted nothing. -/
def Probe.fresh : Probe := ⟨0, 0, 0, none, false, false, []⟩

/-- The environment of a rehearsal. -/
structure Bench where
  /-- The regions of the windows made by the outermost backend, in order. -/
  owners : List Nat
  /-- The counts of the headless displays, in the order of their making. -/
  meters : List Meter
  probe : Probe
deriving DecidableEq, Repr

namespace Bench

/-- A bench on which nothing was done. -/
def empty : Bench := ⟨[], [], .fresh⟩

/-- Notes a window. -/
def addOwner (b : Bench) (region : Nat) : Bench := { b with owners := b.owners ++ [region] }

/-- Adds a meter. -/
def addMeter (b : Bench) (meter : Meter) : Bench := { b with meters := b.meters ++ [meter] }

/-- Sets the meter at a place to the counts of a display. -/
def readMeter (b : Bench) (place : Nat) (d : HeadlessDisplay) : Bench :=
  { b with
    meters := b.meters.modify place fun m =>
      { m with prepared := d.prepared, displayed := d.displayed } }

/-- Changes the probe. -/
def modifyProbe (b : Bench) (f : Probe → Probe) : Bench := { b with probe := f b.probe }

end Bench

/-- A headless display and the place of its meter. -/
structure MeteredDisplay where
  display : HeadlessDisplay
  place : Nat
deriving DecidableEq

namespace MeteredDisplay

/-- Gives a new display its meter. -/
def ofDisplay (region : Nat) (d : HeadlessDisplay) : Run Bench Notice MeteredDisplay := do
  let place := (← Run.env).meters.length
  Run.modifyEnv fun b => b.addMeter ⟨region, d.prepared, d.displayed⟩
  return ⟨d, place⟩

/-- Lets a display act and reads its meter. -/
def step (m : MeteredDisplay) (act : HeadlessDisplay → Run Bench Notice HeadlessDisplay) :
    Run Bench Notice MeteredDisplay := do
  let d ← act m.display
  Run.modifyEnv fun b => b.readMeter m.place d
  return { m with display := d }

end MeteredDisplay

/-- Headless windows, and headless displays whose counts outlive them. -/
def metered : Backend Bench Notice HeadlessWindow MeteredDisplay where
  opening := headless.opening
  showing := headless.showing
  newWindow := headless.newWindow
  enable := headless.enable
  disable := headless.disable
  dropWindow := headless.dropWindow
  newDisplay index request := do
    match ← headless.newDisplay index request with
    | .error cause => return .error cause
    | .ok d => return .ok (← MeteredDisplay.ofDisplay request.index d)
  prepare m picture overlay date := m.step fun d => headless.prepare d picture overlay date
  display m picture := m.step fun d => headless.display d picture
  control m query := do
    let (result, d) ← headless.control m.display query
    return (result, { m with display := d })
  close m := m.step headless.close
  dropDisplay m := headless.dropDisplay m.display

end Mosaic
