import Mosaic.Compositor.Input

/-!
# Preparing and showing pictures

To prepare a picture is to split it and to let the display of every region prepare
its part. A part is kept in the slot of its region until it is shown or replaced;
a region without a display keeps nothing. To show is to show what the slots hold
and to empty them.
-/

set_option autoImplicit false

namespace Mosaic.Compositor

open Act

variable {σ ι A W D : Type}

/-- Puts a picture into the slot of a region; what was there is let go. -/
def putPicture (k : Nat) (picture : Option Picture) : Act σ ι A W D Unit := do
  let old := (← compositor).picture? k
  modifyCompositor fun c => { c with pictures := c.pictures.set k picture }
  release old

/-- Handles the inputs that the window of a region reports while its display is at work. -/
def reportShowing (crew : Crew σ ι A W D) (stage : FrameStage) (k : Nat) : Act σ ι A W D Unit := do
  reportInputs crew k (crew.backend.showing stage k (← env))

/-- Lets the display of a region prepare a picture, and tells whether there is one. -/
def prepareRegion (crew : Crew σ ι A W D) (overlay : Option Overlay) (date : Tick) (k : Nat)
    (picture : Picture) : Act σ ι A W D Bool :=
  withLock k do
    match (← compositor).display? k with
    | none => return false
    | some display =>
      let ledger ← ledger
      let display ←
        askWhile (.prepare k (ledger.sight picture) (overlay.map ledger.sightOverlay) date)
          (reportShowing crew .prepare k) (crew.backend.prepare display picture overlay date)
      changeRegion k fun r => { r with display := some display }
      return true

/-- Fills the slot of a region and lets its display prepare the picture. -/
def fillSlot (crew : Crew σ ι A W D) (overlay : Option Overlay) (date : Tick) (k : Nat)
    (picture : Option Picture) : Act σ ι A W D Unit := do
  putPicture k picture
  match picture with
  | none => pure ()
  | some picture =>
    if ← prepareRegion crew overlay date k picture then pure () else putPicture k none

/-- Fills the slots of so many regions from one on, and gives the pictures that are left. -/
def fillSlots (crew : Crew σ ι A W D) (overlay : Option Overlay) (date : Tick) :
    Nat → Nat → Slots → Act σ ι A W D Slots
  | 0, _, slots => return slots
  | count + 1, k, slots => do
    -- After a fault nobody takes the pictures that are left.
    guarding (releaseSlots slots.tail) (fillSlot crew overlay date k slots.head?.join)
    fillSlots crew overlay date count (k + 1) slots.tail

/-- Splits a picture. The algorithm gets a hold of its own. A failure leaves no parts. -/
def split (crew : Crew σ ι A W D) (algorithm : A) (picture : Picture) (date : Tick) :
    Act σ ι A W D Slots := do
  -- The algorithm drops the hold it is given, so it is given one of its own.
  onWorld (Run.modifyLedger fun l => l.retain picture)
  let (result, algorithm) ←
    ask (.filter ((← ledger).sight picture)) (crew.algorithm.filter algorithm picture)
  modifyCompositor fun c => { c with algorithm := some algorithm }
  answered (.parts result.toOption)
  match result with
  | .ok slots => return slots
  | .error cause =>
    say (.filterFailed date cause)
    return []

/-- Prepares a picture in every region. Inputs that wait are handled first. -/
def prepare (crew : Crew σ ι A W D) (picture : Picture) (overlay : Option Overlay) (date : Tick) :
    Act σ ι A W D Unit := do
  let _ ← drain crew
  match (← compositor).algorithm with
  | none => pure ()
  | some algorithm =>
    let slots ← split crew algorithm picture date
    let count := (← compositor).regions.length
    -- Pictures beyond the last region are let go at the end.
    if count < slots.length then say (.surplusPictures slots.length count)
    let left ← fillSlots crew overlay date count 0 slots
    releaseSlots left

/-- Lets the display of a region show the picture in its slot, and empties the slot. -/
def displayRegion (crew : Crew σ ι A W D) (k : Nat) : Act σ ι A W D Unit := do
  let picture := (← compositor).picture? k
  modifyCompositor fun c => { c with pictures := c.pictures.set k none }
  withLock k do
    match (← compositor).display? k, picture with
    | some display, some picture =>
      let display ← askWhile (.display k ((← ledger).sight picture))
        (reportShowing crew .display k) (crew.backend.display display picture)
      changeRegion k fun r => { r with display := some display }
    | _, _ => pure ()
    release picture

/-- Lets so many regions from one on show what they have prepared. -/
def displayFrom (crew : Crew σ ι A W D) : Nat → Nat → Act σ ι A W D Unit
  | 0, _ => pure ()
  | count + 1, k => do
    displayRegion crew k
    displayFrom crew count (k + 1)

/-- Shows what was prepared last. -/
def display (crew : Crew σ ι A W D) : Act σ ι A W D Unit := do
  displayFrom crew (← compositor).regions.length 0

end Mosaic.Compositor
