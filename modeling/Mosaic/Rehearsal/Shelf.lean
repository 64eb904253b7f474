import Mosaic.Rehearsal.Request
import Mosaic.World

/-!
# A shelf of pictures

A shelf has places, each empty or with a hold on a picture. Pictures are put on it,
viewed, held twice and let go; what is put on a place replaces what was there.

## Main definitions

* `Shelf.Step` — what can be done
* `Shelf.step` — does it
* `Shelf.entries` — the results of several steps, each with the shelf afterwards
-/

set_option autoImplicit false

namespace Mosaic

/-- Places for pictures and the ledger of holds. -/
structure Shelf where
  places : List (Option Picture)
  ledger : Ledger
deriving DecidableEq, Repr

/-- What can be done with a shelf. -/
inductive Shelf.Step where
  /-- Puts a blank picture on a place. -/
  | blank (place : Nat) (format : VideoFormat) (date : Tick)
  /-- Puts a picture with given pixels on a place. -/
  | pixels (place : Nat) (content : List UInt8) (format : VideoFormat) (date : Tick)
  | clone (source place : Nat)
  | view (source place : Nat) (format : VideoFormat) (origin : Origin)
  | drop (place : Nat)
  | compare (first second : Nat)
  | overlay (elements : List OverlayRequest)
deriving DecidableEq, Repr

/-- What comes of a step. -/
inductive Shelf.Result where
  | nothing
  | broken (fault : Fault)
  | compared (same shares : Bool)
  | overlay (elements : List OverlaySighting)

namespace Shelf

/-- A shelf with so many places and no pictures. -/
def empty (places : Nat) : Shelf := ⟨List.replicate places none, .empty⟩

/-- The picture on a place. -/
def picture? (s : Shelf) (place : Nat) : Option Picture := s.places[place]?.join

/-- Puts a picture that is held already on a place, or empties the place. -/
def put (s : Shelf) (place : Nat) (picture : Option Picture) : Shelf :=
  let ledger := match s.picture? place with
    | some old => s.ledger.release old
    | none => s.ledger
  ⟨s.places.set place picture, ledger⟩

/-- Puts a new picture on a place, or breaks off. -/
def putNew (s : Shelf) (place : Nat) : Except Fault (Picture × Ledger) → Result × Shelf
  | .ok (picture, ledger) => (.nothing, { s with ledger := ledger }.put place (some picture))
  | .error fault => (.broken fault, s)

/-- Takes one step. -/
def step (s : Shelf) : Step → Result × Shelf
  | .blank place format date =>
    s.putNew place ((Picture.blankLength format).map fun length =>
      s.ledger.record format date (.blank length))
  | .pixels place content format date =>
    s.putNew place (.ok (s.ledger.record format date (.bytes content)))
  | .clone source place =>
    match s.picture? source with
    | none => (.nothing, s.put place none)
    | some picture => s.putNew place (.ok (picture, s.ledger.retain picture))
  | .view source place format origin =>
    match s.picture? source with
    | none => (.nothing, s.put place none)
    | some picture => s.putNew place (s.ledger.view picture format origin)
  | .drop place => (.nothing, s.put place none)
  | .compare first second =>
    match s.picture? first, s.picture? second with
    | some p, some q => (.compared (decide (p.SameAs q)) (decide (p.SharesPixels q)), s)
    | _, _ => (.nothing, s)
  | .overlay elements =>
    let (overlay, ledger) := s.ledger.makeOverlay elements
    let shown := ledger.sightOverlay overlay
    (.overlay shown, { s with ledger := ledger.releaseAll overlay.pictures })

/-- What shows of a shelf: each picture with its holds. -/
def sightings (s : Shelf) : List (Option Sighting) := s.places.map (Option.map s.ledger.sight)

/-- The results of steps up to the first that breaks off, each with the shelf afterwards. -/
def entries (s : Shelf) : List Step → List (Result × List (Option Sighting))
  | [] => []
  | step :: rest =>
    let (result, s) := s.step step
    match result with
    | .broken _ => [(result, s.sightings)]
    | _ => (result, s.sightings) :: s.entries rest

end Shelf

end Mosaic
