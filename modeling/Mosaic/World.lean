import Mosaic.Notice
import Mosaic.Partition.Output
import Mosaic.Settings

/-!
# The world around a compositor

A compositor works with an algorithm, windows and displays that it does not know
from the inside. They share a `World`: an environment of their own, the ledger of
holds on pictures, and the trace of what happened so far, newest first.

What a compositor does shows in the trace as a `Happening`: something it said, a
call it made to one of the others together with the region locks held at that
moment, what came back from a call, a report of a window, or something that
happened inside a call. The last kind keeps the trace of the others apart from the
compositor's own, so a display may itself be a compositor, and its calls are never
taken for those of the outer one.

## Main definitions

* `World`, `Run` — the shared state, and an action on it that may end in a fault
* `Call`, `Answer`, `Happening` — what a compositor calls, what comes back, and what its trace
  consists of
* `within` — runs an action of the others as part of a compositor's trace
-/

set_option autoImplicit false

namespace Mosaic

/-- The state shared by a compositor and those it works with. -/
structure World (σ ι : Type) where
  env : σ
  ledger : Ledger
  /-- What happened so far, newest first. -/
  trace : List ι

/-- An action on a world. A fault ends it and leaves what was done before. -/
abbrev Run (σ ι : Type) := EStateM Fault (World σ ι)

/-- A picture and the number of holds on it at some moment. -/
structure Sighting where
  picture : Picture
  holds : Nat
deriving DecidableEq

/-- A picture as it is held now. -/
def Ledger.sight (l : Ledger) (p : Picture) : Sighting := ⟨p, l.holds p⟩

/-- An overlay element with the holds on its picture at some moment. -/
structure OverlaySighting where
  region : OverlayRegion
  holds : Nat
deriving DecidableEq

/-- An overlay with the holds on its pictures now. -/
def Ledger.sightOverlay (l : Ledger) (overlay : Overlay) : List OverlaySighting :=
  overlay.map fun region => ⟨region, l.holds region.picture⟩

/-- What is needed to create the display of a region. -/
structure DisplayRequest where
  index : Nat
  /-- The display backend; empty for the default one. -/
  module : String
  format : VideoFormat
  window : WindowSettings
deriving DecidableEq

/-- What a compositor asks of its algorithm, windows, displays and parent. The number names
the region on whose behalf it asks. -/
inductive Call where
  | newWindow (index : Nat) (settings : WindowSettings)
  | enable (index : Nat) (settings : WindowSettings)
  | disable (index : Nat)
  | dropWindow (index : Nat)
  | newDisplay (index : Nat) (request : DisplayRequest)
  | prepare (index : Nat) (frame : Sighting) (overlay : Option (List OverlaySighting))
      (date : Tick)
  | display (index : Nat) (frame : Sighting)
  | control (index : Nat) (query : ControlQuery)
  | close (index : Nat)
  | dropDisplay (index : Nat)
  | acknowledge (index : Nat) (size : Size)
  | sizeHint (index : Nat)
  | filter (frame : Sighting)
  | mouseMap (index : Nat) (event : MouseEvent)
  | report (event : InputEvent)
  | dropAlgorithm
deriving DecidableEq

namespace Call

/-- The region on whose behalf a call is made, if it is made for one. -/
def region? : Call → Option Nat
  | newWindow index _ | enable index _ | disable index | dropWindow index | newDisplay index _
  | prepare index _ _ _ | display index _ | control index _ | close index | dropDisplay index
  | acknowledge index _ | sizeHint index | mouseMap index _ => some index
  | filter _ | report _ | dropAlgorithm => none

/-- Whether a call goes to a window or asks for a window or a display. -/
def isWindow : Call → Bool
  | newWindow _ _ | enable _ _ | disable _ | dropWindow _ | newDisplay _ _ => true
  | _ => false

/-- Whether a call goes to a display. -/
def isDisplay : Call → Bool
  | prepare _ _ _ _ | display _ _ | control _ _ | close _ | dropDisplay _ => true
  | _ => false

/-- Whether a call hands a picture to the algorithm or lets it go. -/
def isPartition : Call → Bool
  | filter _ | dropAlgorithm => true
  | _ => false

end Call

/-- What comes back from a call on which it depends what a compositor does next. -/
inductive Answer where
  /-- Whether a step of setting up a region was done. -/
  | step (stage : RegionStage) (index : Nat) (done : Bool)
  /-- The parts of a picture, unless it could not be split. -/
  | parts (slots : Option Slots)
  /-- Where a pointer event goes, unless it is dropped. -/
  | located (event : Option MouseEvent)
deriving DecidableEq

/-- An entry in the trace of a compositor. -/
inductive Happening (ι : Type) where
  | said (notice : Notice)
  /-- A call and the regions whose locks were held when it was made. -/
  | called (call : Call) (locked : List Nat)
  | answered (answer : Answer)
  /-- A report of the window of a region. -/
  | reported (index : Nat) (event : WindowEvent)
  | inside (item : ι)

namespace World

variable {σ ι : Type}

/-- Adds an entry to the trace. -/
def record (w : World σ ι) (item : ι) : World σ ι := { w with trace := item :: w.trace }

/-- The trace in order of time. -/
def history (w : World σ ι) : List ι := w.trace.reverse

end World

namespace Run

variable {σ ι α : Type}

/-- Adds an entry to the trace. -/
def record (item : ι) : Run σ ι Unit := modify fun w => w.record item

/-- The environment. -/
def env : Run σ ι σ := World.env <$> get

/-- Changes the environment. -/
def modifyEnv (f : σ → σ) : Run σ ι Unit := modify fun w => { w with env := f w.env }

/-- Changes the ledger. -/
def modifyLedger (f : Ledger → Ledger) : Run σ ι Unit :=
  modify fun w => { w with ledger := f w.ledger }

/-- A step that needs the ledger and may change it. -/
def onLedger (f : Ledger → α × Ledger) : Run σ ι α :=
  modifyGet fun w => let (a, ledger) := f w.ledger; (a, { w with ledger := ledger })

/-- A value that is there, or the fault that stands in its place. -/
def attempt : Except Fault α → Run σ ι α
  | .ok a => pure a
  | .error fault => throw fault

/-- Works on the ledger with a picture and then drops the hold on it. A fault of the work
leaves the ledger as it was, but for the dropped hold. -/
def consuming (picture : Picture) (work : Ledger → Except Fault (α × Ledger)) : Run σ ι α :=
  fun w =>
    match work w.ledger with
    | .ok (a, ledger) => .ok a { w with ledger := ledger.release picture }
    | .error fault => .error fault { w with ledger := w.ledger.release picture }

/-- Runs a step, and another one before a fault passes on. -/
def guarding (cleanup : Run σ ι Unit) (body : Run σ ι α) : Run σ ι α := fun w =>
  match body w with
  | .ok a w => .ok a w
  | .error fault w =>
    match cleanup w with
    | .ok _ w => .error fault w
    | .error _ w => .error fault w

/-- Runs an action of those a compositor works with: all that happens during it happens
inside. -/
def within (act : Run σ ι α) : Run σ (Happening ι) α := fun w =>
  match act ⟨w.env, w.ledger, []⟩ with
  | .ok a u => .ok a ⟨u.env, u.ledger, u.trace.map .inside ++ w.trace⟩
  | .error fault u => .error fault ⟨u.env, u.ledger, u.trace.map .inside ++ w.trace⟩

end Run

end Mosaic
