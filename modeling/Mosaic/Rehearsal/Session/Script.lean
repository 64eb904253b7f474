import Mosaic.Rehearsal.Request
import Mosaic.Rehearsal.Rig

/-!
# What a session is told

A session opens a compositor and takes one step after the other with it. It is told
which algorithms there are, what to open, and which steps to take. The endpoints of
windows are numbered in the order in which the windows were made.

## Main definitions

* `Session.Cast` — the algorithms that a session can choose from
* `Session.Setup` — what a session starts from
* `Session.Step` — one step
-/

set_option autoImplicit false

namespace Mosaic.Session

/-- The algorithms that a session can choose from. -/
inductive Cast where
  | builtins
  /-- The algorithms at hand and a scripted one. -/
  | withScript (name : String) (script : AlgorithmScript)
  /-- A probe alone. -/
  | probe (outputs : List Output)

namespace Cast

/-- The name of the probe. -/
def probeName : String := "default_splitter"

/-- The algorithms by name. -/
def registry {ι : Type} : Cast → Registry (Constructor Bench ι Algorithm)
  | builtins => Algorithm.builtins
  | withScript name script => Algorithm.builtins.register name (Algorithm.ofScript script)
  | probe outputs => Registry.empty.register probeName (Algorithm.ofProbe outputs)

/-- Whether a name belongs to a scripted algorithm. -/
def isScript : Cast → String → Bool
  | withScript name _, asked => name = asked
  | _, _ => false

/-- Whether there is a probe. -/
def hasProbe : Cast → Bool
  | probe _ => true
  | _ => false

end Cast

/-- What a session starts from. -/
structure Setup where
  source : VideoFormat
  settings : SplitSettings
  cast : Cast
  /-- What the probe is told before the opening. -/
  probe : Probe
  /-- Whether there is a parent window. -/
  parent : Bool

/-- One step of a session. Endpoints are numbered in the order of the windows. -/
inductive Step where
  | resize (endpoint : Nat) (size : Size)
  | resizeAcknowledged (endpoint : Nat) (size : Size)
  | report (endpoint : Nat) (event : WindowEvent)
  | endpoint (endpoint : Nat)
  | newWindow (endpoint : Nat)
  | enableWindow (window : Nat) (settings : WindowSettings)
  | disableWindow (window : Nat)
  | newDisplay (endpoint : Nat) (request : DisplayRequest)
  | meters
  | inbox
  | dropParent
  | tellProbe (change : Probe → Probe) (forget : Bool)
  | prepare (picture : PictureRequest) (overlay : Option (List OverlayRequest)) (date : Tick)
  | display (picture : PictureRequest)
  | control (query : ControlQuery)
  | setSize (size : Size)
  | process
  | close
  | drop
  | outputs
  | inspect
  | hold (region : Nat)
  | held
  | release

end Mosaic.Session
