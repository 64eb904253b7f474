import Mosaic.Compositor.Nesting
import Mosaic.Compositor.Operation
import Mosaic.Rehearsal.Algorithm

/-!
# Rigs

A rig says what the windows and displays of a rehearsal are: headless ones, scripted
ones whose calls are of interest, or scripted windows whose displays are compositors
on a rig of their own.

A compositor on a rig leaves a trace. `Rig.notices` is what was said in it, and
`Rig.rows` the journal: the calls that the rig shows, each with the depth at which
it was made.

## Main definitions

* `BackendScript` — what scripted windows and displays are told
* `Rig`, with `Rig.Window`, `Rig.Display` and `Rig.Item` — the kinds of rigs
* `Rig.backend`, `Rig.crew` — those a compositor on a rig works with
* `Rig.notices`, `Rig.rows` — what shows in the trace of a compositor on a rig
-/

set_option autoImplicit false

namespace Mosaic

/-- How scripted displays answer control queries. -/
inductive ControlScript where
  | follow
  | unsupported
  | fail
deriving DecidableEq, Repr

/-- What scripted windows and displays are told. -/
structure BackendScript where
  /-- The steps that fail, with their regions. -/
  refused : List (RegionStage × Nat)
  /-- What windows report while a step of setting up a region runs. -/
  opening : List (RegionStage × Nat × WindowEvent)
  /-- What windows report while a display runs a step. -/
  showing : List (FrameStage × Nat × InputEvent)
  control : ControlScript
deriving DecidableEq, Repr

/-- The name of a step in the words of a scripted backend. -/
def RegionStage.word : RegionStage → String
  | window => "window"
  | enable => "enable"
  | display => "display"

namespace BackendScript

/-- Nothing fails and nothing is reported. -/
def silent : BackendScript := ⟨[], [], [], .follow⟩

/-- The failure of a step, if it is to fail. -/
def refusal? (s : BackendScript) (stage : RegionStage) (index : Nat) : Option Cause :=
  if s.refused.contains (stage, index) then
    some ((Cause.ofMessage s!"no {stage.word} for region {index}").within "backend refused")
  else none

/-- A step that fails if it is told to. -/
def attempt {α : Type} (s : BackendScript) (stage : RegionStage) (index : Nat) (a : α) :
    Except Cause α :=
  match s.refusal? stage index with
  | some cause => .error cause
  | none => .ok a

/-- What windows report while a step of setting up a region runs. -/
def reportsOpening (s : BackendScript) (stage : RegionStage) (index : Nat) :
    List (Nat × WindowEvent) :=
  s.opening.filterMap fun (at_, region, event) =>
    if at_ = stage ∧ region = index then some (index, event) else none

/-- What the window of a region reports while its display runs a step. -/
def reportsShowing (s : BackendScript) (stage : FrameStage) (index : Nat) : List InputEvent :=
  s.showing.filterMap fun (at_, region, event) =>
    if at_ = stage ∧ region = index then some event else none

/-- The answer to a control query. -/
def answer (s : BackendScript) (query : ControlQuery) : Except DisplayError Unit :=
  match s.control with
  | .follow => .ok ()
  | .unsupported => .error (.unsupported query.code)
  | .fail => .error (.failed ((Cause.ofMessage "surface lost").within "resize rejected"))

/-- Scripted windows and displays, both known by their region. They say nothing. -/
def backend {σ ι : Type} (s : BackendScript) : Backend σ ι Nat Nat where
  opening stage index _ := s.reportsOpening stage index
  showing stage index _ := s.reportsShowing stage index
  newWindow index _ := return s.attempt .window index index
  enable window _ := return (s.attempt .enable window (), window)
  disable window := return window
  dropWindow _ := return
  newDisplay index _ := return s.attempt .display index index
  prepare display _ _ _ := return display
  display display _ := return display
  control display query := return (s.answer query, display)
  close display := return display
  dropDisplay _ := return

end BackendScript

/-- What the windows and displays of a compositor are. -/
inductive Rig where
  | headless
  | scripted (script : BackendScript)
  /-- Scripted windows whose displays are compositors. With a cause in place of settings none
  of them can be opened. -/
  | nested (script : BackendScript) (settings : Except Cause SplitSettings) (inner : Rig)

instance : Inhabited Rig := ⟨.headless⟩

namespace Rig

/-- The windows of a rig. -/
@[reducible]
def Window : Rig → Type
  | headless => HeadlessWindow
  | scripted _ => Nat
  | nested _ _ _ => Nat

/-- The displays of a rig. -/
@[reducible]
def Display : Rig → Type
  | headless => MeteredDisplay
  | scripted _ => Nat
  | nested _ _ inner => Compositor Algorithm inner.Window inner.Display

/-- What shows inside the calls to a rig. -/
@[reducible]
def Item : Rig → Type
  | headless => Notice
  | scripted _ => Notice
  | nested _ _ inner => Happening inner.Item

/-- Scripted windows whose displays are compositors on a backend. They report nothing while such
a display prepares or shows a picture. -/
def nestedBackend {ι W D : Type} (script : BackendScript) (settings : Except Cause SplitSettings)
    (inner : Backend Bench ι W D) :
    Backend Bench (Happening ι) Nat (Compositor Algorithm W D) :=
  let nest (settings : SplitSettings) : Nest Bench ι Algorithm W D :=
    ⟨⟨Algorithm.partitioner, inner⟩, Algorithm.builtins, settings⟩
  { (nest .standard).backend script.backend with
    showing := fun _ _ _ => []
    newDisplay := fun index request => do
      match script.refusal? .display index, settings with
      | some cause, _ => return .error cause
      | none, .error cause => return .error cause
      | none, .ok settings => (nest settings).request request }

/-- The windows and displays of a rig. -/
def backend : (r : Rig) → Backend Bench r.Item r.Window r.Display
  | headless => metered
  | scripted script => script.backend
  | nested script settings inner => nestedBackend script settings inner.backend

/-- Those a compositor on a rig works with. Windows that were made are noted on the bench. -/
def crew (r : Rig) : Crew Bench r.Item Algorithm r.Window r.Display where
  algorithm := Algorithm.partitioner
  backend := { r.backend with
    newWindow := fun index settings => do
      let result ← r.backend.newWindow index settings
      if result.toBool then Run.modifyEnv fun b => b.addOwner index
      return result }

/-! ## What shows in a trace -/

/-- Whether the calls to a rig are of interest. Those to headless windows and displays are not,
and a display that is a compositor shows by itself what it is asked. -/
def shows : Rig → Call → Bool
  | headless, _ => false
  | scripted _, call => call.isWindow || call.isDisplay
  | nested _ _ _, call => call.isWindow

/-- A call in a journal: how deep the compositor that made it is nested, and whether it held the
lock of the region at that moment. -/
structure Row where
  depth : Nat
  call : Call
  locked : Bool
deriving DecidableEq

/-- The row of a call made with some locks held. -/
def Row.ofCall (depth : Nat) (call : Call) (locked : List Nat) : Row :=
  ⟨depth, call, call.region?.any locked.contains⟩

/-- The rows of what happened inside a call to a rig. -/
def rowsInside : (r : Rig) → Nat → r.Item → List Row
  | headless, _, _ => []
  | scripted _, _, _ => []
  | nested _ _ inner, depth, item =>
    match item with
    | .called call locked => if inner.shows call then [.ofCall depth call locked] else []
    | .inside item => inner.rowsInside (depth + 1) item
    | _ => []

/-- The journal of a compositor on a rig. With a scripted algorithm its calls show, too. -/
def rows (r : Rig) (scriptedAlgorithm : Bool) (history : List (Happening r.Item)) : List Row :=
  history.flatMap fun
    | .called call locked =>
      if r.shows call || (scriptedAlgorithm && call.isPartition) then [.ofCall 0 call locked]
      else []
    | .inside item => r.rowsInside 1 item
    | _ => []

/-- What was said inside a call to a rig. -/
def noticesInside : (r : Rig) → r.Item → List Notice
  | headless, notice => [notice]
  | scripted _, notice => [notice]
  | nested _ _ inner, item =>
    match item with
    | .said notice => [notice]
    | .inside item => inner.noticesInside item
    | _ => []

/-- What was said by a compositor on a rig and inside its calls. -/
def notices (r : Rig) (history : List (Happening r.Item)) : List Notice :=
  history.flatMap fun
    | .said notice => [notice]
    | .inside item => r.noticesInside item
    | _ => []

/-- How deep the innermost windows and displays of a rig are nested. -/
def depth : Rig → Nat
  | headless => 0
  | scripted _ => 0
  | nested _ _ inner => inner.depth + 1

end Rig

end Mosaic
