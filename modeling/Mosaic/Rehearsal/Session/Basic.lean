import Mosaic.Rehearsal.Session.Entry
import Mosaic.Rehearsal.Session.Script

/-!
# Sessions

A session opens a compositor on a rig and takes one step after the other with it. A
fault in a step ends the session with that step; a fault while opening only leaves
it without a compositor.

The endpoints of the windows outlive the compositor. What is reported to one of
them afterwards goes nowhere. A region may be held by the session: it outlives the
closing of the compositor, without window and display, and still takes new sizes.

## Main definitions

* `Session` — the state of a session
* `Session.act`, `Session.step` — takes one step
* `play` — a session as its list of entries
-/

set_option autoImplicit false

namespace Mosaic

/-- The state of a session on a rig. -/
structure Session (r : Rig) where
  setup : Session.Setup
  compositor : Option (Compositor Algorithm r.Window r.Display)
  world : World Bench (Happening r.Item)
  /-- Windows made apart from those of the compositor. -/
  windows : List HeadlessWindow
  /-- The regions held, in the order of holding. -/
  held : List RegionView
  /-- What the parent received and nobody asked for; nothing once the parent is gone. -/
  inbox : Option (List InputEvent)

namespace Session

variable {r : Rig} {α : Type}

/-- Lets somebody act on the world alone. -/
def runWorld (s : Session r) (act : Run Bench (Happening r.Item) α) : Except Fault α × Session r :=
  match act s.world with
  | .ok a world => (.ok a, { s with world := world })
  | .error fault world => (.error fault, { s with world := world })

/-- Lets the compositor act. -/
def runCompositor (s : Session r) (c : Compositor Algorithm r.Window r.Display)
    (act : Act Bench r.Item Algorithm r.Window r.Display α) : Except Fault α × Session r :=
  match act ⟨c, s.world⟩ with
  | .ok a t => (.ok a, { s with compositor := some t.compositor, world := t.world })
  | .error fault t =>
    (.error fault, { s with compositor := some t.compositor, world := t.world })

/-- The result of an action, a fault among them. -/
def resultOf (write : α → Result) : Except Fault α → Result
  | .ok a => write a
  | .error fault => .broken fault

/-- A step of the compositor, if there is one. -/
def withCompositor (s : Session r) (write : α → Result)
    (act : Act Bench r.Item Algorithm r.Window r.Display α) : Result × Session r :=
  match s.compositor with
  | none => (.unavailable, s)
  | some c =>
    let (result, s) := s.runCompositor c act
    (resultOf write result, s)

/-- A step on the world alone. -/
def withWorld (s : Session r) (write : α → Result) (act : Run Bench (Happening r.Item) α) :
    Result × Session r :=
  let (result, s) := s.runWorld act
  (resultOf write result, s)

/-- The region of an endpoint. -/
def region? (s : Session r) (endpoint : Nat) : Option Nat := s.world.env.owners[endpoint]?

/-- A step of an endpoint, if it is there. -/
def withEndpoint (s : Session r) (endpoint : Nat) (step : Nat → Result × Session r) :
    Result × Session r :=
  match s.region? endpoint with
  | none => (.unavailable, s)
  | some region => step region

/-- Gives a region that outlived its compositor a new size. -/
def resizeHeld (s : Session r) (region : Nat) (size : Size) : Session r :=
  if s.held.any fun v => v.index = region then
    let held := s.held.map fun v => if v.index = region then { v with size := size } else v
    let world := s.world.record (.called (.acknowledge region size) [region])
    { s with held := held, world := world.record (.said (.regionResized region size false)) }
  else { s with world := s.world.record (.said (.resizeIgnored region)) }

/-- Handles a report of an endpoint. -/
def report (s : Session r) (region : Nat) (event : WindowEvent) : Result × Session r :=
  match s.compositor, event with
  | some c, .resized size =>
    if region < c.regions.length then
      s.withCompositor (fun _ => .nothing) (Compositor.report r.crew region event)
    else (.nothing, s.resizeHeld region size)
  | some _, .input _ => s.withCompositor (fun _ => .nothing) (Compositor.report r.crew region event)
  | none, .resized size => (.nothing, s.resizeHeld region size)
  | none, .input event =>
    (.nothing, { s with world := s.world.record (.said (.compositorGone region event)) })

/-- The last acknowledgement in a trace, with the lock of its region held or not. -/
def acknowledgement? (trace : List (Happening r.Item)) : Option (Size × Bool) :=
  trace.findSome? fun
    | .called (.acknowledge region size) locked => some (size, locked.contains region)
    | _ => none

/-- Makes a picture, lets the compositor act on it, counts the holds that are left on it and lets
it go. -/
def withPicture (s : Session r) (picture : PictureRequest)
    (overlay : Option (List OverlayRequest))
    (operation : Picture → Option Overlay → Compositor.Operation) : Result × Session r :=
  s.withCompositor .count do
    let picture ← Act.onWorld (Run.onLedger fun l => l.make picture)
    let overlay ←
      match overlay with
      | none => pure none
      | some elements => some <$> Act.onWorld (Run.onLedger fun l => l.makeOverlay elements)
    (operation picture overlay).perform r.crew
    let holds := (← Act.ledger).holds picture
    Act.onWorld (Run.modifyLedger fun l => l.release picture)
    Act.onWorld (Run.modifyLedger fun l =>
      l.releaseAll (overlay.elim [] Overlay.pictures))
    return holds

/-- Asks the backend for a display that is no display of the compositor. What the window of the
region reports meanwhile is handled. -/
def requestDisplay (s : Session r) (region : Nat) (request : DisplayRequest) :
    Result × Session r :=
  let call : World Bench (Happening r.Item) → World Bench (Happening r.Item) :=
    fun w => w.record (.called (.newDisplay region request) [])
  let s := { s with world := call s.world }
  let reports := r.crew.backend.opening .display region s.world.env
  let s := reports.foldl (fun s report => (s.report report.1 report.2).2) s
  s.withWorld (fun answer => .displayMade (answer.map fun _ => ()))
    (Run.within (r.crew.backend.newDisplay region request))

/-- Lets an additional window act. -/
def withWindow (s : Session r) (window : Nat)
    (act : HeadlessWindow → Run Bench Notice HeadlessWindow) (write : HeadlessWindow → Result) :
    Result × Session r :=
  match s.windows[window]? with
  | none => (.unavailable, s)
  | some w =>
    match act w ⟨s.world.env, s.world.ledger, []⟩ with
    | .error fault _ => (.broken fault, s)
    | .ok w u =>
      let trace := u.trace.map .said ++ s.world.trace
      (write w, { s with
        windows := s.windows.set window w
        world := ⟨u.env, u.ledger, trace⟩ })

/-- Closes the compositor for good. -/
def dropCompositor (s : Session r) : Result × Session r :=
  match s.compositor with
  | none => (.nothing, s)
  | some c =>
    match s.runCompositor c (Compositor.close r.crew) with
    | (.error fault, s) => (.broken fault, s)
    | (.ok _, s) => (.nothing, { s with compositor := none })

/-- Holds a region. -/
def hold (s : Session r) (region : Nat) : Result × Session r :=
  match s.compositor with
  | none => (.unavailable, s)
  | some c =>
    match c.regions[region]? with
    | none => (.text none, s)
    | some found => (.text (some found.inspect), { s with held := s.held ++ [found.view] })

/-- Moves what the parent of a compositor received to the inbox. -/
def collect (c : Compositor Algorithm r.Window r.Display) :
    List InputEvent × Compositor Algorithm r.Window r.Display :=
  match c.parent with
  | none => ([], c)
  | some parent => (parent.received, { c with parent := some { parent with received := [] } })

/-- What shows of a held region now: what the compositor has under its index, or the region
without window and display. -/
def refresh (compositor : Option (Compositor Algorithm r.Window r.Display)) (v : RegionView) :
    RegionView :=
  match compositor.bind fun c => c.regions[v.index]? with
  | some region => region.view
  | none => { v with hasWindow := false, hasDisplay := false }

/-- Brings inbox and held regions up to date. -/
def settle (s : Session r) : Session r :=
  let held := s.held.map (refresh s.compositor)
  match s.compositor with
  | none => { s with held := held }
  | some c =>
    let (received, c) := collect c
    { s with
      compositor := some c
      held := held
      inbox := s.inbox.map fun inbox => inbox ++ received }

/-- Nobody listens for the parent any more. -/
def dropParent (s : Session r) : Session r :=
  let deafen (c : Compositor Algorithm r.Window r.Display) :=
    { c with parent := c.parent.map fun parent => { parent with listening := false } }
  { s with compositor := s.compositor.map deafen, inbox := none }

/-- Takes one step. -/
def act (s : Session r) : Step → Result × Session r
  | .resize endpoint size =>
    s.withEndpoint endpoint fun region => s.report region (.resized size)
  | .resizeAcknowledged endpoint size =>
    s.withEndpoint endpoint fun region =>
      -- The region answers while its lock is held, and the trace shows the answer.
      let (result, s) := s.report region (.resized size)
      match result with
      | .nothing => (.acknowledged (acknowledgement? s.world.trace), s)
      | result => (result, s)
  | .report endpoint event => s.withEndpoint endpoint fun region => s.report region event
  | .endpoint endpoint =>
    s.withEndpoint endpoint fun region =>
      let locked := s.compositor.any fun c => c.lockedRegions.contains region
      (.endpoint region locked, s)
  | .newWindow endpoint =>
    s.withEndpoint endpoint fun region =>
      let windows := s.windows ++ [.create region .plain]
      (.count windows.length, { s with windows := windows })
  | .enableWindow window settings =>
    s.withWindow window (fun w => w.enable settings) fun w => .windowEnabled w.enabled w.index
  | .disableWindow window =>
    s.withWindow window HeadlessWindow.disable fun w => .windowDisabled w.enabled w.index
  | .newDisplay endpoint request =>
    s.withEndpoint endpoint fun region => s.requestDisplay region request
  | .meters => (.meters r.depth s.world.env.meters, s)
  | .inbox => (.inbox s.inbox, { s with inbox := s.inbox.map fun _ => [] })
  | .dropParent => (.nothing, s.dropParent)
  | .tellProbe change forget =>
    if s.setup.cast.hasProbe then
      s.withWorld (fun _ => .nothing) do
        Run.modifyEnv fun b => b.modifyProbe change
        if forget then Probe.forget
    else (.unavailable, s)
  | .prepare picture overlay date =>
    s.withPicture picture overlay fun picture overlay => .prepare picture overlay date
  | .display picture => s.withPicture picture none fun _ _ => .display
  | .control query => s.withCompositor .answered (Compositor.control r.crew query)
  | .setSize size => s.withCompositor (fun _ => .nothing) (Compositor.setSizeOf r.crew size)
  | .process => s.withCompositor .count (Compositor.drain r.crew)
  | .close => s.withCompositor (fun _ => .nothing) (Compositor.close r.crew)
  | .drop => s.dropCompositor
  | .outputs => s.withCompositor .outputs do return (← Act.compositor).outputs
  | .inspect => s.withCompositor (fun t => .text (some t)) do return (← Act.compositor).inspect
  | .hold region => s.hold region
  | .held => (.regions s.held, s)
  | .release => (.nothing, { s with held := [] })

/-- What shows of the probe. -/
def probeView (s : Session r) : ProbeView :=
  let probe := s.world.env.probe
  ⟨probe.created, probe.dropped, probe.filterCalls, probe.produced.map s.world.ledger.sight⟩

/-- Turns what happened since the entry before into an entry, and starts anew. -/
def log (s : Session r) (result : Result) : Entry × Session r :=
  let history := s.world.history
  let scripted := s.setup.cast.isScript s.setup.settings.algorithmName
  ({ result := result
     rows := r.rows scripted history
     notices := r.notices history
     state := s.compositor.map Compositor.view
     probe := if s.setup.cast.hasProbe then some s.probeView else none },
    { s with world := { s.world with trace := [] } })

/-- Takes one step and gives its entry. -/
def step (s : Session r) (step : Step) : Entry × Session r :=
  let (result, s) := s.act step
  s.settle.log result

/-- A session before its compositor is opened. -/
def start (r : Rig) (setup : Setup) : Session r where
  setup := setup
  compositor := none
  world := ⟨{ Bench.empty with probe := setup.probe }, .empty, []⟩
  windows := []
  held := []
  inbox := some []

/-- Opens the compositor of a session. -/
def «open» (s : Session r) : Entry × Session r :=
  let parent := if s.setup.parent then some ParentWindow.fresh else none
  let (result, s) := s.runWorld
    (Compositor.open r.crew s.setup.cast.registry s.setup.settings s.setup.source parent)
  match result with
  | .error fault => s.log (.broken fault)
  | .ok (.error e) => s.log (.notOpened e)
  | .ok (.ok c) =>
    let s := { s with compositor := some c }
    s.settle.log (.opened c.algorithmName c.source)

/-- Takes steps up to the first that breaks off. -/
def steps (s : Session r) : List Step → List Entry
  | [] => []
  | step :: rest =>
    let (entry, s) := s.step step
    match entry.result with
    | .broken _ => [entry]
    | _ => entry :: s.steps rest

end Session

/-- A session as the entries of its opening and of its steps. -/
def play (r : Rig) (setup : Session.Setup) (steps : List Session.Step) : List Session.Entry :=
  let (entry, s) := (Session.start r setup).open
  entry :: s.steps steps

end Mosaic
