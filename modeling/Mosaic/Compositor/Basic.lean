import Mosaic.Crew

/-!
# Compositors

A compositor fans one picture stream out to several regions. A region has a size,
and, if its output is shown, a window and a display. What a region holds is
guarded by a lock; a lock is taken for a single access or a single call and given
back whatever comes of it.

Actions of a compositor run on its own state together with the world around it.
A fault in the middle leaves both as they were at that point, locks given back.

## Main definitions

* `Region`, `ParentWindow`, `Compositor` — the state
* `Running`, `Act` — a compositor in its world, and an action on both
* `say`, `call`, `answered`, `reported`, `collaborate` — what shows in the trace
* `ask`, `askWhile`, `consult` — how the algorithm, windows and displays are called
* `withLock` — holds the lock of a region for the length of an action
-/

set_option autoImplicit false

namespace Mosaic

/-- One region: its size and what shows it. -/
structure Region (W D : Type) where
  index : Nat
  window : Option W
  display : Option D
  size : Size
  locked : Bool

/-- The window a compositor stands in for, and what it received. -/
structure ParentWindow where
  /-- Whether anybody still listens. -/
  listening : Bool
  /-- The inputs received, the earliest first. -/
  received : List InputEvent
deriving DecidableEq, Repr

/-- A parent window that has received nothing yet. -/
def ParentWindow.fresh : ParentWindow := ⟨true, []⟩

/-- A compositor whose algorithm is of type `A`, with windows and displays of types `W` and `D`. -/
structure Compositor (A W D : Type) where
  /-- The source after turning. -/
  source : VideoFormat
  placement : Placement
  algorithmName : String
  /-- The algorithm, until the compositor is closed. -/
  algorithm : Option A
  outputs : List Output
  regions : List (Region W D)
  /-- The pictures prepared and not yet shown, one slot for each region. -/
  pictures : Slots
  /-- Inputs reported and not yet handled, the earliest first. -/
  queue : List RegionInput
  parent : Option ParentWindow
  /-- The buttons held according to the pointer events handled so far. -/
  held : ButtonMask

/-- A compositor in its world. -/
structure Running (σ ι A W D : Type) where
  compositor : Compositor A W D
  world : World σ (Happening ι)

/-- An action of a compositor. -/
abbrev Act (σ ι A W D : Type) := EStateM Fault (Running σ ι A W D)

namespace Region

variable {W D : Type}

/-- A region before its window and display are made. -/
def bare (index : Nat) (size : Size) : Region W D := ⟨index, none, none, size, false⟩

/-- The form in which a region is shown. -/
def inspect (r : Region W D) : String :=
  s!"Region \x7b index: {r.index}, locked: {r.locked} \x7d"

end Region

namespace Compositor

variable {A W D : Type}

/-- Whether a compositor has not been closed. -/
def isOpen (c : Compositor A W D) : Bool := c.algorithm.isSome

/-- The regions whose locks are held. -/
def lockedRegions (c : Compositor A W D) : List Nat :=
  (c.regions.filter Region.locked).map Region.index

/-- Changes one region. -/
def modifyRegion (c : Compositor A W D) (k : Nat) (f : Region W D → Region W D) :
    Compositor A W D :=
  { c with regions := c.regions.modify k f }

/-- The display of a region. -/
def display? (c : Compositor A W D) (k : Nat) : Option D := c.regions[k]?.bind Region.display

/-- The window of a region. -/
def window? (c : Compositor A W D) (k : Nat) : Option W := c.regions[k]?.bind Region.window

/-- The picture in the slot of a region. -/
def picture? (c : Compositor A W D) (k : Nat) : Option Picture := c.pictures[k]?.join

/-- The form in which a compositor is shown. -/
def inspect (c : Compositor A W D) : String :=
  s!"Compositor \x7b algorithm: {Text.quote c.algorithmName}, source: {c.source.inspect}, " ++
    "regions: [" ++ ", ".intercalate (c.regions.map Region.inspect) ++ "] \x7d"

end Compositor

namespace Act

variable {σ ι A W D α : Type}

/-- The compositor. -/
def compositor : Act σ ι A W D (Compositor A W D) := Running.compositor <$> get

/-- Changes the compositor. -/
def modifyCompositor (f : Compositor A W D → Compositor A W D) : Act σ ι A W D Unit :=
  modify fun s => { s with compositor := f s.compositor }

/-- Changes one region. -/
def changeRegion (k : Nat) (f : Region W D → Region W D) : Act σ ι A W D Unit :=
  modifyCompositor fun c => c.modifyRegion k f

/-- An action on the world alone. -/
def onWorld (act : Run σ (Happening ι) α) : Act σ ι A W D α := fun s =>
  match act s.world with
  | .ok a world => .ok a { s with world := world }
  | .error fault world => .error fault { s with world := world }

/-- Says something. -/
def say (notice : Notice) : Act σ ι A W D Unit := onWorld (Run.record (.said notice))

/-- Notes a call with the locks held now. On its own it stands only for what goes to nobody of
the crew: inputs passed on to the parent window, and a size acknowledged to whoever asked for it. -/
def call (c : Call) : Act σ ι A W D Unit := do
  let compositor ← compositor
  onWorld (Run.record (.called c compositor.lockedRegions))

/-- Notes what came back from a call. -/
def answered (answer : Answer) : Act σ ι A W D Unit := onWorld (Run.record (.answered answer))

/-- Notes a report of the window of a region. -/
def reported (k : Nat) (event : WindowEvent) : Act σ ι A W D Unit :=
  onWorld (Run.record (.reported k event))

/-- Lets one of the others act, who is not called for that: whoever is called is called with `ask`
or `askWhile`. -/
def collaborate (act : Run σ ι α) : Act σ ι A W D α := onWorld (Run.within act)

/-- Calls one of the others: the call is noted, and whoever is called acts. -/
def ask (c : Call) (task : Run σ ι α) : Act σ ι A W D α := do
  call c
  collaborate task

/-- Calls one of the others, and windows report before the call is answered. -/
def askWhile (c : Call) (meanwhile : Act σ ι A W D Unit) (task : Run σ ι α) :
    Act σ ι A W D α := do
  call c
  meanwhile
  collaborate task

/-- Calls one of the others for an answer that takes no action. -/
def consult (c : Call) (answer : α) : Act σ ι A W D α := do
  call c
  return answer

/-- The ledger of holds. -/
def ledger : Act σ ι A W D Ledger := (fun s => s.world.ledger) <$> get

/-- The environment of the others. -/
def env : Act σ ι A W D σ := (fun s => s.world.env) <$> get

/-- Drops a hold, if there is a picture. -/
def release : Option Picture → Act σ ι A W D Unit
  | none => pure ()
  | some picture => onWorld (Run.modifyLedger fun l => l.release picture)

/-- Drops the holds on the pictures of some slots. -/
def releaseSlots : Slots → Act σ ι A W D Unit
  | [] => pure ()
  | slot :: rest => do
    release slot
    releaseSlots rest

/-- Holds the lock of a region for the length of an action and gives it back whatever comes
of the action. Taking a lock that is held is a fault; what is no region has no lock. -/
def withLock (k : Nat) (body : Act σ ι A W D α) : Act σ ι A W D α := fun s =>
  match s.compositor.regions[k]? with
  | none => body s
  | some region =>
    -- Nobody else could give the lock back: waiting for it would never end.
    if region.locked then .error .deadlock s
    else
      let mark (locked : Bool) (s : Running σ ι A W D) : Running σ ι A W D :=
        { s with compositor := s.compositor.modifyRegion k fun r => { r with locked := locked } }
      match body (mark true s) with
      | .ok a s => .ok a (mark false s)
      | .error fault s => .error fault (mark false s)

/-- Runs an action, and another one before a fault passes on. -/
def guarding (cleanup : Act σ ι A W D Unit) (body : Act σ ι A W D α) : Act σ ι A W D α := fun s =>
  match body s with
  | .ok a s => .ok a s
  | .error fault s =>
    match cleanup s with
    | .ok _ s => .error fault s
    | .error _ s => .error fault s

end Act

end Mosaic
