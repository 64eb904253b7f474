import Mosaic.Rehearsal.Algorithm
import Mosaic.Rehearsal.Request

/-!
# Trials

A trial tries one thing out without a compositor around it: a partition, a headless
display, or a registry of algorithms.

## Main definitions

* `PartitionTrial.run` — lets a partition split pictures and place pointer events
* `DisplayTrial.run` — lets a headless display work
* `RegistryTrial.run` — registers algorithms and makes some
-/

set_option autoImplicit false

namespace Mosaic

namespace PartitionTrial

/-- What a partition is asked. -/
inductive Step where
  | filter (picture : PictureRequest)
  | locate (index : Nat) (event : MouseEvent)
  | size (format : VideoFormat) (placement : Placement)
deriving DecidableEq, Repr

/-- What it answers. -/
inductive Result where
  | broken (fault : Fault)
  /-- The parts; whether all of them are new handles on the pixels of the picture; and the holds
  left on the picture itself, one of which is the holder's own. -/
  | parts (slots : List (Option Sighting)) (shared : Bool) (holds : Nat)
  | located (event : Option MouseEvent)
  | size (size : Size)
deriving DecidableEq

/-- Splits a picture of which a second hold is kept. -/
def split (b : Builtin) (request : PictureRequest) : Result :=
  let (picture, ledger) := Ledger.empty.make request
  match b.split picture (ledger.retain picture) with
  | .error fault => .broken fault
  | .ok (slots, ledger) =>
    let ledger := ledger.release picture
    let shared := (slots.filterMap id).all fun part =>
      decide (part.SharesPixels picture) && !decide (part.SameAs picture)
    .parts (slots.map (Option.map ledger.sight)) shared (ledger.holds picture)

/-- The answer of a partition. -/
def answer (b : Builtin) : Step → Result
  | .filter picture => split b picture
  | .locate index event => .located (b.locate index event)
  | .size format placement => .size (placement.sizeFor format)

/-- The outputs of a partition and its answers, unless there is no such partition. -/
def run (name : String) (source : VideoFormat) (options : List (String × Json.Value))
    (steps : List Step) :
    Option (Except Fault (Except Cause (List Output × List Result))) :=
  ([BuiltinName.clone, .wall].find? fun b => b.text = name).map fun b =>
    (b.create source { SplitSettings.withAlgorithm name with options := options }).map fun made =>
      made.map fun partition => (partition.outputs, steps.map (answer partition))

end PartitionTrial

namespace DisplayTrial

/-- What a display is asked. -/
inductive Step where
  | prepare (picture : PictureRequest) (overlay : Option (List OverlayRequest)) (date : Tick)
  | display (picture : PictureRequest)
  | control (query : ControlQuery)
  | setSize (size : Size)
  | close
deriving DecidableEq, Repr

/-- What shows after a step: the answer to a query, the display, and what was said. -/
structure Entry where
  answer : Option (Except DisplayError Unit)
  display : HeadlessDisplay
  notices : List Notice

/-- Lets a display take one step. -/
def act (d : HeadlessDisplay) :
    Step → Run Unit Notice (Option (Except DisplayError Unit) × HeadlessDisplay)
  | .prepare picture overlay date => do
    let picture ← Run.onLedger fun l => l.make picture
    let overlay ← match overlay with
      | none => pure none
      | some elements => some <$> Run.onLedger fun l => l.makeOverlay elements
    return (none, ← d.prepare picture overlay date)
  | .display _ => return (none, ← d.display)
  | .control query => do
    let (answer, d) ← d.control query
    return (some answer, d)
  | .setSize size => do
    let (_, d) ← d.control (.displaySize size)
    return (none, d)
  | .close => return (none, ← d.close)

/-- The entries of several steps. What was said while the display was made belongs to the first. -/
def entries (d : HeadlessDisplay) (said : List Notice) : List Step → List Entry
  | [] => []
  | step :: rest =>
    match act d step ⟨(), .empty, said.reverse⟩ with
    | .error _ _ => []
    | .ok (answer, d) w => ⟨answer, d, w.history⟩ :: entries d [] rest

/-- The entries of the steps of a new display. -/
def run (name : String) (format : VideoFormat) (size : Size) (steps : List Step) : List Entry :=
  match (HeadlessDisplay.create name format size : Run Unit Notice _) ⟨(), .empty, []⟩ with
  | .error _ _ => []
  | .ok d w => entries d w.history steps

end DisplayTrial

namespace RegistryTrial

/-- What a registry is asked: to take an algorithm in, and to make one for a source. -/
structure Step where
  register : Option (String × AlgorithmScript)
  resolve : Option String
  source : VideoFormat
deriving DecidableEq, Repr

/-- What shows after a step; `made` is the number of outputs of the algorithm that was made. -/
structure Entry where
  names : List String
  inspected : String
  made : Option (Except Cause Nat)

/-- The registry of a trial. -/
abbrev Entries := Registry (Constructor Bench Notice Algorithm)

/-- Makes an algorithm, if it is known. -/
def make (r : Entries) (source : VideoFormat) (name : String) :
    Except Fault (Option (Except Cause Nat)) :=
  match r.resolve? name with
  | none => .ok none
  | some construct =>
    match construct source .standard ⟨.empty, .empty, []⟩ with
    | .error fault _ => .error fault
    | .ok made _ => .ok (some (made.map fun a => a.outputs.length))

/-- The entries of several steps. -/
def entries (r : Entries) : List Step → Except Fault (List Entry)
  | [] => .ok []
  | step :: rest => do
    let r := match step.register with
      | some (name, script) => r.register name (Algorithm.ofScript script)
      | none => r
    let made ← match step.resolve with
      | some name => make r step.source name
      | none => pure none
    return ⟨r.names, r.inspect, made⟩ :: (← entries r rest)

/-- The entries of the steps of a registry, which has the algorithms at hand or is empty. -/
def run (builtins : Bool) (steps : List Step) : Except Fault (List Entry) :=
  entries (if builtins then Algorithm.builtins else .empty) steps

end RegistryTrial

end Mosaic
