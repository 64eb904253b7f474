import Mosaic.Partition.Builtin
import Mosaic.Rehearsal.Bench

/-!
# Algorithms of a rehearsal

Besides the algorithms at hand a rehearsal can use a scripted one, which follows a
script for every picture and every pointer event, and a probe, which gives a view
of each output, can be told to fail, and notes on the bench what it is asked.

## Main definitions

* `AlgorithmScript` — what a scripted algorithm is told
* `Algorithm` — an algorithm at hand, a scripted one or a probe
* `Algorithm.partitioner`, `Algorithm.builtins` — the algorithms as a compositor finds them
-/

set_option autoImplicit false

namespace Mosaic

/-- What fills one slot. -/
inductive SlotScript where
  | empty
  /-- The picture itself. -/
  | input
  /-- A view in the format of the output of that slot, or of the picture where there is none. -/
  | view (origin : Origin)
deriving DecidableEq, Repr

/-- What becomes of one picture. -/
inductive FilterScript where
  | fail (cause : Cause)
  | slots (slots : List SlotScript)
  /-- A view at the origin for each output. -/
  | whole
deriving DecidableEq, Repr

/-- What becomes of pointer events. -/
inductive PointerScript where
  /-- They pass as they are. -/
  | pass
  | drop
  | replace (event : MouseEvent)
  /-- Moves are shifted by a multiple of the region; those left of the window are dropped. -/
  | shift (dx dy : Int32)
deriving DecidableEq, Repr

/-- What a scripted algorithm is told. -/
structure AlgorithmScript where
  outputs : List Output
  /-- Why it is not made, if it is not. -/
  refusal : Option Cause
  /-- One script for each picture; the last goes on for good. -/
  filters : List FilterScript
  /-- Whether it holds the parts it gave until it gives others. -/
  keeps : Bool
  pointer : PointerScript
  /-- The size of every region, if it is not for the placement to say. -/
  size : Option Size
deriving DecidableEq, Repr

namespace AlgorithmScript

/-- The script for the picture with a number. -/
def filterAt (s : AlgorithmScript) (call : Nat) : FilterScript :=
  (s.filters[call]? <|> s.filters.getLast?).getD .whole

/-- The format of the views of one slot. -/
def viewFormat (s : AlgorithmScript) (input : Picture) (index : Nat) : VideoFormat :=
  match s.outputs[index]? with
  | some output => output.format
  | none => input.format

/-- Fills slots from one on. -/
def fill (s : AlgorithmScript) (input : Picture) :
    Nat → List SlotScript → Ledger → Except Fault (Slots × Ledger)
  | _, [], l => .ok ([], l)
  | index, .empty :: rest, l => do
    let (slots, l) ← s.fill input (index + 1) rest l
    return (none :: slots, l)
  | index, .input :: rest, l => do
    let (slots, l) ← s.fill input (index + 1) rest (l.retain input)
    return (some input :: slots, l)
  | index, .view origin :: rest, l => do
    let (picture, l) ← l.view input (s.viewFormat input index) origin
    let (slots, l) ← s.fill input (index + 1) rest l
    return (some picture :: slots, l)

/-- Where a pointer event of one region goes. -/
def locate (s : AlgorithmScript) (index : Nat) (event : MouseEvent) : Option MouseEvent :=
  match s.pointer, event with
  | .pass, event => some event
  | .drop, _ => none
  | .replace event, _ => some event
  | .shift dx dy, .moved x y =>
    if x < 0 then none
    else
      let factor := Int32.ofNat index
      some (.moved (x + dx * factor) (y + dy * factor))
  | .shift _ _, event => some event

end AlgorithmScript

/-- A view at the origin for each of some outputs. -/
def viewsOf (outputs : List Output) (input : Picture) (l : Ledger) :
    Except Fault (Slots × Ledger) :=
  l.views input (outputs.map fun output => some (output.format, .zero))

/-- A scripted algorithm at work. -/
structure Scripted where
  script : AlgorithmScript
  /-- The number of pictures split so far. -/
  calls : Nat
  /-- The parts it holds. -/
  kept : List Picture
deriving DecidableEq, Repr

namespace Scripted

variable {σ ι : Type}

/-- Holds the parts of a picture in place of those before. -/
def keep (s : Scripted) (slots : Slots) : Run σ ι Scripted := do
  if s.script.keeps then
    let parts := slots.filterMap id
    Run.modifyLedger fun l => (parts.foldl Ledger.retain l).releaseAll s.kept
    return { s with kept := parts }
  else return s

/-- Splits a picture as the script says. -/
def filter (s : Scripted) (input : Picture) : Run σ ι (Except Cause Slots × Scripted) := do
  let next := { s with calls := s.calls + 1 }
  match s.script.filterAt s.calls with
  | .fail cause =>
    Run.modifyLedger fun l => l.release input
    return (.error cause, next)
  | .slots slots =>
    let slots ← Run.consuming input (s.script.fill input 0 slots)
    return (.ok slots, ← next.keep slots)
  | .whole =>
    let slots ← Run.consuming input (viewsOf s.script.outputs input)
    return (.ok slots, ← next.keep slots)

end Scripted

namespace Probe

variable {ι : Type}

/-- The sum of two coordinates, or a fault if it is no coordinate. -/
def addCoordinates (a b : Int32) : Except Fault Int32 :=
  let sum := a.toInt + b.toInt
  if -0x80000000 ≤ sum ∧ sum < 0x80000000 then .ok (a + b) else .error .addOverflow

/-- How far one region lies to the right of the first, or a fault if it is no coordinate. -/
def regionOffset (index : Nat) : Except Fault Int32 :=
  let offset := 1000 * (Int32.ofNat index).toInt
  if -0x80000000 ≤ offset ∧ offset < 0x80000000 then .ok (Int32.ofInt offset)
  else .error .multiplyOverflow

/-- Where a pointer event of one region goes: the regions lie side by side, a thousand pixels
apart, and moves left of a window are dropped. -/
def locate (index : Nat) : MouseEvent → Except Fault (Option MouseEvent)
  | .moved x y =>
    if x < 0 then .ok none
    else do
      let offset ← regionOffset index
      let x ← addCoordinates x offset
      return some (.moved x y)
  | event => .ok (some event)

/-- Splits a picture as far as the limit goes, unless told to fail. -/
def filter (outputs : List Output) (input : Picture) : Run Bench ι (Except Cause Slots) := do
  Run.modifyEnv fun b => b.modifyProbe fun p => { p with filterCalls := p.filterCalls + 1 }
  let probe := (← Run.env).probe
  if probe.failsFilter then
    Run.modifyLedger fun l => l.release input
    return .error (.ofMessage "out of pictures")
  else
    let count := min (probe.limit.getD outputs.length) outputs.length
    let slots ← Run.consuming input (viewsOf (outputs.take count) input)
    let parts := slots.filterMap id
    Run.modifyLedger fun l => (parts.foldl Ledger.retain l).releaseAll probe.produced
    Run.modifyEnv fun b => b.modifyProbe fun p => { p with produced := parts }
    return .ok slots

/-- Lets go of the parts given last. -/
def forget : Run Bench ι Unit := do
  let produced := (← Run.env).probe.produced
  Run.modifyLedger fun l => l.releaseAll produced
  Run.modifyEnv fun b => b.modifyProbe fun p => { p with produced := [] }

end Probe

/-- The algorithms of a rehearsal. -/
inductive Algorithm where
  | builtin (b : Builtin)
  | scripted (s : Scripted)
  /-- A probe, by its outputs. -/
  | probe (outputs : List Output)
deriving DecidableEq

namespace Algorithm

variable {ι : Type}

/-- The outputs of an algorithm. -/
def outputs : Algorithm → List Output
  | builtin b => b.outputs
  | scripted s => s.script.outputs
  | probe outputs => outputs

/-- The size that an algorithm gives a region. -/
def sizeFor (a : Algorithm) (format : VideoFormat) (placement : Placement) : Size :=
  match a with
  | scripted s => s.script.size.getD (placement.sizeFor format)
  | _ => placement.sizeFor format

/-- Splits a picture. -/
def filter (a : Algorithm) (input : Picture) : Run Bench ι (Except Cause Slots × Algorithm) := do
  match a with
  | builtin b =>
    let (result, b) ← Builtin.partitioner.filter b input
    return (result, builtin b)
  | scripted s =>
    let (result, s) ← s.filter input
    return (result, scripted s)
  | probe outputs => return (← Probe.filter outputs input, probe outputs)

/-- Where a pointer event of one region goes. -/
def locate (a : Algorithm) (index : Nat) (event : MouseEvent) :
    Run Bench ι (Option MouseEvent × Algorithm) := do
  match a with
  | builtin b => return (b.locate index event, a)
  | scripted s => return (s.script.locate index event, a)
  | probe _ => return (← Run.attempt (Probe.locate index event), a)

/-- Lets an algorithm go, with what it holds. -/
def drop : Algorithm → Run Bench ι Unit
  | builtin _ => return
  | scripted s => Run.modifyLedger fun l => l.releaseAll s.kept
  | probe _ => Run.modifyEnv fun b => b.modifyProbe fun p => { p with dropped := p.dropped + 1 }

/-- The algorithms of a rehearsal as a compositor uses them. -/
def partitioner : Partitioner Bench ι Algorithm where
  outputs := outputs
  filter := filter
  locate := locate
  sizeFor := sizeFor
  drop := drop

/-- Makes a scripted algorithm, unless the script says why not. -/
def ofScript (script : AlgorithmScript) : Constructor Bench ι Algorithm := fun _ _ => do
  match script.refusal with
  | some cause => return .error cause
  | none => return .ok (scripted ⟨script, 0, []⟩)

/-- Makes a probe, unless it was told to fail. -/
def ofProbe (outputs : List Output) : Constructor Bench ι Algorithm := fun _ _ => do
  if (← Run.env).probe.failsCreate then
    return .error (.ofMessage "splitter refused the format")
  else
    Run.modifyEnv fun b => b.modifyProbe fun p => { p with created := p.created + 1 }
    return .ok (probe outputs)

/-- The algorithms at hand by name. -/
def builtins : Registry (Constructor Bench ι Algorithm) :=
  Builtin.registry.map fun construct source settings => do
    let result ← construct source settings
    return result.map builtin

end Algorithm

end Mosaic
