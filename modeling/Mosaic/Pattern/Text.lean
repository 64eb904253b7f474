import Mosaic.Pattern.Meaning
import Mosaic.Pattern.Reader

/-!
# Patterns as texts

A text is read as a pattern in three steps: its tree, the meaning of the tree, and
a look at the pattern itself, which must not be too heavy. Repetitions are counted
out for the weight, so a short text may be a heavy pattern.

## Main definitions

* `Pattern.weight` — how much memory a pattern takes
* `Pattern.Defect` — why a text is no pattern
* `Pattern.ofText` — the pattern that a text describes
-/

set_option autoImplicit false

namespace Mosaic

namespace Pattern

/-! ## The weight of a pattern -/

/-- What one state weighs. -/
def stateWeight : Nat := 32

/-- What one way on from a state weighs. -/
def linkWeight : Nat := 4

/-- The number of bytes of the character with a rank. -/
def byteCount (rank : Nat) : Nat :=
  if rank < 0x80 then 1 else if rank < 0x800 then 2 else if rank < 0xf800 then 3 else 4

/-- What a set of characters weighs. A single character takes a state for each of its bytes, basic
characters take one state with a range each and one after it, and all others about as much as the
set of all characters takes. -/
def setWeight (s : CharSet) : Nat :=
  let count := s.ranges.length
  let lone := s.ranges.find? fun range => range.1 == range.2
  match count, lone with
  | 0, _ => stateWeight
  | 1, some range => stateWeight * byteCount range.1
  | _, _ =>
    if s.isAscii then 2 * stateWeight + 2 * linkWeight * count
    else 9 * stateWeight + 2 * linkWeight * (count + 15)

/-- Whether a pattern is a choice. -/
def isChoice : Pattern → Bool
  | alt _ _ => true
  | _ => false

/-- How much memory a pattern takes. -/
def weight : Pattern → Nat
  | empty => stateWeight
  | one s => setWeight s
  | look _ => stateWeight
  | group p => p.weight + 2 * stateWeight
  | seq p q => p.weight + q.weight
  | alt p q =>
    p.weight + q.weight + linkWeight +
      if q.isChoice then 0 else linkWeight + 2 * stateWeight
  | times p least none =>
    if least = 0 then
      if p.allowsEmpty then p.weight + 3 * stateWeight + 4 * linkWeight
      else p.weight + stateWeight + 2 * linkWeight
    else least * p.weight + stateWeight + 2 * linkWeight
  | times p least (some most) =>
    if least = most then least * p.weight
    else if least = 0 ∧ most = 1 then p.weight + 2 * stateWeight + 2 * linkWeight
    else
      (if least = 0 then stateWeight else least * p.weight) + stateWeight +
        (most - least) * (p.weight + stateWeight + 2 * linkWeight)

/-- What a pattern weighs beside its parts. -/
def frameWeight : Nat := 6 * stateWeight

/-- The greatest weight of a pattern. -/
def weightLimit : Nat := 0xa00000

/-! ## Reading a pattern -/

/-- Why a text is no pattern. -/
inductive Defect where
  | fault (f : Fault)
  | tooHeavy
  /-- The edges of words need the letters of all scripts. -/
  | lettersUnknown
deriving DecidableEq, Repr

/-- How a defect of a text is told. -/
def Defect.message (text : String) : Defect → String
  | fault f => f.report text
  | tooHeavy => s!"Compiled regex exceeds size limit of {weightLimit} bytes."
  | lettersUnknown => "error building NFA"

/-- The pattern that a text describes. -/
def ofText (text : String) : Except Defect Pattern := do
  let tree ← (Tree.ofText text).mapError .fault
  let (p, _) ← (tree.meaning {}).mapError .fault
  if weightLimit < p.weight + frameWeight then throw .tooHeavy
  if p.needsLetters then throw .lettersUnknown
  return p

end Pattern

end Mosaic
