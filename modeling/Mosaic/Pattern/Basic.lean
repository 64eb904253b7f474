import Mosaic.Pattern.CharSet

/-!
# Patterns

A pattern says what a piece of a text looks like. It is read here as a
transformer of marks: a text with some of its places marked goes in, and marked
afterwards are the places where a piece that looks so can end if it starts at a
mark. Whether a pattern occurs in a text is then one run with every place marked.

The marks of a repetition need no more rounds than there are places: a round
moves a mark forward or leaves it where it is.

## Main definitions

* `Look` — what must hold at a place
* `Pattern` — what a piece of a text looks like
* `Pattern.run` — where pieces end
* `Pattern.occursIn` — whether a text has such a piece
-/

set_option autoImplicit false

namespace Mosaic

/-- A place in a text: what stands before and after it. -/
structure Spot where
  before : Option Char
  after : Option Char
deriving DecidableEq, Repr

/-- The places of a text, the one before its first character included. -/
def spotsFrom (before : Option Char) : List Char → List Spot
  | [] => [⟨before, none⟩]
  | c :: rest => ⟨before, some c⟩ :: spotsFrom (some c) rest

/-- What a place may be to the words around it. -/
inductive WordEdge where
  | boundary
  | inside
  | start
  | stop
  | startHalf
  | stopHalf
deriving DecidableEq, Repr

/-- What must hold at a place. -/
inductive Look where
  | textStart
  | textEnd
  | lineStart
  | lineEnd
  /-- A line may also end in a carriage return, alone or before a line feed. -/
  | lineStartWide
  | lineEndWide
  /-- Words consist of basic letters, digits and low lines. -/
  | edge (e : WordEdge)
  /-- Words consist of the letters of all scripts; what those are is not known here. -/
  | unknownEdge
deriving DecidableEq, Repr

/-- Whether a character belongs to a word. -/
def isWordChar (c : Char) : Bool := c.isAlphanum || c == '_'

/-- Whether a place is what it should be to the words around it. -/
def WordEdge.holds (e : WordEdge) (spot : Spot) : Bool :=
  let left := spot.before.any isWordChar
  let right := spot.after.any isWordChar
  match e with
  | boundary => left != right
  | inside => left == right
  | start => !left && right
  | stop => left && !right
  | startHalf => !left
  | stopHalf => !right

/-- Whether something holds at a place. -/
def Look.holds (look : Look) (spot : Spot) : Bool :=
  match look with
  | textStart => spot.before.isNone
  | textEnd => spot.after.isNone
  | lineStart => spot.before.all fun c => c == '\n'
  | lineEnd => spot.after.all fun c => c == '\n'
  | lineStartWide =>
    spot.before.all fun c => c == '\n' || (c == '\r' && spot.after != some '\n')
  | lineEndWide =>
    spot.after.all fun c => c == '\r' || (c == '\n' && spot.before != some '\r')
  | edge e => e.holds spot
  | unknownEdge => false

/-- What a piece of a text looks like. -/
inductive Pattern where
  | empty
  | one (s : CharSet)
  | look (l : Look)
  | group (p : Pattern)
  | seq (p q : Pattern)
  | alt (p q : Pattern)
  /-- So many pieces one after the other, without a limit if there is no greatest number. -/
  | times (p : Pattern) (least : Nat) (most : Option Nat)
deriving DecidableEq, Repr

/-- Which places of a text are marked. -/
abbrev Marks := List Bool

namespace Marks

/-- The places with a mark of one or the other kind. -/
def union (m n : Marks) : Marks := List.zipWith (· || ·) m n

/-- So many rounds. -/
def rounds (step : Marks → Marks) : Nat → Marks → Marks
  | 0, m => m
  | n + 1, m => rounds step n (step m)

/-- Up to so many rounds; stops when a round marks nothing new. -/
def growing (step : Marks → Marks) : Nat → Marks → Marks
  | 0, m => m
  | n + 1, m =>
    let more := m.union (step m)
    if more == m then m else growing step n more

end Marks

namespace Pattern

/-- The places where a piece can end that starts at a mark. -/
def run (spots : List Spot) : Pattern → Marks → Marks
  | empty, m => m
  | one s, m =>
    false :: (List.zipWith (fun spot mark => mark && spot.after.any s.contains) spots m).dropLast
  | look l, m => List.zipWith (fun spot mark => mark && l.holds spot) spots m
  | group p, m => run spots p m
  | seq p q, m => run spots q (run spots p m)
  | alt p q, m => (run spots p m).union (run spots q m)
  | times p least none, m =>
    Marks.growing (run spots p) spots.length
      (Marks.rounds (run spots p) (Nat.min least spots.length) m)
  | times p least (some most), m =>
    Marks.growing (run spots p) (Nat.min (most - least) spots.length)
      (Marks.rounds (run spots p) (Nat.min least spots.length) m)

/-- Whether a text has a piece that looks like a pattern. -/
def occursIn (p : Pattern) (text : String) : Bool :=
  let spots := spotsFrom none text.toList
  (p.run spots (spots.map fun _ => true)).any id

/-- Whether only the empty piece looks like a pattern. -/
def onlyEmpty : Pattern → Bool
  | empty => true
  | one _ => false
  | look _ => true
  | group p => p.onlyEmpty
  | seq p q => p.onlyEmpty && q.onlyEmpty
  | alt p q => p.onlyEmpty && q.onlyEmpty
  | times p _ most => most.isSome && p.onlyEmpty

/-- Whether the empty piece looks like a pattern somewhere. -/
def allowsEmpty : Pattern → Bool
  | empty => true
  | one s => s.isEmpty
  | look _ => true
  | group p => p.allowsEmpty
  | seq p q => p.allowsEmpty && q.allowsEmpty
  | alt p q => p.allowsEmpty || q.allowsEmpty
  | times p least _ => least == 0 || p.allowsEmpty

/-- A repetition in its simplest form: the empty piece need not be repeated, no piece at all is
the empty one, and one piece is the piece itself. -/
def repeated (p : Pattern) (least : Nat) (most : Option Nat) : Pattern :=
  let least := if p.onlyEmpty then Nat.min least 1 else least
  let most := if p.onlyEmpty then some (Nat.min (most.getD 1) 1) else most
  if least = 0 ∧ most = some 0 then empty
  else if least = 1 ∧ most = some 1 then p
  else times p least most

/-- Whether a pattern asks for edges of words that are not known. -/
def needsLetters : Pattern → Bool
  | empty | one _ => false
  | look l => l == .unknownEdge
  | group p => p.needsLetters
  | seq p q | alt p q => p.needsLetters || q.needsLetters
  | times p _ _ => p.needsLetters

theorem occursIn_empty (text : String) : empty.occursIn text = true := by
  unfold occursIn
  cases text.toList <;> simp [spotsFrom, run]

end Pattern

end Mosaic
