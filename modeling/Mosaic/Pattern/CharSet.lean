/-!
# Sets of characters

A set of characters is a list of ranges of ranks, sorted and with gaps between
them. The rank of a character counts the characters before it, so the two
characters around the surrogates are neighbours and every set has one list.

A set also knows whether it is closed under change of case, as far as this can be
told without a table of cases: the empty set and the set of all characters are
closed, and what is made of closed sets is closed.

## Main definitions

* `CharSet` — a set of characters
* `insert`, `union`, `inter`, `diff`, `symmDiff`, `compl` — how sets are made
* `foldAscii` — closes a set under change of case of the basic letters
-/

set_option autoImplicit false

namespace Mosaic

/-- The number of characters before a character. -/
def charRank (c : Char) : Nat := if c.toNat < 0xd800 then c.toNat else c.toNat - 0x800

/-- The rank of the last character. -/
def lastRank : Nat := 0x10f7ff

/-- Adds a range to sorted ranges and merges it with those that it touches. -/
def insertRange (low high : Nat) : List (Nat × Nat) → List (Nat × Nat)
  | [] => [(low, high)]
  | (a, b) :: rest =>
    if high + 1 < a then (low, high) :: (a, b) :: rest
    else if b + 1 < low then (a, b) :: insertRange low high rest
    else insertRange (Nat.min low a) (Nat.max high b) rest

/-- The gaps between sorted ranges, from a rank on. -/
def gapsFrom : Nat → List (Nat × Nat) → List (Nat × Nat)
  | low, [] => if low ≤ lastRank then [(low, lastRank)] else []
  | low, (a, b) :: rest =>
    if low < a then (low, a - 1) :: gapsFrom (b + 1) rest else gapsFrom (b + 1) rest

/-- Whether a rank is in one of some ranges. -/
def inRanges (n : Nat) (ranges : List (Nat × Nat)) : Bool :=
  ranges.any fun range => range.1 ≤ n && n ≤ range.2

/-- A set of characters. -/
structure CharSet where
  /-- The ranks of its characters as sorted ranges with gaps between them. -/
  ranges : List (Nat × Nat)
  /-- Whether it is known to be closed under change of case. -/
  closed : Bool
deriving DecidableEq, Repr

namespace CharSet

/-- No character. -/
def empty : CharSet := ⟨[], true⟩

/-- Every character. -/
def full : CharSet := ⟨[(0, lastRank)], true⟩

/-- Whether a set has no character. -/
def isEmpty (s : CharSet) : Bool := s.ranges.isEmpty

/-- Whether a character is in a set. -/
def contains (s : CharSet) (c : Char) : Bool := inRanges (charRank c) s.ranges

/-- Whether a set has basic characters only. -/
def isAscii (s : CharSet) : Bool := s.ranges.all fun range => range.2 < 0x80

/-- Adds the characters between two. -/
def insert (s : CharSet) (first last : Char) : CharSet :=
  ⟨insertRange (charRank first) (charRank last) s.ranges, false⟩

/-- The set of the characters between pairs of characters. -/
def ofPairs (pairs : List (Char × Char)) : CharSet :=
  pairs.foldl (fun s pair => s.insert pair.1 pair.2) empty

/-- The characters in one of two sets. -/
def union (s t : CharSet) : CharSet :=
  if t.isEmpty || s.ranges == t.ranges then s
  else ⟨t.ranges.foldl (fun rs range => insertRange range.1 range.2 rs) s.ranges,
    s.closed && t.closed⟩

/-- The characters that are not in a set. -/
def compl (s : CharSet) : CharSet :=
  if s.isEmpty then full else ⟨gapsFrom 0 s.ranges, s.closed⟩

/-- The characters in both of two sets. -/
def inter (s t : CharSet) : CharSet :=
  if s.isEmpty then s
  else if t.isEmpty then empty
  else
    let outside := t.compl.ranges.foldl (fun rs range => insertRange range.1 range.2 rs)
      s.compl.ranges
    ⟨gapsFrom 0 outside, s.closed && t.closed⟩

/-- The characters in the first of two sets that are not in the second. -/
def diff (s t : CharSet) : CharSet :=
  if s.isEmpty || t.isEmpty then s
  else
    let outside := t.ranges.foldl (fun rs range => insertRange range.1 range.2 rs) s.compl.ranges
    ⟨gapsFrom 0 outside, s.closed && t.closed⟩

/-- The characters in exactly one of two sets. -/
def symmDiff (s t : CharSet) : CharSet := (s.union t).diff (s.inter t)

/-- The part of a range between two ranks, moved by a distance. -/
def shifted (first last : Nat) (move : Nat → Nat) (range : Nat × Nat) : Option (Nat × Nat) :=
  let low := Nat.max first range.1
  let high := Nat.min last range.2
  if low ≤ high then some (move low, move high) else none

/-- Adds the other case of every basic letter in a set. -/
def foldAscii (s : CharSet) : CharSet :=
  let lower := s.ranges.filterMap (shifted 0x41 0x5a (· + 0x20))
  let upper := s.ranges.filterMap (shifted 0x61 0x7a (· - 0x20))
  ⟨(lower ++ upper).foldl (fun rs range => insertRange range.1 range.2 rs) s.ranges, true⟩

theorem charRank_le_lastRank (c : Char) : charRank c ≤ lastRank := by
  have valid := c.valid
  have bounded : c.toNat < 0x110000 := by
    rcases valid with h | ⟨_, h⟩
    · exact Nat.lt_trans h (by decide)
    · exact h
  unfold charRank lastRank
  split <;> omega

theorem contains_full (c : Char) : full.contains c = true := by
  simp [full, contains, inRanges, charRank_le_lastRank c]

end CharSet

end Mosaic
