import Mosaic.Pattern.Escape

/-!
# Square brackets in written patterns

Between square brackets stand characters, ranges of them and further brackets.
Two equal marks join what stands before and after them; joins have one rank and
the left one binds first. What is open is kept on a stack, the innermost first.

## Main definitions

* `Pattern.OpenClass` — a bracket that is not closed, or a join without its right side
* `Pattern.readBracket` — a whole bracket
-/

set_option autoImplicit false

namespace Mosaic.Pattern

open Reading

/-- The parts of a bracket that were read, the last one first. -/
structure ClassDraft where
  span : Span
  items : List ClassTree

namespace ClassDraft

/-- No parts yet. -/
def start (p : Place) : ClassDraft := ⟨.point p, []⟩

/-- One more part. -/
def push (d : ClassDraft) (item : ClassTree) : ClassDraft :=
  ⟨⟨if d.items.isEmpty then item.span.start else d.span.start, item.span.stop⟩, item :: d.items⟩

/-- The parts as one. -/
def tree (d : ClassDraft) : ClassTree :=
  match d.items with
  | [] => .nothing d.span
  | [item] => item
  | items => .union d.span items.reverse

end ClassDraft

/-- What waits for its end. -/
inductive OpenClass where
  /-- A bracket, with what stands before it in the bracket around it. -/
  | bracket (outer : ClassDraft) (span : Span) (negated : Bool)
  | join (kind : ClassJoin) (left : ClassTree)

/-- Where the innermost open bracket begins. -/
def openSpan? : List OpenClass → Option Span
  | [] => none
  | .bracket _ span _ :: _ => some span
  | .join _ _ :: rest => openSpan? rest

/-- Refuses a pattern that ends inside brackets. -/
def failOpen {α : Type} (open_ : List OpenClass) : Reading α := do
  fail .classOpen ((openSpan? open_).getD (← get).here)

/-- What a join makes of its left side, if one waits. -/
def finishJoin (item : ClassTree) : List OpenClass → ClassTree × List OpenClass
  | .join kind left :: rest => (.joined ⟨left.span.start, item.span.stop⟩ kind left item, rest)
  | open_ => (item, open_)

/-- Minus signs at the start of a bracket stand for themselves. -/
def leadingMinuses (start : Place) : Nat → ClassDraft → Reading ClassDraft
  | 0, d => return d
  | fuel + 1, d => do
    let c ← get
    if c.rest.head? = some '-' then
      if !(← step) then fail .classOpen (.point start)
      leadingMinuses start fuel (d.push (.symbol (.literal ⟨c.next, '-', false⟩)))
    else return d

/-- The start of a bracket: whether it is negated, and the characters that stand for themselves
only there. -/
def readOpening : Reading (Span × Bool × ClassDraft) := do
  let start := (← get).place
  if !(← step) then fail .classOpen (← since start)
  let negated := (← get).rest.head? = some '^'
  if negated then
    if !(← step) then fail .classOpen (← since start)
  let c ← get
  let draft ← leadingMinuses start c.rest.length (.start c.place)
  let d ← get
  if draft.items.isEmpty ∧ d.rest.head? = some ']' then
    if !(← step) then fail .classOpen (← since start)
    return (← since start, negated, draft.push (.symbol (.literal ⟨d.next, ']', false⟩)))
  else return (← since start, negated, draft)

/-- A named set of basic characters, as in `[:alpha:]`. What is none is left alone. -/
def readNamed? : Reading (Option ClassTree) := do
  let c ← get
  match c.past? "[:" with
  | none => return none
  | some inside =>
    let negated := inside.rest.head? = some '^'
    let inside := if negated then inside.bump else inside
    let name := inside.rest.takeWhile fun a => a != ':'
    match (inside.bumps name.length).past? ":]", NamedClass.ofName? (String.ofList name) with
    | some rest, some kind =>
      set rest
      return some (.named (rest.since c.place) kind negated)
    | _, _ => return none

/-- A character or a set of characters inside a bracket. -/
def readClassAtom : Reading Atom := do
  match (← get).rest with
  | '\\' :: _ => readEscape
  | a :: _ => readLiteral a
  | [] => fail .classOpen (← get).here

/-- An end of a range: it must be a character. -/
def rangeEnd : Atom → Reading Literal
  | .symbol (.literal l) => return l
  | atom => fail .classRangeEnd atom.span

/-- A part of a bracket: a character, a set, or all characters between two. -/
def readRange (open_ : List OpenClass) : Reading ClassTree := do
  let first ← readClassAtom
  modify Cursor.skipGap
  let c ← get
  if c.atEnd then failOpen open_
  if c.rest.head? ≠ some '-' ∨ c.peekPastGap = some ']' ∨ c.peekPastGap = some '-' then
    match first with
    | .symbol s => return .symbol s
    | atom => fail .classEscape atom.span
  else
    if !(← step) then failOpen open_
    let last ← readClassAtom
    let span : Span := ⟨first.span.start, last.span.stop⟩
    let low ← rangeEnd first
    let high ← rangeEnd last
    if high.char < low.char then fail .classRangeOrder span
    return .range span low high

/-- The join that two equal marks stand for. -/
def joinOf? : List Char → Option ClassJoin
  | '&' :: '&' :: _ => some .intersection
  | '-' :: '-' :: _ => some .difference
  | '~' :: '~' :: _ => some .symmetricDifference
  | _ => none

/-- A bracket from within: what is open, and what was read of the innermost bracket. -/
def readInside : Nat → List OpenClass → ClassDraft → Reading Tree
  | 0, open_, _ => failOpen open_
  | fuel + 1, open_, draft => do
    modify Cursor.skipGap
    let c ← get
    match c.rest, joinOf? c.rest with
    | [], _ => failOpen open_
    | _, some kind =>
      modify (Cursor.bumps 2)
      let (left, open_) := finishJoin draft.tree open_
      readInside fuel (.join kind left :: open_) (.start (← get).place)
    | '[' :: _, none =>
      match ← (if open_.isEmpty then pure none else readNamed?) with
      | some named => readInside fuel open_ (draft.push named)
      | none =>
        let (span, negated, inner) ← readOpening
        readInside fuel (.bracket draft span negated :: open_) inner
    | ']' :: _, none =>
      match finishJoin draft.tree open_ with
      | (inner, .bracket outer span negated :: rest) =>
        bump
        let span ← since span.start
        if rest.isEmpty then return .bracket span negated inner
        else readInside fuel rest (outer.push (.bracket span negated inner))
      | (_, open_) => failOpen open_
    | _ :: _, none =>
      let item ← readRange open_
      readInside fuel open_ (draft.push item)

/-- A whole bracket. -/
def readBracket : Reading Tree := do
  let c ← get
  readInside (c.rest.length + 1) [] (.start c.place)

end Mosaic.Pattern
