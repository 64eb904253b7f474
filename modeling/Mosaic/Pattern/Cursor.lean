import Mosaic.Pattern.Fault

/-!
# Reading a written pattern

A cursor is what is left of a written pattern, the place where it begins and what
has to be known of the part before it. In a verbose stretch blanks and remarks
mean nothing, so there is a step to the next character and a step to the next
character that means something.

## Main definitions

* `Pattern.Cursor` — what is left of a written pattern
* `Cursor.bump`, `Cursor.step` — past one character, and past the gap after it
* `Pattern.Reading` — an action that reads a part of a pattern
-/

set_option autoImplicit false

namespace Mosaic.Pattern

/-- What is left of a written pattern. -/
structure Cursor where
  rest : List Char
  place : Place
  /-- Whether blanks and remarks mean nothing. -/
  verbose : Bool
  /-- The names of the groups before, and where they stand. -/
  names : List (String × Span)

/-- Past blanks and remarks, from within a remark or not. A remark goes from `#` to the end of
its line. -/
def pastGap : Bool → Place → List Char → Place × List Char
  | _, p, [] => (p, [])
  | true, p, c :: rest => pastGap (c != '\n') (p.after c) rest
  | false, p, c :: rest =>
    if Text.isBlank c then pastGap false (p.after c) rest
    else if c = '#' then pastGap true (p.after c) rest
    else (p, c :: rest)

namespace Cursor

/-- The start of a written pattern. -/
def ofText (s : String) : Cursor := ⟨s.toList, ⟨1, 1⟩, false, []⟩

/-- Whether nothing is left. -/
def atEnd (c : Cursor) : Bool := c.rest.isEmpty

/-- Past the next character. -/
def bump (c : Cursor) : Cursor :=
  match c.rest with
  | [] => c
  | a :: rest => { c with rest := rest, place := c.place.after a }

/-- Past so many characters. -/
def bumps : Nat → Cursor → Cursor
  | 0, c => c
  | n + 1, c => bumps n c.bump

/-- Past what means nothing. -/
def skipGap (c : Cursor) : Cursor :=
  if c.verbose then
    let (place, rest) := pastGap false c.place c.rest
    { c with place := place, rest := rest }
  else c

/-- Past the next character and the gap after it. -/
def step (c : Cursor) : Cursor := c.bump.skipGap

/-- Past blanks, whether they mean something or not. -/
def skipBlanks (c : Cursor) : Cursor :=
  bumps (c.rest.takeWhile Text.isBlank).length c

/-- The stretch without a character at the cursor. -/
def here (c : Cursor) : Span := .point c.place

/-- The stretch of the next character. -/
def next (c : Cursor) : Span := ⟨c.place, c.bump.place⟩

/-- The stretch from a place up to the cursor. -/
def since (start : Place) (c : Cursor) : Span := ⟨start, c.place⟩

/-- The character after the next one. -/
def peek (c : Cursor) : Option Char := c.rest.tail.head?

/-- The character after the next one and the gap after it. Of a remark only its mark is passed
over. -/
def peekPastGap (c : Cursor) : Option Char :=
  if c.verbose then
    let found :=
      match c.rest.tail.dropWhile Text.isBlank with
      | '#' :: rest => rest.dropWhile Text.isBlank
      | rest => rest
    if found.isEmpty then c.peek else found.head?
  else c.peek

/-- Past a text if it comes next. -/
def past? (text : String) (c : Cursor) : Option Cursor :=
  if text.toList.isPrefixOf c.rest then some (bumps text.length c) else none

/-- The characters from the cursor on that are to be kept, gaps between them left out. -/
def collect (keep : Char → Bool) : Nat → Cursor → List Char × Cursor
  | 0, c => ([], c)
  | fuel + 1, c =>
    match c.rest with
    | [] => ([], c)
    | a :: _ =>
      if keep a then
        let (more, last) := collect keep fuel c.step
        (a :: more, last)
      else ([], c)

end Cursor

/-- An action that reads a part of a pattern. -/
abbrev Reading (α : Type) := StateT Cursor (Except Fault) α

namespace Reading

/-- Refuses the pattern. -/
def fail {α : Type} (trouble : Trouble) (span : Span) : Reading α :=
  throw ⟨trouble, span, none⟩

/-- Refuses the pattern for what collides with an earlier stretch. -/
def collide {α : Type} (trouble : Trouble) (span rival : Span) : Reading α :=
  throw ⟨trouble, span, some rival⟩

/-- Past the next character. -/
def bump : Reading Unit := modify Cursor.bump

/-- Past the next character and the gap after it; tells whether anything is left. -/
def step : Reading Bool := do
  modify Cursor.step
  return !(← get).atEnd

/-- The stretch from a place up to the cursor. -/
def since (start : Place) : Reading Span := return (← get).since start

/-- The characters from the cursor on that are to be kept, gaps between them left out. -/
def collect (keep : Char → Bool) : Reading (List Char) := do
  let c ← get
  let (found, last) := Cursor.collect keep c.rest.length c
  set last
  return found

end Reading

end Mosaic.Pattern
