import Mosaic.Pattern.Cursor
import Mosaic.Pattern.Tree

/-!
# Atoms of written patterns

A backslash gives the character after it another meaning: it takes the meaning
away from a mark, names a character by its code point, a set of characters or a
place, and before any other letter it is an error, so that letters stay free.

## Main definitions

* `Pattern.readEscape` — what a backslash begins
* `Pattern.readAtom` — a smallest part of a pattern
-/

set_option autoImplicit false

namespace Mosaic.Pattern

open Reading

/-- Whether a character may be escaped to stand for itself: any basic character that is no
letter, no digit and not one of the two angles. -/
def isEscapable (c : Char) : Bool := c.toNat < 0x80 && !c.isAlphanum && c != '<' && c != '>'

/-- The control characters with a letter. -/
def controls : List (Char × Char) :=
  [('a', '\x07'), ('f', '\x0c'), ('t', '\t'), ('n', '\n'), ('r', '\r'), ('v', '\x0b')]

/-- The sets of characters with a letter; the capital letter stands for all other characters. -/
def shorthands : List (Char × Shorthand) := [('d', .digit), ('s', .space), ('w', .word)]

/-- The places with a letter. -/
def anchors : List (Char × Anchor) :=
  [('A', .textStart), ('z', .textEnd), ('b', .edge .boundary), ('B', .edge .inside),
    ('<', .edge .start), ('>', .edge .stop)]

/-- The places around words with a name. -/
def edges : List (String × WordEdge) :=
  [("start", .start), ("end", .stop), ("start-half", .startHalf), ("end-half", .stopHalf)]

/-- What a table has for a key. -/
def lookUp {α β : Type} [BEq α] (key : α) (table : List (α × β)) : Option β :=
  (table.find? fun entry => entry.1 == key).map Prod.snd

/-- The value of a digit in base sixteen. -/
def hexValue? (c : Char) : Option Nat :=
  if c.isDigit then some (c.toNat - 0x30)
  else if 'a' ≤ c ∧ c ≤ 'f' then some (c.toNat - 0x57)
  else if 'A' ≤ c ∧ c ≤ 'F' then some (c.toNat - 0x37)
  else none

/-- The character with a code point that is written in base sixteen. -/
def charOfHex? (digits : List Char) : Option Char :=
  let code := digits.foldl (fun n c => 16 * n + (hexValue? c).getD 0) 0
  if Nat.isValidChar code then some (Char.ofNat code) else none

/-- So many digits in base sixteen. -/
def hexDigits : Nat → Reading (List Char)
  | 0 => return []
  | n + 1 => do
    let c ← get
    match c.rest with
    | [] => fail .escapeEnd c.here
    | a :: _ =>
      if (hexValue? a).isNone then fail .hexDigit c.next
      modify Cursor.step
      let more ← hexDigits n
      return a :: more

/-- The digits in base sixteen from the character after the cursor up to a closing brace. -/
def hexUpToBrace : Nat → Reading (List Char)
  | 0 => return []
  | fuel + 1 => do
    modify Cursor.step
    let c ← get
    match c.rest with
    | [] | '\x7d' :: _ => return []
    | a :: _ =>
      if (hexValue? a).isNone then fail .hexDigit c.next
      let more ← hexUpToBrace fuel
      return a :: more

/-- A character by its code point; the cursor is at the letter that tells how many digits follow
if there are no braces. -/
def readHex (start : Place) (length : Nat) : Reading Literal := do
  if !(← step) then fail .escapeEnd (← get).here
  let c ← get
  if c.rest.head? = some '\x7b' then
    let digits ← hexUpToBrace c.rest.length
    let stop ← get
    if stop.atEnd then fail .escapeEnd (stop.since c.place)
    modify Cursor.step
    if digits.isEmpty then fail .hexEmpty (← since c.place)
    match charOfHex? digits with
    | none => fail .hexNoCharacter (stop.since c.bump.place)
    | some a => return ⟨← since start, a, false⟩
  else
    let digits ← hexDigits length
    match charOfHex? digits with
    | none => fail .hexNoCharacter (← since c.place)
    | some a => return ⟨← since start, a, length == 2⟩

/-- The characters from the one after the cursor up to a closing brace. -/
def nameUpToBrace : Nat → Reading (List Char)
  | 0 => return []
  | fuel + 1 => do
    modify Cursor.step
    match (← get).rest with
    | [] | '\x7d' :: _ => return []
    | a :: _ =>
      let more ← nameUpToBrace fuel
      return a :: more

/-- A set of characters by a property; the cursor is at the letter. -/
def readProperty (start : Place) : Reading Symbol := do
  if !(← step) then fail .escapeEnd (← get).here
  let c ← get
  match c.rest with
  | '\x7b' :: _ =>
    let name ← nameUpToBrace c.rest.length
    if (← get).atEnd then fail .escapeEnd (← get).here
    bump
    return .property (← since start) name
  | '\\' :: _ => fail .propertyName c.next
  | a :: _ =>
    modify Cursor.step
    return .property (← since start) [a]
  | [] => fail .escapeEnd c.here

/-- The place around a word that braces after `\b` name. Braces that begin with no letter belong
to a repetition and are left alone. -/
def readEdge (start : Place) : Reading (Option WordEdge) := do
  let isLetter (c : Char) : Bool := c.isAlpha || c == '-'
  let opened ← get
  if !(← step) then fail .edgeEnd (← since start)
  let inside ← get
  if inside.rest.head?.all fun c => !isLetter c then
    set opened
    return none
  let name ← collect isLetter
  let stop ← get
  if stop.rest.head? ≠ some '\x7d' then fail .edgeOpen (stop.since opened.place)
  bump
  match lookUp (String.ofList name) edges with
  | none => fail .edgeUnknown (stop.since inside.place)
  | some edge => return some edge

/-- A place; the cursor is after its letter. -/
def readAnchor (start : Place) (anchor : Anchor) : Reading Atom := do
  let span ← since start
  if anchor = .edge .boundary ∧ (← get).rest.head? = some '\x7b' then
    match ← readEdge start with
    | some edge => return .anchor (← since start) (.edge edge)
    | none => return .anchor span anchor
  else return .anchor span anchor

/-- What a backslash begins. -/
def readEscape : Reading Atom := do
  let start := (← get).place
  bump
  let c ← get
  match c.rest with
  | [] => fail .escapeEnd (c.since start)
  | a :: _ =>
    if a.isDigit then fail .backReference ⟨start, c.bump.place⟩
    else if a = 'x' then return .symbol (.literal (← readHex start 2))
    else if a = 'u' then return .symbol (.literal (← readHex start 4))
    else if a = 'U' then return .symbol (.literal (← readHex start 8))
    else if a = 'p' ∨ a = 'P' then return .symbol (← readProperty start)
    else
      bump
      let span ← since start
      match lookUp a.toLower shorthands, lookUp a controls, lookUp a anchors with
      | some kind, _, _ => return .symbol (.shorthand span kind a.isUpper)
      | none, some control, _ => return .symbol (.literal ⟨span, control, false⟩)
      | none, none, some anchor => readAnchor start anchor
      | none, none, none =>
        if isEscapable a then return .symbol (.literal ⟨span, a, false⟩)
        else fail .escapeUnknown span

/-- The next character, standing for itself. -/
def readLiteral (a : Char) : Reading Atom := do
  let span := (← get).next
  bump
  return .symbol (.literal ⟨span, a, false⟩)

/-- A smallest part of a pattern that begins with a character. -/
def readAtom (a : Char) : Reading Atom := do
  let span := (← get).next
  match a with
  | '\\' => readEscape
  | '.' =>
    bump
    return .dot span
  | '^' =>
    bump
    return .anchor span .lineStart
  | '$' =>
    bump
    return .anchor span .lineEnd
  | _ => readLiteral a

end Mosaic.Pattern
