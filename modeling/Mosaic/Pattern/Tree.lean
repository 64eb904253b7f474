import Mosaic.Pattern.Basic
import Mosaic.Pattern.Fault

/-!
# Written patterns

The tree of a written pattern keeps what was written and where. What it means
depends on flags that are set on the way, so meaning is given to it afterwards.

## Main definitions

* `Pattern.Symbol` — what stands for one character
* `Pattern.ClassTree` — what stands between square brackets
* `Pattern.Tree` — a whole written pattern
-/

set_option autoImplicit false

namespace Mosaic.Pattern

/-- A character that stands for itself. -/
structure Literal where
  span : Span
  char : Char
  /-- Whether it was written as a byte. -/
  byte : Bool
deriving DecidableEq, Repr

/-- Sets of characters with a letter of their own. -/
inductive Shorthand where
  | digit
  | space
  | word
deriving DecidableEq, Repr

/-- What stands for one character. -/
inductive Symbol where
  | literal (l : Literal)
  | shorthand (span : Span) (kind : Shorthand) (negated : Bool)
  | property (span : Span) (name : List Char)
deriving DecidableEq, Repr

/-- Where a symbol stands. -/
def Symbol.span : Symbol → Span
  | literal l => l.span
  | shorthand span _ _ => span
  | property span _ => span

/-- What must hold at a place, as it is written. -/
inductive Anchor where
  | lineStart
  | lineEnd
  | textStart
  | textEnd
  | edge (e : WordEdge)
deriving DecidableEq, Repr

/-- The smallest parts of a written pattern. -/
inductive Atom where
  | symbol (s : Symbol)
  | dot (span : Span)
  | anchor (span : Span) (a : Anchor)
deriving DecidableEq, Repr

/-- Where an atom stands. -/
def Atom.span : Atom → Span
  | symbol s => s.span
  | dot span => span
  | anchor span _ => span

/-- Sets of basic characters with a name. -/
inductive NamedClass where
  | alnum
  | alpha
  | ascii
  | blank
  | cntrl
  | digit
  | graph
  | lower
  | print
  | punct
  | space
  | upper
  | word
  | xdigit
deriving DecidableEq, Repr

namespace NamedClass

/-- The names of the named sets. -/
def names : List (String × NamedClass) := [
  ("alnum", alnum), ("alpha", alpha), ("ascii", ascii), ("blank", blank), ("cntrl", cntrl),
  ("digit", digit), ("graph", graph), ("lower", lower), ("print", print), ("punct", punct),
  ("space", space), ("upper", upper), ("word", word), ("xdigit", xdigit)]

/-- The set with a name. -/
def ofName? (name : String) : Option NamedClass :=
  (names.find? fun entry => entry.1 == name).map Prod.snd

/-- The characters of a named set, as ranges. -/
def pairs : NamedClass → List (Char × Char)
  | alnum => [('0', '9'), ('A', 'Z'), ('a', 'z')]
  | alpha => [('A', 'Z'), ('a', 'z')]
  | ascii => [('\x00', '\x7f')]
  | blank => [('\t', '\t'), (' ', ' ')]
  | cntrl => [('\x00', '\x1f'), ('\x7f', '\x7f')]
  | digit => [('0', '9')]
  | graph => [('!', '~')]
  | lower => [('a', 'z')]
  | print => [(' ', '~')]
  | punct => [('!', '/'), (':', '@'), ('[', '\x60'), ('\x7b', '~')]
  | space => [('\t', '\r'), (' ', ' ')]
  | upper => [('A', 'Z')]
  | word => [('0', '9'), ('A', 'Z'), ('_', '_'), ('a', 'z')]
  | xdigit => [('0', '9'), ('A', 'F'), ('a', 'f')]

end NamedClass

/-- How two sets are joined between square brackets. -/
inductive ClassJoin where
  | intersection
  | difference
  | symmetricDifference
deriving DecidableEq, Repr

/-- What stands between square brackets. -/
inductive ClassTree where
  | nothing (span : Span)
  | symbol (s : Symbol)
  | range (span : Span) (first last : Literal)
  | named (span : Span) (kind : NamedClass) (negated : Bool)
  | bracket (span : Span) (negated : Bool) (inner : ClassTree)
  | union (span : Span) (items : List ClassTree)
  | joined (span : Span) (join : ClassJoin) (left right : ClassTree)

/-- Where a part of a bracket stands. -/
def ClassTree.span : ClassTree → Span
  | nothing span => span
  | symbol s => s.span
  | range span _ _ => span
  | named span _ _ => span
  | bracket span _ _ => span
  | union span _ => span
  | joined span _ _ _ => span

/-- What changes how the rest of a group is read. -/
inductive Flag where
  | caseless
  | multiLine
  | dotAll
  | lazyFirst
  | unicode
  | wideLines
  | verbose
deriving DecidableEq, Repr

/-- The flag with a letter. -/
def Flag.ofLetter? : Char → Option Flag
  | 'i' => some .caseless
  | 'm' => some .multiLine
  | 's' => some .dotAll
  | 'U' => some .lazyFirst
  | 'u' => some .unicode
  | 'R' => some .wideLines
  | 'x' => some .verbose
  | _ => none

/-- A flag or a minus sign in a list of flags. -/
structure FlagItem where
  span : Span
  /-- The minus sign is no flag. -/
  flag : Option Flag
deriving DecidableEq, Repr

/-- What a list of flags says about one flag: those after the minus sign are switched off. -/
def FlagItem.setting? (flag : Flag) : List FlagItem → Option Bool
  | [] => none
  | item :: rest =>
    match item.flag with
    | none => if rest.any fun other => other.flag = some flag then some false else none
    | some other => if other = flag then some true else setting? flag rest

/-- A written pattern. -/
inductive Tree where
  | empty (span : Span)
  | flags (span : Span) (items : List FlagItem)
  | atom (a : Atom)
  | bracket (span : Span) (negated : Bool) (inner : ClassTree)
  | repeated (span : Span) (least : Nat) (most : Option Nat) (inner : Tree)
  /-- A group; one with flags of its own is not counted among the groups of the pattern. -/
  | group (span : Span) (items : Option (List FlagItem)) (inner : Tree)
  | concat (span : Span) (parts : List Tree)
  | choice (span : Span) (parts : List Tree)

/-- Where a part of a pattern stands. -/
def Tree.span : Tree → Span
  | empty span => span
  | flags span _ => span
  | atom a => a.span
  | bracket span _ _ => span
  | repeated span _ _ _ => span
  | group span _ _ => span
  | concat span _ => span
  | choice span _ => span

/-- Whether a repetition may follow: there must be something to repeat. -/
def Tree.isRepeatable : Tree → Bool
  | empty _ | flags _ _ => false
  | _ => true

/-! ## How deep a pattern may be nested -/

/-- The deepest nesting. -/
def nestLimit : Nat := 250

/-- One level deeper, if that is not too deep. -/
def deeper (span : Span) (depth : Nat) : Except Fault Nat :=
  if depth < nestLimit then .ok (depth + 1) else .error ⟨.tooDeep nestLimit, span, none⟩

mutual

/-- Whether a part of a bracket, so deep inside others, is not nested too deeply. -/
def ClassTree.checkDepth (depth : Nat) : ClassTree → Except Fault Unit
  | .nothing _ | .symbol _ | .range _ _ _ | .named _ _ _ => .ok ()
  | .bracket span _ inner => do
    let depth ← deeper span depth
    inner.checkDepth depth
  | .union span items => do
    let depth ← deeper span depth
    checkItems depth items
  | .joined span _ left right => do
    let depth ← deeper span depth
    left.checkDepth depth
    right.checkDepth depth

/-- Whether no part of a list is nested too deeply. -/
def checkItems (depth : Nat) : List ClassTree → Except Fault Unit
  | [] => .ok ()
  | item :: rest => do
    item.checkDepth depth
    checkItems depth rest

end

mutual

/-- Whether a pattern, so deep inside others, is not nested too deeply. -/
def Tree.checkDepth (depth : Nat) : Tree → Except Fault Unit
  | .empty _ | .flags _ _ | .atom _ => .ok ()
  | .bracket span _ inner => do
    let depth ← deeper span depth
    inner.checkDepth depth
  | .repeated span _ _ inner => do
    let depth ← deeper span depth
    inner.checkDepth depth
  | .group span _ inner => do
    let depth ← deeper span depth
    inner.checkDepth depth
  | .concat span parts => do
    let depth ← deeper span depth
    checkParts depth parts
  | .choice span parts => do
    let depth ← deeper span depth
    checkParts depth parts

/-- Whether no pattern of a list is nested too deeply. -/
def checkParts (depth : Nat) : List Tree → Except Fault Unit
  | [] => .ok ()
  | part :: rest => do
    part.checkDepth depth
    checkParts depth rest

end

end Mosaic.Pattern
