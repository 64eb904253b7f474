import Mosaic.Pattern.Tree

/-!
# What written patterns mean

Flags decide what a written pattern means. They are set on the way from left to
right and hold up to the end of the group in which they stand. There are two
alphabets: all characters, or the basic ones alone. The tables of the large
alphabet are left out here, so what needs them is refused: its digits, blanks and
letters, its properties, and its cases.

A pattern must not break a character apart, so in the small alphabet nothing may
stand for what is not a basic character.

## Main definitions

* `Pattern.Mode` — what the flags say
* `ClassTree.meaning` — the characters that a bracket stands for
* `Tree.meaning` — the pattern that a tree stands for
-/

set_option autoImplicit false

namespace Mosaic.Pattern

/-- What the flags say. -/
structure Mode where
  caseless : Bool := false
  multiLine : Bool := false
  dotAll : Bool := false
  /-- Whether a line may also end in a carriage return. -/
  wideLines : Bool := false
  /-- Whether the alphabet is the large one. -/
  unicode : Bool := true
deriving DecidableEq, Repr

/-- What the flags say after some more. -/
def Mode.after (mode : Mode) (items : List FlagItem) : Mode where
  caseless := (FlagItem.setting? .caseless items).getD mode.caseless
  multiLine := (FlagItem.setting? .multiLine items).getD mode.multiLine
  dotAll := (FlagItem.setting? .dotAll items).getD mode.dotAll
  wideLines := (FlagItem.setting? .wideLines items).getD mode.wideLines
  unicode := (FlagItem.setting? .unicode items).getD mode.unicode

/-- Refuses what stands at a place. -/
def refuse {α : Type} (trouble : Trouble) (span : Span) : Except Fault α :=
  .error ⟨trouble, span, none⟩

/-! ## Sets of characters -/

/-- The one character. -/
def single (c : Char) : CharSet := CharSet.empty.insert c c

/-- Whether a literal is a byte that is no character. -/
def Literal.isLoneByte (l : Literal) : Bool := l.byte && 0x80 ≤ l.char.toNat

/-- A literal as a member of a bracket. -/
def Literal.member (mode : Mode) (l : Literal) : Except Fault Char :=
  if mode.unicode then .ok l.char
  else if l.isLoneByte then refuse .invalidText l.span
  else if l.char.toNat < 0x80 then .ok l.char
  else refuse .notUnicode l.span

/-- The set of a shorthand in the small alphabet. -/
def Shorthand.set : Shorthand → CharSet
  | digit => .ofPairs NamedClass.digit.pairs
  | space => .ofPairs NamedClass.space.pairs
  | word => .ofPairs NamedClass.word.pairs

/-- The set of a shorthand. -/
def shorthandSet (mode : Mode) (span : Span) (kind : Shorthand) (negated : Bool) :
    Except Fault CharSet :=
  if mode.unicode then refuse .shorthandUnknown span
  else if negated then refuse .invalidText span
  else .ok kind.set

/-- A name of a property as it is looked up: letters in small case, and without the marks between
words and the word `is` at the start. -/
def looseName (name : List Char) : List Char :=
  let body :=
    match name with
    | a :: b :: rest => if a.toLower = 'i' ∧ b.toLower = 's' then rest else name
    | _ => name
  (body.filter fun c => c != ' ' && c != '_' && c != '-' && c.toNat < 0x80).map Char.toLower

/-- The set of a property. Three names are those of a value, not of a property. -/
def propertySet (mode : Mode) (span : Span) (name : List Char) : Except Fault CharSet :=
  if !mode.unicode then refuse .notUnicode span
  else if [['c', 'f'], ['s', 'c'], ['l', 'c']].contains (looseName name) then
    refuse .propertyValueUnknown span
  else refuse .propertyUnknown span

/-- A set closed under change of case if cases do not count. -/
def caseSet (mode : Mode) (span : Span) (s : CharSet) : Except Fault CharSet :=
  if !mode.caseless then .ok s
  else if !mode.unicode then .ok s.foldAscii
  else if s.closed || s.isEmpty then .ok s
  else refuse .casesUnknown span

/-- A set as it stands in a pattern: closed under change of case, then negated. -/
def finishSet (mode : Mode) (span : Span) (negated : Bool) (s : CharSet) :
    Except Fault CharSet := do
  let s ← caseSet mode span s
  let s := if negated then s.compl else s
  if !mode.unicode && !s.isAscii then refuse .invalidText span else return s

/-- Two sets joined. -/
def ClassJoin.sets (join : ClassJoin) (s t : CharSet) : CharSet :=
  match join with
  | intersection => s.inter t
  | difference => s.diff t
  | symmetricDifference => s.symmDiff t

mutual

/-- A set with the characters of a part of a bracket added to it. -/
def ClassTree.meaning (mode : Mode) (s : CharSet) : ClassTree → Except Fault CharSet
  | .nothing _ => .ok s
  | .symbol (.literal l) => do
    let c ← l.member mode
    return s.insert c c
  | .symbol (.shorthand span kind negated) => do
    let t ← shorthandSet mode span kind negated
    return s.union t
  | .symbol (.property span name) => do
    let t ← propertySet mode span name
    return s.union t
  | .range _ first last => do
    let low ← first.member mode
    let high ← last.member mode
    return s.insert low high
  | .named span kind negated => do
    let t ← finishSet mode span negated (.ofPairs kind.pairs)
    return s.union t
  | .bracket span negated inner => do
    let t ← inner.meaning mode .empty
    let t ← finishSet mode span negated t
    return s.union t
  | .union _ items => itemsMeaning mode s items
  | .joined _ join left right => do
    let l ← left.meaning mode .empty
    let r ← right.meaning mode .empty
    let r ← caseSet mode right.span r
    let l ← caseSet mode left.span l
    return s.union (join.sets l r)

/-- A set with the characters of several parts of a bracket added to it. -/
def itemsMeaning (mode : Mode) (s : CharSet) : List ClassTree → Except Fault CharSet
  | [] => .ok s
  | item :: rest => do
    let s ← item.meaning mode s
    itemsMeaning mode s rest

end

/-! ## Atoms -/

/-- The pattern of a literal. -/
def Literal.meaning (mode : Mode) (l : Literal) : Except Fault Pattern :=
  if mode.unicode then
    if mode.caseless then refuse .casesUnknown l.span else .ok (.one (single l.char))
  else if l.isLoneByte then refuse .invalidText l.span
  else if mode.caseless && l.char.toNat < 0x80 then .ok (.one (single l.char).foldAscii)
  else .ok (.one (single l.char))

/-- The pattern of a dot: any character, or any within a line. -/
def dotMeaning (mode : Mode) (span : Span) : Except Fault Pattern :=
  if !mode.unicode then refuse .invalidText span
  else if mode.dotAll then .ok (.one .full)
  else if mode.wideLines then .ok (.one ((single '\n').insert '\r' '\r').compl)
  else .ok (.one (single '\n').compl)

/-- What must hold at an anchor. -/
def Anchor.look (mode : Mode) : Anchor → Look
  | textStart => .textStart
  | textEnd => .textEnd
  | lineStart =>
    if !mode.multiLine then .textStart else if mode.wideLines then .lineStartWide else .lineStart
  | lineEnd =>
    if !mode.multiLine then .textEnd else if mode.wideLines then .lineEndWide else .lineEnd
  | edge e => if mode.unicode then .unknownEdge else .edge e

/-- The pattern of an atom. -/
def Atom.meaning (mode : Mode) : Atom → Except Fault Pattern
  | symbol (.literal l) => l.meaning mode
  | symbol (.shorthand span kind negated) => (shorthandSet mode span kind negated).map .one
  | symbol (.property span name) => (propertySet mode span name).map .one
  | dot span => dotMeaning mode span
  | anchor _ a => .ok (.look (a.look mode))

/-! ## Whole patterns -/

/-- One pattern after another; the empty pattern is left out. -/
def following (p q : Pattern) : Pattern :=
  if p = .empty then q else if q = .empty then p else .seq p q

mutual

/-- The pattern that a tree stands for, and what the flags say after it. -/
def Tree.meaning (mode : Mode) : Tree → Except Fault (Pattern × Mode)
  | .empty _ => .ok (.empty, mode)
  | .flags _ items => .ok (.empty, mode.after items)
  | .atom a => do
    let p ← a.meaning mode
    return (p, mode)
  | .bracket span negated inner => do
    let s ← inner.meaning mode .empty
    let s ← finishSet mode span negated s
    return (.one s, mode)
  | .repeated _ least most inner => do
    let (p, mode) ← inner.meaning mode
    return (p.repeated least most, mode)
  | .group _ none inner => do
    let (p, _) ← inner.meaning mode
    return (.group p, mode)
  | .group _ (some items) inner => do
    let (p, _) ← inner.meaning (mode.after items)
    return (p, mode)
  | .concat _ parts => sequenceMeaning mode parts
  | .choice _ parts => choiceMeaning mode parts

/-- The pattern that trees one after the other stand for. -/
def sequenceMeaning (mode : Mode) : List Tree → Except Fault (Pattern × Mode)
  | [] => .ok (.empty, mode)
  | part :: rest => do
    let (p, mode) ← part.meaning mode
    let (q, mode) ← sequenceMeaning mode rest
    return (following p q, mode)

/-- The pattern that a choice between trees stands for. -/
def choiceMeaning (mode : Mode) : List Tree → Except Fault (Pattern × Mode)
  | [] => .ok (.empty, mode)
  | [part] => part.meaning mode
  | part :: rest => do
    let (p, mode) ← part.meaning mode
    let (q, mode) ← choiceMeaning mode rest
    return (.alt p q, mode)

end

end Mosaic.Pattern
