import Mosaic.Pattern.Bracket
import Mosaic.Text.Letter

/-!
# From text to tree

A written pattern is read from left to right. What is open is kept on a stack,
the innermost first: groups, and choices whose last branch is being read.

## Main definitions

* `Pattern.Draft` — the parts of a sequence that were read
* `Pattern.readGroup` — what an opening parenthesis begins
* `Pattern.readCount` — how often something is repeated
* `Pattern.Tree.ofText` — the tree of a written pattern
-/

set_option autoImplicit false

namespace Mosaic.Pattern

open Reading

/-- The parts of a sequence that were read, the last one first. -/
structure Draft where
  start : Place
  parts : List Tree

namespace Draft

/-- One more part. -/
def push (d : Draft) (part : Tree) : Draft := ⟨d.start, part :: d.parts⟩

/-- The sequence, if it ends at a place. -/
def tree (d : Draft) (stop : Place) : Tree :=
  match d.parts with
  | [] => .empty ⟨d.start, stop⟩
  | [part] => part
  | parts => .concat ⟨d.start, stop⟩ parts.reverse

end Draft

/-- What waits for its end. -/
inductive OpenGroup where
  /-- A group, with what stands before it, and whether that is verbose. -/
  | group (outer : Draft) (span : Span) (items : Option (List FlagItem)) (verbose : Bool)
  /-- A choice with the branches that were read, the last one first. -/
  | choice (start : Place) (branches : List Tree)

/-! ## Groups -/

/-- What an opening parenthesis begins. -/
inductive Opening where
  | flags (span : Span) (items : List FlagItem)
  | group (span : Span) (items : Option (List FlagItem))

/-- One more flag or minus sign, unless it is there already. -/
def addFlag (items : List FlagItem) (item : FlagItem) : Reading (List FlagItem) :=
  match items.find? fun other => other.flag = item.flag with
  | none => return items ++ [item]
  | some other =>
    collide (if item.flag.isNone then .flagMinusTwice else .flagTwice) item.span other.span

/-- A list of flags, up to a colon or a closing parenthesis. A minus sign must not come last. -/
def readFlags : Nat → List FlagItem → Reading (List FlagItem)
  | 0, items => return items
  | fuel + 1, items => do
    let c ← get
    match c.rest with
    | [] => fail .flagEnd c.here
    | ':' :: _ | ')' :: _ =>
      match items.getLast? with
      | some ⟨span, none⟩ => fail .flagAfterMinus span
      | _ => return items
    | '-' :: _ =>
      let items ← addFlag items ⟨c.next, none⟩
      bump
      readFlags fuel items
    | a :: _ =>
      match Flag.ofLetter? a with
      | none => fail .flagUnknown c.next
      | some flag =>
        let items ← addFlag items ⟨c.next, some flag⟩
        bump
        readFlags fuel items

/-- Whether a character may stand in the name of a group. -/
def isNameChar (first : Bool) (c : Char) : Bool :=
  c == '_' || Text.isLetter c ||
    (!first && (c == '.' || c == '[' || c == ']' || Text.isNumeral c))

/-- The characters of a name, up to a closing angle. -/
def readNameChars : Nat → Bool → Reading (List Char)
  | 0, _ => return []
  | fuel + 1, first => do
    let c ← get
    match c.rest with
    | [] => fail .nameEnd c.here
    | '>' :: _ => return []
    | a :: _ =>
      if !isNameChar first a then fail .nameCharacter c.next
      bump
      let more ← readNameChars fuel false
      return a :: more

/-- The name of a group; no two groups have the same. -/
def readName : Reading Unit := do
  let start := (← get).place
  let name ← readNameChars ((← get).rest.length + 1) true
  let span ← since start
  bump
  if name.isEmpty then fail .nameEmpty (.point start)
  let c ← get
  match lookUp (String.ofList name) c.names with
  | some other => collide .nameTwice span other
  | none => set { c with names := (String.ofList name, span) :: c.names }

/-- How a look at what stands around a place would begin. -/
def lookArounds : List String := ["?=", "?!", "?<=", "?<!"]

/-- How a name begins. -/
def nameOpenings : List String := ["?P<", "?<"]

/-- Past the first of some texts that comes next. -/
def pastAny? (c : Cursor) (texts : List String) : Option Cursor :=
  texts.findSome? fun text => c.past? text

/-- What an opening parenthesis begins. -/
def readGroup : Reading Opening := do
  let span := (← get).next
  modify Cursor.step
  let c ← get
  match pastAny? c lookArounds, pastAny? c nameOpenings, c.past? "?" with
  | some after, _, _ => fail .lookAround (after.since span.start)
  | none, some after, _ =>
    set after
    readName
    return .group span none
  | none, none, some after =>
    set after
    if after.atEnd then fail .groupOpen span
    let items ← readFlags (after.rest.length + 1) []
    let closed := (← get).rest.head? = some ')'
    bump
    if closed then
      if items.isEmpty then fail .nothingToRepeat c.here
      return .flags (← since span.start) items
    else return .group span (some items)
  | none, none, none => return .group span none

/-! ## Repetitions -/

/-- A number in base ten, blanks around it left out, or nothing if there is no digit; and the
stretch of its digits. -/
def readNumber : Reading (List Char × Span) := do
  modify Cursor.skipBlanks
  let start := (← get).place
  let digits ← collect Char.isDigit
  let span ← since start
  modify Cursor.skipBlanks
  return (digits, span)

/-- The value of digits in base ten. There must be digits, and not too many. -/
def numberOf (digits : List Char) (span : Span) : Except Fault Nat :=
  let value := digits.foldl (fun n c => 10 * n + (c.toNat - 0x30)) 0
  if digits.isEmpty then .error ⟨.countEmpty, span, none⟩
  else if value < 0x100000000 then .ok value
  else .error ⟨.numberTooBig, span, none⟩

/-- How often something is repeated, between braces; the cursor is at the opening one. -/
def readBounds : Reading (Nat × Option Nat) := do
  let start := (← get).place
  if !(← step) then fail .countOpen (← since start)
  let (digits, span) ← readNumber
  let least := numberOf digits span
  if (← get).atEnd then fail .countOpen (← since start)
  let bounds ←
    if (← get).rest.head? = some ',' then do
      if !(← step) then fail .countOpen (← since start)
      if (← get).rest.head? = some '\x7d' then
        let least ← least
        pure (least, none)
      else
        let least ← least
        let (digits, span) ← readNumber
        let most ← numberOf digits span
        pure (least, some most)
    else
      let least ← least
      pure (least, some least)
  if (← get).rest.head? ≠ some '\x7d' then fail .countOpen (← since start)
  return bounds

/-- How often something is repeated; the cursor is at the mark that tells. -/
def readCount (mark : Char) : Reading (Nat × Option Nat) := do
  let start := (← get).place
  match mark with
  | '?' =>
    bump
    return (0, some 1)
  | '*' =>
    bump
    return (0, none)
  | '+' =>
    bump
    return (1, none)
  | _ =>
    let (least, most) ← readBounds
    let left ← step
    if most.any fun most => most < least then
      if left ∧ (← get).rest.head? = some '?' then bump
      fail .countOrder (← since start)
    return (least, most)

/-- Repeats the last part of a sequence. A question mark after the count asks for few pieces
rather than many; a piece is found or not all the same. -/
def readRepetition (mark : Char) (draft : Draft) : Reading Draft := do
  match draft.parts with
  | [] => fail .nothingToRepeat (← get).here
  | part :: parts =>
    if !part.isRepeatable then fail .nothingToRepeat (← get).here
    let (least, most) ← readCount mark
    if (← get).rest.head? = some '?' then bump
    let tree := .repeated ⟨part.span.start, (← get).place⟩ least most part
    return ⟨draft.start, tree :: parts⟩

/-! ## Sequences and choices -/

/-- A choice after one more branch. -/
def addBranch (draft : Draft) (stop : Place) : List OpenGroup → List OpenGroup
  | .choice start branches :: rest => .choice start (draft.tree stop :: branches) :: rest
  | open_ => .choice draft.start [draft.tree stop] :: open_

/-- What a sequence and the branches before it make. -/
def finishChoice (draft : Draft) (stop : Place) : List OpenGroup → Tree × List OpenGroup
  | .choice start branches :: rest =>
    (.choice ⟨start, stop⟩ (draft.tree stop :: branches).reverse, rest)
  | open_ => (draft.tree stop, open_)

/-- A pattern from within: what is open, and what was read of the innermost sequence. -/
def readParts : Nat → List OpenGroup → Draft → Reading Tree
  | 0, _, draft => return draft.tree (← get).place
  | fuel + 1, open_, draft => do
    modify Cursor.skipGap
    let c ← get
    match c.rest with
    | [] =>
      match finishChoice draft c.place open_ with
      | (tree, []) => return tree
      | (_, .group _ span _ _ :: _) => fail .groupOpen span
      | (tree, _) => return tree
    | '(' :: _ =>
      match ← readGroup with
      | .flags span items =>
        let verbose := (FlagItem.setting? .verbose items).getD c.verbose
        modify fun c => { c with verbose := verbose }
        readParts fuel open_ (draft.push (.flags span items))
      | .group span items =>
        let verbose := (items.bind (FlagItem.setting? .verbose)).getD c.verbose
        modify fun c => { c with verbose := verbose }
        readParts fuel (.group draft span items c.verbose :: open_) ⟨(← get).place, []⟩
    | ')' :: _ =>
      match finishChoice draft c.place open_ with
      | (inner, .group outer span items verbose :: rest) =>
        set { c with verbose := verbose }.bump
        let span ← since span.start
        readParts fuel rest (outer.push (.group span items inner))
      | _ => fail .groupUnopened c.next
    | '|' :: _ =>
      bump
      readParts fuel (addBranch draft c.place open_) ⟨(← get).place, []⟩
    | '[' :: _ =>
      let tree ← readBracket
      readParts fuel open_ (draft.push tree)
    | '?' :: _ => readParts fuel open_ (← readRepetition '?' draft)
    | '*' :: _ => readParts fuel open_ (← readRepetition '*' draft)
    | '+' :: _ => readParts fuel open_ (← readRepetition '+' draft)
    | '\x7b' :: _ => readParts fuel open_ (← readRepetition '\x7b' draft)
    | a :: _ =>
      let atom ← readAtom a
      readParts fuel open_ (draft.push (.atom atom))

/-- The tree of a written pattern, or what is wrong with it. -/
def Tree.ofText (pattern : String) : Except Fault Tree := do
  let c := Cursor.ofText pattern
  let (tree, _) ← (readParts (c.rest.length + 1) [] ⟨c.place, []⟩).run c
  tree.checkDepth 0
  return tree

end Mosaic.Pattern
