import Mosaic.Json.Scan

/-!
# Documents

A document is what its text says, faults included: a tree whose nodes stand in text
order, and which holds a fault at the place where the text goes wrong. A reader
walks the tree in that order and stops at the first thing it cannot accept, be it
a fault of the text or a value of the wrong shape. So which of two errors is
reported follows from the order alone.

A fault has two sides, since a value that nobody wants is skipped and a skip is
more lenient. A node that can be skipped but not read does not end the text.

## Main definitions

* `Node` — a value in a document, or the fault in its place
* `Document.ofText` — the document that a text holds
* `Node.ofValue` — a value as part of a document without faults
* `Node.skip`, `Node.toValue` — pass over a node, or read it whatever it is
-/

set_option autoImplicit false

namespace Mosaic.Json

/-- How the elements or members of a node end: at the closing bracket, or at a fault. -/
inductive Tail where
  | closed
  | cut (read skip : Malformed)
deriving DecidableEq

/-- A value in a document, or the fault in its place. The flag of an array or object tells
that it is nested too deeply to be read. -/
inductive Node where
  | null
  | bool (b : Bool)
  | number (n : Number)
  | string (s : String)
  | array (deep : Bool) (items : List Node) (tail : Tail)
  | object (deep : Bool) (members : List (Except Malformed String × Node)) (tail : Tail)
  /-- An object whose first key is no string. -/
  | unkeyed (deep : Bool)
  /-- No value can begin here, or a string goes wrong. -/
  | broken (read : Malformed) (skip : Option Malformed)
  /-- A word or number that goes wrong. -/
  | misspelt (read : Malformed) (skip : Option Malformed)

/-- The deepest bracket that can be read. -/
def depthLimit : Nat := 127

/-- What a scan found, as a node; a skip that fails ends the text. -/
def Scanned.node {α : Type} (s : Scanned α) (whole : α → Node)
    (faulty : Malformed → Option Malformed → Node) : Node × Option (List Char) :=
  match s.rest, s.value with
  | .ok rest, .ok a => (whole a, some rest)
  | .ok rest, .error read => (faulty read none, some rest)
  | .error skip, .ok _ => (faulty skip (some skip), none)
  | .error skip, .error read => (faulty read (some skip), none)

/-- The rest of a word whose first letter is known. -/
def scanWord (letters : List Char) (whole : Node) (cs : List Char) : Node × Option (List Char) :=
  match letters, cs with
  | [], cs => (whole, some cs)
  | _ :: _, [] => (.misspelt .endInValue (some .endInValue), none)
  | l :: letters, c :: cs =>
    if l = c then scanWord letters whole cs
    else (.misspelt .expectedWord (some .expectedWord), none)

mutual

/-- The value at the start of a text inside so many brackets, and where the text goes on.
The first argument bounds the recursion: a bracket takes two steps and one character, so one
more than twice the length of the text is enough. -/
def scanNode : Nat → Nat → List Char → Node × Option (List Char)
  | 0, _, _ => (.broken .endInValue (some .endInValue), none)
  | _ + 1, _, [] => (.broken .endInValue (some .endInValue), none)
  | fuel + 1, depth, c :: rest =>
    if c = '"' then (scanString rest).node .string .broken
    else if c = '-' ∨ c.isDigit then (scanNumber (c :: rest)).node .number .misspelt
    else if c = 'n' then scanWord ['u', 'l', 'l'] .null rest
    else if c = 't' then scanWord ['r', 'u', 'e'] (.bool true) rest
    else if c = 'f' then scanWord ['a', 'l', 's', 'e'] (.bool false) rest
    else if c = '[' then
      match skipGaps rest with
      | [] => (.array (depthLimit ≤ depth) [] (.cut .endInList .endInList), none)
      | ']' :: rest => (.array (depthLimit ≤ depth) [] .closed, some rest)
      | rest =>
        let (items, tail, rest) := scanItems fuel (depth + 1) rest
        (.array (depthLimit ≤ depth) items tail, rest)
    else if c = '\x7b' then
      match skipGaps rest with
      | [] => (.object (depthLimit ≤ depth) [] (.cut .endInObject .endInObject), none)
      | '\x7d' :: rest => (.object (depthLimit ≤ depth) [] .closed, some rest)
      | '"' :: rest =>
        let (members, tail, rest) := scanMembers fuel (depth + 1) rest
        (.object (depthLimit ≤ depth) members tail, rest)
      | _ => (.unkeyed (depthLimit ≤ depth), none)
    else (.broken .expectedValue (some .expectedValue), none)

/-- The elements of an array from one on, and how they end. -/
def scanItems : Nat → Nat → List Char → List Node × Tail × Option (List Char)
  | 0, _, _ => ([], .cut .endInList .endInList, none)
  | fuel + 1, depth, cs =>
    match scanNode fuel depth cs with
    | (item, none) => ([item], .closed, none)
    | (item, some rest) =>
      match skipGaps rest with
      | [] => ([item], .cut .endInList .endInList, none)
      | ']' :: rest => ([item], .closed, some rest)
      | ',' :: rest =>
        match skipGaps rest with
        | ']' :: _ => ([item], .cut .trailingComma .expectedValue, none)
        | rest =>
          let (items, tail, rest) := scanItems fuel depth rest
          (item :: items, tail, rest)
      | _ => ([item], .cut .expectedListEnd .expectedListEnd, none)

/-- The members of an object from one on, after the quote that opens its key. -/
def scanMembers :
    Nat → Nat → List Char → List (Except Malformed String × Node) × Tail × Option (List Char)
  | 0, _, _ => ([], .cut .endInObject .endInObject, none)
  | fuel + 1, depth, cs =>
    let key := scanString cs
    match key.rest with
    | .error skip =>
      match key.value with
      | .ok _ => ([], .cut skip skip, none)
      | .error read => ([], .cut read skip, none)
    | .ok rest =>
      match skipGaps rest with
      | [] => ([(key.value, .broken .endInObject (some .endInObject))], .closed, none)
      | ':' :: rest =>
        match scanNode fuel depth (skipGaps rest) with
        | (value, none) => ([(key.value, value)], .closed, none)
        | (value, some rest) =>
          match skipGaps rest with
          | [] => ([(key.value, value)], .cut .endInObject .endInObject, none)
          | '\x7d' :: rest => ([(key.value, value)], .closed, some rest)
          | ',' :: rest =>
            match skipGaps rest with
            | '"' :: rest =>
              let (members, tail, rest) := scanMembers fuel depth rest
              ((key.value, value) :: members, tail, rest)
            | '\x7d' :: _ => ([(key.value, value)], .cut .trailingComma .keyNotString, none)
            | [] => ([(key.value, value)], .cut .endInValue .endInObject, none)
            | _ => ([(key.value, value)], .cut .keyNotString .keyNotString, none)
          | _ => ([(key.value, value)], .cut .expectedObjectEnd .expectedObjectEnd, none)
      | _ => ([(key.value, .broken .expectedColon (some .expectedColon))], .closed, none)

end

/-- A text as a document: its value, and whether nothing but blanks follows. -/
structure Document where
  root : Node
  ended : Bool

/-- The document that a text holds. -/
def Document.ofText (text : String) : Document :=
  let cs := skipGaps text.toList
  let (root, rest) := scanNode (2 * cs.length + 1) 0 cs
  ⟨root, (rest.map fun cs => (skipGaps cs).isEmpty).getD false⟩

mutual

/-- A value as part of a document without faults. -/
def Node.ofValue : Value → Node
  | .null => .null
  | .bool b => .bool b
  | .number n => .number n
  | .string s => .string s
  | .array items => .array false (nodesOf items) .closed
  | .object members => .object false (membersOf members) .closed

/-- The elements of an array as parts of a document. -/
def nodesOf : List Value → List Node
  | [] => []
  | item :: rest => .ofValue item :: nodesOf rest

/-- The members of an object as parts of a document. -/
def membersOf : List (String × Value) → List (Except Malformed String × Node)
  | [] => []
  | (key, value) :: rest => (.ok key, .ofValue value) :: membersOf rest

end

/-- The fault at the end of an array or object as its reader sees it. -/
def Tail.read : Tail → Except Malformed Unit
  | .closed => .ok ()
  | .cut fault _ => .error fault

/-- The fault at the end of an array or object as one who skips it sees it. -/
def Tail.skip : Tail → Except Malformed Unit
  | .closed => .ok ()
  | .cut _ fault => .error fault

/-- The fault of a node that is one, if a skip minds it. -/
def skipFault : Option Malformed → Except Malformed Unit
  | none => .ok ()
  | some fault => .error fault

mutual

/-- Passes over a node that nobody wants. -/
def Node.skip : Node → Except Malformed Unit
  | .null | .bool _ | .number _ | .string _ => .ok ()
  | .array _ items tail => do
    skipItems items
    tail.skip
  | .object _ members tail => do
    skipMembers members
    tail.skip
  | .unkeyed _ => .error .keyNotString
  | .broken _ fault => skipFault fault
  | .misspelt _ fault => skipFault fault

/-- Passes over the elements of an array. -/
def skipItems : List Node → Except Malformed Unit
  | [] => .ok ()
  | item :: rest => do
    item.skip
    skipItems rest

/-- Passes over the members of an object. -/
def skipMembers : List (Except Malformed String × Node) → Except Malformed Unit
  | [] => .ok ()
  | (_, value) :: rest => do
    value.skip
    skipMembers rest

end

mutual

/-- Reads a node whatever it is. Members are sorted by key, and of those with one key the
last remains. -/
def Node.toValue : Node → Except Malformed Value
  | .null => .ok .null
  | .bool b => .ok (.bool b)
  | .number n => .ok (.number n)
  | .string s => .ok (.string s)
  | .array deep items tail => do
    if deep then throw .tooDeep
    let values ← itemValues items
    tail.read
    return .array values
  | .object deep members tail => do
    if deep then throw .tooDeep
    let values ← memberValues [] members
    tail.read
    return .object values
  | .unkeyed deep => .error (if deep then .tooDeep else .keyNotString)
  | .broken fault _ => .error fault
  | .misspelt fault _ => .error fault

/-- Reads the elements of an array. -/
def itemValues : List Node → Except Malformed (List Value)
  | [] => .ok []
  | item :: rest => do
    let value ← item.toValue
    let values ← itemValues rest
    return value :: values

/-- Reads the members of an object into a table. -/
def memberValues (table : List (String × Value)) :
    List (Except Malformed String × Node) → Except Malformed (List (String × Value))
  | [] => .ok table
  | (key, node) :: rest => do
    let name ← key
    let value ← node.toValue
    memberValues (Ordered.put name value table) rest

end

end Mosaic.Json
