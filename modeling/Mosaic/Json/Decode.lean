import Mosaic.Json.Document

/-!
# Reading documents

A decoder reads a node as a value of some type, or says why it cannot. It is told
on which route the node came: from a text, or from a value already read. Nearly
all rules are the same on both; the routes differ in what they say about variants
and about surplus elements.

## Main definitions

* `Decoder` — reads a node of a document
* `signed`, `unsigned`, `flag`, `text`, `option`, `sequence`, `table`, `variant` — the basic
  decoders
* `decodeText`, `decodeValue` — read a whole text, or a value
-/

set_option autoImplicit false

namespace Mosaic.Json

/-- Where a node came from. -/
inductive Route where
  | text
  | value
deriving DecidableEq, Repr

/-- Reads a node of a document. -/
abbrev Decoder (α : Type) := Route → Node → Except Refusal α

/-- The refusal of a node that is not what was expected. -/
def unexpected (expected : String) : Node → Refusal
  | .null => .mismatch (.wrongType .null expected)
  | .bool b => .mismatch (.wrongType (.bool b) expected)
  | .number n => .mismatch (.wrongType (.number n) expected)
  | .string s => .mismatch (.wrongType (.string s) expected)
  | .array _ _ _ => .mismatch (.wrongType .sequence expected)
  | .object _ _ _ => .mismatch (.wrongType .map expected)
  | .unkeyed _ => .mismatch (.wrongType .map expected)
  | .broken fault _ => .malformed fault
  | .misspelt fault _ => .malformed fault

/-- What a reader sees of a fault of the text. -/
def malformed {α : Type} (x : Except Malformed α) : Except Refusal α :=
  x.mapError .malformed

/-- An integer between two bounds. -/
def integer (title : String) (least greatest : Int) : Decoder Int := fun _ node =>
  match node with
  | .number (.integer n) =>
    if least ≤ n.value ∧ n.value ≤ greatest then .ok n.value
    else .error (.mismatch (.wrongValue (.number (.integer n)) title))
  | node => .error (unexpected title node)

/-- A number of pixels or frames. -/
def word : Decoder UInt32 := fun route node =>
  (integer "u32" 0 (0x100000000 - 1) route node).map fun i => UInt32.ofNat i.toNat

/-- A byte. -/
def byte : Decoder UInt8 := fun route node =>
  (integer "u8" 0 255 route node).map fun i => UInt8.ofNat i.toNat

/-- A count or an index. -/
def count : Decoder Nat := fun route node =>
  (integer "usize" 0 (0x10000000000000000 - 1) route node).map Int.toNat

/-- A coordinate. -/
def coordinate : Decoder Int32 := fun route node =>
  (integer "i32" (-0x80000000) (0x80000000 - 1) route node).map Int32.ofInt

/-- A duration. -/
def duration : Decoder Int64 := fun route node =>
  (integer "i64" (-0x8000000000000000) (0x8000000000000000 - 1) route node).map Int64.ofInt

/-- A truth value. -/
def flag : Decoder Bool := fun _ node =>
  match node with
  | .bool b => .ok b
  | node => .error (unexpected "a boolean" node)

/-- A text. -/
def text : Decoder String := fun _ node =>
  match node with
  | .string s => .ok s
  | node => .error (unexpected "a string" node)

/-- A text that has to mean something. -/
def meaning {α : Type} (expected : String) (read : String → Except String α) : Decoder α :=
  fun _ node =>
    match node with
    | .string s => (read s).mapError fun message => .mismatch (.rejected message)
    | node => .error (unexpected expected node)

/-- A value that may be absent; only null is absent. -/
def option {α : Type} (read : Decoder α) : Decoder (Option α) := fun route node =>
  match node with
  | .null => .ok none
  | node => (read route node).map some

/-- Reads nodes one after the other. -/
def each {α : Type} (read : Decoder α) (route : Route) : List Node → Except Refusal (List α)
  | [] => .ok []
  | node :: rest => do
    let a ← read route node
    let as ← each read route rest
    return a :: as

/-- Any number of values of one type. -/
def sequence {α : Type} (read : Decoder α) : Decoder (List α) := fun route node =>
  match node with
  | .array deep items tail => do
    if deep then throw (.malformed .tooDeep)
    let values ← each read route items
    malformed tail.read
    return values
  | node => .error (unexpected "a sequence" node)

/-- What is wrong with an array whose reader wants no further element. -/
def surplus (route : Route) (length : Nat) (left : List Node) (tail : Tail) :
    Except Refusal Unit :=
  match left, tail with
  | [], .closed => .ok ()
  | [], .cut .expectedListEnd _ => .error (.malformed .trailingCharacters)
  | [], .cut fault _ => .error (.malformed fault)
  | _ :: _, _ =>
    match route with
    | .text => .error (.malformed .trailingCharacters)
    | .value => .error (.mismatch (.wrongLength length "fewer elements in array"))

/-- Reads so many nodes and gives those that are left. Too few are refused. -/
def firstOf {α : Type} (expected : String) (read : Decoder α) (route : Route) (tail : Tail) :
    Nat → Nat → List Node → Except Refusal (List α × List Node)
  | 0, _, left => .ok ([], left)
  | _ + 1, have_, [] => do
    malformed tail.read
    throw (.mismatch (.wrongLength have_ expected))
  | wanted + 1, have_, node :: rest => do
    let a ← read route node
    let (as, left) ← firstOf expected read route tail wanted (have_ + 1) rest
    return (a :: as, left)

/-- An array of known length. -/
def fixed {α : Type} (length : Nat) (read : Decoder α) : Decoder (List α) := fun route node =>
  let expected := s!"an array of length {length}"
  match node with
  | .array deep items tail => do
    if deep then throw (.malformed .tooDeep)
    let (values, left) ← firstOf expected read route tail length 0 items
    surplus route items.length left tail
    return values
  | node => .error (unexpected expected node)

/-- Reads the members of an object with free keys. -/
def tableMembers {α : Type} (read : Decoder α) (route : Route) (table : List (String × α)) :
    List (Except Malformed String × Node) → Except Refusal (List (String × α))
  | [] => .ok table
  | (key, node) :: rest => do
    let name ← malformed key
    let a ← read route node
    tableMembers read route (Ordered.put name a table) rest

/-- An object with free keys, as a sorted table. -/
def table {α : Type} (read : Decoder α) : Decoder (List (String × α)) := fun route node =>
  match node with
  | .object deep members tail => do
    if deep then throw (.malformed .tooDeep)
    let entries ← tableMembers read route [] members
    malformed tail.read
    return entries
  | .unkeyed deep => .error (.malformed (if deep then .tooDeep else .keyNotString))
  | node => .error (unexpected "a map" node)

/-- Anything at all. -/
def anything : Decoder Value := fun _ node => malformed node.toValue

/-- Nothing but null. -/
def nothing : Decoder Unit := fun _ node =>
  match node with
  | .null => .ok ()
  | node => .error (unexpected "unit" node)

/-- The alternative with a name. -/
def alternative {α : Type} (known : List (String × α)) (name : String) : Except Refusal α :=
  match known.find? fun entry => entry.1 = name with
  | some entry => .ok entry.2
  | none => .error (.mismatch (.unknownVariant name (known.map Prod.fst)))

/-- One of several names, alone or as the only key of an object whose value is null, in a text. -/
def variantOfText {α : Type} (known : List (String × α)) (node : Node) : Except Refusal α :=
  match node with
  | .string s => alternative known s
  | .object deep members tail => do
    if deep then throw (.malformed .tooDeep)
    match members with
    | [] =>
      match tail with
      | .closed => throw (.malformed .expectedValue)
      | .cut fault _ => throw (.malformed fault)
    | (key, value) :: rest =>
      let name ← malformed key
      let a ← alternative known name
      nothing .text value
      match rest, tail with
      | [], .closed => return a
      | [], .cut .endInObject _ => throw (.malformed .endInObject)
      | _, _ => throw (.malformed .expectedValue)
  | .unkeyed deep => .error (.malformed (if deep then .tooDeep else .keyNotString))
  | .broken fault _ => .error (.malformed fault)
  | .null | .bool _ | .number _ | .array _ _ _ | .misspelt _ _ =>
    .error (.malformed .expectedValue)

/-- One of several names, alone or as the only key of an object whose value is null, in a value. -/
def variantOfValue {α : Type} (known : List (String × α)) (node : Node) : Except Refusal α :=
  match node with
  | .string s => alternative known s
  | .object _ [(key, value)] _ => do
    let name ← malformed key
    let a ← alternative known name
    nothing .value value
    return a
  | .object _ _ _ => .error (.mismatch (.wrongValue .map "map with a single key"))
  | node => .error (unexpected "string or map" node)

/-- One of several names. -/
def variant {α : Type} (known : List (String × α)) : Decoder α := fun route node =>
  match route with
  | .text => variantOfText known node
  | .value => variantOfValue known node

/-- Reads a whole text: nothing but blanks may follow the value. -/
def decodeText {α : Type} (read : Decoder α) (source : String) : Except Refusal α := do
  let document := Document.ofText source
  let a ← read .text document.root
  if document.ended then return a else throw (.malformed .trailingCharacters)

/-- Reads a value. -/
def decodeValue {α : Type} (read : Decoder α) (value : Value) : Except Refusal α :=
  read .value (.ofValue value)

end Mosaic.Json
