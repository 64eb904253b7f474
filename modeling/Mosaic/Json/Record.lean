import Mosaic.Json.Decode

/-!
# Records in documents

A record is a structure whose fields have names in documents. One table of fields
says how a record is read and how it is written, so the two cannot drift apart.

A record is read from an object, its members in any order and unknown ones
skipped, or from an array that lists the fields in their order. Fields that are
not given keep their initial values, unless the record has to be complete.

## Main definitions

* `RecordField` — a field: how it is read into a record and written out of it
* `Record` — the fields of a type, with its initial value
* `Record.decode`, `Record.toValue` — read and write
-/

set_option autoImplicit false

namespace Mosaic.Json

/-- A field of a record: its name, what reading it does to a record, and its value. -/
structure RecordField (α : Type) where
  name : String
  read : Decoder (α → α)
  write : α → Value

/-- A field given by how it is read, taken out, put in and written. -/
def RecordField.of {α β : Type} (name : String) (read : Decoder β) (get : α → β) (put : β → α → α)
    (write : β → Value) : RecordField α where
  name := name
  read := fun route node => (read route node).map put
  write := fun a => write (get a)

/-- The fields of a type in their order, and its value before any field is read. -/
structure Record (α : Type) where
  title : String
  initial : α
  /-- Whether every field has to be given. -/
  complete : Bool
  fields : List (RecordField α)

namespace Record

variable {α : Type}

/-- The record as an object with its members in the order of the fields. -/
def toValue (r : Record α) (a : α) : Value :=
  .object (r.fields.map fun f => (f.name, f.write a))

/-- What is expected where the record is read. -/
def expected (r : Record α) : String := s!"struct {r.title}"

/-- The first field that is not among the names seen, if every field has to be given. -/
def missing? (r : Record α) (seen : List String) : Option String :=
  if r.complete then (r.fields.map RecordField.name).find? fun name => !seen.contains name else none

/-- Reads members one after the other. A field may be given once; what is no field is skipped. -/
def readMembers (r : Record α) (route : Route) (seen : List String) (a : α) :
    List (Except Malformed String × Node) → Except Refusal (List String × α)
  | [] => .ok (seen, a)
  | (key, node) :: rest => do
    let name ← malformed key
    match r.fields.find? fun f => f.name = name with
    | none =>
      malformed node.skip
      r.readMembers route seen a rest
    | some field =>
      if seen.contains name then throw (.mismatch (.duplicateField name))
      let change ← field.read route node
      r.readMembers route (name :: seen) (change a) rest

/-- Reads elements as the fields in their order, and gives the elements that are left. -/
def readItems (r : Record α) (route : Route) (tail : Tail) :
    List (RecordField α) → Nat → α → List Node → Except Refusal (α × List Node)
  | [], _, a, left => .ok (a, left)
  | _ :: _, have_, a, [] => do
    malformed tail.read
    if r.complete then
      throw (.mismatch (.wrongLength have_ s!"{r.expected} with {r.fields.length} elements"))
    return (a, [])
  | field :: fields, have_, a, node :: rest => do
    let change ← field.read route node
    r.readItems route tail fields (have_ + 1) (change a) rest

/-- Reads a record from an object or an array. -/
def decode (r : Record α) : Decoder α := fun route node =>
  match node with
  | .object deep members tail => do
    if deep then throw (.malformed .tooDeep)
    let (seen, a) ← r.readMembers route [] r.initial members
    malformed tail.read
    match r.missing? seen with
    | some name => throw (.mismatch (.missingField name))
    | none => return a
  | .array deep items tail => do
    if deep then throw (.malformed .tooDeep)
    let (a, left) ← r.readItems route tail r.fields 0 r.initial items
    surplus route items.length left tail
    return a
  | .unkeyed deep => .error (.malformed (if deep then .tooDeep else .keyNotString))
  | node => .error (unexpected r.expected node)

end Record

end Mosaic.Json
