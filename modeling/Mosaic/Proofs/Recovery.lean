import Mathlib.Data.List.Nodup
import Mosaic.Format.Document
import Mosaic.Proofs.Telling

/-!
# Reading back what was told

A document may tell a record in part, its members in any order and strangers among them. What its
reader gets is the record laid over the initial value: the members that are there count, and no
other. This holds of one record at a time, for any way of telling its fields that their own readers
can cope with.

## Main definitions

* `Telling`, `Telling.edited` — ways of telling a value, in part or as a whole
* `Written` — the compact text of a value tells it in some way
* `Recovers` — a reader gets a value back, told in some way
* `Layered` — laying parts of a record over another is well-behaved

## Main results

* `recovers_word`, `recovers_text`, `recovers_fixed`, … — what the basic readers get back
* `recovers_record` — what the reader of a record gets back
* `written_record` — the compact text of a record tells all of it
-/

set_option autoImplicit false

namespace Mosaic.Json

/-! ## Ways of telling -/

/-- A way of telling values by forms. -/
abbrev Telling := Value → Form → Prop

/-- A value is told as a whole. -/
def Telling.whole : Telling := fun v f => f.Tells v

/-- Members tell entries one by one, each as its name has it, with strangers among them. -/
inductive Among (names : List String) (inner : String → Telling) :
    List (String × Value) → List (Member Form) → Prop
  | nil : Among names inner [] []
  | known {name : String} {v : Value} {m : Member Form} {entries : List (String × Value)}
      {members : List (Member Form)} (spells : Spells m.key name.toList)
      (told : inner name v m.form) (more : Among names inner entries members) :
      Among names inner ((name, v) :: entries) (m :: members)
  | stranger {name : String} {m : Member Form} {entries : List (String × Value)}
      {members : List (Member Form)} (spells : Spells m.key name.toList) (other : name ∉ names)
      (more : Among names inner entries members) : Among names inner entries (m :: members)

/-- An object is told by those of its entries that are kept, in any order, with strangers among
them. -/
inductive Telling.edited (keep : String → Bool) (inner : String → Telling) : Telling
  | intro {entries order : List (String × Value)} {blank : Gap} {members : List (Member Form)}
      (perm : order.Perm (entries.filter fun e => keep e.1))
      (among : Among (entries.map Prod.fst) inner order members) :
      edited keep inner (.object entries) (.object blank members)

/-- The compact text of a value tells it in some way. -/
def Written (told : Telling) (v : Value) : Prop := ∃ f : Form, f.chars = v.chars ∧ told v f

theorem written_whole {v : Value} (floatless : v.Floatless) : Written .whole v :=
  exists_form floatless

theorem among_of_forall₂ {names : List String} {inner : String → Telling}
    {entries : List (String × Value)} {members : List (Member Form)}
    (all : List.Forall₂ (fun e m => Spells m.key e.1.toList ∧ inner e.1 e.2 m.form) entries
      members) : Among names inner entries members := by
  induction all with
  | nil => exact .nil
  | cons first _ ih => exact .known first.1 first.2 ih

theorem among_of_membersTell {names : List String} {inner : String → Telling}
    {entries : List (String × Value)} {members : List (Member Form)}
    (tell : membersTell members entries)
    (each : ∀ e ∈ entries, ∀ f : Form, f.Tells e.2 → inner e.1 e.2 f) :
    Among names inner entries members := by
  induction members generalizing entries with
  | nil =>
    obtain rfl : entries = [] := tell
    exact .nil
  | cons m members ih =>
    obtain ⟨key, before, between, form, after, next⟩ := m
    obtain ⟨name, v, rest, rfl, spells, tells, tell⟩ := tell
    obtain ⟨first, each⟩ := List.forall_mem_cons.mp each
    exact .known spells (first form tells) (ih tell each)

/-- What tells an object as a whole tells all its entries, each as it is to be told. -/
theorem edited_of_tells {inner : String → Telling} {entries : List (String × Value)}
    {f : Form} (tells : f.Tells (.object entries))
    (each : ∀ e ∈ entries, ∀ f : Form, f.Tells e.2 → inner e.1 e.2 f) :
    Telling.edited (fun _ => true) inner (.object entries) f := by
  obtain ⟨blank, members, order, rfl, perm, tell⟩ := Form.exists_of_tells_object tells
  exact .intro (by simpa using perm)
    (among_of_membersTell tell fun e here => each e (perm.mem_iff.mp here))

/-- Who reads what was told in some way gets so much back. -/
def Recovers {β : Type} (told : Telling) (v : Value) (read : Decoder β) (b : β) : Prop :=
  ∀ ⦃f : Form⦄ ⦃depth : Nat⦄, told v f → depth + v.nesting ≤ depthLimit →
    read .text (f.node depth) = .ok b

theorem Recovers.map {β γ : Type} {told : Telling} {v : Value} {read : Decoder β} {b : β}
    (recovers : Recovers told v read b) (g : β → γ) :
    Recovers told v (fun route node => (read route node).map g) (g b) := by
  intro f depth tells shallow
  simp only [recovers tells shallow, Except.map]

/-- Who gets an object back from all its entries, however they are listed among strangers, gets it
back from the whole. -/
theorem Recovers.whole {β : Type} {entries : List (String × Value)} {read : Decoder β} {b : β}
    (recovers : Recovers (.edited (fun _ => true) fun _ => .whole) (.object entries) read b) :
    Recovers .whole (.object entries) read b :=
  fun _ _ tells shallow => recovers (edited_of_tells tells fun _ _ _ tells => tells) shallow

/-! ## Basic readers -/

section Numbers

variable {title : String} {least greatest : Int}

theorem recovers_integer (i : Integer) {n : Int} (same : i.value = n)
    (fits : least ≤ n ∧ n ≤ greatest) :
    Recovers .whole (.number (.integer i)) (integer title least greatest) n := by
  intro f depth tells _
  rw [Form.node_of_tells_integer tells, integer, same, if_pos fits]

theorem recovers_nat {n : Nat} (fits : least ≤ n ∧ n ≤ greatest)
    (narrow : greatest < 0x10000000000000000) :
    Recovers .whole (.nat n) (integer title least greatest) n :=
  recovers_integer _ (by dsimp only; omega) fits

theorem recovers_int {i : Int} (fits : least ≤ i ∧ i ≤ greatest)
    (narrow : -0x8000000000000000 ≤ least ∧ greatest < 0x10000000000000000) :
    Recovers .whole (.int i) (integer title least greatest) i :=
  recovers_integer _ (by dsimp only; omega) fits

end Numbers

theorem recovers_word (n : UInt32) : Recovers .whole (wordValue n) word n := by
  have small := n.toNat_lt
  have read : Recovers .whole (wordValue n) (integer "u32" 0 (0x100000000 - 1)) n.toNat :=
    recovers_nat (by omega) (by omega)
  have recovers := read.map fun i => UInt32.ofNat i.toNat
  rwa [Int.toNat_natCast, UInt32.ofNat_toNat] at recovers

theorem recovers_byte (n : UInt8) : Recovers .whole (.nat n.toNat) byte n := by
  have small := n.toNat_lt
  have read : Recovers .whole (.nat n.toNat) (integer "u8" 0 255) n.toNat :=
    recovers_nat (by omega) (by omega)
  have recovers := read.map fun i => UInt8.ofNat i.toNat
  rwa [Int.toNat_natCast, UInt8.ofNat_toNat] at recovers

theorem recovers_coordinate (n : Int32) : Recovers .whole (.int n.toInt) coordinate n := by
  have least := n.le_toInt
  have greatest := n.toInt_lt
  have read : Recovers .whole (.int n.toInt) (integer "i32" (-0x80000000) (0x80000000 - 1))
      n.toInt := recovers_int (by omega) (by omega)
  have recovers := read.map Int32.ofInt
  rwa [Int32.ofInt_toInt] at recovers

theorem recovers_duration (n : Int64) : Recovers .whole (.int n.toInt) duration n := by
  have least := n.le_toInt
  have greatest := n.toInt_lt
  have read : Recovers .whole (.int n.toInt)
      (integer "i64" (-0x8000000000000000) (0x8000000000000000 - 1)) n.toInt :=
    recovers_int (by omega) (by omega)
  have recovers := read.map Int64.ofInt
  rwa [Int64.ofInt_toInt] at recovers

theorem recovers_flag (b : Bool) : Recovers .whole (.bool b) flag b := by
  intro f depth tells _
  rw [Form.node_of_tells_bool tells, flag]

theorem recovers_text (s : String) : Recovers .whole (.string s) text s := by
  intro f depth tells _
  rw [Form.node_of_tells_string tells, text]

theorem recovers_option_text (s : Option String) :
    Recovers .whole (.option .string s) (option text) s := by
  intro f depth tells _
  cases s with
  | none => rw [Form.node_of_tells_null tells, option]
  | some s =>
    rw [Form.node_of_tells_string tells]
    rfl

theorem recovers_variant {β : Type} {known : List (String × β)} {name : String} {b : β}
    (first : known.find? (fun entry => entry.1 = name) = some (name, b)) :
    Recovers .whole (.string name) (variant known) b := by
  intro f depth tells _
  rw [Form.node_of_tells_string tells, variant, variantOfText, alternative, first]

section Elements

variable {β : Type} {read : Decoder β} {write : β → Value} {bs : List β}

theorem firstOf_nodes (each : ∀ b ∈ bs, Recovers .whole (write b) read b) {expected : String}
    {count depth : Nat} {items : List (Item Form)} (tell : itemsTell items (bs.map write))
    (shallow : depth + itemsNesting (bs.map write) ≤ depthLimit) :
    firstOf expected read .text .closed bs.length count (itemNodes depth items) = .ok (bs, []) := by
  induction bs generalizing count items with
  | nil =>
    match items with
    | [] => rfl
    | ⟨_, _, _⟩ :: _ =>
      obtain ⟨_, _, ⟨⟩, -⟩ := tell
  | cons b bs ih =>
    obtain ⟨first, each⟩ := List.forall_mem_cons.mp each
    match items with
    | [] => cases tell
    | ⟨form, _, _⟩ :: items =>
      obtain ⟨_, _, ⟨⟩, tells, tell⟩ := tell
      rw [List.map_cons, itemsNesting] at shallow
      have near : read .text (form.node depth) = .ok b := first tells (by omega)
      have more : firstOf expected read .text .closed bs.length (count + 1)
          (itemNodes depth items) = .ok (bs, []) := ih each tell (by omega)
      simp only [List.length_cons, itemNodes, firstOf, near, more, bind, Except.bind]
      rfl

/-- A list is read back from an array, if its reader asks for so many elements. -/
theorem recovers_fixed (each : ∀ b ∈ bs, Recovers .whole (write b) read b) :
    Recovers .whole (.list write bs) (fixed bs.length read) bs := by
  intro f depth tells shallow
  rw [Value.list] at tells shallow
  obtain ⟨blank, items, rfl, tell⟩ := Form.exists_of_tells_array tells
  rw [Value.nesting] at shallow
  have near : ¬ depthLimit ≤ depth := by omega
  have found (expected : String) : firstOf expected read .text .closed bs.length 0
      (itemNodes (depth + 1) items) = .ok (bs, []) := firstOf_nodes each tell (by omega)
  simp only [Form.node, fixed, near, found, surplus, bind, Except.bind, decide_false,
    Bool.false_eq_true, if_false]
  rfl

end Elements

/-- The members of a table are read like those of a value. -/
theorem tableMembers_anything (route : Route) (entries : List (String × Value))
    (members : List (Except Malformed String × Node)) :
    tableMembers anything route entries members = malformed (memberValues entries members) := by
  induction members generalizing entries with
  | nil => rfl
  | cons m members ih =>
    obtain ⟨key, node⟩ := m
    rw [tableMembers, memberValues]
    cases key with
    | error fault => rfl
    | ok name =>
      cases read : node.toValue with
      | error fault => simp [anything, read, malformed, bind, Except.bind, Except.mapError]
      | ok v => simp [anything, read, malformed, bind, Except.bind, Except.mapError, ih]

theorem recovers_table {entries : List (String × Value)} (sorted : (Value.object entries).Sorted) :
    Recovers .whole (.object entries) (table anything) entries := by
  intro f depth tells shallow
  have read := toValue_node tells sorted shallow
  obtain ⟨blank, members, order, rfl, -, -⟩ := Form.exists_of_tells_object tells
  have near : ¬ depthLimit ≤ depth := by
    rw [Value.nesting] at shallow
    omega
  -- A table and a value go the same way, up to the type of what is wrong.
  cases values : memberValues [] (memberNodes (depth + 1) members) <;>
    simp_all [Form.node, Node.toValue, table, tableMembers_anything, malformed, Tail.read, bind,
      Except.bind, Except.mapError, pure, Except.pure]

/-! ## Records -/

theorem recovers_field {α β : Type} {told : Telling} {name : String} {read : Decoder β}
    {get : α → β} {put : β → α → α} {write : β → Value} {a : α} {b : β} {change : α → α}
    (recovers : Recovers told (write (get a)) read b) (same : ∀ a', change a' = put b a') :
    Recovers told ((RecordField.of name read get put write).write a)
      (RecordField.of name read get put write).read change := by
  rw [funext same]
  exact recovers.map put

/-- The fields of some names of a record, laid over another. -/
structure Layered {α : Type} (r : Record α) (lay : (String → Bool) → α → α) : Prop where
  nothing (a : α) : lay (fun _ => false) a = a
  twice (k k' : String → Bool) (a : α) : lay k (lay k' a) = lay (fun n => k n || k' n) a
  /-- No names count but those of fields. -/
  named {k k' : String → Bool} (same : ∀ field ∈ r.fields, k field.name = k' field.name) (a : α) :
    lay k a = lay k' a

theorem memberNodes_cons (m : Member Form) (members : List (Member Form)) (depth : Nat) :
    memberNodes depth (m :: members) =
      (strokesText m.key, m.form.node depth) :: memberNodes depth members := by
  rw [memberNodes]

section Record

variable {α : Type} {r : Record α} {lay : (String → Bool) → α → α} {inner : String → Telling}
  {depth : Nat} {order : List (String × Value)} {members : List (Member Form)}

theorem readMembers_known {route : Route} {seen : List String} {name : String} {node : Node}
    {field : RecordField α} {change : α → α} (new : name ∉ seen)
    (found : r.fields.find? (fun field => field.name = name) = some field)
    (read : field.read route node = .ok change) (a : α)
    (rest : List (Except Malformed String × Node)) :
    r.readMembers route seen a ((.ok name, node) :: rest) =
      r.readMembers route (name :: seen) (change a) rest := by
  rw [Record.readMembers]
  simp [malformed, Except.mapError, bind, Except.bind, found, new, read]

theorem readMembers_stranger {route : Route} {name : String} {node : Node}
    (other : name ∉ r.fields.map RecordField.name) (skip : node.skip = .ok ()) (seen : List String)
    (a : α) (rest : List (Except Malformed String × Node)) :
    r.readMembers route seen a ((.ok name, node) :: rest) = r.readMembers route seen a rest := by
  have unknown : r.fields.find? (fun field => field.name = name) = none :=
    List.find?_eq_none.mpr fun field here same =>
      other (List.mem_map.mpr ⟨field, here, of_decide_eq_true same⟩)
  rw [Record.readMembers]
  simp [malformed, Except.mapError, bind, Except.bind, unknown, skip]

/-- Strangers are passed over, and every member that is none lays its field over what there is. -/
theorem readMembers_among (layered : Layered r lay)
    (among : Among (r.fields.map RecordField.name) inner order members)
    (reads : ∀ e ∈ order, ∃ field, r.fields.find? (fun field => field.name = e.1) = some field ∧
      Recovers (inner e.1) e.2 field.read (lay fun n => n == e.1))
    (shallow : ∀ e ∈ order, depth + e.2.nesting ≤ depthLimit)
    (once : (order.map Prod.fst).Nodup) (seen : List String) (fresh : ∀ e ∈ order, e.1 ∉ seen)
    (a : α) :
    r.readMembers .text seen a (memberNodes depth members) =
      .ok ((order.map Prod.fst).reverse ++ seen,
        lay (fun n => (order.map Prod.fst).contains n) a) := by
  induction among generalizing seen a with
  | nil =>
    rw [memberNodes, Record.readMembers]
    exact congrArg Except.ok (Prod.ext rfl (layered.nothing a).symm)
  | @known name v m order members spells told more ih =>
    obtain ⟨⟨field, found, recovers⟩, reads⟩ := List.forall_mem_cons.mp reads
    obtain ⟨near, shallow⟩ := List.forall_mem_cons.mp shallow
    obtain ⟨new, fresh⟩ := List.forall_mem_cons.mp fresh
    obtain ⟨other, once⟩ := List.nodup_cons.mp once
    have later : ∀ e ∈ order, e.1 ∉ name :: seen := by
      intro e here again
      rcases List.mem_cons.mp again with same | before
      · exact other (List.mem_map.mpr ⟨e, here, same⟩)
      · exact fresh e here before
    have laid : lay (fun n => (order.map Prod.fst).contains n) (lay (fun n => n == name) a) =
        lay (fun n => (((name, v) :: order).map Prod.fst).contains n) a := by
      rw [layered.twice]
      congr 1
      funext n
      rw [List.map_cons, List.contains_cons, Bool.or_comm]
    rw [memberNodes_cons, spells.text, readMembers_known new found (recovers told near),
      ih reads shallow once _ later, laid]
    simp
  | stranger spells other more ih =>
    rw [memberNodes_cons, spells.text, readMembers_stranger other (skip_node _ _),
      ih reads shallow once _ fresh]

theorem find?_of_nodup (distinct : (r.fields.map RecordField.name).Nodup) {field : RecordField α}
    (here : field ∈ r.fields) :
    r.fields.find? (fun field' => field'.name = field.name) = some field := by
  cases found : r.fields.find? (fun field' => field'.name = field.name) with
  | none => exact (List.find?_eq_none.mp found field here (decide_eq_true rfl)).elim
  | some field' =>
    have same := List.find?_some found
    rw [List.inj_on_of_nodup_map distinct (List.mem_of_find?_eq_some found) here
      (of_decide_eq_true same)]

section Kept

variable {keep : String → Bool} {a : α}

/-- The entries of a record that are kept, by their fields. -/
theorem mem_kept {e : String × Value} :
    (e ∈ (r.fields.map fun field => (field.name, field.write a)).filter fun e => keep e.1) ↔
      ∃ field ∈ r.fields, keep field.name = true ∧ e = (field.name, field.write a) := by
  rw [List.mem_filter, List.mem_map]
  constructor
  · rintro ⟨⟨field, here, rfl⟩, kept⟩
    exact ⟨field, here, kept, rfl⟩
  · rintro ⟨field, here, kept, rfl⟩
    exact ⟨⟨field, here, rfl⟩, kept⟩

theorem map_fst_entries :
    (r.fields.map fun field => (field.name, field.write a)).map Prod.fst =
      r.fields.map RecordField.name := by
  rw [List.map_map]
  rfl

/-- The names of the entries that are kept are the names to be kept. -/
theorem contains_kept
    (perm : order.Perm
      ((r.fields.map fun field => (field.name, field.write a)).filter fun e => keep e.1))
    {field : RecordField α} (here : field ∈ r.fields) :
    (order.map Prod.fst).contains field.name = keep field.name := by
  rw [Bool.eq_iff_iff, List.contains_iff_mem, (perm.map Prod.fst).mem_iff, List.mem_map]
  constructor
  · rintro ⟨e, listed, same⟩
    obtain ⟨field', -, kept, rfl⟩ := mem_kept.mp listed
    exact same ▸ kept
  · exact fun kept => ⟨_, mem_kept.mpr ⟨field, here, kept, rfl⟩, rfl⟩

theorem nodup_kept (distinct : (r.fields.map RecordField.name).Nodup)
    (perm : order.Perm
      ((r.fields.map fun field => (field.name, field.write a)).filter fun e => keep e.1)) :
    (order.map Prod.fst).Nodup := by
  rw [← map_fst_entries (a := a)] at distinct
  exact (perm.map Prod.fst).nodup_iff.mpr ((List.filter_sublist.map _).nodup distinct)

theorem missing?_eq_none {seen : List String} (all : ∀ field ∈ r.fields, field.name ∈ seen) :
    r.missing? seen = none := by
  rw [Record.missing?]
  split_ifs
  · refine List.find?_eq_none.mpr fun name listed => ?_
    obtain ⟨field, here, rfl⟩ := List.mem_map.mp listed
    simp [all field here]
  · rfl

end Kept

/-- Who reads a record that is told in part gets the fields that are kept, laid over the initial
record. -/
theorem recovers_record (layered : Layered r lay)
    (distinct : (r.fields.map RecordField.name).Nodup) {keep : String → Bool} {a : α}
    (full : r.complete = true → ∀ field ∈ r.fields, keep field.name = true)
    (reads : ∀ field ∈ r.fields, keep field.name = true →
      Recovers (inner field.name) (field.write a) field.read (lay fun n => n == field.name)) :
    Recovers (.edited keep inner) (r.toValue a) r.decode (lay keep r.initial) := by
  rintro f depth ⟨perm, among⟩ shallow
  rename_i order blank members
  rw [map_fst_entries] at among
  rw [Record.toValue, Value.nesting] at shallow
  have near : ¬ depthLimit ≤ depth := by omega
  have reads (e) (listed : e ∈ order) : ∃ field,
      r.fields.find? (fun field => field.name = e.1) = some field ∧
        Recovers (inner e.1) e.2 field.read (lay fun n => n == e.1) := by
    obtain ⟨field, here, kept, rfl⟩ := mem_kept.mp (perm.mem_iff.mp listed)
    exact ⟨field, find?_of_nodup distinct here, reads field here kept⟩
  have shallow (e) (listed : e ∈ order) : depth + 1 + e.2.nesting ≤ depthLimit := by
    have := nesting_le_entriesNesting (List.mem_filter.mp (perm.mem_iff.mp listed)).1
    omega
  have read := readMembers_among layered among reads shallow (nodup_kept distinct perm) []
    (fun _ _ => List.not_mem_nil) r.initial
  have given : r.missing? ((order.map Prod.fst).reverse ++ []) = none := by
    cases complete : r.complete with
    | false => simp [Record.missing?, complete]
    | true =>
      refine missing?_eq_none fun field here => ?_
      have kept := (contains_kept perm here).trans (full complete field here)
      simpa using kept
  rw [layered.named fun field here => contains_kept perm here] at read
  simp only [Form.node, Record.decode, near, read, given, bind, Except.bind, decide_false,
    Bool.false_eq_true, if_false]
  rfl

/-- The compact text of a record tells all its fields. -/
theorem written_record {a : α}
    (each : ∀ field ∈ r.fields, Written (inner field.name) (field.write a)) :
    Written (.edited (fun _ => true) inner) (r.toValue a) := by
  have entries : ∀ e ∈ r.fields.map (fun field => (field.name, field.write a)),
      ∃ f : Form, f.chars = e.2.chars ∧ inner e.1 e.2 f := by
    intro e listed
    obtain ⟨field, here, rfl⟩ := List.mem_map.mp listed
    exact each field here
  obtain ⟨members, chars, all⟩ := exists_members entries
  refine ⟨.object .none members, ?_, .intro (by simp) (among_of_forall₂ all)⟩
  simp [Record.toValue, Form.chars, Value.chars, Gap.none, chars]

theorem floatless_record {a : α} (each : ∀ field ∈ r.fields, (field.write a).Floatless) :
    (r.toValue a).Floatless := by
  refine .object fun e listed => ?_
  obtain ⟨field, here, rfl⟩ := List.mem_map.mp listed
  exact each field here

end Record

end Mosaic.Json
