import Mathlib.Tactic.SplitIfs
import Mosaic.Json.Record

/-!
# From a text or from a value

A reader is told on which route its node came. The routes differ in what is said of a node that
cannot be read, and in nothing else: what is read of a node in a text is read of it in a value too.

## Main definitions

* `Transfers` — what a reader reads in a text, it reads in a value

## Main results

* `transfers_word`, `transfers_fixed`, `transfers_variant` — basic readers do
* `transfers_record` — so do the readers of records whose fields do
-/

set_option autoImplicit false

namespace Mosaic.Json

/-- What is read of a node in a text is read of it in a value too. -/
def Transfers {α : Type} (read : Decoder α) : Prop :=
  ∀ ⦃node : Node⦄ ⦃a : α⦄, read .text node = .ok a → read .value node = .ok a

section Steps

variable {ε α β : Type} {x : Except ε α}

theorem exists_of_bind_eq_ok {f : α → Except ε β} {b : β} (h : x >>= f = .ok b) :
    ∃ a, x = .ok a ∧ f a = .ok b := by
  cases x with
  | error _ => cases h
  | ok a => exact ⟨a, rfl, h⟩

theorem exists_of_map_eq_ok {f : α → β} {b : β} (h : x.map f = .ok b) :
    ∃ a, x = .ok a ∧ f a = b := by
  cases x with
  | error _ => cases h
  | ok a => exact ⟨a, rfl, Except.ok.inj h⟩

end Steps

variable {α β : Type} {read : Decoder α}

theorem Transfers.map (transfers : Transfers read) (f : α → β) :
    Transfers fun route node => (read route node).map f := by
  intro node b h
  obtain ⟨a, first, rfl⟩ := exists_of_map_eq_ok h
  simp only [transfers first, Except.map]

/-! ## Basic readers -/

theorem transfers_integer (title : String) (least greatest : Int) :
    Transfers (integer title least greatest) := fun _ _ h => h

theorem transfers_word : Transfers word := (transfers_integer _ _ _).map _

theorem transfers_byte : Transfers byte := (transfers_integer _ _ _).map _

theorem surplus_value {length : Nat} {left : List Node} {tail : Tail}
    (h : surplus .text length left tail = .ok ()) : surplus .value length left tail = .ok () := by
  unfold surplus at h ⊢
  split at h <;> simp_all

theorem firstOf_value (transfers : Transfers read) {expected : String} {tail : Tail}
    {wanted count : Nat} {nodes : List Node} {found : List α × List Node}
    (h : firstOf expected read .text tail wanted count nodes = .ok found) :
    firstOf expected read .value tail wanted count nodes = .ok found := by
  induction wanted generalizing count nodes found with
  | zero => exact h
  | succ wanted ih =>
    cases nodes with
    | nil => exact h
    | cons node rest =>
      obtain ⟨a, first, h⟩ := exists_of_bind_eq_ok h
      obtain ⟨more, next, h⟩ := exists_of_bind_eq_ok h
      simpa [firstOf, transfers first, ih next, bind, Except.bind] using h

theorem transfers_fixed (transfers : Transfers read) (length : Nat) :
    Transfers (fixed length read) := by
  intro node as h
  cases node with
  | array deep items tail =>
    cases deep with
    | true => cases h
    | false =>
      obtain ⟨⟨values, left⟩, first, h⟩ := exists_of_bind_eq_ok h
      obtain ⟨⟨⟩, ended, h⟩ := exists_of_bind_eq_ok h
      simp only [fixed, firstOf_value transfers first, surplus_value ended, bind, Except.bind]
      exact h
  | _ => exact h

theorem transfers_variant (known : List (String × α)) : Transfers (variant known) := by
  intro node a h
  change variantOfText known node = .ok a at h
  change variantOfValue known node = .ok a
  cases node with
  | string s => exact h
  | object deep members tail =>
    cases deep with
    | true => cases h
    | false =>
      cases members with
      | nil => cases tail <;> cases h
      | cons member rest =>
        obtain ⟨key, value⟩ := member
        obtain ⟨name, named, h⟩ := exists_of_bind_eq_ok h
        obtain ⟨b, chosen, h⟩ := exists_of_bind_eq_ok h
        obtain ⟨⟨⟩, null, h⟩ := exists_of_bind_eq_ok h
        have null : nothing .value value = .ok () := null
        -- A text has no further member if it is read, and nothing is wrong behind the first.
        split at h
        · simp only [variantOfValue, named, chosen, null, bind, Except.bind]
          exact h
        all_goals cases h
  | _ => cases h

/-! ## Records -/

section Record

variable {r : Record α} (each : ∀ field ∈ r.fields, Transfers field.read)

include each

theorem readMembers_value {seen : List String} {a : α}
    {members : List (Except Malformed String × Node)} {result : List String × α}
    (h : r.readMembers .text seen a members = .ok result) :
    r.readMembers .value seen a members = .ok result := by
  induction members generalizing seen a with
  | nil => exact h
  | cons member members ih =>
    -- The key is taken and the field is looked up alike; the route counts for the node alone.
    obtain ⟨key, node⟩ := member
    obtain ⟨name, named, h⟩ := exists_of_bind_eq_ok h
    simp only [Record.readMembers, named, bind, Except.bind]
    cases found : r.fields.find? fun f => f.name = name with
    | none =>
      rw [found] at h
      obtain ⟨⟨⟩, skipped, h⟩ := exists_of_bind_eq_ok h
      simp only [skipped]
      exact ih h
    | some field =>
      rw [found] at h
      dsimp only at h ⊢
      split_ifs at h ⊢ with again
      · cases h
      · obtain ⟨change, first, h⟩ := exists_of_bind_eq_ok h
        rw [each field (List.mem_of_find?_eq_some found) first]
        exact ih h

theorem readItems_value {tail : Tail} {fields : List (RecordField α)} (among : fields ⊆ r.fields)
    {count : Nat} {a : α} {nodes : List Node} {result : α × List Node}
    (h : r.readItems .text tail fields count a nodes = .ok result) :
    r.readItems .value tail fields count a nodes = .ok result := by
  induction fields generalizing count a nodes with
  | nil => exact h
  | cons field fields ih =>
    obtain ⟨here, among⟩ := List.cons_subset.mp among
    cases nodes with
    | nil => exact h
    | cons node rest =>
      obtain ⟨change, first, h⟩ := exists_of_bind_eq_ok h
      simp only [Record.readItems, each field here first, bind, Except.bind]
      exact ih among h

/-- The readers of records tell the routes apart no more than those of their fields do. -/
theorem transfers_record : Transfers r.decode := by
  intro node a h
  cases node with
  | object deep members tail =>
    cases deep with
    | true => cases h
    | false =>
      obtain ⟨⟨seen, b⟩, first, h⟩ := exists_of_bind_eq_ok h
      simp only [Record.decode, readMembers_value each first, bind, Except.bind]
      exact h
  | array deep items tail =>
    cases deep with
    | true => cases h
    | false =>
      obtain ⟨⟨b, left⟩, first, h⟩ := exists_of_bind_eq_ok h
      obtain ⟨⟨⟩, ended, h⟩ := exists_of_bind_eq_ok h
      simp only [Record.decode, readItems_value each (List.Subset.refl _) first,
        surplus_value ended, bind, Except.bind]
      exact h
  | _ => exact h

end Record

end Mosaic.Json
