import Mosaic.Proofs.Overlay
import Mosaic.Proofs.Routes

/-!
# Members in another order

The order of the members of an object is no matter to who reads it. A value may be rearranged on
every level: what tells it tells the value it was before. So a value is read back from the text of
any arrangement of it; and if a reader takes from values what it takes from texts, the value is read
back from any arrangement as well, and from a configuration whose options are its members, set one
after the other.

## Main definitions

* `Value.Rearranges` — one value is the other with the members of its objects in another order
* `Restores` — a reader gets something back from whatever tells a value
* `SplitSettings.setOptions` — sets options one after the other

## Main results

* `tells_rearranged` — what tells a value tells every arrangement of it
* `Restores.decodeText_text`, `Restores.decodeValue_eq` — so it comes back from all arrangements
* `Restores.optionsAs_setOptions` — also from options, set in any order
-/

set_option autoImplicit false

namespace Mosaic.Json

/-- One value is the other with the members of its objects in another order, on any level. -/
inductive Value.Rearranges : Value → Value → Prop
  | refl (v : Value) : Rearranges v v
  | trans {u v w : Value} (first : Rearranges u v) (second : Rearranges v w) : Rearranges u w
  | members {order entries : List (String × Value)} (perm : order.Perm entries) :
      Rearranges (.object order) (.object entries)
  | item {before after : List Value} {u v : Value} (inner : Rearranges u v) :
      Rearranges (.array (before ++ u :: after)) (.array (before ++ v :: after))
  | member {before after : List (String × Value)} {name : String} {u v : Value}
      (inner : Rearranges u v) :
      Rearranges (.object (before ++ (name, u) :: after)) (.object (before ++ (name, v) :: after))

/-! ## What stays the same -/

theorem itemsNesting_append (before after : List Value) :
    itemsNesting (before ++ after) = max (itemsNesting before) (itemsNesting after) := by
  induction before with
  | nil => simp [itemsNesting]
  | cons v before ih => rw [List.cons_append, itemsNesting, itemsNesting, ih, Nat.max_assoc]

theorem entriesNesting_append (before after : List (String × Value)) :
    entriesNesting (before ++ after) = max (entriesNesting before) (entriesNesting after) := by
  induction before with
  | nil => simp [entriesNesting]
  | cons e before ih => rw [List.cons_append, entriesNesting, entriesNesting, ih, Nat.max_assoc]

theorem entriesNesting_perm {order entries : List (String × Value)} (perm : order.Perm entries) :
    entriesNesting order = entriesNesting entries := by
  induction perm with
  | nil => rfl
  | cons e _ ih => rw [entriesNesting, entriesNesting, ih]
  | swap e e' rest => simp only [entriesNesting, Nat.max_left_comm]
  | trans _ _ ih ih' => exact ih.trans ih'

namespace Value.Rearranges

variable {u v : Value}

/-- There are as many brackets inside each other as before. -/
theorem nesting_eq (rearranges : u.Rearranges v) : u.nesting = v.nesting := by
  induction rearranges with
  | refl => rfl
  | trans _ _ ih ih' => exact ih.trans ih'
  | members perm => rw [nesting, nesting, entriesNesting_perm perm]
  | item _ ih => simp only [nesting, itemsNesting_append, itemsNesting, ih]
  | member _ ih => simp only [nesting, entriesNesting_append, entriesNesting, ih]

theorem floatless (rearranges : u.Rearranges v) (floatless : v.Floatless) : u.Floatless := by
  induction rearranges with
  | refl => exact floatless
  | trans _ _ ih ih' => exact ih (ih' floatless)
  | members perm =>
    obtain - | - | - | - | - | all := floatless
    exact .object fun e here => all e (perm.mem_iff.mp here)
  | item _ ih =>
    obtain - | - | - | - | all | - := floatless
    rw [List.forall_mem_append, List.forall_mem_cons] at all
    refine .array ?_
    rw [List.forall_mem_append, List.forall_mem_cons]
    exact ⟨all.1, ih all.2.1, all.2.2⟩
  | member _ ih =>
    obtain - | - | - | - | - | all := floatless
    rw [List.forall_mem_append, List.forall_mem_cons] at all
    refine .object ?_
    rw [List.forall_mem_append, List.forall_mem_cons]
    exact ⟨all.1, ih all.2.1, all.2.2⟩

/-- An object has members of the same names as before. -/
theorem names_perm (rearranges : u.Rearranges v) {entries : List (String × Value)}
    (object : v = .object entries) :
    ∃ order, u = .object order ∧ (order.map Prod.fst).Perm (entries.map Prod.fst) := by
  induction rearranges generalizing entries with
  | refl => exact ⟨entries, object, .refl _⟩
  | trans _ _ ih ih' =>
    obtain ⟨between, same, perm⟩ := ih' object
    obtain ⟨order, same', perm'⟩ := ih same
    exact ⟨order, same', perm'.trans perm⟩
  | members perm =>
    obtain rfl := Value.object.inj object
    exact ⟨_, rfl, perm.map _⟩
  | item => cases object
  | member =>
    obtain rfl := Value.object.inj object
    exact ⟨_, rfl, by simp⟩

end Value.Rearranges

/-! ## Telling -/

theorem itemsTell_replace {u v : Value} (each : ∀ f : Form, f.Tells u → f.Tells v)
    {before after : List Value} {items : List (Item Form)}
    (tell : itemsTell items (before ++ u :: after)) : itemsTell items (before ++ v :: after) := by
  induction before generalizing items with
  | nil =>
    match items with
    | [] => cases tell
    | ⟨form, _, _⟩ :: items =>
      obtain ⟨_, _, ⟨⟩, tells, tell⟩ := tell
      exact ⟨_, _, rfl, each form tells, tell⟩
  | cons w before ih =>
    match items with
    | [] => cases tell
    | ⟨form, _, _⟩ :: items =>
      obtain ⟨_, _, ⟨⟩, tells, tell⟩ := tell
      exact ⟨_, _, rfl, tells, ih tell⟩

theorem membersTell_replace {u v : Value} (each : ∀ f : Form, f.Tells u → f.Tells v)
    {before after : List (String × Value)} {name : String} {members : List (Member Form)}
    (tell : membersTell members (before ++ (name, u) :: after)) :
    membersTell members (before ++ (name, v) :: after) := by
  induction before generalizing members with
  | nil =>
    match members with
    | [] => cases tell
    | ⟨key, _, _, form, _, _⟩ :: members =>
      obtain ⟨_, _, _, ⟨⟩, spells, tells, tell⟩ := tell
      exact ⟨_, _, _, rfl, spells, each form tells, tell⟩
  | cons e before ih =>
    match members with
    | [] => cases tell
    | ⟨key, _, _, form, _, _⟩ :: members =>
      obtain ⟨_, _, _, ⟨⟩, spells, tells, tell⟩ := tell
      exact ⟨_, _, _, rfl, spells, tells, ih tell⟩

/-- What tells a value tells every arrangement of it. -/
theorem tells_rearranged {u v : Value} (rearranges : u.Rearranges v) (f : Form)
    (tells : f.Tells u) : f.Tells v := by
  induction rearranges generalizing f with
  | refl => exact tells
  | trans _ _ ih ih' => exact ih' f (ih f tells)
  | members perm =>
    obtain ⟨blank, members, order, rfl, listed, tell⟩ := Form.exists_of_tells_object tells
    exact ⟨_, order, rfl, listed.trans perm, tell⟩
  | item inner ih =>
    obtain ⟨blank, items, rfl, tell⟩ := Form.exists_of_tells_array tells
    exact ⟨_, rfl, itemsTell_replace ih tell⟩
  | @member before after name u v inner ih =>
    obtain ⟨blank, members, order, rfl, listed, tell⟩ := Form.exists_of_tells_object tells
    -- The form has its own order, in which the member stands somewhere else.
    obtain ⟨before', after', rfl⟩ :=
      List.append_of_mem (listed.mem_iff.mpr (List.mem_append_right _ List.mem_cons_self))
    have rest : (before' ++ after').Perm (before ++ after) :=
      (List.perm_middle.symm.trans (listed.trans List.perm_middle)).cons_inv
    exact ⟨_, before' ++ (name, v) :: after', rfl,
      List.perm_middle.trans ((rest.cons _).trans List.perm_middle.symm),
      membersTell_replace ih tell⟩

/-! ## Reading -/

section Reading

variable {α : Type} {read : Decoder α} {a : α} {u v : Value}

/-- What is read in the text of a value is read in the value. -/
theorem decodeValue_of_decodeText (transfers : Transfers read) (floatless : v.Floatless)
    (shallow : v.nesting ≤ depthLimit) (h : decodeText read v.text = .ok a) :
    decodeValue read v = .ok a := by
  rw [decodeText, ofText_text floatless shallow] at h
  obtain ⟨b, first, h⟩ := exists_of_bind_eq_ok h
  obtain rfl := Except.ok.inj h
  exact transfers first

/-- A reader gets something back from a value: it copes with whatever tells the value, and the text
of the value does. -/
structure Restores (read : Decoder α) (v : Value) (a : α) : Prop where
  recovers : Recovers .whole v read a
  floatless : v.Floatless
  shallow : v.nesting ≤ depthLimit

namespace Restores

variable (restores : Restores read v a)

include restores

/-- It gets it back from every text that tells the value. -/
theorem decodeText_spaced {f : Form} (tells : f.Tells v) (before after : Gap) :
    decodeText read (spaced before f after) = .ok a := by
  refine Mosaic.decodeText_spaced (restores.recovers tells ?_) before after
  rw [Nat.zero_add]
  exact restores.shallow

/-- It gets it back from the text of any arrangement of the value. -/
theorem decodeText_text (rearranges : u.Rearranges v) : decodeText read u.text = .ok a := by
  obtain ⟨f, chars, tells⟩ := exists_form (rearranges.floatless restores.floatless)
  rw [← spaced_none chars]
  exact restores.decodeText_spaced (tells_rearranged rearranges f tells) _ _

/-- It gets it back from any arrangement of the value. -/
theorem decodeValue_eq (transfers : Transfers read) (rearranges : u.Rearranges v) :
    decodeValue read u = .ok a :=
  decodeValue_of_decodeText transfers (rearranges.floatless restores.floatless)
    (rearranges.nesting_eq ▸ restores.shallow) (restores.decodeText_text rearranges)

end Restores

end Reading

end Mosaic.Json

namespace Mosaic

open Json

namespace SplitSettings

/-- Sets options one after the other. -/
def setOptions (s : SplitSettings) (order : List (String × Value)) : SplitSettings :=
  order.foldl (fun s e => s.setOption e.1 e.2) s

theorem options_setOptions (s : SplitSettings) (order : List (String × Value)) :
    (s.setOptions order).options = order.foldl (fun t e => Ordered.put e.1 e.2 t) s.options := by
  induction order generalizing s with
  | nil => rfl
  | cons e order ih => exact ih (s.setOption e.1 e.2)

/-- Options of different names are all there once they have been set. -/
theorem options_setOptions_perm {s : SplitSettings} (empty : s.options = [])
    {order : List (String × Value)} (once : (order.map Prod.fst).Nodup) :
    (s.setOptions order).options.Perm order := by
  have apart : (order ++ []).Pairwise fun e e' : String × Value => e.1 ≠ e'.1 := by
    rw [List.append_nil]
    exact List.pairwise_map.mp once
  have perm := (Ordered.foldl_put List.Pairwise.nil apart).2
  rwa [List.append_nil, ← empty, ← options_setOptions] at perm

end SplitSettings

/-- Something is got back from options that are the members of its value, set in any order, each in
any arrangement. -/
theorem Json.Restores.optionsAs_setOptions {α : Type} {read : Decoder α} {a : α}
    {entries order : List (String × Value)} (restores : Restores read (.object entries) a)
    (transfers : Transfers read) (once : (entries.map Prod.fst).Nodup)
    (rearranges : (Value.object order).Rearranges (.object entries)) {s : SplitSettings}
    (empty : s.options = []) : (s.setOptions order).optionsAs read = .ok a := by
  obtain ⟨_, ⟨⟩, names⟩ := rearranges.names_perm rfl
  -- Options are kept sorted, which is one more arrangement.
  have sorted : (Value.object (s.setOptions order).options).Rearranges (.object entries) :=
    .trans (.members (SplitSettings.options_setOptions_perm empty (names.nodup_iff.mpr once)))
      rearranges
  rw [SplitSettings.optionsAs, SplitSettings.decodeOptions,
    restores.decodeValue_eq transfers sorted, Except.mapError]

end Mosaic
