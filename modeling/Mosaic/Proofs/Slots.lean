import Mosaic.Proofs.Grid
import Mosaic.Proofs.Holds

/-!
# What stands in the slots

The outputs of a partition, the places of its regions and the views that it makes of a picture are
three lists, and whoever shows the views relies on their indices alone. For clones and walls they
agree: a slot is filled if its output is active, and then by a view of that output's format, which
lies where its region starts inside the source, seen from where the picture lies itself.

The views are new pictures, and each is held by its slot and by nobody else. The hold on what was
split is given up, so splitting one picture after the other leaves nothing behind, and the
partition stays as it is. All this holds for every picture, be it a view itself, unless the place of
a view is behind the last word.

## Main definitions

* `BuiltinName.start` — where a region starts inside the source
* `Overruns` — whether the place of a view that is asked for is no word
* `SlotLaw` — what stands in the slots, and who holds it

## Main results

* `BuiltinName.placed_of_create` — cells lie where their regions start
* `Ledger.views_error_iff` — views break off where the place of one of them is no word
* `create_keeps_slot_law` — the law for every partition that is created
-/

set_option autoImplicit false

namespace Mosaic

/-! ## Where regions start -/

/-- Whether the cells of a partition lie where its regions are to start. -/
def Builtin.PlacedAt (b : Builtin) (start : Nat → Nat × Nat) : Prop :=
  ∀ (index : Nat) (c : Cell), b.cells[index]? = some c →
    c.origin.x.toNat = (start index).1 ∧ c.origin.y.toNat = (start index).2

namespace BuiltinName

variable {name : BuiltinName} {source : VideoFormat} {settings : SplitSettings} {b : Builtin}

/-- Where a region starts inside the source, across and down: a clone where the source starts, a
tile where its column and its row start inside the visible window. -/
def start (name : BuiltinName) (source : VideoFormat) (settings : SplitSettings) (index : Nat) :
    Nat × Nat :=
  match name, settings.optionsAs WallOptions.record.decode with
  | wall, .ok o =>
    (source.xOffset.toNat + index % o.cols.toNat * (source.visibleWidth.toNat / o.cols.toNat),
      source.yOffset.toNat + index / o.cols.toNat * (source.visibleHeight.toNat / o.rows.toNat))
  | _, _ => (0, 0)

/-- What is asked of the clones at hand is asked of a clone. -/
theorem exists_clone (made : BuiltinName.clone.create source settings = .ok (.ok b)) :
    ∃ o cells, settings.optionsAs CloneOptions.record.decode = .ok o ∧
      Clone.create source o = .ok cells ∧ b = .clone cells := by
  simp only [create] at made
  cases asked : settings.optionsAs CloneOptions.record.decode with
  | error cause =>
    rw [asked] at made
    cases made
  | ok o =>
    cases created : Clone.create source o with
    | error e =>
      simp only [asked, created] at made
      cases made
    | ok cells =>
      simp only [asked, created] at made
      cases made
      exact ⟨o, cells, rfl, created, rfl⟩

/-- The cells of a partition that is created lie where its regions start. -/
theorem placed_of_create (made : name.create source settings = .ok (.ok b)) :
    b.PlacedAt (name.start source settings) := by
  intro index c found
  cases name with
  | clone =>
    obtain ⟨o, cells, -, created, rfl⟩ := exists_clone made
    unfold Clone.create at created
    split at created
    · cases created
    · cases created
      rw [Builtin.cells, List.getElem?_map] at found
      obtain ⟨module, -, rfl⟩ := Option.map_eq_some_iff.mp found
      exact ⟨rfl, rfl⟩
  | wall =>
    obtain ⟨o, w, asked, created, rfl⟩ := exists_wall made
    obtain ⟨small, laid⟩ := (Wall.cells_of_create created).2 index c found
    obtain ⟨origin, placed, rfl⟩ := Wall.cellAt_eq_ok_iff.mp laid
    obtain ⟨x, y⟩ := Wall.shift_eq_ok_iff.mp placed
    obtain ⟨column, row⟩ := Wall.toNat_tileStart source small
    rw [column] at x
    rw [row] at y
    simp only [start, asked]
    exact ⟨x, y⟩

end BuiltinName

/-! ## Views -/

section Views

variable {base : Picture} {wanted : List (Option (VideoFormat × Origin))} {l l' : Ledger}
variable {slots : Slots}

/-- Views break off where the place of one of them is no word, and nowhere else. -/
theorem Ledger.views_error_iff :
    (∃ fault, l.views base wanted = .error fault) ↔
      ∃ want, some want ∈ wanted ∧ ¬ ∃ origin, base.origin.shift want.2 = .ok origin := by
  have spec := views_spec base wanted l
  cases made : l.views base wanted with
  | error fault =>
    rw [made] at spec
    obtain ⟨-, want, member, nowhere⟩ := spec
    exact ⟨fun _ => ⟨want, member, fun ⟨origin, placed⟩ => nowhere origin placed⟩,
      fun _ => ⟨fault, rfl⟩⟩
  | ok result =>
    rw [made] at spec
    constructor
    · nofun
    · rintro ⟨want, member, nowhere⟩
      obtain ⟨index, small, here⟩ := List.mem_iff_getElem.mp member
      have fit := spec.get small (spec.length_eq ▸ small)
      rw [List.get_eq_getElem, here] at fit
      obtain ⟨slot, fit⟩ : ∃ slot, Fitted base (some want) slot := ⟨_, fit⟩
      cases fit with
      | view placed => exact absurd ⟨_, placed⟩ nowhere

/-- What slots hold stands in one of them. -/
theorem exists_of_holding_pos {serial : Nat} (h : 0 < holding slots serial) :
    ∃ (index : Nat) (view : Picture), slots[index]? = some (some view) ∧ view.serial = serial := by
  obtain ⟨slot, member, found⟩ := List.countP_pos_iff.mp h
  obtain ⟨view, rfl, same⟩ := Option.any_eq_true _ _ |>.mp found
  obtain ⟨index, here⟩ := List.mem_iff_getElem?.mp member
  exact ⟨index, view, here, eq_of_beq same⟩

theorem Ledger.holds_release (l : Ledger) {p q : Picture} (other : ¬ q.SameAs p) :
    (l.release p).holds q = l.holds q :=
  List.count_erase_of_ne other

/-- Where no picture stands in two slots, different slots hold different pictures. -/
theorem apart_of_holding (once : ∀ serial, holding slots serial ≤ 1) {i j : Nat} (other : i ≠ j)
    {view view' : Picture} (here : slots[i]? = some (some view))
    (there : slots[j]? = some (some view')) : ¬ view.SameAs view' := by
  intro same
  -- Without the first slot the second one still holds the picture.
  have without : 0 < holding (slots.set i none) view'.serial :=
    holding_pos (by rw [List.getElem?_set_ne other, there, Option.join_some])
  have sum := holding_set (List.getElem?_eq_some_iff.mp here).1 none view'.serial
  rw [here, Option.join_some, inSlot_some, if_pos (show view.serial = _ from same),
    inSlot_none] at sum
  have := once view'.serial
  omega

end Views

/-! ## Splitting a picture -/

/-- Whether the place of a region that is shown is no word, seen from where a picture lies. -/
def Overruns (b : Builtin) (start : Nat → Nat × Nat) (picture : Picture) : Prop :=
  ∃ (index : Nat) (output : Output), b.outputs[index]? = some output ∧ output.active = true ∧
    (0xffffffff < picture.origin.x.toNat + (start index).1 ∨
      0xffffffff < picture.origin.y.toNat + (start index).2)

/-- What stands in the slots after a picture was split, and who holds it. -/
structure SlotLaw (b : Builtin) (start : Nat → Nat × Nat) (picture : Picture)
    (before after : Ledger) (slots : Slots) : Prop where
  count : slots.length = b.outputs.length
  filled : ∀ (index : Nat) (output : Output), b.outputs[index]? = some output →
    ((∃ view, slots[index]? = some (some view)) ↔ output.active = true)
  sized : ∀ (index : Nat) (output : Output) (view : Picture), b.outputs[index]? = some output →
    slots[index]? = some (some view) → view.format = output.format
  same : ∀ (index : Nat) (view : Picture), slots[index]? = some (some view) → view.ViewOf picture
  placed : ∀ (index : Nat) (view : Picture), slots[index]? = some (some view) →
    view.origin.x.toNat = picture.origin.x.toNat + (start index).1 ∧
      view.origin.y.toNat = picture.origin.y.toNat + (start index).2
  /-- A view is a picture that was never held before and is held once. -/
  fresh : ∀ (index : Nat) (view : Picture), slots[index]? = some (some view) →
    (before.holds view = 0 ∧ after.holds view = 1) ∧ ¬ view.SameAs picture
  apart : ∀ (i j : Nat) (view view' : Picture), i ≠ j → slots[i]? = some (some view) →
    slots[j]? = some (some view') → ¬ view.SameAs view'
  /-- The hold on the picture is given up. -/
  released : after.holds picture + 1 = before.holds picture
  /-- Nothing happens to any other picture. -/
  others : ∀ other : Picture, ¬ other.SameAs picture →
    (∀ (index : Nat) (view : Picture), slots[index]? = some (some view) → ¬ other.SameAs view) →
    after.holds other = before.holds other

section Split

variable {σ ι : Type} {b : Builtin} {start : Nat → Nat × Nat} {picture : Picture}
variable {world : World σ ι} {slots : Slots} {l : Ledger}

/-- A picture that can be split is. -/
theorem Builtin.filter_of_views
    (made : world.ledger.views picture (b.cells.map Cell.view?) = .ok (slots, l)) :
    Builtin.partitioner.filter b picture world =
      .ok (.ok slots, b) { world with ledger := l.release picture } := by
  change EStateM.bind (Run.consuming picture (b.split picture)) _ world = _
  simp only [EStateM.bind, Run.consuming, Builtin.split, made]
  rfl

theorem Builtin.filter_of_error {fault : Fault}
    (broken : world.ledger.views picture (b.cells.map Cell.view?) = .error fault) :
    Builtin.partitioner.filter b picture world =
      .error fault { world with ledger := world.ledger.release picture } := by
  change EStateM.bind (Run.consuming picture (b.split picture)) _ world = _
  simp only [EStateM.bind, Run.consuming, Builtin.split, broken]

/-- To ask for a view whose place is no word is to have a region that is shown there. -/
theorem overruns_iff (placed : b.PlacedAt start) :
    Overruns b start picture ↔ ∃ want, some want ∈ b.cells.map Cell.view? ∧
      ¬ ∃ origin, picture.origin.shift want.2 = .ok origin := by
  simp only [Wall.exists_shift_iff]
  constructor
  · rintro ⟨index, output, found, active, far⟩
    rw [Builtin.outputs, List.getElem?_map] at found
    obtain ⟨c, there, rfl⟩ := Option.map_eq_some_iff.mp found
    obtain ⟨x, y⟩ := placed index c there
    refine ⟨(c.output.format, c.origin), List.mem_map.mpr ⟨c, List.mem_of_getElem? there, ?_⟩, ?_⟩
    · exact if_pos active
    · dsimp only
      omega
  · rintro ⟨want, member, far⟩
    obtain ⟨c, inside, asked⟩ := List.mem_map.mp member
    obtain ⟨index, there⟩ := List.mem_iff_getElem?.mp inside
    obtain ⟨x, y⟩ := placed index c there
    unfold Cell.view? at asked
    split at asked
    · rename_i active
      cases asked
      refine ⟨index, c.output, ?_, active, ?_⟩
      · rw [Builtin.outputs, List.getElem?_map, there]
        rfl
      · dsimp only at far
        omega
    · cases asked

/-- An output comes with its cell, and a slot that is filled too. -/
theorem getElem?_outputs {index : Nat} {output : Output} :
    b.outputs[index]? = some output ↔ ∃ c, b.cells[index]? = some c ∧ c.output = output := by
  rw [Builtin.outputs, List.getElem?_map, Option.map_eq_some_iff]

/-- What is asked for in a slot and what stands in it. -/
theorem fitted_at (fitted : List.Forall₂ (Fitted picture) (b.cells.map Cell.view?) slots)
    {index : Nat} {slot : Option Picture} (here : slots[index]? = some slot) :
    ∃ c, b.cells[index]? = some c ∧ Fitted picture c.view? slot := by
  obtain ⟨small, rfl⟩ := List.getElem?_eq_some_iff.mp here
  have there : index < b.cells.length := by
    rwa [← fitted.length_eq, List.length_map] at small
  refine ⟨b.cells[index], List.getElem?_eq_getElem there, ?_⟩
  simpa using fitted.get (by simpa using there) small

/-- A view stands where one is asked for. -/
theorem view_at (fitted : List.Forall₂ (Fitted picture) (b.cells.map Cell.view?) slots)
    {index : Nat} {view : Picture} (here : slots[index]? = some (some view)) :
    ∃ c, b.cells[index]? = some c ∧ c.output.active = true ∧
      picture.origin.shift c.origin = .ok view.origin ∧ view.format = c.output.format ∧
      view.ViewOf picture := by
  obtain ⟨c, there, fit⟩ := fitted_at fitted here
  refine ⟨c, there, ?_⟩
  unfold Cell.view? at fit
  cases active : c.output.active with
  | false =>
    rw [active] at fit
    cases fit
  | true =>
    rw [active] at fit
    cases fit with
    | view shifted sized same => exact ⟨rfl, shifted, sized, same⟩

/-- A slot is filled if its output is active. -/
theorem filled_iff (fitted : List.Forall₂ (Fitted picture) (b.cells.map Cell.view?) slots)
    {index : Nat} {output : Output} (found : b.outputs[index]? = some output) :
    (∃ view, slots[index]? = some (some view)) ↔ output.active = true := by
  obtain ⟨c, there, rfl⟩ := getElem?_outputs.mp found
  constructor
  · rintro ⟨view, here⟩
    obtain ⟨c', there', active, -⟩ := view_at fitted here
    cases there.symm.trans there'
    exact active
  · intro active
    have small : index < slots.length := by
      rw [← fitted.length_eq, List.length_map]
      exact (List.getElem?_eq_some_iff.mp there).1
    obtain ⟨c', there', fit⟩ := fitted_at fitted (List.getElem?_eq_getElem small)
    cases there.symm.trans there'
    rw [show c.view? = _ from if_pos active] at fit
    rw [List.getElem?_eq_getElem small]
    cases filled : slots[index] with
    | none =>
      rw [filled] at fit
      cases fit
    | some view => exact ⟨view, rfl⟩

section Holds

variable {before : Ledger} (issued : ∀ serial ∈ before.live, serial < before.next)
  (made : before.views picture (b.cells.map Cell.view?) = .ok (slots, l))

include issued made

/-- What slots hold comes after all pictures that are held. -/
theorem unheld_of_holding_pos {serial : Nat} (standing : 0 < holding slots serial) :
    before.live.count serial = 0 := by
  obtain ⟨-, fresh, -⟩ := Ledger.views_divided _ made
  refine List.count_eq_zero.mpr fun member => ?_
  have later := (fresh serial standing).1
  have := issued serial member
  omega

theorem holding_eq_zero_of_held {serial : Nat} (held : 0 < before.live.count serial) :
    holding slots serial = 0 := by
  by_contra standing
  have := unheld_of_holding_pos issued made (Nat.pos_of_ne_zero standing)
  omega

/-- A view is held by its slot, and it is not the picture that was split. -/
theorem held_by_slot (held : 0 < before.holds picture) {index : Nat} {view : Picture}
    (here : slots[index]? = some (some view)) :
    (before.holds view = 0 ∧ (l.release picture).holds view = 1) ∧ ¬ view.SameAs picture := by
  obtain ⟨holds, -, once, -⟩ := Ledger.views_divided _ made
  have standing := holding_pos (k := index) (by rw [here, Option.join_some])
  have unheld := unheld_of_holding_pos issued made standing
  have other : ¬ view.SameAs picture := by
    intro same
    rw [show view.serial = picture.serial from same] at unheld
    exact Nat.ne_of_gt held unheld
  refine ⟨⟨unheld, ?_⟩, other⟩
  have sum := holds view.serial
  have := once view.serial
  rw [Ledger.holds_release l other, Ledger.holds]
  omega

/-- The hold on the picture that was split is given up. -/
theorem released_of_views (held : 0 < before.holds picture) :
    (l.release picture).holds picture + 1 = before.holds picture := by
  obtain ⟨holds, -⟩ := Ledger.views_divided _ made
  have sum := holds picture.serial
  rw [holding_eq_zero_of_held issued made held] at sum
  rw [Ledger.holds_release_self, Ledger.holds, sum]
  exact Nat.sub_add_cancel held

end Holds

/-- Pictures that stand in no slot are held as before, but for the one that was split. -/
theorem holds_of_absent {before : Ledger}
    (made : before.views picture (b.cells.map Cell.view?) = .ok (slots, l)) {other : Picture}
    (apart : ¬ other.SameAs picture)
    (absent : ∀ (index : Nat) (view : Picture), slots[index]? = some (some view) →
      ¬ other.SameAs view) : (l.release picture).holds other = before.holds other := by
  obtain ⟨holds, -⟩ := Ledger.views_divided _ made
  have unheld : holding slots other.serial = 0 := by
    by_contra standing
    obtain ⟨index, view, here, same⟩ := exists_of_holding_pos (Nat.pos_of_ne_zero standing)
    exact absent index view here same.symm
  rw [Ledger.holds_release l apart, Ledger.holds, holds, unheld]
  rfl

/-- Where there are views, the law holds of them. -/
theorem slot_law_of_views (placed : b.PlacedAt start) {before : Ledger}
    (issued : ∀ serial ∈ before.live, serial < before.next) (held : 0 < before.holds picture)
    (made : before.views picture (b.cells.map Cell.view?) = .ok (slots, l)) :
    SlotLaw b start picture before (l.release picture) slots := by
  have fitted := Ledger.views_spec picture (b.cells.map Cell.view?) before
  rw [made] at fitted
  obtain ⟨-, -, once, -⟩ := Ledger.views_divided _ made
  exact {
    count := by rw [← fitted.length_eq, List.length_map, Builtin.outputs, List.length_map]
    filled := fun _ _ found => filled_iff fitted found
    sized := by
      intro index output view found here
      obtain ⟨c, there, rfl⟩ := getElem?_outputs.mp found
      obtain ⟨c', there', -, -, sized, -⟩ := view_at fitted here
      cases there.symm.trans there'
      exact sized
    same := by
      intro index view here
      obtain ⟨c, -, -, -, -, same⟩ := view_at fitted here
      exact same
    placed := by
      intro index view here
      obtain ⟨c, there, -, shifted, -, -⟩ := view_at fitted here
      obtain ⟨x, y⟩ := placed index c there
      rw [← x, ← y]
      exact Wall.shift_eq_ok_iff.mp shifted
    fresh := fun _ _ here => held_by_slot issued made held here
    apart := fun _ _ _ _ other here there => apart_of_holding once other here there
    released := released_of_views issued made held
    others := fun _ apart absent => holds_of_absent made apart absent }

end Split

/-- One picture after the other is split; what becomes of the pictures is left to others. -/
def Builtin.filterAll {σ ι : Type} (b : Builtin) (pictures : List Picture) : Run σ ι Builtin :=
  pictures.foldlM (fun b picture => Prod.snd <$> Builtin.partitioner.filter b picture) b

/-- A partition is the same after any number of pictures. -/
theorem Builtin.of_filterAll {σ ι : Type} {b b' : Builtin} {pictures : List Picture}
    {world after : World σ ι} (ran : b.filterAll pictures world = .ok b' after) : b' = b := by
  induction pictures generalizing world with
  | nil =>
    cases ran
    rfl
  | cons picture rest ih =>
    rw [filterAll, List.foldlM_cons] at ran
    simp only [bind, EStateM.bind, Functor.map, EStateM.map] at ran
    cases first : Builtin.partitioner.filter b picture world with
    | error fault w =>
      rw [first] at ran
      cases ran
    | ok result w =>
      obtain ⟨-, -, -, -, same, -⟩ := Builtin.of_filter first
      rw [first] at ran
      simp only [same] at ran
      exact ih ran

/-- Whatever source a partition was created for, it splits every picture into views that stand where
its outputs say, each held by its slot alone, and gives up its hold on the picture. The only way to
break off is the place of a view that is no word. -/
theorem create_keeps_slot_law {name : BuiltinName} {source : VideoFormat}
    {settings : SplitSettings} {b : Builtin} (made : name.create source settings = .ok (.ok b))
    (σ ι : Type) :
    (∀ (picture : Picture) (world : World σ ι),
      (∀ serial ∈ world.ledger.live, serial < world.ledger.next) →
      0 < world.ledger.holds picture → ¬ Overruns b (name.start source settings) picture →
      ∃ slots after, Builtin.partitioner.filter b picture world = .ok (.ok slots, b) after ∧
        SlotLaw b (name.start source settings) picture world.ledger after.ledger slots) ∧
    (∀ (picture : Picture) (world : World σ ι),
      ((∃ fault after, Builtin.partitioner.filter b picture world = .error fault after) ↔
        Overruns b (name.start source settings) picture) ∧
      ∀ fault after, Builtin.partitioner.filter b picture world = .error fault after →
        fault = .addOverflow) ∧
    ∀ (pictures : List Picture) (world after : World σ ι) (b' : Builtin),
      b.filterAll pictures world = .ok b' after → b'.outputs = b.outputs := by
  have placed := BuiltinName.placed_of_create made
  refine ⟨?_, ?_, ?_⟩
  · intro picture world issued held near
    cases views : world.ledger.views picture (b.cells.map Cell.view?) with
    | error fault =>
      exact absurd ((overruns_iff placed).mpr (Ledger.views_error_iff.mp ⟨fault, views⟩)) near
    | ok result =>
      exact ⟨result.1, _, Builtin.filter_of_views views,
        slot_law_of_views placed issued held views⟩
  · intro picture world
    rw [overruns_iff placed, ← Ledger.views_error_iff (l := world.ledger)]
    have spec := Ledger.views_spec picture (b.cells.map Cell.view?) world.ledger
    cases views : world.ledger.views picture (b.cells.map Cell.view?) with
    | error fault =>
      rw [views] at spec
      rw [Builtin.filter_of_error views]
      refine ⟨⟨fun _ => ⟨fault, rfl⟩, fun _ => ⟨fault, _, rfl⟩⟩, ?_⟩
      rintro _ _ ⟨⟩
      exact spec.1
    | ok result =>
      rw [Builtin.filter_of_views views]
      exact ⟨⟨nofun, nofun⟩, nofun⟩
  · intro pictures world after b' ran
    rw [Builtin.of_filterAll ran]

/-- Two opposite corners of a window of five by four pixels. -/
def twoCorners : Builtin :=
  .wall ⟨[⟨.shown "" (.whole .i420 2 2), ⟨2, 1⟩⟩, ⟨.inactive (.whole .i420 3 2), ⟨4, 1⟩⟩,
    ⟨.inactive (.whole .i420 2 2), ⟨2, 3⟩⟩, ⟨.shown "" (.whole .i420 3 2), ⟨4, 3⟩⟩]⟩

/-- A view into a picture of the source, at column seven and row nine. -/
def inset : Picture := { still with serial := 1, origin := ⟨7, 9⟩ }

/-- A ledger with one hold on the picture and one on the view. -/
def insetHeld : Ledger := ⟨2, [1, 0]⟩

/-- The view is split further, and what stands in the slots lies where it lies in the picture. -/
theorem twoCorners_keep_slot_law :
    BuiltinName.wall.create framed repeated = .ok (.ok twoCorners) ∧
      (∃ slots after, Builtin.partitioner.filter twoCorners inset
          (⟨(), insetHeld, []⟩ : World Unit Unit) = .ok (.ok slots, twoCorners) after ∧
        SlotLaw twoCorners (BuiltinName.wall.start framed repeated) inset insetHeld after.ledger
          slots) ∧
      insetHeld.views inset (twoCorners.cells.map Cell.view?) = .ok
        ([some { inset with serial := 2, format := .whole .i420 2 2, origin := ⟨9, 10⟩ }, none,
          none, some { inset with serial := 3, format := .whole .i420 3 2, origin := ⟨11, 12⟩ }],
          ⟨4, [3, 2, 1, 0]⟩) := by
  have made : BuiltinName.wall.create framed repeated = .ok (.ok twoCorners) := by decide +kernel
  have near : ¬ Overruns twoCorners (BuiltinName.wall.start framed repeated) inset := by
    rw [overruns_iff (BuiltinName.placed_of_create made)]
    have all : ∀ want ∈ twoCorners.cells.map Cell.view?, ∀ part, want = some part →
        inset.origin.shift part.2 = .ok ⟨7 + part.2.x, 9 + part.2.y⟩ := by
      decide +kernel
    rintro ⟨part, member, nowhere⟩
    exact nowhere ⟨_, all _ member part rfl⟩
  obtain ⟨split, -⟩ := create_keeps_slot_law made Unit Unit
  exact ⟨made, split inset ⟨(), insetHeld, []⟩ (by decide) (by decide) near, by decide +kernel⟩

end Mosaic
