import Mosaic.Headless
import Mosaic.Partition.Builtin
import Mosaic.Proofs.Ensures
import Mosaic.Proofs.Pending

/-!
# What is seen of displays

A display may be a compositor, and its displays may be compositors again. What is of interest in
all of them is the same: the displays at the ends and what they counted, the sizes of all regions
on the way, the pictures that can be shown, and whether all is in order. `Sights` says what this
comes to for displays of one kind, and `Lawful` what driving such displays does to it.

For a compositor the sights are put together from those of its displays.

## Main definitions

* `Leaf`, `Closing` — a display at the end of a path, and its closing
* `Sights` — what is seen of displays of a kind
* `Sights.Becomes` — how a display changes as far as it is seen
* `Lawful` — what driving displays does
* `Compositor.leaves`, `Compositor.sizes`, `Compositor.Fits`, `Compositor.Sound` — the same of a
  compositor

## Main results

* `Alters.trans`, `Alters.leaves_eq`, `Alters.fits_iff` — region by region, a compositor changes
* `Sound.turn` — a compositor stays sound where one of its regions changes soundly
-/

set_option autoImplicit false

namespace Mosaic

/-! ## Leaves -/

/-- A display that is no compositor: the regions that lead to it, its name, and how many pictures
it prepared and showed. -/
structure Leaf where
  path : List Nat
  name : String
  prepared : Nat
  displayed : Nat
deriving DecidableEq, Repr

/-- The closing of a leaf: where it is, its name, and how many pictures it says it showed. -/
structure Closing where
  path : List Nat
  name : String
  frames : Nat
deriving DecidableEq, Repr

namespace Leaf

/-- The leaf once it prepared one more picture. -/
def prepare (leaf : Leaf) : Leaf := { leaf with prepared := leaf.prepared + 1 }

/-- The leaf once it showed one more picture. -/
def display (leaf : Leaf) : Leaf := { leaf with displayed := leaf.displayed + 1 }

/-- The leaf once it was asked to show what it prepared, if there is something. -/
def displayIf (waits : Bool) : Leaf → Leaf := if waits then display else id

/-- The leaf as it is seen from outside of a region. -/
def under (k : Nat) (leaf : Leaf) : Leaf := { leaf with path := k :: leaf.path }

/-- The closing of the leaf as it is now. -/
def closing (leaf : Leaf) : Closing := ⟨leaf.path, leaf.name, leaf.displayed⟩

/-- The leaf counted nothing yet. -/
def Fresh (leaf : Leaf) : Prop := leaf.prepared = 0 ∧ leaf.displayed = 0

end Leaf

/-- The closing as it is seen from outside of a region. -/
def Closing.under (k : Nat) (closing : Closing) : Closing :=
  { closing with path := k :: closing.path }

/-! ## Sights -/

/-- What is seen of displays of a kind, and of what happens inside them. -/
structure Sights (ι D : Type) where
  /-- The displays at the ends, in order. -/
  leaves : D → List Leaf
  /-- The sizes of everything on the way, and at the ends. -/
  sizes : D → List Size
  /-- Whether the origins of all parts of a picture at an origin are words. -/
  Fits : D → Origin → Prop
  /-- Whether a display is in order as that of a region, given whether it has a picture to
  show. -/
  Sound : Nat → Bool → D → Prop
  /-- The closings of leaves that an entry tells of. -/
  closings : ι → List Closing

namespace Sights

variable {ι D : Type} (o : Sights ι D)

/-- The closings of leaves among what happened. -/
def closed (items : List ι) : List Closing := items.flatMap o.closings

@[simp] theorem closed_nil : o.closed [] = [] := rfl

@[simp] theorem closed_append (items more : List ι) :
    o.closed (items ++ more) = o.closed items ++ o.closed more :=
  List.flatMap_append

/-- One display has become another: every leaf did the same, there is as much of it, and the same
pictures fit. -/
structure Becomes (act : Leaf → Leaf) (d d' : D) : Prop where
  leaves_eq : o.leaves d' = (o.leaves d).map act
  length_sizes : (o.sizes d').length = (o.sizes d).length
  fits_iff : ∀ origin, o.Fits d' origin ↔ o.Fits d origin

variable {o} {act act' : Leaf → Leaf} {d d' d'' : D}

theorem Becomes.refl (d : D) : o.Becomes id d d := ⟨(List.map_id _).symm, rfl, fun _ => .rfl⟩

theorem Becomes.trans (h : o.Becomes act d d') (h' : o.Becomes act' d' d'') :
    o.Becomes (act' ∘ act) d d'' :=
  ⟨by rw [h'.leaves_eq, h.leaves_eq, List.map_map], h'.length_sizes.trans h.length_sizes,
    fun origin => (h'.fits_iff origin).trans (h.fits_iff origin)⟩

end Sights

/-- What driving displays and windows does. Displays come fresh, do what they are asked, and
close each of their leaves once, the last one first. -/
structure Lawful {σ ι W D : Type} (backend : Backend σ ι W D) (o : Sights ι D) : Prop where
  created : ∀ {k request env ledger d w},
    backend.newDisplay k request ⟨env, ledger, []⟩ = .ok (.ok d) w →
      o.Sound k false d ∧ ∀ leaf ∈ o.leaves d, leaf.Fresh
  prepare : ∀ {k waiting d} (picture : Picture) (overlay : Option Overlay) (date : Tick),
    o.Sound k waiting d → o.Fits d picture.origin →
      (backend.prepare d picture overlay date).Ends fun d' items =>
        o.Sound k true d' ∧ o.Becomes .prepare d d' ∧ o.closed items = []
  display : ∀ {k d} (picture : Picture), o.Sound k true d →
    (backend.display d picture).Ends fun d' items =>
      o.Sound k false d' ∧ o.Becomes .display d d' ∧ o.closed items = []
  control : ∀ {k waiting d} (query : ControlQuery), o.Sound k waiting d →
    (backend.control d query).Ends fun answer items =>
      o.Sound k waiting answer.2 ∧ o.Becomes id d answer.2 ∧ o.closed items = [] ∧
        ∀ size, query = .displaySize size → size.width ≠ 0 → size.height ≠ 0 →
          ∀ taken ∈ o.sizes answer.2, taken = size
  close : ∀ {k waiting d}, o.Sound k waiting d →
    (backend.close d).Ends fun d' items =>
      o.closed items = (o.leaves d).reverse.map Leaf.closing ∧
        (backend.dropDisplay d').Ends fun _ more => o.closed more = []
  disable : ∀ window, (backend.disable window).Ends fun _ items => o.closed items = []
  dropWindow : ∀ window, (backend.dropWindow window).Ends fun _ items => o.closed items = []

/-- A region and everything inside its display have a size. -/
def Region.Takes {ι W D : Type} (o : Sights ι D) (size : Size) (r : Region W D) : Prop :=
  r.size = size ∧ ∀ d, r.display = some d → ∀ taken ∈ o.sizes d, taken = size

namespace Compositor

/-! ## The sights of a compositor -/

section Sights

variable {A W D : Type}

/-- The leaves of all displays, region by region. -/
def leaves (of : D → List Leaf) (c : Compositor A W D) : List Leaf :=
  (List.range c.regions.length).flatMap fun k => (c.display? k).elim [] of

/-- The sizes of all regions, each with those inside its display. -/
def sizes (of : D → List Size) (c : Compositor A W D) : List Size :=
  c.regions.flatMap fun r => r.size :: r.display.elim [] of

/-- Every part of a picture at an origin has a place, and fits the display it goes to. -/
def Fits (of : D → Origin → Prop) (c : Compositor Builtin W D) (origin : Origin) : Prop :=
  ∀ b, c.algorithm = some b → ∀ k cell, b.cells[k]? = some cell → cell.output.active = true →
    ∃ start, origin.shift cell.origin = .ok start ∧ ∀ d, c.display? k = some d → of d start

/-- A compositor that is open and in order: every region stands for a cell, its display is in
order and shows a cell that is to be shown, and it has a picture to show if it is said to wait
for that. -/
structure Sound {ι : Type} (o : Sights ι D) (b : Builtin) (waiting : Nat → Bool)
    (c : Compositor Builtin W D) : Prop where
  tidy : c.Tidy
  algorithm : c.algorithm = some b
  outputs : c.outputs = b.outputs
  count : c.regions.length = b.cells.length
  slots : c.pictures.length = b.cells.length
  displays : ∀ k d, c.display? k = some d → o.Sound k (waiting k) d
  shown : ∀ k d, c.display? k = some d → ∃ cell, b.cells[k]? = some cell ∧
    cell.output.active = true
  pictures : ∀ k, (c.picture? k).isSome = (waiting k && (c.display? k).isSome)

end Sights

section Deciding

variable {W D : Type} {of : D → Origin → Prop}

/-- Whether a picture at an origin fits, as far as one cell is concerned. -/
def fitsAt (of : D → Origin → Bool) (c : Compositor Builtin W D) (origin : Origin)
    (place : Cell × Nat) : Bool :=
  !place.1.output.active ||
    match origin.shift place.1.origin with
    | .error _ => false
    | .ok start => (c.display? place.2).all (of · start)

/-- Whether a picture fits can be computed if it can for the displays. -/
instance decidableFits [∀ d origin, Decidable (of d origin)] (c : Compositor Builtin W D)
    (origin : Origin) : Decidable (c.Fits of origin) :=
  decidable_of_iff (∀ b ∈ c.algorithm, ∀ place ∈ b.cells.zipIdx,
      c.fitsAt (fun d start => decide (of d start)) origin place = true) <| by
    refine forall₂_congr fun b alive => ?_
    simp only [List.mem_zipIdx_iff_getElem?, Prod.forall, forall_comm (α := Cell), fitsAt]
    refine forall₃_congr fun k cell here => ?_
    cases cell.output.active <;> cases origin.shift cell.origin <;> simp [Option.all_eq_true]

end Deciding

/-- What is seen of a compositor as a display. -/
def sights {ι W D : Type} (o : Sights ι D) :
    Sights (Happening ι) (Compositor Builtin W D) where
  leaves := leaves o.leaves
  sizes := sizes o.sizes
  Fits := Fits o.Fits
  Sound _ waiting c := ∃ b, c.Sound o b fun _ => waiting
  closings item := item.inside?.elim [] o.closings

variable {ι W D : Type} {o : Sights ι D} {c c' c'' : Compositor Builtin W D}

/-- The closings that a compositor's trace tells of are those inside. -/
theorem closed_sights (items : List (Happening ι)) :
    (sights (W := W) o).closed items = o.closed (insideOf items) := by
  induction items with
  | nil => rfl
  | cons item items ih =>
    cases inside : item.inside? <;>
      simpa [Sights.closed, insideOf, sights, inside] using ih

/-- Where every region has a size, there is no other one. -/
theorem eq_of_mem_sizes {size taken : Size}
    (all : ∀ (i : Nat) (r : Region W D), c.regions[i]? = some r → r.Takes o size)
    (member : taken ∈ c.sizes o.sizes) : taken = size := by
  obtain ⟨r, inside, found⟩ := List.mem_flatMap.mp member
  obtain ⟨i, here⟩ := List.mem_iff_getElem?.mp inside
  obtain ⟨own, deep⟩ := all i r here
  rcases List.mem_cons.mp found with rfl | found
  · exact own
  · cases shows : r.display with
    | none => simp [shows] at found
    | some d => exact deep d shows taken (by simpa [shows] using found)

/-- How many sizes there are depends on the displays alone. -/
theorem length_sizes_congr {of : D → List Size} (count : c'.regions.length = c.regions.length)
    (each : ∀ k, ((c'.display? k).elim [] of).length = ((c.display? k).elim [] of).length) :
    (c'.sizes of).length = (c.sizes of).length := by
  rw [sizes, sizes, List.length_flatMap, List.length_flatMap]
  congr 1
  refine List.ext_getElem (by simpa using count) fun k inside' inside => ?_
  rw [List.length_map] at inside inside'
  have same := each k
  rw [display?_of_getElem? (List.getElem?_eq_getElem inside),
    display?_of_getElem? (List.getElem?_eq_getElem inside')] at same
  simpa using same

/-! ## Changes region by region -/

/-- Nothing is changed but the queue, the parent, the buttons that are held and the placement. -/
structure Stays (c c' : Compositor Builtin W D) : Prop where
  algorithm : c'.algorithm = c.algorithm
  outputs : c'.outputs = c.outputs
  regions : c'.regions = c.regions
  pictures : c'.pictures = c.pictures

theorem Stays.refl (c : Compositor Builtin W D) : Stays c c := ⟨rfl, rfl, rfl, rfl⟩

theorem Stays.trans (h : Stays c c') (h' : Stays c' c'') : Stays c c'' :=
  ⟨h'.algorithm.trans h.algorithm, h'.outputs.trans h.outputs, h'.regions.trans h.regions,
    h'.pictures.trans h.pictures⟩

/-- Nothing but what displays and windows do is changed, and in every region the leaves did the
same. -/
structure Alters (o : Sights ι D) (act : Nat → Leaf → Leaf) (c c' : Compositor Builtin W D) :
    Prop where
  algorithm : c'.algorithm = c.algorithm
  count : c'.regions.length = c.regions.length
  displays : ∀ k, Option.Rel (o.Becomes (act k)) (c.display? k) (c'.display? k)

namespace Alters

variable {act act' : Nat → Leaf → Leaf}

theorem of_regions_eq (algorithm : c'.algorithm = c.algorithm) (regions : c'.regions = c.regions) :
    Alters o (fun _ => id) c c' := by
  refine ⟨algorithm, by rw [regions], fun k => ?_⟩
  have same : c'.display? k = c.display? k := by rw [display?, display?, regions]
  rw [same]
  cases c.display? k with
  | none => exact .none
  | some d => exact .some (.refl d)

theorem of_stays (stays : Stays c c') : Alters o (fun _ => id) c c' :=
  of_regions_eq stays.algorithm stays.regions

theorem trans (h : Alters o act c c') (h' : Alters o act' c' c'') :
    Alters o (fun k => act' k ∘ act k) c c'' := by
  refine ⟨h'.algorithm.trans h.algorithm, h'.count.trans h.count, fun k => ?_⟩
  have first := h.displays k
  have second := h'.displays k
  revert first second
  generalize c.display? k = d, c'.display? k = d', c''.display? k = d''
  rintro (⟨first⟩ | _) (⟨second⟩ | _)
  · exact .some (first.trans second)
  · exact .none

/-- What is done in places without a region is no matter. -/
theorem congr (h : Alters o act c c') (same : ∀ k < c.regions.length, act k = act' k) :
    Alters o act' c c' := by
  refine ⟨h.algorithm, h.count, fun k => ?_⟩
  by_cases inside : k < c.regions.length
  · rw [← same k inside]
    exact h.displays k
  · have outside := List.getElem?_eq_none (Nat.le_of_not_lt inside)
    have outside' : c'.regions[k]? = none :=
      List.getElem?_eq_none (h.count ▸ Nat.le_of_not_lt inside)
    rw [display?_eq_none outside, display?_eq_none outside']
    exact .none

/-- One region and then those behind it are all from that one on. -/
theorem onward {k : Nat} (first : Alters o (fun i => if i = k then act k else id) c c')
    (rest : Alters o (fun i => if k + 1 ≤ i then act i else id) c' c'') :
    Alters o (fun i => if k ≤ i then act i else id) c c'' := by
  refine (first.trans rest).congr fun i _ => ?_
  rcases Nat.lt_trichotomy i k with before | rfl | beyond
  · simp only [show ¬ k + 1 ≤ i by omega, show ¬ k ≤ i by omega, show i ≠ k by omega, if_false]
    rfl
  · simp only [show ¬ i + 1 ≤ i by omega, Nat.le_refl, if_true, if_false]
    rfl
  · simp only [show k + 1 ≤ i by omega, show k ≤ i by omega, show i ≠ k by omega, if_true, if_false]
    rfl

theorem leaves_eq {act : Leaf → Leaf} (h : Alters o (fun _ => act) c c') :
    c'.leaves o.leaves = (c.leaves o.leaves).map act := by
  rw [leaves, leaves, h.count, List.map_flatMap]
  congr 1
  funext k
  have both := h.displays k
  generalize c.display? k = d, c'.display? k = d' at both
  cases both with
  | none => rfl
  | some becomes => exact becomes.leaves_eq

theorem length_sizes (h : Alters o act c c') :
    (c'.sizes o.sizes).length = (c.sizes o.sizes).length := by
  refine length_sizes_congr h.count fun k => ?_
  have both := h.displays k
  generalize c.display? k = d, c'.display? k = d' at both
  cases both with
  | none => rfl
  | some becomes => exact becomes.length_sizes

theorem fits_iff (h : Alters o act c c') (origin : Origin) :
    c'.Fits o.Fits origin ↔ c.Fits o.Fits origin := by
  rw [Fits, Fits, h.algorithm]
  have each (k : Nat) (start : Origin) : (∀ d, c'.display? k = some d → o.Fits d start) ↔
      ∀ d, c.display? k = some d → o.Fits d start := by
    have both := h.displays k
    generalize c.display? k = d, c'.display? k = d' at both
    cases both with
    | none => simp
    | some becomes => simpa using becomes.fits_iff start
  simp only [each]

theorem becomes {act : Leaf → Leaf} (h : Alters o (fun _ => act) c c') :
    (sights o).Becomes act c c' :=
  ⟨h.leaves_eq, h.length_sizes, h.fits_iff⟩

/-- A display in the place of another one changes its own region alone. -/
theorem turn {k : Nat} {r r' : Region W D} {act : Leaf → Leaf} (here : c.regions[k]? = some r)
    (display : Option.Rel (o.Becomes act) r.display r'.display) :
    Alters o (fun i => if i = k then act else id) c (c.setRegion k r') := by
  refine ⟨rfl, List.length_set, fun i => ?_⟩
  by_cases same : i = k
  · subst same
    rwa [if_pos rfl, display?_of_getElem? here, display?_setRegion_self here]
  · rw [if_neg same, display?_setRegion_of_ne same]
    cases c.display? i with
    | none => exact .none
    | some d => exact .some (.refl d)

/-- In a region without a display there is nothing to change. -/
theorem blank {k : Nat} {r : Region W D} {act : Leaf → Leaf} (here : c.regions[k]? = some r)
    (blank : r.display = none) (algorithm : c'.algorithm = c.algorithm)
    (regions : c'.regions = c.regions) :
    Alters o (fun i => if i = k then act else id) c c' := by
  have still : Option.Rel (o.Becomes act) r.display r.display := by
    rw [blank]
    exact .none
  have turned := Alters.turn here still
  rw [setRegion_self here] at turned
  exact turned.trans (.of_regions_eq algorithm regions)

end Alters

/-! ## Soundness -/

/-- What is in a slot may be put into it again. -/
theorem withSlot_picture? {A : Type} (c : Compositor A W D) (k : Nat) :
    c.withSlot k (c.picture? k) = c := by
  have same : c.pictures.set k (c.picture? k) = c.pictures := by
    by_cases inside : k < c.pictures.length
    · simp [picture?, inside]
    · exact List.set_eq_of_length_le (Nat.le_of_not_lt inside)
  rw [withSlot, same]

theorem withSlot_withSlot {A : Type} (c : Compositor A W D) (k : Nat)
    (picture picture' : Option Picture) :
    (c.withSlot k picture).withSlot k picture' = c.withSlot k picture' := by
  simp [withSlot]

namespace Sound

variable {b : Builtin} {waiting waiting' : Nat → Bool}

theorem length_pictures (sound : c.Sound o b waiting) : c.pictures.length = c.regions.length :=
  sound.slots.trans sound.count.symm

/-- What is said to wait in places without a region is no matter. -/
theorem congr (sound : c.Sound o b waiting)
    (same : ∀ k < c.regions.length, waiting k = waiting' k) : c.Sound o b waiting' := by
  refine { sound with displays := fun k d shows => ?_, pictures := fun k => ?_ }
  · by_cases inside : k < c.regions.length
    · exact same k inside ▸ sound.displays k d shows
    · rw [display?_eq_none (List.getElem?_eq_none (Nat.le_of_not_lt inside))] at shows
      cases shows
  · by_cases inside : k < c.regions.length
    · exact same k inside ▸ sound.pictures k
    · have outside := Nat.le_of_not_lt inside
      rw [display?_eq_none (List.getElem?_eq_none outside), picture?,
        List.getElem?_eq_none (sound.length_pictures ▸ outside), Option.isSome_none,
        Bool.and_false]
      rfl

/-- One region and then those behind it are all from that one on. -/
theorem onward {k : Nat} {waits : Bool}
    (sound : c.Sound o b fun i =>
      if k + 1 ≤ i then waits else if i = k then waits else waiting i) :
    c.Sound o b fun i => if k ≤ i then waits else waiting i := by
  refine sound.congr fun i _ => ?_
  rcases Nat.lt_trichotomy i k with before | rfl | beyond
  · simp only [show ¬ k + 1 ≤ i by omega, show ¬ k ≤ i by omega, show i ≠ k by omega, if_false]
  · simp only [show ¬ i + 1 ≤ i by omega, Nat.le_refl, if_true, if_false]
  · simp only [show k + 1 ≤ i by omega, show k ≤ i by omega, if_true]

/-- Queue, parent, buttons and placement have no part in it. -/
theorem of_stays (sound : c.Sound o b waiting) (stays : Stays c c') : c'.Sound o b waiting := by
  obtain ⟨source, placement, name, _, _, _, _, queue, parent, held⟩ := c'
  obtain ⟨rfl, rfl, rfl, rfl⟩ := stays
  exact { sound with }

/-- Where one of its regions changes soundly, and its slot with it, a compositor stays sound. -/
theorem turn {k : Nat} {r r' : Region W D} {picture : Option Picture} {waits : Bool}
    (sound : c.Sound o b waiting) (here : c.regions[k]? = some r) (index : r'.index = k)
    (free : r'.locked = false) (same : r'.display.isSome = r.display.isSome)
    (display : ∀ d, r'.display = some d → o.Sound k waits d)
    (filled : picture.isSome = (waits && r'.display.isSome)) :
    ((c.withSlot k picture).setRegion k r').Sound o b
      fun i => if i = k then waits else waiting i := by
  obtain ⟨inside, -⟩ := List.getElem?_eq_some_iff.mp here
  have here' : (c.withSlot k picture).regions[k]? = some r := here
  have other {i : Nat} (ne : i ≠ k) :
      ((c.withSlot k picture).setRegion k r').display? i = c.display? i :=
    display?_setRegion_of_ne ne
  have slot (i : Nat) := picture?_withSlot c (sound.length_pictures ▸ inside) picture i
  refine ⟨Tidy.setRegion sound.tidy index free, sound.algorithm, sound.outputs, ?_, ?_,
    fun i d shows => ?_, fun i d shows => ?_, fun i => ?_⟩
  · rw [setRegion, List.length_set]
    exact sound.count
  · exact List.length_set.trans sound.slots
  · by_cases at_ : i = k
    · subst at_
      rw [display?_setRegion_self here'] at shows
      simpa using display d shows
    · rw [other at_] at shows
      simpa [at_] using sound.displays i d shows
  · by_cases at_ : i = k
    · -- The display that was there before stood for a cell that is shown.
      subst at_
      rw [display?_setRegion_self here'] at shows
      rw [shows, Option.isSome_some, eq_comm, Option.isSome_iff_exists] at same
      obtain ⟨before, shown⟩ := same
      exact sound.shown i before (by rw [display?_of_getElem? here, shown])
    · rw [other at_] at shows
      exact sound.shown i d shows
  · show ((c.withSlot k picture).picture? i).isSome = _
    rw [slot]
    by_cases at_ : i = k
    · subst at_
      rw [if_pos rfl, if_pos rfl, display?_setRegion_self here', filled]
    · rw [if_neg at_, if_neg at_, other at_, sound.pictures]

/-- A region may change soundly without its slot. -/
theorem adjust {k : Nat} {r r' : Region W D} (sound : c.Sound o b waiting)
    (here : c.regions[k]? = some r) (index : r'.index = k) (free : r'.locked = false)
    (same : r'.display.isSome = r.display.isSome)
    (display : ∀ d, r'.display = some d → o.Sound k (waiting k) d) :
    (c.setRegion k r').Sound o b waiting := by
  -- To change a region without its slot is to put into the slot what is in it.
  have filled : (c.picture? k).isSome = (waiting k && r'.display.isSome) := by
    rw [sound.pictures, display?_of_getElem? here, same]
  have turned := sound.turn here index free same display filled
  rw [withSlot_picture?] at turned
  refine turned.congr fun i _ => ?_
  split
  · subst_vars; rfl
  · rfl

end Sound

end Compositor

end Mosaic
