import Mosaic.Proofs.Fate

/-!
# What displays are asked to prepare and to show

To prepare a picture asks the displays of the regions whose slots are filled by its parts, in
the order of the regions, and leaves exactly those parts in the slots. To display asks the
displays of the regions whose slots hold a picture to show it, and leaves all slots empty. No
other operation asks a display for a picture or touches a slot.

## Main definitions

* `FrameCall`, `framesOf` — what displays are asked to prepare and to show
* `slotsOf` — the parts into which a picture was split
* `Compositor.shown` — the regions that have a display
* `Compositor.Settled` — what holds of slots and regions between two operations

## Main results

* `Prepares.frames_eq`, `Prepares.picture?_eq` — preparing a picture
* `ShowsFrom.frames_eq`, `ShowsFrom.picture?_eq` — displaying
-/

set_option autoImplicit false

namespace Mosaic

/-! ## Calls for pictures -/

/-- What the display of a region is asked for a picture. -/
inductive FrameCall where
  | prepared (index : Nat) (picture : Picture) (overlay : Option Overlay) (date : Tick)
  | displayed (index : Nat) (picture : Picture)

/-- The region whose display is asked. -/
def FrameCall.region : FrameCall → Nat
  | prepared index _ _ _ | displayed index _ => index

/-- What a call asks of a display for a picture, if it does. -/
def Call.frame? : Call → Option FrameCall
  | .prepare index frame overlay date =>
    some (.prepared index frame.picture (overlay.map (List.map OverlaySighting.region)) date)
  | .display index frame => some (.displayed index frame.picture)
  | _ => none

/-- What displays are asked to prepare and to show, in order of time. -/
def framesOf (signs : List Sign) : List FrameCall := (callsOf signs).filterMap Call.frame?

/-- The parts that an answer gives, if it is about parts; `some none` for a failure. -/
def Answer.parts? : Answer → Option (Option Slots)
  | .parts slots => some slots
  | _ => none

/-- The parts into which a picture was split; none if it could not be split. -/
def slotsOf (signs : List Sign) : Slots :=
  (((answersOf signs).filterMap Answer.parts?).head?.join).getD []

@[simp] theorem framesOf_nil : framesOf [] = [] := rfl

@[simp] theorem framesOf_append (signs more : List Sign) :
    framesOf (signs ++ more) = framesOf signs ++ framesOf more := by
  rw [framesOf, callsOf_append, List.filterMap_append]
  rfl

/-- An overlay is seen as it was given. -/
@[simp] theorem map_region_comp_sightOverlay (l : Ledger) :
    List.map OverlaySighting.region ∘ l.sightOverlay = id := by
  funext overlay
  rw [Function.comp_apply, Ledger.sightOverlay, List.map_map]
  exact List.map_id _

theorem framesOf_eq_nil {signs : List Sign} (h : ∀ sign ∈ signs, sign.kind ≠ .frame) :
    framesOf signs = [] := by
  rw [framesOf, List.filterMap_eq_nil_iff]
  intro call member
  obtain ⟨sign, here, found⟩ := List.mem_filterMap.mp member
  have other := h sign here
  cases sign with
  | called call' locked =>
    cases found
    cases call <;> first | rfl | exact (other rfl).elim
  | answered | reported => cases found

theorem parts_eq_nil {signs : List Sign} (h : ∀ sign ∈ signs, sign.kind ≠ .frame) :
    (answersOf signs).filterMap Answer.parts? = [] := by
  rw [List.filterMap_eq_nil_iff]
  intro answer member
  obtain ⟨sign, here, found⟩ := List.mem_filterMap.mp member
  have other := h sign here
  cases sign with
  | answered answer' =>
    cases found
    cases answer <;> first | rfl | exact (other rfl).elim
  | called | reported => cases found

/-- Reports of inputs ask for nothing and answer nothing. -/
theorem callsOf_reports (k : Nat) (events : List InputEvent) :
    callsOf (events.map fun event => .reported k (.input event)) = [] := by
  induction events with
  | nil => rfl
  | cons event events ih => rw [List.map_cons, callsOf_reported, ih]

theorem answersOf_reports (k : Nat) (events : List InputEvent) :
    answersOf (events.map fun event => .reported k (.input event)) = [] := by
  induction events with
  | nil => rfl
  | cons event events ih => rw [List.map_cons, answersOf_reported, ih]

namespace Compositor

/-! ## Regions and slots -/

section Regions

variable {A W D : Type} {c c' : Compositor A W D}

/-- The regions that have a display, in rising order. -/
def shown (c : Compositor A W D) : List Nat :=
  (List.range c.regions.length).filter fun k => (c.display? k).isSome

theorem shown_pairwise (c : Compositor A W D) : c.shown.Pairwise (· < ·) :=
  List.pairwise_lt_range.filter _

theorem mem_shown {k : Nat} : k ∈ c.shown ↔ (c.display? k).isSome := by
  rw [shown, List.mem_filter, List.mem_range, and_iff_right_iff_imp]
  intro display
  by_cases inside : k < c.regions.length
  · exact inside
  · rw [Nat.not_lt] at inside
    rw [display?_eq_none (List.getElem?_eq_none inside)] at display
    cases display

theorem shown_of_shape_eq (h : c.shape = c'.shape) : c.shown = c'.shown := by
  have same : (fun k => (c.display? k).isSome) = fun k => (c'.display? k).isSome :=
    funext fun k => isSome_display?_of_shape_eq h k
  rw [shown, shown, same, length_regions_of_shape_eq h]

theorem picture?_withSlot (c : Compositor A W D) {k : Nat} (inside : k < c.pictures.length)
    (picture : Option Picture) (i : Nat) :
    (c.withSlot k picture).picture? i = if i = k then picture else c.picture? i := by
  rw [picture?, withSlot, List.getElem?_set]
  by_cases same : k = i
  · subst same
    simp [inside]
  · rw [if_neg same, if_neg (Ne.symm same), picture?]

/-- Between two operations: there is a slot for each region and no more, and where the algorithm
is gone there is no region. -/
structure Settled (c : Compositor A W D) : Prop where
  tidy : c.Tidy
  slots : c.pictures.length = c.regions.length
  gone : c.algorithm = none → c.regions = []

/-- What has the shape of a settled compositor is settled, once it is tidy. -/
theorem Settled.of_shape_eq (settled : c.Settled) (h : c'.shape = c.shape) (tidy : c'.Tidy) :
    c'.Settled where
  tidy := tidy
  slots := by
    have slots : c'.pictures.length = c.pictures.length := congrArg Shape.slots h
    rw [slots, length_regions_of_shape_eq h, settled.slots]
  gone := by
    intro gone
    have alive : c'.algorithm.isSome = c.algorithm.isSome := isOpen_of_shape_eq h
    rw [gone, Option.isSome_none, eq_comm, Option.isSome_eq_false_iff,
      Option.isNone_iff_eq_none] at alive
    have count := length_regions_of_shape_eq h
    rwa [settled.gone alive, List.length_nil, List.length_eq_zero_iff] at count

theorem Settled.picture?_eq_none (settled : c.Settled) {k : Nat}
    (outside : c.regions.length ≤ k) : c.picture? k = none := by
  rw [← settled.slots] at outside
  rw [picture?, List.getElem?_eq_none outside]
  rfl

end Regions

variable {σ ι A W D : Type} {crew : Crew σ ι A W D} {v v' : View σ A W D} {new : List Sign}

/-! ## Filling slots -/

section Fill

variable {overlay : Option Overlay} {date : Tick} {k : Nat}

/-- The display of a region is asked for the picture that fills its slot, if there is one. -/
theorem Fills.frames_eq {picture : Option Picture}
    (h : Fills crew overlay date k picture v new v') :
    framesOf new = if (v.compositor.display? k).isSome then
      (picture.map fun part => FrameCall.prepared k part overlay date).toList else [] := by
  cases h with
  | empty => simp
  | unshown blank => simp [blank]
  | prepared here display =>
    rw [display?_of_getElem? here, display, framesOf, callsOf_called, callsOf_reports]
    simp [Call.frame?, Ledger.sight]

theorem Fills.answers_eq {picture : Option Picture}
    (h : Fills crew overlay date k picture v new v') : answersOf new = [] := by
  cases h with
  | empty | unshown => rfl
  | prepared => rw [answersOf_called, answersOf_reports]

/-- A slot keeps a picture only for a display. -/
theorem Fills.picture?_eq {picture : Option Picture}
    (h : Fills crew overlay date k picture v new v') (inside : k < v.compositor.pictures.length)
    (i : Nat) :
    v'.compositor.picture? i =
      if i = k then (if (v.compositor.display? k).isSome then picture else none)
      else v.compositor.picture? i := by
  cases h with
  | empty =>
    have slot := picture?_withSlot v.compositor inside none i
    rw [ite_self]
    exact slot
  | unshown blank =>
    have slot := picture?_withSlot v.compositor inside none i
    simpa [View.put, withSlot, blank] using slot
  | @prepared _ picture _ _ _ _ here display =>
    have slot := picture?_withSlot v.compositor inside (some picture) i
    rw [display?_of_getElem? here, display]
    exact slot

variable {count : Nat} {slots left : Slots}

/-- The first of the parts that are left goes to the next region, and the rest to those behind
it. -/
theorem parts_next {part : Nat → Option Picture} (parts : ∀ i, slots[i]?.join = part (k + i)) :
    slots.head?.join = part k ∧ ∀ i, slots.tail[i]?.join = part (k + 1 + i) := by
  refine ⟨?_, fun i => ?_⟩
  · rw [List.head?_eq_getElem?]
    exact parts 0
  · rw [List.getElem?_tail, parts, Nat.add_assoc, Nat.add_comm 1 i]

theorem FillsFrom.answers_eq (h : FillsFrom crew overlay date count k slots v new left v') :
    answersOf new = [] := by
  induction h with
  | done => rfl
  | next fills _ ih => rw [answersOf_append, fills.answers_eq, ih, List.nil_append]

/-- The displays of regions are asked for the parts in their slots, one after the other. -/
theorem FillsFrom.frames_eq (part : Nat → Option Picture)
    (h : FillsFrom crew overlay date count k slots v new left v')
    (parts : ∀ i, slots[i]?.join = part (k + i)) :
    framesOf new =
      ((List.range' k count).filter fun i => (v.compositor.display? i).isSome).filterMap
        fun i => (part i).map fun part => .prepared i part overlay date := by
  -- The parts are numbered by regions, so that the number stays while the list gets shorter.
  induction h with
  | done => rfl
  | @next count k slots left v v₁ v' new more fills rest ih =>
    obtain ⟨first, later⟩ := parts_next parts
    have same : (fun i => (v₁.compositor.display? i).isSome) =
        fun i => (v.compositor.display? i).isSome :=
      funext fun i => isSome_display?_of_shape_eq (Step.fill fills).shape_eq i
    rw [framesOf_append, fills.frames_eq, ih later, first, List.range'_succ, same]
    -- A region without a display drops out of both sides.
    by_cases display : (v.compositor.display? k).isSome
    · rw [if_pos display, List.filter_cons, if_pos display, List.filterMap_cons]
      cases part k <;> rfl
    · rw [if_neg display, List.filter_cons, if_neg display, List.nil_append]

/-- Of the slots that are filled, those of regions with a display keep their parts. -/
theorem FillsFrom.picture?_eq (part : Nat → Option Picture)
    (h : FillsFrom crew overlay date count k slots v new left v')
    (parts : ∀ i, slots[i]?.join = part (k + i))
    (inside : k + count ≤ v.compositor.pictures.length) (i : Nat) :
    v'.compositor.picture? i =
      if k ≤ i ∧ i < k + count then
        (if (v.compositor.display? i).isSome then part i else none)
      else v.compositor.picture? i := by
  induction h with
  | done =>
    rw [if_neg]
    omega
  | @next count k slots left v v₁ v' new more fills rest ih =>
    obtain ⟨first, later⟩ := parts_next parts
    have shape := (Step.fill fills).shape_eq
    have slots₁ : v₁.compositor.pictures.length = v.compositor.pictures.length :=
      congrArg Shape.slots shape
    rw [ih later (by omega), isSome_display?_of_shape_eq shape, fills.picture?_eq (by omega), first]
    -- The slot filled first is out of reach of the rest, which starts behind it.
    by_cases here : i = k
    · subst here
      have past : ¬ (i + 1 ≤ i ∧ i < i + 1 + count) := by omega
      have among : i ≤ i ∧ i < i + (count + 1) := by omega
      rw [if_neg past, if_pos among, if_pos (Eq.refl i)]
    · rw [if_neg here]
      by_cases among : k ≤ i ∧ i < k + (count + 1)
      · rw [if_pos among, if_pos (by omega)]
      · rw [if_neg among, if_neg (by omega)]

end Fill

/-! ## Showing slots -/

section «Show»

variable {k count : Nat}

/-- The display of a region is asked to show what is in its slot. -/
theorem Shows.frames_eq (h : Shows crew k v new v') :
    framesOf new = if (v.compositor.display? k).isSome then
      ((v.compositor.picture? k).map (FrameCall.displayed k)).toList else [] := by
  cases h with
  | blank blank => rcases blank with display | slot <;> simp [*]
  | shown here display filled =>
    rw [display?_of_getElem? here, display, filled, framesOf, callsOf_called, callsOf_reports]
    rfl

/-- A slot is empty once it was shown. -/
theorem Shows.picture?_eq (h : Shows crew k v new v')
    (inside : k < v.compositor.pictures.length) (i : Nat) :
    v'.compositor.picture? i = if i = k then none else v.compositor.picture? i := by
  have slot := picture?_withSlot v.compositor inside none i
  cases h <;> exact slot

/-- The displays of regions are asked to show what is in their slots, one after the other. -/
theorem ShowsFrom.frames_eq (part : Nat → Option Picture) (h : ShowsFrom crew count k v new v')
    (inside : k + count ≤ v.compositor.pictures.length)
    (filled : ∀ i, k ≤ i → v.compositor.picture? i = part i) :
    framesOf new =
      ((List.range' k count).filter fun i => (v.compositor.display? i).isSome).filterMap
        fun i => (part i).map (.displayed i) := by
  induction h with
  | done => rfl
  | @next count k v v₁ v' new more shows rest ih =>
    have shape := (Step.show shows).shape_eq
    have slots₁ : v₁.compositor.pictures.length = v.compositor.pictures.length :=
      congrArg Shape.slots shape
    have same : (fun i => (v₁.compositor.display? i).isSome) =
        fun i => (v.compositor.display? i).isSome :=
      funext fun i => isSome_display?_of_shape_eq shape i
    -- What is shown first leaves the slots behind it alone.
    have filled₁ : ∀ i, k + 1 ≤ i → v₁.compositor.picture? i = part i := by
      intro i beyond
      have other : i ≠ k := by omega
      rw [shows.picture?_eq (by omega), if_neg other, filled i (by omega)]
    rw [framesOf_append, shows.frames_eq, ih (by omega) filled₁, same, filled k (Nat.le_refl k),
      List.range'_succ]
    by_cases display : (v.compositor.display? k).isSome
    · rw [if_pos display, List.filter_cons, if_pos display, List.filterMap_cons]
      cases part k <;> rfl
    · rw [if_neg display, List.filter_cons, if_neg display, List.nil_append]

/-- The slots are empty once they were shown. -/
theorem ShowsFrom.picture?_eq (h : ShowsFrom crew count k v new v')
    (inside : k + count ≤ v.compositor.pictures.length) (i : Nat) :
    v'.compositor.picture? i =
      if k ≤ i ∧ i < k + count then none else v.compositor.picture? i := by
  induction h with
  | done =>
    rw [if_neg]
    omega
  | @next count k v v₁ v' new more shows rest ih =>
    have slots₁ : v₁.compositor.pictures.length = v.compositor.pictures.length :=
      congrArg Shape.slots (Step.show shows).shape_eq
    rw [ih (by omega), shows.picture?_eq (by omega)]
    by_cases here : i = k
    · subst here
      have among : i ≤ i ∧ i < i + (count + 1) := by omega
      rw [if_pos (Eq.refl i), ite_self, if_pos among]
    · rw [if_neg here]
      by_cases among : k ≤ i ∧ i < k + (count + 1)
      · rw [if_pos among, if_pos (by omega)]
      · rw [if_neg among, if_neg (by omega)]

end «Show»

/-! ## Operations -/

section Operations

variable {picture : Picture} {overlay : Option Overlay} {date : Tick}

theorem Quiet.frames_eq (path : Path (Quiet crew) v new v') : framesOf new = [] :=
  framesOf_eq_nil (path.forall_signs fun _ _ _ step sign member => (step.kind_ne sign member).2)

theorem Quiet.parts_eq (path : Path (Quiet crew) v new v') :
    (answersOf new).filterMap Answer.parts? = [] :=
  parts_eq_nil (path.forall_signs fun _ _ _ step sign member => (step.kind_ne sign member).2)

/-- A path of quiet steps leaves slots and regions as they were. -/
theorem Quiet.settled (path : Path (Quiet crew) v new v') (tidy : v'.compositor.Tidy)
    (settled : v.compositor.Settled) :
    v'.compositor.Settled ∧ v'.compositor.pictures = v.compositor.pictures := by
  have shape := Quiet.path_shape_eq path
  have pictures : v'.compositor.pictures = v.compositor.pictures :=
    path.keepsEq (f := fun u => u.compositor.pictures) fun _ _ _ => Quiet.pictures_eq
  exact ⟨settled.of_shape_eq shape tidy, pictures⟩

theorem Step.settled (path : Path (Step crew) v new v') (settled : v.compositor.Settled) :
    v'.compositor.Settled := by
  have shape := Step.path_shape_eq path
  have tidy := path.keepsView (P := fun u => u.compositor.Tidy)
    (fun _ _ _ kept step => step.tidy kept) settled.tidy
  exact settled.of_shape_eq shape tidy

/-- The answer about parts is the only one of its kind while a picture is prepared. -/
theorem slotsOf_prepared {v₁ v₂ v₃ : View σ A W D} {drained asked filled : List Sign}
    {slots left : Slots} {count k : Nat} (drains : Path (Quiet crew) v drained v₁)
    (splits : Splits crew picture v₁ asked slots v₂)
    (fills : FillsFrom crew overlay date count k slots v₂ filled left v₃) :
    slotsOf (drained ++ (asked ++ filled)) = slots := by
  rw [slotsOf, answersOf_append, answersOf_append, fills.answers_eq, List.filterMap_append,
    Quiet.parts_eq drains]
  cases splits
  rfl

/-- To prepare a picture is to fill all slots with its parts, unless the compositor is closed. -/
theorem Prepares.fills (h : Prepares crew picture overlay date v new v')
    (settled : v.compositor.Settled) :
    (framesOf new = [] ∧ slotsOf new = [] ∧ v'.compositor.regions = []) ∨
    ∃ v₂ v₃ filled left, v₂.compositor.shape = v.compositor.shape ∧ v₂.compositor.Settled ∧
      FillsFrom crew overlay date v₂.compositor.regions.length 0 (slotsOf new) v₂ filled left v₃ ∧
      framesOf new = framesOf filled ∧ v'.compositor = v₃.compositor := by
  cases h with
  | late drains gone =>
    have parts := Quiet.parts_eq drains.1
    have kept := (Quiet.settled drains.1 drains.2 settled).1
    exact .inl ⟨Quiet.frames_eq drains.1, by rw [slotsOf, parts]; rfl, kept.gone gone⟩
  | mk drains splits fills =>
    have kept := (Quiet.settled drains.1 drains.2 settled).1
    have shape := Quiet.path_shape_eq drains.1
    rename_i v₁ v₂ v₃ drained asked filled slots left
    have kept₂ := kept.of_shape_eq splits.shape_eq (splits.tidy drains.2)
    have parts : slotsOf (drained ++ (asked ++ filled)) = slots :=
      slotsOf_prepared drains.1 splits fills
    have frames : framesOf (drained ++ (asked ++ filled)) = framesOf filled := by
      rw [framesOf_append, framesOf_append, Quiet.frames_eq drains.1]
      cases splits
      rfl
    rw [parts, frames]
    exact .inr ⟨v₂, v₃, filled, left, splits.shape_eq.trans shape, kept₂, fills, rfl, rfl⟩

/-- The displays that are asked to prepare are those of the regions whose parts are there, each
for its part. -/
theorem Prepares.frames_eq (h : Prepares crew picture overlay date v new v')
    (settled : v.compositor.Settled) :
    framesOf new = v.compositor.shown.filterMap fun k =>
      ((slotsOf new)[k]?.join).map fun part => .prepared k part overlay date := by
  rcases h.fills settled with ⟨frames, slots, -⟩ |
    ⟨v₂, v₃, filled, left, shape, -, fills, frames, -⟩
  · rw [frames, slots]
    simp
  · have parts : ∀ i, (slotsOf new)[i]?.join = (slotsOf new)[0 + i]?.join := by simp
    rw [frames, fills.frames_eq (fun i => (slotsOf new)[i]?.join) parts,
      ← List.range_eq_range', ← shown_of_shape_eq shape]
    rfl

/-- What is left in the slots is what displays were asked to prepare. -/
theorem Prepares.picture?_eq (h : Prepares crew picture overlay date v new v')
    (settled : v.compositor.Settled) (k : Nat) :
    v'.compositor.picture? k =
      if k ∈ v.compositor.shown then (slotsOf new)[k]?.join else none := by
  rcases h.fills settled with ⟨-, slots, empty⟩ |
    ⟨v₂, v₃, filled, left, shape, settled₂, fills, -, same⟩
  · have kept := Step.settled h.path settled
    rw [slots, kept.picture?_eq_none (by simp [empty])]
    simp
  · have parts : ∀ i, (slotsOf new)[i]?.join = (slotsOf new)[0 + i]?.join := by simp
    have slots := settled₂.slots
    rw [same, fills.picture?_eq (fun i => (slotsOf new)[i]?.join) parts (by omega),
      ← shown_of_shape_eq shape]
    simp only [mem_shown]
    -- Beyond the last region there is neither a slot nor a display.
    by_cases inside : k < v₂.compositor.regions.length
    · rw [if_pos (by omega)]
    · rw [if_neg (by omega), settled₂.picture?_eq_none (by omega)]
      simp [display?_eq_none (List.getElem?_eq_none (Nat.le_of_not_lt inside))]

/-- The displays that are asked to show are those of the regions whose slots are filled, each for
what is in its slot. -/
theorem ShowsFrom.frames_eq_shown
    (h : ShowsFrom crew v.compositor.regions.length 0 v new v') (settled : v.compositor.Settled) :
    framesOf new = v.compositor.shown.filterMap fun k =>
      (v.compositor.picture? k).map (.displayed k) := by
  have slots := settled.slots
  rw [h.frames_eq v.compositor.picture? (by omega) fun _ _ => rfl,
    ← List.range_eq_range']
  rfl

theorem ShowsFrom.picture?_eq_none
    (h : ShowsFrom crew v.compositor.regions.length 0 v new v') (settled : v.compositor.Settled)
    (k : Nat) : v'.compositor.picture? k = none := by
  have slots := settled.slots
  rw [h.picture?_eq (by omega)]
  by_cases inside : k < v.compositor.regions.length
  · rw [if_pos (by omega)]
  · rw [if_neg (by omega), settled.picture?_eq_none (by omega)]

end Operations

/-! ## Closing and opening -/

theorem framesOf_farewells (c : Compositor A W D) (count : Nat) :
    framesOf (c.farewells count) = [] := by
  apply framesOf_eq_nil
  intro sign member
  obtain ⟨call, locked, rfl, parting⟩ := isParting_of_mem_farewells member
  simp [Sign.kind, kind_of_isParting parting]

/-- Closing asks no display for a picture. -/
theorem Closes.frames_eq (h : Closes v new v') : framesOf new = [] := by
  cases h with
  | again => rfl
  | first =>
    rw [framesOf_append, framesOf_farewells]
    split <;> rfl

theorem Closes.settled (h : Closes v new v') (settled : v.compositor.Settled) :
    v'.compositor.Settled := by
  cases h with
  | again => exact settled
  | first left last =>
    rw [last]
    exact ⟨closed_tidy _, rfl, fun _ => rfl⟩

section Opening

theorem Attempts.frames_eq {α : Type} {call : Call} {task : Run σ ι α} {a : α}
    (h : Attempts crew call task v new a v') (kind : call.kind ≠ .frame) : framesOf new = [] := by
  apply framesOf_eq_nil
  cases h with
  | mk reports ran =>
    intro sign member
    rcases List.mem_cons.mp member with rfl | later
    · exact kind
    · have told := reports.1.forall_signs (fun _ _ _ => Reports.kind_eq) sign later
      rcases told with kind | kind <;> simp [kind]

theorem Mounts.frames_eq {policy : FailurePolicy} {asked : DisplayRequest} {window : W}
    {fate : Fate} (h : Mounts crew policy asked window v new fate v') : framesOf new = [] := by
  cases h with
  | tolerated _ attempt | aborted _ attempt =>
    rw [framesOf_append, attempt.frames_eq (by simp [Call.kind])]
    rfl
  | ready attempt adopts =>
    rw [framesOf_append, attempt.frames_eq (by simp [Call.kind])]
    cases adopts <;> rfl

theorem Equips.frames_eq {policy : FailurePolicy} {asked : DisplayRequest} {fate : Fate}
    (h : Equips crew policy asked v new fate v') : framesOf new = [] := by
  have answer (stage : RegionStage) (k : Nat) (done : Bool) (signs : List Sign) :
      framesOf (.answered (.step stage k done) :: signs) = framesOf signs := rfl
  cases h with
  | windowRefused window =>
    rw [framesOf_append, window.frames_eq (by simp [Call.kind])]
    rfl
  | enableRefused window enable =>
    rw [framesOf_append, window.frames_eq (by simp [Call.kind]), answer, framesOf_append,
      enable.frames_eq (by simp [Call.kind])]
    rfl
  | mounted window enable mounts =>
    rw [framesOf_append, window.frames_eq (by simp [Call.kind]), answer, framesOf_append,
      enable.frames_eq (by simp [Call.kind]), answer, mounts.frames_eq]
    rfl

variable {settings : SplitSettings} {algorithm : A} {k : Nat} {outputs : List Output}
variable {fates : List Fate} {result : Except OpenError Unit}

/-- Setting up regions asks no display for a picture. -/
theorem OpensFrom.frames_eq
    (h : OpensFrom crew settings algorithm k outputs v new fates result v') :
    framesOf new = [] := by
  have one {k : Nat} {output : Output} {v v' : View σ A W D} {new : List Sign} {fate : Fate}
      (opens : Opens crew settings algorithm k output v new fate v') : framesOf new = [] := by
    cases opens with
    | inactive => rfl
    | active _ _ equips => exact equips.frames_eq
  induction h with
  | done => rfl
  | failed opens => exact one opens
  | next opens _ _ ih => rw [framesOf_append, one opens, ih, List.append_nil]

theorem Populates.frames_eq (h : Populates crew settings algorithm v new fates result v') :
    framesOf new = [] := by
  cases h with
  | opened opens => exact opens.frames_eq
  | failed opens =>
    rw [framesOf_append, framesOf_append, opens.frames_eq, framesOf_farewells]
    rfl

/-- Where all regions are set up, the algorithm is kept. -/
theorem Populates.isOpen_eq (h : Populates crew settings algorithm v new fates (.ok ()) v') :
    v'.compositor.isOpen = v.compositor.isOpen := by
  cases h with
  | opened opens => rw [isOpen, isOpen, algorithm_of_fixture_eq opens.fixture_eq]

/-- An open compositor is settled, and its slots are empty. -/
theorem Populates.settled (tidy : v.compositor.Tidy) (empty : v.compositor.regions = [])
    (alive : v.compositor.algorithm.isSome)
    (slots : v.compositor.pictures = v.compositor.outputs.map fun _ => none)
    (h : Populates crew settings algorithm v new fates (.ok ()) v') :
    v'.compositor.Settled ∧ ∀ k, v'.compositor.picture? k = none := by
  cases h with
  | opened opens =>
    have fixture := opens.fixture_eq
    have pictures := pictures_of_fixture_eq fixture
    have alive' := algorithm_of_fixture_eq fixture
    -- There were slots for all outputs from the beginning, and now there are regions too.
    have count : v'.compositor.regions.length = v.compositor.outputs.length := by
      have all := congrArg List.length (opens.outfits_eq (by rw [empty]; rfl))
      rcases opens.result_cases with ⟨-, met, -⟩ | ⟨_, _, _, -, failed, -⟩
      · simpa [outfits, empty, met] using all
      · cases failed
    refine ⟨⟨opens.tidy tidy, ?_, fun gone => ?_⟩, fun k => ?_⟩
    · rw [pictures, slots, List.length_map, count]
    · rw [← alive', gone] at alive
      cases alive
    · rw [picture?, pictures, slots, List.getElem?_map]
      cases v.compositor.outputs[k]? <;> rfl

end Opening

end Compositor

end Mosaic
