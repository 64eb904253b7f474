import Mosaic.Proofs.Isolation
import Mosaic.Proofs.Pointer

/-!
# Another size for a compositor that is open

Sizes are given to regions in two places. An opening gives each region the size that the algorithm
wants for its output under the placement that was asked for. A new display size gives them all
again, under the placement with that size, of a compositor that may have been through much in the
meantime: other display sizes, windows that were resized, displays that could not be made.

Nothing of that is left. With the algorithms at hand a compositor that is told a new size has
regions as large as if it had been opened for that size, with or without a display, and it has lost
nothing over it: what is pending, waiting or held stays, and all that displays are asked is to take
the new size, each of them once.

## Main definitions

* `SplitSettings.resize` — the same settings for another size
* `Compositor.regionSizes` — the sizes of all regions
* `Compositor.Unresized` — no window asks for another size
* `Compositor.Refits` — a new display size against an opening for that size

## Main results

* `Builtin.laysOut_resize` — what is made depends on no size that is asked for
* `open_regionSizes`, `Controls.regionSizes_eq` — sizes after an opening and after a new size
* `always_of_steps` — what every step keeps from the opening on
* `open_refits_as_reopened` — the law for opening and any operations
-/

set_option autoImplicit false

namespace Mosaic

/-- The same settings with another size asked for. -/
def SplitSettings.resize (s : SplitSettings) (size : Size) : SplitSettings :=
  { s with placement := s.placement.resize size }

/-- A size that is asked for replaces all of the size that was asked for before. -/
theorem Placement.resize_congr {p p' : Placement} (zoom : p.zoom = p'.zoom) (size : Size) :
    p.resize size = p'.resize size := by
  rw [resize, resize, zoom]

/-! ## The algorithms by their names -/

theorem BuiltinName.text_injective {name name' : BuiltinName} (same : name.text = name'.text) :
    name = name' := by
  cases name <;> cases name' <;> first | rfl | exact absurd same (by decide)

/-- No size that is asked for matters to how a source is laid out. -/
theorem BuiltinName.create_resize (name : BuiltinName) (source : VideoFormat)
    (settings : SplitSettings) (size : Size) :
    name.create source (settings.resize size) = name.create source settings := by
  cases name <;> rfl

namespace Builtin

variable {σ ι : Type}

theorem resolve?_clone :
    (registry : Registry (Constructor σ ι Builtin)).resolve? BuiltinName.clone.text =
      some fun source settings => Run.attempt (BuiltinName.clone.create source settings) := by
  have apart : BuiltinName.clone.text ≠ BuiltinName.wall.text := by decide
  rw [registry, List.foldl_cons, List.foldl_cons, List.foldl_nil,
    Registry.resolve?_register_of_ne apart, Registry.resolve?_register_self]

theorem resolve?_unknown {name : String} (unknown : ∀ found : BuiltinName, name ≠ found.text) :
    (registry : Registry (Constructor σ ι Builtin)).resolve? name = none := by
  rw [registry, List.foldl_cons, List.foldl_cons, List.foldl_nil,
    Registry.resolve?_register_of_ne (unknown .wall),
    Registry.resolve?_register_of_ne (unknown .clone)]
  rfl

/-- Under a name there is the algorithm with that name or none. -/
theorem of_resolve? {name : String} {construct : Constructor σ ι Builtin}
    (known : (registry : Registry (Constructor σ ι Builtin)).resolve? name = some construct) :
    ∃ found : BuiltinName, name = found.text ∧
      construct = fun source settings => Run.attempt (found.create source settings) := by
  by_cases here : ∃ found : BuiltinName, name = found.text
  · obtain ⟨found, rfl⟩ := here
    refine ⟨found, rfl, Option.some.inj (known.symm.trans ?_)⟩
    cases found with
    | wall => exact resolve?_wall
    | clone => exact resolve?_clone
  · rw [resolve?_unknown (not_exists.mp here)] at known
    cases known

/-- What the algorithm that is asked for makes of a source. -/
def LaysOut (settings : SplitSettings) (source : VideoFormat) (b : Builtin) : Prop :=
  ∃ name : BuiltinName, settings.algorithmName = name.text ∧
    name.create source.upright settings = .ok (.ok b)

variable {settings : SplitSettings} {source : VideoFormat} {b b' : Builtin}

theorem LaysOut.unique (h : LaysOut settings source b) (h' : LaysOut settings source b') :
    b = b' := by
  obtain ⟨name, named, created⟩ := h
  obtain ⟨name', named', created'⟩ := h'
  obtain rfl := BuiltinName.text_injective (named.symm.trans named')
  exact Except.ok.inj (Except.ok.inj (created.symm.trans created'))

/-- The same is made whatever size is asked for. -/
theorem laysOut_resize {size : Size} :
    LaysOut (settings.resize size) source b ↔ LaysOut settings source b := by
  simp only [LaysOut, BuiltinName.create_resize]
  rfl

theorem laysOut_of_makes {env : σ} {ledger : Ledger}
    (made : Compositor.Makes (ι := ι) registry settings source env ledger b) :
    LaysOut settings source b := by
  obtain ⟨construct, w₀, known, ran⟩ := made
  obtain ⟨name, named, rfl⟩ := of_resolve? known
  exact ⟨name, named, Run.of_attempt_eq_ok ran⟩

end Builtin

namespace Compositor

open Act

section Definitions

variable {A W D : Type}

/-- The sizes of all regions. -/
def regionSizes (c : Compositor A W D) : List Size := c.regions.map Region.size

/-- Whether no window asks for another size. -/
def Unresized (signs : List Sign) : Prop := ∀ k size, .reported k (.resized size) ∉ signs

/-- The sizes can be told by the outputs where there are as many regions and each one has the size
for its output. -/
theorem regionSizes_eq_map {c : Compositor A W D} {outputs : List Output} {wanted : Output → Size}
    (count : c.regions.length = outputs.length)
    (each : ∀ k output, outputs[k]? = some output → c.size? k ≠ none →
      c.size? k = some (wanted output)) : c.regionSizes = outputs.map wanted := by
  refine List.ext_getElem (by simp [regionSizes, count]) fun k inside inside' => ?_
  rw [regionSizes, List.length_map] at inside
  rw [List.length_map] at inside'
  have size : c.size? k = some c.regions[k].size := by
    rw [size?, List.getElem?_eq_getElem inside]
    rfl
  have right := each k outputs[k] (List.getElem?_eq_getElem inside') (size ▸ Option.some_ne_none _)
  simp only [regionSizes, List.getElem_map]
  exact Option.some.inj (size.symm.trans right)

end Definitions

variable {σ ι A W D : Type} {crew : Crew σ ι A W D} {v v' : View σ A W D} {new : List Sign}

/-! ## Sizes after an opening -/

section Opened

variable {registry : Registry (Constructor σ ι A)} {settings : SplitSettings}
variable {source : VideoFormat} {parent : Option ParentWindow} {env : σ} {ledger : Ledger}
variable {c : Compositor A W D} {w : World σ (Happening ι)} {a : A}

/-- A compositor that was just opened consists of what its algorithm declares, and is placed as was
asked for. -/
theorem open_stands
    (opened : «open» crew registry settings source parent ⟨env, ledger, []⟩ = .ok (.ok c) w) :
    ∃ a, Makes registry settings source env ledger a ∧ c.Settled ∧ c.isOpen = true ∧
      c.placement = settings.placement ∧ Standing (crew.algorithm.outputs a) c w.signs c := by
  have starts := open_starts crew registry settings source parent env ledger
  rw [opened] at starts
  generalize came : Except.ok c = result at starts
  cases starts with
  | unknown | unmade => cases came
  | @populated _ construct a w₀ fates result v known ran populates seen =>
    cases result with
    | error e => cases came
    | ok done =>
      cases came
      obtain ⟨settled, alive, standing⟩ := populates.standing unpopulated_tidy rfl rfl rfl
      refine ⟨a, ⟨construct, w₀, known, ran⟩, settled, alive, ?_, standing⟩
      generalize w.signs = opening at populates
      cases populates with
      | opened opens => exact placement_of_fixture_eq opens.fixture_eq

theorem cue?_eq_resized {sign : Sign} {k : Nat} {size : Size}
    (h : sign.cue? k = some (.resized size)) : sign = .reported k (.resized size) := by
  unfold Sign.cue? at h
  split at h
  · split at h <;> cases h
  · split at h <;> cases h
  · split at h
    · rename_i same
      cases h
      rw [same]
    · cases h
  · cases h

/-- Without a cue for another size a region keeps the size that it was added with. -/
theorem size_follow {wanted : Size} {cues : List Cue} {p : Portrait}
    (unresized : ∀ size, .resized size ∉ cues) (start : p.size = none ∨ p.size = some wanted) :
    (p.follow wanted cues).size = none ∨ (p.follow wanted cues).size = some wanted := by
  induction cues generalizing p with
  | nil => exact start
  | cons cue cues ih =>
    rw [Portrait.follow_cons]
    refine ih (fun size later => unresized size (List.mem_cons_of_mem _ later)) ?_
    cases cue with
    | added => exact .inr rfl
    -- A display that is there now may have been told something, but its region stays as large.
    | answered stage done => cases stage <;> cases done <;> exact start
    | resized size => exact absurd List.mem_cons_self (unresized size)

/-- Where no window asks for another size, a region has the one that the algorithm wants. -/
theorem open_size?
    (opened : «open» crew registry settings source parent ⟨env, ledger, []⟩ = .ok (.ok c) w)
    (made : Makes registry settings source env ledger a) (unresized : Unresized w.signs) (k : Nat) :
    c.size? k = none ∨ c.size? k = some (wantedSize crew.algorithm settings a k) := by
  have portrait : c.portrait k w.signs =
      Portrait.blank.follow (wantedSize crew.algorithm settings a k) (cuesOf k w.signs) :=
    open_portrait opened made fun _ there => wantedSize_eq there
  have uncued : ∀ size, .resized size ∉ cuesOf k w.signs := by
    intro size member
    obtain ⟨sign, here, cue⟩ := List.mem_filterMap.mp member
    rw [cue?_eq_resized cue] at here
    exact unresized k size here
  have followed : c.size? k = _ := congrArg Portrait.size portrait
  rw [followed]
  exact size_follow uncued (.inl rfl)

/-- Where no window asks for another size, the regions have those that the algorithm wants. -/
theorem open_regionSizes
    (opened : «open» crew registry settings source parent ⟨env, ledger, []⟩ = .ok (.ok c) w)
    (unresized : Unresized w.signs) :
    ∃ a, Makes registry settings source env ledger a ∧ c.outputs = crew.algorithm.outputs a ∧
      c.placement = settings.placement ∧
      c.regionSizes = (crew.algorithm.outputs a).map fun output =>
        crew.algorithm.sizeFor a output.format settings.placement := by
  obtain ⟨a, made, -, -, placement, standing⟩ := open_stands opened
  refine ⟨a, made, standing.outputs, placement, regionSizes_eq_map standing.regions ?_⟩
  -- There are as many regions as outputs, so none of them was left out.
  intro k output there present
  rw [wantedSize_eq there]
  exact (open_size? opened made unresized k).resolve_left present

end Opened

/-! ## Sizes after a new display size -/

section Resizing

variable {a : A} {placement : Placement} {j : Nat} {outputs : List Output} {size : Size}

/-- A region that takes a new size keeps its window, and inputs wait as before. -/
theorem Resizes.waits {k : Nat} (h : Resizes crew k size v new v') :
    v'.compositor.queue = v.compositor.queue ∧
      ∀ i, v'.compositor.window? i = v.compositor.window? i := by
  have windows {r r' : Region W D} (here : v.compositor.regions[k]? = some r)
      (same : r'.window = r.window) (i : Nat) :
      (v.compositor.setRegion k r').window? i = v.compositor.window? i := by
    by_cases place : k = i
    · subst place
      rw [window?_setRegion_self here, same, window?_of_getElem? here]
    · rw [window?, getElem?_setRegion_of_ne place, window?]
  cases h with
  | unshown here | shown here => exact ⟨rfl, windows here rfl⟩

theorem ResizesFrom.waits (h : ResizesFrom crew a placement j outputs v new v') :
    v'.compositor.queue = v.compositor.queue ∧
      ∀ i, v'.compositor.window? i = v.compositor.window? i := by
  induction h with
  | done | beyond => exact ⟨rfl, fun _ => rfl⟩
  | next resizes _ ih =>
    obtain ⟨queue, windows⟩ := resizes.waits
    exact ⟨ih.1.trans queue, fun i => (ih.2 i).trans (windows i)⟩

/-- Nothing shows but that sizes are wanted and taken. -/
theorem ResizesFrom.kind_eq (h : ResizesFrom crew a placement j outputs v new v') :
    ∀ sign ∈ new, sign.kind = .size := by
  induction h with
  | done | beyond => exact fun _ member => absurd member List.not_mem_nil
  | next resizes _ ih =>
    simp only [List.forall_mem_cons, List.forall_mem_append]
    refine ⟨rfl, ?_, ih⟩
    cases resizes <;> simp [Sign.kind, Call.kind]

section Controls

variable (h : Controls crew (.displaySize size) v new v')
include h

theorem Controls.waits : v'.compositor.queue = v.compositor.queue ∧
    ∀ i, v'.compositor.window? i = v.compositor.window? i := by
  cases h with
  | idle | late => exact ⟨rfl, fun _ => rfl⟩
  | resized _ resizes => exact resizes.waits

theorem Controls.kind_eq : ∀ sign ∈ new, sign.kind = .size := by
  cases h with
  | idle | late => exact fun _ member => absurd member List.not_mem_nil
  | resized _ resizes => exact resizes.kind_eq

theorem Controls.shape_eq : v'.compositor.shape = v.compositor.shape := by
  cases h with
  | idle | late => rfl
  | resized _ resizes => exact resizes.kept.2.1

/-- What a new display size brings a region that is there. -/
theorem Controls.portrait_of_output (alive : v.compositor.algorithm = some a) {k : Nat}
    {output : Output} (there : v.compositor.outputs[k]? = some output) :
    v'.compositor.portrait k new = (v.compositor.portrait k []).take ⟨0, 0⟩
      (.resized (crew.algorithm.sizeFor a output.format (v.compositor.placement.resize size))) := by
  have portrait := h.portrait_eq ⟨0, 0⟩ k []
  rw [hinted, alive, there] at portrait
  exact portrait

variable (alive : v.compositor.algorithm = some a)
  (count : v.compositor.regions.length = v.compositor.outputs.length)
include alive count

/-- All regions have the sizes that the algorithm wants for their outputs. -/
theorem Controls.regionSizes_eq :
    v'.compositor.regionSizes = v.compositor.outputs.map fun output =>
      crew.algorithm.sizeFor a output.format (v.compositor.placement.resize size) := by
  have count' : v'.compositor.regions.length = v.compositor.outputs.length :=
    (length_regions_of_shape_eq h.shape_eq).trans count
  refine regionSizes_eq_map count' fun k output there present => ?_
  have replaced : v'.compositor.size? k = (v.compositor.size? k).map fun _ =>
      crew.algorithm.sizeFor a output.format (v.compositor.placement.resize size) :=
    congrArg Portrait.size (h.portrait_of_output alive there)
  obtain ⟨taken, here⟩ := Option.ne_none_iff_exists'.mp present
  obtain ⟨_, -, rfl⟩ := Option.map_eq_some_iff.mp (replaced.symm.trans here)
  exact here

/-- Each display is asked to take the size of its region, once, and nothing else. -/
theorem Controls.ordersOf_eq {k : Nat} {r : Region W D}
    (here : v'.compositor.regions[k]? = some r) :
    ordersOf k new = if r.display.isSome then [.control (.displaySize r.size)] else [] := by
  have inside : k < v.compositor.outputs.length := by
    rw [← count, ← length_regions_of_shape_eq h.shape_eq]
    exact (List.getElem?_eq_some_iff.mp here).1
  -- With no orders before, the orders in the portrait are those among the new signs.
  have portrait := h.portrait_of_output alive (List.getElem?_eq_getElem inside)
  rw [Compositor.portrait, size?, here, display?_of_getElem? here] at portrait
  obtain ⟨size, shown, orders⟩ := Portrait.mk.inj portrait
  obtain ⟨_, -, size⟩ := Option.map_eq_some_iff.mp size.symm
  rw [orders, shown, ← size]
  rfl

end Controls

/-- A display size is never refused. -/
theorem control_answers (size : Size) (tidy : v.compositor.Tidy) :
    (control crew (.displaySize size)).Yields crew v fun result _ _ => result = .ok () := by
  refine .bind (.say (.bind (.modifyCompositor (.bind (.compositor ?_)))))
  generalize placed : v.become { v.compositor with placement := _ } = v₁
  have tidy₁ : v₁.compositor.Tidy := by subst placed; exact tidy
  cases v₁.compositor.algorithm with
  | none => exact .pure rfl
  | some a => exact (resizeFrom_resizes tidy₁).andThen fun _ _ _ _ => .pure rfl

end Resizing

/-! ## From the opening on -/

/-- What stays of a compositor from its opening to its closing. -/
structure Lasts (declared : List Output) (zoom : Ratio) (c : Compositor A W D) : Prop where
  tidy : c.Tidy
  outputs : c.outputs = declared
  count : c.regions.length = declared.length
  zoom : c.placement.zoom = zoom

/-- Only the size that is asked for ever changes. -/
theorem Step.zoom_eq (h : Step crew v new v') :
    v'.compositor.placement.zoom = v.compositor.placement.zoom := by
  cases h with
  | quiet quiet =>
    cases quiet with
    | report reports => rw [placement_of_fixture_eq reports.fixture_eq]
    | handle _ handles => cases handles <;> rfl
    | place | hint => rfl
  | split splits => cases splits; rfl
  | fill fills => cases fills <;> rfl
  | «show» shows => cases shows <;> rfl
  | release => rfl

theorem Step.lasts {declared : List Output} {zoom : Ratio} (h : Step crew v new v')
    (lasts : v.compositor.Lasts declared zoom) : v'.compositor.Lasts declared zoom where
  tidy := h.tidy lasts.tidy
  outputs := (congrArg Shape.outputs h.shape_eq).trans lasts.outputs
  count := (length_regions_of_shape_eq h.shape_eq).trans lasts.count
  zoom := h.zoom_eq.trans lasts.zoom

section Always

variable {registry : Registry (Constructor σ ι A)} {settings : SplitSettings}
variable {source : VideoFormat} {parent : Option ParentWindow} {env : σ} {ledger : Ledger}

theorem Always.mono {holds holds' : Running σ ι A W D → Prop}
    (h : Always crew registry settings source parent env ledger holds)
    (weaker : ∀ s, holds s → holds' s) :
    Always crew registry settings source parent env ledger holds' := by
  intro operations
  have h := h operations
  split at h
  · exact h
  · trivial
  · split at h
    · exact weaker _ h
    · exact h

/-- What always holds, holds after the operations that were performed. -/
theorem Always.apply {holds : Running σ ι A W D → Prop} {operations : List Operation}
    {c : Compositor A W D} {w : World σ (Happening ι)} {s : Running σ ι A W D}
    (h : Always crew registry settings source parent env ledger holds)
    (opened : «open» crew registry settings source parent ⟨env, ledger, []⟩ = .ok (.ok c) w)
    (ran : performAll crew operations ⟨c, w⟩ = .ok () s) : holds s := by
  have h := h operations
  rw [opened] at h
  simpa only [ran] using h

/-- What every step keeps lasts until the closing. -/
theorem performAll_lasts {holds : Compositor A W D → Prop} (operations : List Operation)
    (tidy : v.compositor.Tidy) (alive : v.compositor.isOpen = true) (start : holds v.compositor)
    (kept : ∀ (v : View σ A W D) (new : List Sign) (v' : View σ A W D), holds v.compositor →
      Step crew v new v' → holds v'.compositor) :
    (performAll crew operations).Yields crew v fun _ _ v' =>
      v'.compositor.isOpen = true → holds v'.compositor := by
  by_cases closing : .close ∈ operations
  · refine (performAll_empties operations closing tidy (.inl alive)).mono ?_
    intro _ _ v' emptied isOpen
    rw [Compositor.isOpen, emptied.algorithm] at isOpen
    cases isOpen
  · exact (performAll_steps operations closing tidy).mono fun _ _ _ path _ =>
      path.1.keepsView (P := fun u => holds u.compositor) kept start

/-- What holds after every opening and is kept by every step, holds until the closing. -/
theorem always_of_steps {holds : Compositor A W D → Prop}
    (start : ∀ c w,
      «open» crew registry settings source parent ⟨env, ledger, []⟩ = .ok (.ok c) w → holds c)
    (kept : ∀ (v : View σ A W D) (new : List Sign) (v' : View σ A W D), holds v.compositor →
      Step crew v new v' → holds v'.compositor) :
    Always crew registry settings source parent env ledger fun s =>
      s.compositor.isOpen = true → holds s.compositor := by
  intro operations
  have starts := open_starts crew registry settings source parent env ledger
  cases came : «open» crew registry settings source parent ⟨env, ledger, []⟩ with
  | error fault w =>
    rw [came] at starts
    exact starts
  | ok result w =>
    cases result with
    | error e => trivial
    | ok c =>
      obtain ⟨-, -, settled, alive, -⟩ := open_stands came
      have all : (performAll crew operations).Yields crew (Running.view ⟨c, w⟩) _ :=
        performAll_lasts operations settled.tidy alive (start c w came) kept
      have yields := all ⟨c, w⟩ rfl
      dsimp only
      cases ran : performAll crew operations ⟨c, w⟩ with
      | error fault t =>
        rw [ran] at yields
        exact yields
      | ok done t =>
        rw [ran] at yields
        obtain ⟨-, -, lasts⟩ := yields
        exact lasts

end Always

/-! ## The law -/

/-- A new display size against an opening for that size. -/
structure Refits (settings : SplitSettings) (source : VideoFormat) (size : Size)
    (s t : Running σ ι Builtin W D) : Prop where
  /-- The regions are as large as after an opening for that size, whoever makes the windows and
  displays then, if no window asks for another size meanwhile. -/
  reopened : ∀ (σ' ι' W' D' : Type) (backend : Backend σ' ι' W' D')
    (parent : Option ParentWindow) (env : σ') (ledger : Ledger) (c : Compositor Builtin W' D')
    (w : World σ' (Happening ι')),
    «open» backend.crew Builtin.registry (settings.resize size) source parent ⟨env, ledger, []⟩ =
      .ok (.ok c) w → Unresized w.signs →
    t.compositor.regionSizes = c.regionSizes ∧ t.compositor.placement = c.placement ∧
      t.compositor.outputs = c.outputs
  sizes : t.compositor.regionSizes = t.compositor.outputs.map fun output =>
    (settings.resize size).placement.sizeFor output.format
  /-- Each display is told the size of its region, once. Nothing else shows but that sizes are
  wanted and taken. -/
  told : ∃ new, t.world.signs = s.world.signs ++ new ∧ (∀ sign ∈ new, sign.kind = .size) ∧
    ∀ k r, t.compositor.regions[k]? = some r →
      ordersOf k new = if r.display.isSome then [.control (.displaySize r.size)] else []
  /-- Only regions, the queue and the placement may be different at all. -/
  kept : t.compositor.fixture = ({ s.compositor with
    placement := (settings.resize size).placement } : Compositor Builtin W D).fixture
  queue : t.compositor.queue = s.compositor.queue
  windows : ∀ k, t.compositor.window? k = s.compositor.window? k
  displays : ∀ k, (t.compositor.display? k).isSome = (s.compositor.display? k).isSome

/-- A new display size is never refused, and comes to what an opening for that size would come
to. -/
def RefitLaw (backend : Backend σ ι W D) (settings : SplitSettings) (source : VideoFormat)
    (s : Running σ ι Builtin W D) : Prop :=
  ∀ size, match control backend.crew (.displaySize size) s with
    | .ok result t => result = .ok () ∧ Refits settings source size s t
    | .error fault _ => backend.crew.Raises fault

theorem RefitLaw.refits {backend : Backend σ ι W D} {settings : SplitSettings}
    {source : VideoFormat} {s t : Running σ ι Builtin W D} {size : Size}
    {result : Except DisplayError Unit} (law : RefitLaw backend settings source s)
    (ran : control backend.crew (.displaySize size) s = .ok result t) :
    result = .ok () ∧ Refits settings source size s t := by
  have law := law size
  rwa [ran] at law

/-- Whether a compositor stands as it was laid out, but for the size that is asked for. -/
def Stands (settings : SplitSettings) (source : VideoFormat) (c : Compositor Builtin W D) : Prop :=
  ∃ b, Builtin.LaysOut settings source b ∧ c.Lasts b.outputs settings.placement.zoom

section Refits

variable {backend : Backend σ ι W D} {settings : SplitSettings} {source : VideoFormat}
variable {parent : Option ParentWindow} {env : σ} {ledger : Ledger} {b : Builtin}
variable {c : Compositor Builtin W D} {w : World σ (Happening ι)} {size : Size}

theorem stands_of_open (opened : «open» backend.crew Builtin.registry settings source parent
    ⟨env, ledger, []⟩ = .ok (.ok c) w) : c.Stands settings source := by
  obtain ⟨b, made, settled, -, placement, standing⟩ := open_stands opened
  exact ⟨b, Builtin.laysOut_of_makes made, settled.tidy, standing.outputs, standing.regions,
    by rw [placement]⟩

/-- Whoever makes the windows and displays, an opening for another size lays the source out alike
and gives the regions the sizes for that. -/
theorem open_resize (laid : Builtin.LaysOut settings source b)
    (opened : «open» backend.crew Builtin.registry (settings.resize size) source parent
      ⟨env, ledger, []⟩ = .ok (.ok c) w) (unresized : Unresized w.signs) :
    c.outputs = b.outputs ∧ c.placement = (settings.resize size).placement ∧
      c.regionSizes = b.outputs.map fun output =>
        (settings.resize size).placement.sizeFor output.format := by
  obtain ⟨b', made, outputs, placement, sizes⟩ := open_regionSizes opened unresized
  obtain rfl := laid.unique (Builtin.laysOut_resize.mp (Builtin.laysOut_of_makes made))
  exact ⟨outputs, placement, sizes⟩

/-- A display size refits a compositor that still stands as it was laid out. -/
theorem Stands.refits {s t : Running σ ι Builtin W D} {new : List Sign}
    (stands : s.compositor.Stands settings source) (isOpen : s.compositor.isOpen = true)
    (signs : t.world.signs = s.world.signs ++ new)
    (controls : Controls backend.crew (.displaySize size) s.view new t.view) :
    Refits settings source size s t := by
  obtain ⟨b, laid, lasts⟩ := stands
  obtain ⟨a, alive⟩ := Option.isSome_iff_exists.mp isOpen
  -- Whatever was asked for in between, the zoom is still the one of the settings.
  have placement : s.compositor.placement.resize size = (settings.resize size).placement :=
    Placement.resize_congr lasts.zoom size
  have count : s.compositor.regions.length = s.compositor.outputs.length := by
    rw [lasts.count, lasts.outputs]
  have sizes : t.compositor.regionSizes = b.outputs.map fun output =>
      (settings.resize size).placement.sizeFor output.format := by
    rw [← placement, ← lasts.outputs]
    exact controls.regionSizes_eq alive count
  have kept : t.compositor.fixture = ({ s.compositor with
      placement := (settings.resize size).placement } : Compositor Builtin W D).fixture := by
    rw [← placement]
    exact controls.kept
  have outputs : t.compositor.outputs = b.outputs :=
    (congrArg Compositor.outputs kept :).trans lasts.outputs
  obtain ⟨queue, windows⟩ := controls.waits
  exact {
    reopened := by
      intro σ' ι' W' D' backend' parent env' ledger' c w opened unresized
      obtain ⟨outputs', placement', sizes'⟩ := open_resize laid opened unresized
      exact ⟨sizes.trans sizes'.symm, (placement_of_fixture_eq kept).trans placement'.symm,
        outputs.trans outputs'.symm⟩
    sizes := by rw [sizes, outputs]
    told := ⟨new, signs, controls.kind_eq, fun k r => controls.ordersOf_eq alive count⟩
    kept := kept
    queue := queue
    windows := windows
    displays := isSome_display?_of_shape_eq controls.shape_eq }

/-- However a compositor was used since its opening, after a new display size it is as if it had
been opened for that size, and has lost nothing. -/
theorem open_refits_as_reopened (backend : Backend σ ι W D) (settings : SplitSettings)
    (source : VideoFormat) (parent : Option ParentWindow) (env : σ) (ledger : Ledger) :
    Always backend.crew Builtin.registry settings source parent env ledger fun s =>
      s.compositor.isOpen = true → RefitLaw backend settings source s := by
  have always : Always backend.crew Builtin.registry settings source parent env ledger fun s =>
      s.compositor.isOpen = true → s.compositor.Stands settings source :=
    always_of_steps (fun _ _ opened => stands_of_open opened)
      fun _ _ _ ⟨b, laid, lasts⟩ step => ⟨b, laid, step.lasts lasts⟩
  refine always.mono fun s stands isOpen size => ?_
  obtain ⟨b, -, lasts⟩ := stands isOpen
  have all : (control backend.crew (.displaySize size)).Yields backend.crew s.view _ :=
    (control_answers size lasts.tidy).both (control_controls (.displaySize size) lasts.tidy)
  have yields := all s rfl
  cases ran : control backend.crew (.displaySize size) s with
  | error fault t =>
    rw [ran] at yields
    exact yields
  | ok result t =>
    rw [ran] at yields
    obtain ⟨new, signs, answer, controls⟩ := yields
    exact ⟨answer, (stands isOpen).refits isOpen signs controls⟩

end Refits

/-! ## Two corners of a wall -/

/-- The sizes of the regions after operations on a compositor that was opened, if it takes a display
size then. -/
def refit? (crew : Crew σ ι A W D) (operations : List Operation) (size : Size) :
    EStateM.Result Fault (World σ (Happening ι)) (Except OpenError (Compositor A W D)) →
      Option (List Size)
  | .ok (.ok c) w =>
    match performAll crew operations ⟨c, w⟩ with
    | .ok _ s =>
      match s.compositor.isOpen, control crew (.displaySize size) s with
      | true, .ok _ _ => some s.compositor.regionSizes
      | false, .ok _ _ | _, .error _ _ => none
    | .error _ _ => none
  | .ok (.error _) _ | .error _ _ => none

theorem of_refit?_eq_some {operations : List Operation} {size : Size}
    {came : EStateM.Result Fault (World σ (Happening ι)) (Except OpenError (Compositor A W D))}
    {sizes : List Size} (h : refit? crew operations size came = some sizes) :
    ∃ c w s result t, came = .ok (.ok c) w ∧ performAll crew operations ⟨c, w⟩ = .ok () s ∧
      s.compositor.isOpen = true ∧ control crew (.displaySize size) s = .ok result t ∧
      s.compositor.regionSizes = sizes := by
  unfold refit? at h
  split at h
  · rename_i c w
    split at h
    · rename_i s ran
      split at h
      · rename_i t isOpen told
        exact ⟨c, w, s, _, t, rfl, ran, isOpen, told, Option.some.inj h⟩
      · cases h
      · cases h
    · cases h
  · cases h
  · cases h

/-- The sizes of the regions after an opening during which no window reported anything. -/
def quiet? : EStateM.Result Fault (World σ (Happening ι)) (Except OpenError (Compositor A W D)) →
    Option (List Size)
  | .ok (.ok c) w =>
    if w.signs.all fun sign => sign.kind ≠ .report then some c.regionSizes else none
  | .ok (.error _) _ | .error _ _ => none

theorem of_quiet?_eq_some
    {came : EStateM.Result Fault (World σ (Happening ι)) (Except OpenError (Compositor A W D))}
    {sizes : List Size} (h : quiet? came = some sizes) :
    ∃ c w, came = .ok (.ok c) w ∧ Unresized w.signs ∧ c.regionSizes = sizes := by
  unfold quiet? at h
  split at h
  · rename_i c w
    split at h
    · rename_i silent
      refine ⟨c, w, rfl, fun k size member => ?_, Option.some.inj h⟩
      simpa [Sign.kind] using List.all_eq_true.mp silent _ member
    · cases h
  · cases h
  · cases h

/-- Each of two windows takes a size of its own, before and after all regions took one. -/
def disarray : List Operation :=
  [.report 0 (.resized ⟨9, 9⟩), .control (.displaySize ⟨20, 30⟩), .report 5 (.resized ⟨0, 4⟩)]

/-- A size that is only half asked for leaves the sizes to the source, then as in the
beginning. -/
theorem corners_refit : ∃ c w s t c' w',
    «open» headless.crew Builtin.registry cornersOnly sideways (some .fresh) ⟨(), .empty, []⟩ =
      .ok (.ok c) w ∧
    performAll headless.crew disarray ⟨c, w⟩ = .ok () s ∧
    s.compositor.regionSizes = [⟨20, 30⟩, ⟨20, 30⟩, ⟨20, 30⟩, ⟨20, 30⟩, ⟨20, 30⟩, ⟨0, 4⟩] ∧
    control headless.crew (.displaySize ⟨0, 7⟩) s = .ok (.ok ()) t ∧
    Refits cornersOnly sideways ⟨0, 7⟩ s t ∧
    «open» headless.crew Builtin.registry (cornersOnly.resize ⟨0, 7⟩) sideways none
      ⟨(), .empty, []⟩ = .ok (.ok c') w' ∧
    t.compositor.regionSizes = c'.regionSizes ∧
    c'.regionSizes = [⟨1, 3⟩, ⟨1, 3⟩, ⟨3, 3⟩, ⟨1, 4⟩, ⟨1, 4⟩, ⟨3, 4⟩] := by
  have sizes : refit? headless.crew disarray ⟨0, 7⟩ («open» headless.crew Builtin.registry
      cornersOnly sideways (some .fresh) ⟨(), .empty, []⟩) =
      some [⟨20, 30⟩, ⟨20, 30⟩, ⟨20, 30⟩, ⟨20, 30⟩, ⟨20, 30⟩, ⟨0, 4⟩] := by
    decide +kernel
  have again : quiet? («open» headless.crew Builtin.registry (cornersOnly.resize ⟨0, 7⟩) sideways
      none ⟨(), .empty, []⟩) = some [⟨1, 3⟩, ⟨1, 3⟩, ⟨3, 3⟩, ⟨1, 4⟩, ⟨1, 4⟩, ⟨3, 4⟩] := by
    decide +kernel
  obtain ⟨c, w, s, result, t, opened, ran, isOpen, told, before⟩ := of_refit?_eq_some sizes
  obtain ⟨c', w', opened', unresized, sizes'⟩ := of_quiet?_eq_some again
  -- From here on it does not matter what was opened.
  clear sizes again
  generalize cornersOnly = settings at opened opened' ⊢
  have always := open_refits_as_reopened headless settings sideways (some .fresh) () .empty
  obtain ⟨rfl, refits⟩ := (always.apply opened ran isOpen).refits told
  have same := refits.reopened _ _ _ _ headless none () .empty c' w' opened' unresized
  exact ⟨c, w, s, t, c', w', opened, ran, before, told, refits, opened', same.1, sizes'⟩

end Compositor

end Mosaic
