import Mosaic.Proofs.Step

/-!
# What steps leave alone

Once a compositor is open, no step makes or unmakes a region, a window or a display: which
regions have which of them is fixed, as are the outputs, the number of slots and whether there
is an algorithm. This is its `shape`. Reports of windows change even less, and a compositor
that was closed has nothing left that a step could change.

Signs come in kinds, and a step of a sort gives signs of its kinds alone. So what a law says
about signs of one kind need only be checked for the steps that give them.

## Main definitions

* `Compositor.Shape`, `Compositor.shape` — what no step changes
* `Compositor.fixture` — what reports leave alone
* `Sign.Kind`, `Sign.kind` — the kinds of signs
* `setupOf` — the signs that are about windows, displays and the algorithm

## Main results

* `Step.shape_eq`, `Reports.fixture_eq`, `Quiet.pictures_eq` — what is left alone
* `Step.kind_ne_setup`, `Quiet.kind_ne`, `Reports.kind_eq` — the kinds of signs that steps
  give
* `Step.call_of_gone` — after closing only the parent hears anything
-/

set_option autoImplicit false

namespace Mosaic

/-! ## Shapes -/

/-- Whether a region has a window, and whether it has a display. -/
def Region.outfit {W D : Type} (r : Region W D) : Bool × Bool :=
  (r.window.isSome, r.display.isSome)

namespace Compositor

variable {A W D : Type}

/-- Which regions have a window, and which have a display. -/
def outfits (c : Compositor A W D) : List (Bool × Bool) := c.regions.map Region.outfit

/-- What no step of an open compositor changes. -/
structure Shape where
  outfits : List (Bool × Bool)
  outputs : List Output
  isOpen : Bool
  slots : Nat

/-- The shape of a compositor. -/
def shape (c : Compositor A W D) : Shape where
  outfits := c.outfits
  outputs := c.outputs
  isOpen := c.isOpen
  slots := c.pictures.length

/-- A compositor without its regions and its queue. -/
def fixture (c : Compositor A W D) : Compositor A W D := { c with regions := [], queue := [] }

variable {c c' : Compositor A W D} {k : Nat} {r r' : Region W D}

theorem outfits_setRegion (here : c.regions[k]? = some r) (same : r'.outfit = r.outfit) :
    (c.setRegion k r').outfits = c.outfits := by
  obtain ⟨inside, rfl⟩ := List.getElem?_eq_some_iff.mp here
  have there : k < (c.regions.map Region.outfit).length := by simpa using inside
  rw [outfits, setRegion, List.map_set, same, ← List.getElem_map Region.outfit (h := there),
    List.set_getElem_self]
  rfl

/-- A region replaced by one with the same outfit leaves the shape alone. -/
theorem shape_setRegion (here : c.regions[k]? = some r) (same : r'.outfit = r.outfit) :
    (c.setRegion k r').shape = c.shape := by
  rw [shape, outfits_setRegion here same]
  rfl

/-- A display in the place of another leaves the shape alone. -/
theorem shape_setDisplay {d : D} (here : c.regions[k]? = some r) (display : r.display = some d)
    (d' : D) : (c.setRegion k { r with display := some d' }).shape = c.shape :=
  shape_setRegion here (by simp [Region.outfit, display])

theorem shape_withSlot (c : Compositor A W D) (k : Nat) (picture : Option Picture) :
    (c.withSlot k picture).shape = c.shape := by
  simp [shape, outfits, withSlot, isOpen]

theorem length_regions_of_shape_eq (h : c.shape = c'.shape) :
    c.regions.length = c'.regions.length := by
  simpa [shape, outfits] using congrArg (fun s => s.outfits.length) h

theorem isOpen_of_shape_eq (h : c.shape = c'.shape) : c.isOpen = c'.isOpen :=
  congrArg Shape.isOpen h

/-- Whether a region has a display is seen from the outfits. -/
theorem isSome_display? (c : Compositor A W D) (k : Nat) :
    (c.display? k).isSome = (c.outfits[k]?.map Prod.snd).getD false := by
  rw [display?, outfits, List.getElem?_map]
  cases c.regions[k]? <;> rfl

/-- Whether a region has a window is seen from the outfits. -/
theorem isSome_window? (c : Compositor A W D) (k : Nat) :
    (c.window? k).isSome = (c.outfits[k]?.map Prod.fst).getD false := by
  rw [window?, outfits, List.getElem?_map]
  cases c.regions[k]? <;> rfl

section Fixture

variable (h : c.fixture = c'.fixture)
include h

theorem algorithm_of_fixture_eq : c.algorithm = c'.algorithm :=
  (congrArg Compositor.algorithm h :)

theorem placement_of_fixture_eq : c.placement = c'.placement :=
  (congrArg Compositor.placement h :)

theorem pictures_of_fixture_eq : c.pictures = c'.pictures :=
  (congrArg Compositor.pictures h :)

theorem parent_of_fixture_eq : c.parent = c'.parent :=
  (congrArg Compositor.parent h :)

end Fixture

theorem isSome_display?_of_shape_eq (h : c.shape = c'.shape) (k : Nat) :
    (c.display? k).isSome = (c'.display? k).isSome := by
  have same : c.outfits = c'.outfits := congrArg Shape.outfits h
  rw [isSome_display?, isSome_display?, same]

end Compositor

/-! ## Kinds of signs -/

/-- What a sign is about. -/
inductive Sign.Kind where
  /-- Windows, displays and the algorithm are made and let go. -/
  | setup
  /-- Pictures are split, prepared and shown. -/
  | frame
  /-- Regions take sizes. -/
  | size
  /-- Windows report. -/
  | report
  /-- Inputs are placed and passed on. -/
  | input
deriving DecidableEq

/-- What a call is about. -/
def Call.kind : Call → Sign.Kind
  | newWindow _ _ | enable _ _ | disable _ | dropWindow _ | newDisplay _ _ | close _
  | dropDisplay _ | dropAlgorithm => .setup
  | prepare _ _ _ _ | display _ _ | filter _ => .frame
  | control _ _ | acknowledge _ _ | sizeHint _ => .size
  | mouseMap _ _ | report _ => .input

/-- What a sign is about. -/
def Sign.kind : Sign → Sign.Kind
  | called call _ => call.kind
  | answered (.step _ _ _) => .setup
  | answered (.parts _) => .frame
  | answered (.located _) => .input
  | reported _ _ => .report

/-- The signs that are about windows, displays and the algorithm as such. -/
def setupOf (signs : List Sign) : List Sign := signs.filter fun sign => sign.kind = .setup

@[simp] theorem setupOf_nil : setupOf [] = [] := rfl

@[simp] theorem setupOf_append (signs more : List Sign) :
    setupOf (signs ++ more) = setupOf signs ++ setupOf more :=
  List.filter_append _ _

theorem setupOf_cons_of_setup {sign : Sign} (h : sign.kind = .setup) (signs : List Sign) :
    setupOf (sign :: signs) = sign :: setupOf signs := by
  simp [setupOf, h]

theorem setupOf_cons_of_ne {sign : Sign} (h : sign.kind ≠ .setup) (signs : List Sign) :
    setupOf (sign :: signs) = setupOf signs := by
  simp [setupOf, h]

theorem setupOf_eq_nil {signs : List Sign} (h : ∀ sign ∈ signs, sign.kind ≠ .setup) :
    setupOf signs = [] := by
  simpa [setupOf, List.filter_eq_nil_iff] using h

/-- What holds of all signs of every step holds of all signs of a path. -/
theorem Path.forall_signs {V : Type} {step : V → List Sign → V → Prop} {P : Sign → Prop}
    (each : ∀ v new v', step v new v' → ∀ sign ∈ new, P sign) {v v' : V} {new : List Sign}
    (h : Path step v new v') : ∀ sign ∈ new, P sign := by
  induction h with
  | nil => simp
  | cons head _ ih =>
    intro sign member
    rcases List.mem_append.mp member with first | later
    · exact each _ _ _ head sign first
    · exact ih sign later

namespace Compositor

variable {σ ι A W D : Type} {crew : Crew σ ι A W D} {v v' : View σ A W D} {new : List Sign}

theorem kind_of_mem_forwardSigns {c : Compositor A W D} {event : InputEvent} :
    ∀ sign ∈ c.forwardSigns event, sign.kind = .input := by
  rw [forwardSigns]
  cases c.parent with
  | none => simp
  | some parent => simp [Sign.kind, Call.kind]

/-- Reports are told, and displays learn of new sizes; nothing else shows. -/
theorem Reports.kind_eq (h : Reports crew v new v') :
    ∀ sign ∈ new, sign.kind = .report ∨ sign.kind = .size := by
  cases h with
  | resize resizes => cases resizes <;> simp [Sign.kind, Call.kind]
  | input | resized => simp [Sign.kind]

theorem Handles.kind_eq {input : RegionInput} (h : Handles crew input v new v') :
    ∀ sign ∈ new, sign.kind = .input := by
  cases h with
  | late => simp
  | dropped => simp [Sign.kind, Call.kind]
  | placed =>
    intro sign member
    simp only [List.mem_cons] at member
    rcases member with rfl | rfl | forwarded
    · rfl
    · rfl
    · exact kind_of_mem_forwardSigns sign forwarded
  | plain => exact kind_of_mem_forwardSigns

/-- A quiet step shows nothing of windows, displays and pictures. -/
theorem Quiet.kind_ne (h : Quiet crew v new v') :
    ∀ sign ∈ new, sign.kind ≠ .setup ∧ sign.kind ≠ .frame := by
  intro sign member
  cases h with
  | report reports => rcases reports.kind_eq sign member with kind | kind <;> simp [kind]
  | handle _ handles => simp [handles.kind_eq sign member]
  | place => cases member
  | hint =>
    rw [List.mem_singleton.mp member]
    simp [Sign.kind, Call.kind]

/-- No step makes or lets go of a window, a display or the algorithm. -/
theorem Step.kind_ne_setup (h : Step crew v new v') : ∀ sign ∈ new, sign.kind ≠ .setup := by
  cases h with
  | quiet quiet => exact fun sign member => (quiet.kind_ne sign member).1
  | split splits => cases splits; simp [Sign.kind, Call.kind]
  | fill fills => cases fills <;> simp [Sign.kind, Call.kind]
  | «show» shows => cases shows <;> simp [Sign.kind, Call.kind]
  | release => simp

/-! ## What steps keep -/

theorem Resizes.shape_eq {k : Nat} {size : Size} (h : Resizes crew k size v new v') :
    v'.compositor.shape = v.compositor.shape := by
  cases h with
  | unshown here blank => exact shape_setRegion here rfl
  | shown here display => exact shape_setRegion here (by simp [Region.outfit, display])

/-- A report leaves all alone but the queue and the regions. -/
theorem Reports.fixture_eq (h : Reports crew v new v') :
    v'.compositor.fixture = v.compositor.fixture := by
  cases h with
  | resize resizes => cases resizes <;> rfl
  | input | resized => rfl

theorem Reports.shape_eq (h : Reports crew v new v') :
    v'.compositor.shape = v.compositor.shape := by
  cases h with
  | resize resizes => exact resizes.shape_eq
  | input | resized => rfl

theorem Handles.shape_eq {input : RegionInput} (h : Handles crew input v new v') :
    v'.compositor.shape = v.compositor.shape := by
  cases h with
  | late | plain => rfl
  | dropped alive => simp [shape, outfits, isOpen, alive]
  | placed alive => simp [shape, outfits, isOpen, alive, forwarded]

theorem Quiet.shape_eq (h : Quiet crew v new v') : v'.compositor.shape = v.compositor.shape := by
  cases h with
  | report reports => exact reports.shape_eq
  | handle _ handles => exact handles.shape_eq
  | place | hint => rfl

theorem Quiet.pictures_eq (h : Quiet crew v new v') :
    v'.compositor.pictures = v.compositor.pictures := by
  cases h with
  | report reports => exact pictures_of_fixture_eq reports.fixture_eq
  | handle _ handles => cases handles <;> rfl
  | place | hint => rfl

theorem Splits.shape_eq {picture : Picture} {slots : Slots}
    (h : Splits crew picture v new slots v') : v'.compositor.shape = v.compositor.shape := by
  cases h with
  | mk alive => simp [shape, outfits, isOpen, alive]

theorem Fills.shape_eq {overlay : Option Overlay} {date : Tick} {k : Nat}
    {picture : Option Picture} (h : Fills crew overlay date k picture v new v') :
    v'.compositor.shape = v.compositor.shape := by
  cases h with
  | empty => exact shape_withSlot ..
  | unshown => exact (shape_withSlot ..).trans (shape_withSlot ..)
  | prepared here display =>
    -- The slot is filled first, and the display is changed in what comes of that.
    exact (shape_setDisplay (by exact here) display _).trans (shape_withSlot v.compositor ..)

theorem Shows.shape_eq {k : Nat} (h : Shows crew k v new v') :
    v'.compositor.shape = v.compositor.shape := by
  cases h with
  | blank => exact shape_withSlot ..
  | shown here display =>
    exact (shape_setDisplay (by exact here) display _).trans (shape_withSlot v.compositor ..)

/-- No step changes the shape. -/
theorem Step.shape_eq (h : Step crew v new v') : v'.compositor.shape = v.compositor.shape := by
  cases h with
  | quiet quiet => exact quiet.shape_eq
  | split splits => exact splits.shape_eq
  | fill fills => exact fills.shape_eq
  | «show» shows => exact shows.shape_eq
  | release => rfl

theorem Quiet.path_shape_eq (path : Path (Quiet crew) v new v') :
    v'.compositor.shape = v.compositor.shape :=
  path.keepsEq (f := fun u => u.compositor.shape) fun _ _ _ => Quiet.shape_eq

theorem Step.path_shape_eq (path : Path (Step crew) v new v') :
    v'.compositor.shape = v.compositor.shape :=
  path.keepsEq (f := fun u => u.compositor.shape) fun _ _ _ => Step.shape_eq

/-! ## After closing -/

/-- Nothing is left that could be called: no algorithm and no region. -/
def Gone (c : Compositor A W D) : Prop := c.algorithm = none ∧ c.regions = []

theorem gone_iff_of_shape_eq {c c' : Compositor A W D} (h : c.shape = c'.shape) :
    c.Gone ↔ c'.Gone := by
  have alive : c.algorithm.isSome = c'.algorithm.isSome := congrArg Shape.isOpen h
  have count := length_regions_of_shape_eq h
  rw [Gone, Gone, ← List.length_eq_zero_iff, ← List.length_eq_zero_iff, count,
    ← Option.isNone_iff_eq_none, ← Option.isNone_iff_eq_none, ← Option.not_isSome,
    ← Option.not_isSome, alive]

theorem call_of_mem_forwardSigns {c : Compositor A W D} {event : InputEvent} :
    ∀ call ∈ callsOf (c.forwardSigns event), ∃ event, call = .report event := by
  rw [forwardSigns]
  cases c.parent with
  | none => simp
  | some parent => simp

/-- After closing only the parent hears anything. -/
theorem Step.call_of_gone (h : Step crew v new v') (gone : v.compositor.Gone) :
    ∀ call ∈ callsOf new, ∃ event, call = .report event := by
  -- A call to one of the others needs a region or the algorithm, and there is neither.
  have empty {k : Nat} {r : Region W D} (here : v.compositor.regions[k]? = some r) : False := by
    simp [gone.2] at here
  have ended {a : A} (alive : v.compositor.algorithm = some a) : False := by
    simp [gone.1] at alive
  cases h with
  | quiet quiet =>
    cases quiet with
    | report reports =>
      cases reports with
      | resize resizes => cases resizes with | unshown here | shown here => exact (empty here).elim
      | input | resized => simp
    | handle _ handles =>
      cases handles with
      | late => simp
      | dropped alive | placed alive => exact (ended alive).elim
      | plain => exact call_of_mem_forwardSigns
    | place => simp
    | hint _ alive => simp [gone.1] at alive
  | split splits => cases splits with | mk alive => exact (ended alive).elim
  | fill fills =>
    cases fills with
    | prepared here => exact (empty here).elim
    | empty | unshown => simp
  | «show» shows =>
    cases shows with
    | shown here => exact (empty here).elim
    | blank => simp
  | release => simp

end Compositor

end Mosaic
