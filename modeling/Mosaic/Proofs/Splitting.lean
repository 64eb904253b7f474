import Mosaic.Proofs.Pending

/-!
# What the algorithm is asked about pictures

To prepare a picture asks the algorithm for its parts, once and for that picture alone, as long as
there is an algorithm. It is asked after all inputs that waited are handled and before any display
is, it gets a hold of its own, and what it answers are the parts that displays are then asked to
prepare. Nothing else that is done with a compositor asks for parts.

## Main definitions

* `Splitting`, `splitsOf` — what passes between a compositor and its algorithm about parts
* `SplitLaw` — what preparing does with the algorithm

## Main results

* `Divides.asks` — preparing asks once, and the parts are the answer
* `prepare_splits` — the law, for a running compositor that is open
-/

set_option autoImplicit false

namespace Mosaic

/-- What passes between a compositor and its algorithm about the parts of a picture. -/
inductive Splitting where
  /-- The algorithm is asked to split a picture. -/
  | asked (picture : Picture)
  /-- It answers with the parts, or that there are none. -/
  | answered (parts : Option Slots)

/-- What a sign shows of that, if it does. -/
def Sign.splitting? : Sign → Option Splitting
  | called (.filter frame) _ => some (.asked frame.picture)
  | answered (.parts slots) => some (.answered slots)
  | _ => none

/-- What the algorithm is asked about the parts of pictures and what it answers, in order of
time. -/
def splitsOf (signs : List Sign) : List Splitting := signs.filterMap Sign.splitting?

@[simp] theorem splitsOf_nil : splitsOf [] = [] := rfl

@[simp] theorem splitsOf_append (signs more : List Sign) :
    splitsOf (signs ++ more) = splitsOf signs ++ splitsOf more :=
  List.filterMap_append

theorem splitsOf_eq_nil {signs : List Sign} (h : ∀ sign ∈ signs, sign.kind ≠ .frame) :
    splitsOf signs = [] := by
  rw [splitsOf, List.filterMap_eq_nil_iff]
  intro sign member
  have other := h sign member
  cases sign with
  | called call locked => cases call <;> first | rfl | exact (other rfl).elim
  | answered answer => cases answer <;> first | rfl | exact (other rfl).elim
  | reported => rfl

/-- Reports of inputs come from windows. -/
theorem splitsOf_reports (k : Nat) (events : List InputEvent) :
    splitsOf (events.map fun event => .reported k (.input event)) = [] := by
  refine splitsOf_eq_nil fun sign member => ?_
  obtain ⟨event, -, rfl⟩ := List.mem_map.mp member
  simp [Sign.kind]

namespace Compositor

variable {σ ι A W D : Type} {crew : Crew σ ι A W D} {v v' : View σ A W D} {new : List Sign}
variable {picture : Picture} {overlay : Option Overlay} {date : Tick} {count k : Nat}

/-! ## What asks for no parts -/

theorem Quiet.splits_eq (path : Path (Quiet crew) v new v') : splitsOf new = [] :=
  splitsOf_eq_nil (path.forall_signs fun _ _ _ step sign member => (step.kind_ne sign member).2)

/-- A display is called for a part, and the algorithm is not. -/
theorem Fills.splits_eq {part : Option Picture} (h : Fills crew overlay date k part v new v') :
    splitsOf new = [] := by
  cases h with
  | empty | unshown => rfl
  | prepared => exact splitsOf_reports _ _

theorem FillsFrom.splits_eq {slots left : Slots}
    (h : FillsFrom crew overlay date count k slots v new left v') : splitsOf new = [] := by
  induction h with
  | done => rfl
  | next fills _ ih => rw [splitsOf_append, fills.splits_eq, ih, List.append_nil]

theorem ShowsFrom.splits_eq (h : ShowsFrom crew count k v new v') : splitsOf new = [] := by
  induction h with
  | done => rfl
  | next shows _ ih =>
    rw [splitsOf_append, ih, List.append_nil]
    cases shows with
    | blank => rfl
    | shown => exact splitsOf_reports _ _

theorem Closes.splits_eq (h : Closes v new v') : splitsOf new = [] := by
  cases h with
  | again => rfl
  | first =>
    have farewells : splitsOf (v.compositor.farewells v.compositor.regions.length) = [] := by
      refine splitsOf_eq_nil fun sign member => ?_
      obtain ⟨call, locked, rfl, parting⟩ := isParting_of_mem_farewells member
      simp [Sign.kind, kind_of_isParting parting]
    rw [splitsOf_append, farewells]
    split <;> rfl

/-! ## Preparing -/

theorem Fills.algorithm_eq {part : Option Picture} (h : Fills crew overlay date k part v new v') :
    v'.compositor.algorithm = v.compositor.algorithm := by
  cases h <;> rfl

/-- To fill slots leaves the algorithm as it is. -/
theorem FillsFrom.algorithm_eq {slots left : Slots}
    (h : FillsFrom crew overlay date count k slots v new left v') :
    v'.compositor.algorithm = v.compositor.algorithm := by
  induction h with
  | done => rfl
  | next fills _ ih => exact ih.trans fills.algorithm_eq

/-- On an open compositor the algorithm is asked once, for the parts of the picture, and what it
answers are the parts. -/
theorem Divides.asks {v₁ : View σ A W D} {drained divided : List Sign}
    (h : Divides crew picture overlay date v₁ divided v') (quiet : Path (Quiet crew) v drained v₁)
    (isOpen : v.compositor.isOpen = true) :
    ∃ a result a' w, v₁.compositor.algorithm = some a ∧
      crew.algorithm.filter a picture (v₁.hold picture).outside = .ok (result, a') w ∧
      v'.compositor.algorithm = some a' ∧
      splitsOf (drained ++ divided) = [.asked picture, .answered result.toOption] ∧
      slotsOf (drained ++ divided) = result.toOption.getD [] := by
  -- To handle inputs does not close a compositor.
  have isOpen₁ := (isOpen_of_shape_eq (Quiet.path_shape_eq quiet)).trans isOpen
  cases h with
  | late gone => simp [Compositor.isOpen, gone] at isOpen₁
  | mk splits fills =>
    have slots := slotsOf_prepared quiet splits fills
    have same := fills.algorithm_eq
    rw [splitsOf_append, splitsOf_append, Quiet.splits_eq quiet, fills.splits_eq, slots]
    cases splits with
    | mk alive ran => exact ⟨_, _, _, _, alive, ran, same, rfl, rfl⟩

/-- There is nobody to ask once the compositor is closed. -/
theorem Divides.asks_nobody {v₁ : View σ A W D} {drained divided : List Sign}
    (h : Divides crew picture overlay date v₁ divided v') (quiet : Path (Quiet crew) v drained v₁)
    (closed : v.compositor.isOpen = false) : splitsOf (drained ++ divided) = [] := by
  have closed₁ := (isOpen_of_shape_eq (Quiet.path_shape_eq quiet)).trans closed
  cases h with
  | late => rw [List.append_nil, Quiet.splits_eq quiet]
  | mk splits =>
    cases splits with
    | mk alive => simp [Compositor.isOpen, alive] at closed₁

/-- To prepare a picture is to handle what waits and then to ask the algorithm for the parts of the
picture, once and with a hold of its own. Each display is asked for the part of its region, as far
as there is one, and the algorithm stays as it then is. -/
def SplitLaw (crew : Crew σ ι A W D) (s : Running σ ι A W D) (picture : Picture)
    (overlay : Option Overlay) (date : Tick) : Prop :=
  match prepare crew picture overlay date s with
  | .ok _ u => ∃ count t a result a' w new, drain crew s = .ok count t ∧
      t.compositor.algorithm = some a ∧
      crew.algorithm.filter a picture ⟨t.world.env, t.world.ledger.retain picture, []⟩ =
        .ok (result, a') w ∧
      u.compositor.algorithm = some a' ∧ u.world.signs = s.world.signs ++ new ∧
      splitsOf new = [.asked picture, .answered result.toOption] ∧
      framesOf new = s.compositor.shown.filterMap fun k =>
        ((result.toOption.getD [])[k]?.join).map fun part => .prepared k part overlay date
  | .error fault _ => crew.Raises fault

theorem prepare_splits (s : Running σ ι A W D) (settled : s.compositor.Settled)
    (isOpen : s.compositor.isOpen = true) (picture : Picture) (overlay : Option Overlay)
    (date : Tick) : SplitLaw crew s picture overlay date := by
  have prepared := prepare_ran crew picture overlay date s settled.tidy
  unfold SplitLaw
  cases ran : prepare crew picture overlay date s with
  | error fault u =>
    rw [ran] at prepared
    exact prepared
  | ok done u =>
    rw [ran] at prepared
    obtain ⟨count, t, drained, divided, drains, signs, handles, signs', divides⟩ := prepared
    obtain ⟨a, result, a', w, alive, asked, left, splits, slots⟩ :=
      divides.asks (handles.tidyPath settled.tidy).1 isOpen
    have prepares : Prepares crew picture overlay date s.view _ _ :=
      handles.prepares settled.tidy divides
    have frames := prepares.frames_eq settled
    rw [slots] at frames
    exact ⟨count, t, a, result, a', w, drained ++ divided, drains, alive, asked, left,
      by rw [signs', signs, List.append_assoc], splits, frames⟩

end Compositor

end Mosaic
