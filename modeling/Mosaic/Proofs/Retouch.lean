import Mosaic.Proofs.Portrait
import Mosaic.Proofs.Routing

/-!
# What operations make of a portrait

Once a compositor is open, an operation changes the portrait of a region in a way that depends on
few things beside the portrait itself: on the part that a picture gave for the region, on the part
that waits in its slot, and on the size that the algorithm wants for its output. What the other
regions have, and what becomes of them, does not enter.

## Main definitions

* `Portrait.ask`, `Portrait.gone` — a portrait after an order, and after the closing
* `ResizesFrom`, `Controls` — what a control query comes to, region by region
* `hinted` — the new size that a control query brings a region

## Main results

* `resizeFrom_resizes`, `control_controls` — control queries
* `HandlesAll.portrait_eq`, `Divides.portrait_eq`, `ShowsFrom.portrait_eq`,
  `Controls.portrait_eq`, `Closes.portrait_eq` — what becomes of a portrait
-/

set_option autoImplicit false

namespace Mosaic

namespace Portrait

/-- A portrait after its display, if there is one, was asked to do something or nothing. -/
def ask (p : Portrait) (order : Option Order) : Portrait :=
  { p with orders := p.orders ++ if p.shown then order.toList else [] }

/-- A portrait after the closing: a display is closed, and the region is there no more. -/
def gone (p : Portrait) : Portrait :=
  ⟨none, false, p.orders ++ if p.shown then [.close] else []⟩

@[simp] theorem ask_none (p : Portrait) : p.ask none = p := by
  simp [ask]

end Portrait

/-- The order that a call for a picture is. -/
def FrameCall.order : FrameCall → Order
  | prepared _ picture overlay date => .prepare picture.likeness overlay date
  | displayed _ picture => .display picture.likeness

/-- Where nothing shows of setting up and of sizes, orders are calls for pictures. -/
theorem ordersOf_eq_frames {signs : List Sign}
    (h : ∀ sign ∈ signs, sign.kind ≠ .setup ∧ sign.kind ≠ .size) (k : Nat) :
    ordersOf k signs =
      ((framesOf signs).filter fun call => call.region = k).map FrameCall.order := by
  induction signs with
  | nil => rfl
  | cons sign signs ih =>
    obtain ⟨setup, size⟩ := h sign List.mem_cons_self
    have rest := ih fun sign member => h sign (List.mem_cons_of_mem _ member)
    cases sign with
    | answered | reported => exact rest
    | called call locked =>
      rw [ordersOf_called, rest]
      cases call with
      | prepare index frame overlay date =>
        by_cases same : index = k <;>
          simp [framesOf, Call.order?, Call.frame?, FrameCall.region, FrameCall.order, same]
      | display index frame =>
        by_cases same : index = k <;>
          simp [framesOf, Call.order?, Call.frame?, FrameCall.region, FrameCall.order, same]
      | control | acknowledge | sizeHint => exact (size rfl).elim
      | newWindow | enable | disable | dropWindow | newDisplay | close | dropDisplay
        | dropAlgorithm => exact (setup rfl).elim
      | filter | mouseMap | report => rfl

/-- Signs of one sweep over the regions give a region its own order. -/
theorem ordersOf_sweep {signs : List Sign}
    (h : ∀ sign ∈ signs, sign.kind ≠ .setup ∧ sign.kind ≠ .size) {shown : List Nat}
    {part : Nat → Option Picture} {frame : Nat → Picture → FrameCall}
    (frames : framesOf signs = shown.filterMap fun i => (part i).map (frame i))
    (place : ∀ i picture, (frame i picture).region = i) (ordered : shown.Pairwise (· < ·))
    (k : Nat) :
    ordersOf k signs =
      if k ∈ shown then ((part k).map fun picture => (frame k picture).order).toList else [] := by
  rw [ordersOf_eq_frames h, frames, filter_region_filterMap place ordered]
  split
  · cases part k <;> rfl
  · rfl

namespace Compositor

open Act

variable {σ ι A W D : Type} {crew : Crew σ ι A W D} {v v' : View σ A W D} {new : List Sign}
variable {past : List Sign} {k : Nat}

/-- The algorithm, the placement and the size of a region are left alone. -/
structure Rests (k : Nat) (c c' : Compositor A W D) : Prop where
  algorithm : c'.algorithm = c.algorithm
  placement : c'.placement = c.placement
  size : c'.size? k = c.size? k

theorem Rests.refl (k : Nat) (c : Compositor A W D) : Rests k c c := ⟨rfl, rfl, rfl⟩

theorem Rests.trans {c c' c'' : Compositor A W D} (h : Rests k c c') (h' : Rests k c' c'') :
    Rests k c c'' :=
  ⟨h'.algorithm.trans h.algorithm, h'.placement.trans h.placement, h'.size.trans h.size⟩

/-! ## Pictures -/

section Frames

variable {overlay : Option Overlay} {date : Tick} {picture : Picture} {j count : Nat}

theorem Fills.kind_eq {picture : Option Picture} (h : Fills crew overlay date j picture v new v') :
    ∀ sign ∈ new, sign.kind = .frame ∨ sign.kind = .report := by
  cases h <;> simp [Sign.kind, Call.kind]

theorem Shows.kind_eq (h : Shows crew j v new v') :
    ∀ sign ∈ new, sign.kind = .frame ∨ sign.kind = .report := by
  cases h <;> simp [Sign.kind, Call.kind]

theorem Fills.rests {picture : Option Picture} (h : Fills crew overlay date j picture v new v')
    (k : Nat) : Rests k v.compositor v'.compositor := by
  cases h with
  | empty | unshown => exact ⟨rfl, rfl, rfl⟩
  | @prepared _ _ r _ _ _ here =>
    exact ⟨rfl, rfl, size?_setRegion_of_size_eq (r := r) here rfl⟩

theorem Shows.rests (h : Shows crew j v new v') (k : Nat) :
    Rests k v.compositor v'.compositor := by
  cases h with
  | blank => exact ⟨rfl, rfl, rfl⟩
  | @shown _ r _ _ _ here =>
    exact ⟨rfl, rfl, size?_setRegion_of_size_eq (r := r) here rfl⟩

theorem FillsFrom.kind_eq {slots left : Slots}
    (h : FillsFrom crew overlay date count j slots v new left v') :
    ∀ sign ∈ new, sign.kind = .frame ∨ sign.kind = .report := by
  induction h with
  | done => simp
  | next fills _ ih => simpa [or_imp, forall_and] using ⟨fills.kind_eq, ih⟩

theorem FillsFrom.rests {slots left : Slots}
    (h : FillsFrom crew overlay date count j slots v new left v') (k : Nat) :
    Rests k v.compositor v'.compositor := by
  induction h with
  | done => exact .refl k _
  | next fills _ ih => exact (fills.rests k).trans ih

theorem ShowsFrom.kind_eq (h : ShowsFrom crew count j v new v') :
    ∀ sign ∈ new, sign.kind = .frame ∨ sign.kind = .report := by
  induction h with
  | done => simp
  | next shows _ ih => simpa [or_imp, forall_and] using ⟨shows.kind_eq, ih⟩

theorem ShowsFrom.rests (h : ShowsFrom crew count j v new v') (k : Nat) :
    Rests k v.compositor v'.compositor := by
  induction h with
  | done => exact .refl k _
  | next shows _ ih => exact (shows.rests k).trans ih

/-- To show what the slots hold asks a display for what is in the slot of its region. -/
theorem ShowsFrom.portrait_eq
    (h : ShowsFrom crew v.compositor.regions.length 0 v new v') (settled : v.compositor.Settled)
    (k : Nat) (past : List Sign) :
    v'.compositor.portrait k (past ++ new) = (v.compositor.portrait k past).ask
      ((v.compositor.picture? k).map fun part => .display part.likeness) := by
  -- Nothing but pictures is asked for, and each region is asked at most once.
  have kinds : ∀ sign ∈ new, sign.kind ≠ .setup ∧ sign.kind ≠ .size := fun sign member => by
    rcases h.kind_eq sign member with kind | kind <;> simp [kind]
  have shape := Step.path_shape_eq h.path
  rw [portrait, ordersOf_append, ordersOf_sweep kinds (h.frames_eq_shown settled) (fun _ _ => rfl)
    v.compositor.shown_pairwise, (h.rests k).size, isSome_display?_of_shape_eq shape]
  simp only [mem_shown]
  rfl

/-- Inputs that are handled change no region, no slot and no placement. -/
theorem HandlesAll.still {inputs : List RegionInput} (h : HandlesAll crew inputs v new v') :
    v'.compositor.regions = v.compositor.regions ∧
      v'.compositor.placement = v.compositor.placement := by
  induction h with
  | done => exact ⟨rfl, rfl⟩
  | next _ handles _ ih =>
    rw [ih.1, ih.2]
    cases handles <;> exact ⟨rfl, rfl⟩

theorem HandlesAll.portrait_eq {inputs : List RegionInput}
    (h : HandlesAll crew inputs v new v') (k : Nat) (past : List Sign) :
    v'.compositor.portrait k (past ++ new) = v.compositor.portrait k past := by
  have silent : ordersOf k new = [] := by
    rw [ordersOf_eq_frames fun sign member => by simp [h.kind_eq sign member],
      framesOf_eq_nil fun sign member => by simp [h.kind_eq sign member]]
    rfl
  rw [portrait, ordersOf_append, silent, List.append_nil, portrait, size?, size?, display?,
    display?, h.still.1]

theorem Divides.rests {picture : Picture} (h : Divides crew picture overlay date v new v')
    (k : Nat) :
    v'.compositor.placement = v.compositor.placement ∧
      v'.compositor.size? k = v.compositor.size? k := by
  cases h with
  | late => exact ⟨rfl, rfl⟩
  | mk splits fills =>
    have rests := fills.rests k
    cases splits
    exact ⟨rests.placement, rests.size⟩

theorem Divides.kind_eq {picture : Picture} (h : Divides crew picture overlay date v new v') :
    ∀ sign ∈ new, sign.kind = .frame ∨ sign.kind = .report := by
  cases h with
  | late => simp
  | mk splits fills =>
    have later := fills.kind_eq
    cases splits
    simpa [or_imp, forall_and, Sign.kind, Call.kind] using later

/-- To prepare a picture asks a display for the part of its region. -/
theorem Divides.portrait_eq {drained divided : List Sign} {v₁ : View σ A W D}
    (handles : HandlesAll crew v.compositor.queue v drained v₁)
    (divides : Divides crew picture overlay date v₁ divided v') (settled : v.compositor.Settled)
    (k : Nat) (past : List Sign) :
    v'.compositor.portrait k (past ++ (drained ++ divided)) = (v.compositor.portrait k past).ask
      (((slotsOf (drained ++ divided))[k]?.join).map fun part =>
        .prepare part.likeness overlay date) := by
  have prepares := handles.prepares settled.tidy divides
  -- The inputs that are handled first are no orders to displays.
  have kinds : ∀ sign ∈ drained ++ divided, sign.kind ≠ .setup ∧ sign.kind ≠ .size := by
    intro sign member
    rcases List.mem_append.mp member with first | later
    · simp [handles.kind_eq sign first]
    · rcases divides.kind_eq sign later with kind | kind <;> simp [kind]
  have shape := Step.path_shape_eq prepares.path
  have size : v'.compositor.size? k = v.compositor.size? k := by
    rw [(divides.rests k).2, size?, handles.still.1, size?]
  rw [portrait, ordersOf_append, ordersOf_sweep kinds (prepares.frames_eq settled)
    (fun _ _ => rfl) v.compositor.shown_pairwise, size, isSome_display?_of_shape_eq shape]
  simp only [mem_shown]
  rfl

end Frames

/-! ## Sizes -/

section Relations

variable (crew)

/-- Regions from one on take the sizes that the algorithm wants for their outputs, as far as there
are regions and outputs. -/
inductive ResizesFrom (a : A) (placement : Placement) :
    Nat → List Output → View σ A W D → List Sign → View σ A W D → Prop
  | done {j : Nat} {v : View σ A W D} : ResizesFrom a placement j [] v [] v
  | beyond {j : Nat} {outputs : List Output} {v : View σ A W D}
      (outside : v.compositor.regions.length ≤ j) : ResizesFrom a placement j outputs v [] v
  | next {j : Nat} {output : Output} {outputs : List Output} {v v' v'' : View σ A W D}
      {new more : List Sign}
      (resizes : Resizes crew j (crew.algorithm.sizeFor a output.format placement) v new v')
      (rest : ResizesFrom a placement (j + 1) outputs v' more v'') :
      ResizesFrom a placement j (output :: outputs) v
        (.called (.sizeHint j) [] :: (new ++ more)) v''

/-- What a control query comes to: a new display size is noted and the regions take the sizes that
the algorithm wants then; all else changes nothing. -/
inductive Controls : ControlQuery → View σ A W D → List Sign → View σ A W D → Prop
  | idle {query : ControlQuery} {v : View σ A W D} (other : query.size? = none) :
      Controls query v [] v
  | late {size : Size} {v : View σ A W D} (gone : v.compositor.algorithm = none) :
      Controls (.displaySize size) v []
        (v.become { v.compositor with placement := v.compositor.placement.resize size })
  | resized {size : Size} {v v' : View σ A W D} {a : A} {new : List Sign}
      (alive : v.compositor.algorithm = some a)
      (resizes : ResizesFrom crew a (v.compositor.placement.resize size) 0 v.compositor.outputs
        (v.become { v.compositor with placement := v.compositor.placement.resize size }) new v') :
      Controls (.displaySize size) v new v'

end Relations

section Sizes

variable {a : A} {placement : Placement} {j : Nat} {outputs : List Output}

theorem resizeFrom_resizes (tidy : v.compositor.Tidy) :
    (resizeFrom crew a placement j outputs).Yields crew v
      fun _ new v' => ResizesFrom crew a placement j outputs v new v' := by
  induction outputs generalizing v j with
  | nil => exact .pure .done
  | cons output outputs ih =>
    refine .bind (.compositor ?_)
    split
    · rename_i inside
      refine .bind (.consult ?_)
      rw [tidy.lockedRegions_eq_nil]
      refine (resizeRegion_yields tidy inside).andThen fun _ new v₁ resizes => ?_
      refine (ih (resizes.tidy tidy)).mono fun _ more v' rest => ?_
      have all : ResizesFrom crew a placement j (output :: outputs) v _ _ := .next resizes rest
      exact all
    · rename_i outside
      exact .pure (.beyond (Nat.le_of_not_lt outside))

theorem control_controls (query : ControlQuery) (tidy : v.compositor.Tidy) :
    (control crew query).Yields crew v fun _ new v' => Controls crew query v new v' := by
  cases query with
  | displaySize size =>
    refine .bind (.say (.bind (.modifyCompositor (.bind (.compositor ?_)))))
    -- The algorithm is looked up after the new placement is noted.
    generalize placed : v.become { v.compositor with placement := _ } = v₁
    have tidy₁ : v₁.compositor.Tidy := by subst placed; exact tidy
    cases alive : v₁.compositor.algorithm with
    | none =>
      subst placed
      have late : Controls crew (.displaySize size) v _ _ := .late alive
      exact .pure late
    | some a =>
      refine (resizeFrom_resizes tidy₁).andThen fun _ new v' resizes => .pure ?_
      subst placed
      rw [List.append_nil]
      exact .resized alive resizes
  | unknown code => exact .bind (.say (.pure (.idle rfl)))
  | sourceAspect | sourceCrop | sourcePlace => exact .bind (.say (.pure (.idle rfl)))

/-- What is not there takes no new size. -/
theorem portrait_take_resized {c : Compositor A W D} (absent : c.regions[k]? = none)
    (wanted size : Size) (past : List Sign) :
    (c.portrait k past).take wanted (.resized size) = c.portrait k past := by
  simp [portrait, Portrait.take, size?, absent, display?_eq_none absent]

/-- The portrait after the first of several regions took its size. -/
theorem Resizes.portrait_hinted {size : Size} (h : Resizes crew j size v new v')
    (wanted : Size) (k : Nat) (past : List Sign) :
    v'.compositor.portrait k (past ++ .called (.sizeHint j) [] :: new) =
      if j = k then (v.compositor.portrait k past).take wanted (.resized size)
      else v.compositor.portrait k past := by
  have hinted : v.compositor.portrait k (past ++ [.called (.sizeHint j) []]) =
      v.compositor.portrait k past := by
    simp [portrait, Call.order?]
  rw [← hinted, ← h.portrait_eq wanted k, List.append_assoc]
  rfl

/-- A region that was passed is left alone. -/
theorem ResizesFrom.portrait_eq_of_lt (h : ResizesFrom crew a placement j outputs v new v')
    (passed : k < j) (past : List Sign) :
    v'.compositor.portrait k (past ++ new) = v.compositor.portrait k past := by
  induction h generalizing past with
  | done | beyond => rw [List.append_nil]
  | @next j _ _ _ _ _ new more resizes _ ih =>
    have first := resizes.portrait_hinted ⟨0, 0⟩ k past
    rw [if_neg (by omega)] at first
    rw [← List.cons_append, ← List.append_assoc, ih (by omega), first]

/-- A region that is reached takes the size for its own output. -/
theorem ResizesFrom.portrait_eq (h : ResizesFrom crew a placement j outputs v new v')
    (wanted : Size) (reached : j ≤ k) (past : List Sign) :
    v'.compositor.portrait k (past ++ new) =
      (v.compositor.portrait k past).follow wanted ((outputs[k - j]?).toList.map fun output =>
        .resized (crew.algorithm.sizeFor a output.format placement)) := by
  induction h generalizing past with
  | done => rw [List.append_nil]; rfl
  | @beyond j outputs v outside =>
    have absent : v.compositor.regions[k]? = none := List.getElem?_eq_none (by omega)
    rw [List.append_nil]
    cases outputs[k - j]? with
    | none => rfl
    | some output => exact (portrait_take_resized absent wanted _ past).symm
  | @next j output outputs v v₁ v' new more resizes rest ih =>
    have first := resizes.portrait_hinted wanted k past
    rw [← List.cons_append, ← List.append_assoc]
    -- Regions come in rising order, so behind its own turn a region is left alone.
    by_cases here : j = k
    · subst here
      rw [rest.portrait_eq_of_lt (by omega), first, if_pos rfl, Nat.sub_self]
      rfl
    · have behind : k - j = k - (j + 1) + 1 := by omega
      rw [ih (by omega), first, if_neg here, behind, List.getElem?_cons_succ]

/-- Regions that take new sizes leave the algorithm, the placement and the slots alone. -/
theorem ResizesFrom.kept (h : ResizesFrom crew a placement j outputs v new v') :
    v'.compositor.fixture = v.compositor.fixture ∧
      v'.compositor.shape = v.compositor.shape ∧
      (v.compositor.Tidy → v'.compositor.Tidy) := by
  induction h with
  | done | beyond => exact ⟨rfl, rfl, id⟩
  | next resizes _ ih =>
    have fixture := Reports.fixture_eq (.resize resizes)
    exact ⟨ih.1.trans fixture, ih.2.1.trans resizes.shape_eq, fun tidy =>
      ih.2.2 (resizes.tidy tidy)⟩

/-- The new size that a control query brings a region: none without an algorithm that could be
asked for it. -/
def hinted (p : Partitioner σ ι A) (c : Compositor A W D) (query : ControlQuery) (k : Nat) :
    List Cue :=
  match c.algorithm, query.size? with
  | some a, some size => (c.outputs[k]?).toList.map fun output =>
    .resized (p.sizeFor a output.format (c.placement.resize size))
  | none, _ | some _, none => []

/-- A control query changes nothing but the placement, the regions and what they are told. -/
theorem Controls.kept {query : ControlQuery} (h : Controls crew query v new v') :
    v'.compositor.fixture = ({ v.compositor with
      placement := query.size?.elim v.compositor.placement v.compositor.placement.resize } :
      Compositor A W D).fixture := by
  cases h with
  | idle other => rw [other]; rfl
  | late => rfl
  | resized _ resizes => rw [resizes.kept.1]; rfl

/-- A region takes the size that the algorithm wants for its output. -/
theorem Controls.portrait_eq {query : ControlQuery} (h : Controls crew query v new v')
    (wanted : Size) (k : Nat) (past : List Sign) :
    v'.compositor.portrait k (past ++ new) =
      (v.compositor.portrait k past).follow wanted
        (hinted crew.algorithm v.compositor query k) := by
  cases h with
  | idle other =>
    rw [List.append_nil, hinted, other]
    cases v.compositor.algorithm <;> rfl
  | late gone =>
    rw [List.append_nil, hinted, gone]
    rfl
  | resized alive resizes =>
    rw [resizes.portrait_eq wanted (Nat.zero_le k), hinted, alive]
    rfl

end Sizes

/-! ## Closing -/

theorem ordersOf_farewells (c : Compositor A W D) (k count : Nat) :
    ordersOf k (c.farewells count) =
      if k < count ∧ (c.display? k).isSome then [.close] else [] := by
  induction count with
  | zero => simp
  | succ count ih =>
    have one : ordersOf k (c.farewell count) =
        if k = count ∧ (c.display? k).isSome then [.close] else [] := by
      rw [farewell, ordersOf_append]
      by_cases same : k = count
      · subst same
        cases (c.display? k).isSome <;> cases (c.window? k).isSome <;> simp [Call.order?]
      · have other : count ≠ k := Ne.symm same
        cases (c.display? count).isSome <;> cases (c.window? count).isSome <;>
          simp [Call.order?, same, other]
    rw [farewells_succ, ordersOf_append, one, ih]
    by_cases last : k = count
    · subst last
      simp
    · have below : k < count + 1 ↔ k < count := by omega
      simp [last, below]

/-- Closing closes a display, and the region is there no more. -/
theorem Closes.portrait_eq (h : Closes v new v') (k : Nat) (past : List Sign) :
    v'.compositor.portrait k (past ++ new) = (v.compositor.portrait k past).gone := by
  cases h with
  | again gone =>
    simp [portrait, Portrait.gone, size?, display?, gone.2]
  | first left last =>
    -- Whatever has a display is among the regions that are torn down.
    have inside (display : (v.compositor.display? k).isSome) : k < v.compositor.regions.length :=
      List.mem_range.mp (List.mem_filter.mp (mem_shown.mpr display)).1
    have told : ordersOf k (v.compositor.farewells v.compositor.regions.length ++
        if v.compositor.algorithm.isSome then [.called .dropAlgorithm []] else []) =
          if (v.compositor.display? k).isSome then [.close] else [] := by
      rw [ordersOf_append, ordersOf_farewells]
      by_cases display : (v.compositor.display? k).isSome
      · rw [if_pos ⟨inside display, display⟩, if_pos display]
        split <;> rfl
      · rw [if_neg fun both => display both.2, if_neg display]
        split <;> rfl
    rw [portrait, ordersOf_append, told, last]
    rfl

end Compositor

end Mosaic
