import Mosaic.Proofs.Operation

/-!
# Preparing and showing as steps

To prepare a picture is to handle what waits, to split the picture and to fill one slot after
the other; to display is to show one slot after the other. The order of the regions is part
of what these operations yield, so what they ask of the displays can be read off.

## Main definitions

* `FillsFrom`, `ShowsFrom` — slots filled or shown in the order of the regions
* `Divides` — what comes of a picture once inputs are handled
* `Prepares` — the whole of preparing a picture

## Main results

* `prepare_yields`, `display_yields` — the operations
* `prepare_ran` — preparing in a running compositor, as two actions one after the other
* `Prepares.path`, `ShowsFrom.path` — both are paths of steps
-/

set_option autoImplicit false

namespace Mosaic.Compositor

open Act

section Relations

variable {σ ι A W D : Type} (crew : Crew σ ι A W D)

/-- The slots of so many regions from one on are filled; some pictures are left. -/
inductive FillsFrom (overlay : Option Overlay) (date : Tick) :
    Nat → Nat → Slots → View σ A W D → List Sign → Slots → View σ A W D → Prop
  | done {k : Nat} {slots : Slots} {v : View σ A W D} :
      FillsFrom overlay date 0 k slots v [] slots v
  | next {count k : Nat} {slots left : Slots} {v v' v'' : View σ A W D} {new more : List Sign}
      (fills : Fills crew overlay date k slots.head?.join v new v')
      (rest : FillsFrom overlay date count (k + 1) slots.tail v' more left v'') :
      FillsFrom overlay date (count + 1) k slots v (new ++ more) left v''

/-- What is in the slots of so many regions from one on is shown. -/
inductive ShowsFrom : Nat → Nat → View σ A W D → List Sign → View σ A W D → Prop
  | done {k : Nat} {v : View σ A W D} : ShowsFrom 0 k v [] v
  | next {count k : Nat} {v v' v'' : View σ A W D} {new more : List Sign}
      (shows : Shows crew k v new v') (rest : ShowsFrom count (k + 1) v' more v'') :
      ShowsFrom (count + 1) k v (new ++ more) v''

/-- A picture is prepared: inputs that wait are handled, and if there is still an algorithm, the
picture is split and the slots of all regions are filled. -/
inductive Prepares (picture : Picture) (overlay : Option Overlay) (date : Tick) :
    View σ A W D → List Sign → View σ A W D → Prop
  | late {v v' : View σ A W D} {new : List Sign} (drains : TidyPath (Quiet crew) v new v')
      (gone : v'.compositor.algorithm = none) : Prepares picture overlay date v new v'
  | mk {v v₁ v₂ v₃ : View σ A W D} {drained asked filled : List Sign} {slots left : Slots}
      (drains : TidyPath (Quiet crew) v drained v₁) (splits : Splits crew picture v₁ asked slots v₂)
      (fills : FillsFrom crew overlay date v₂.compositor.regions.length 0 slots v₂ filled left v₃) :
      Prepares picture overlay date v (drained ++ (asked ++ filled)) (v₃.letGoAll left)

/-- Once inputs are handled, a picture is split and the slots of all regions are filled, if there
is still an algorithm. -/
inductive Divides (picture : Picture) (overlay : Option Overlay) (date : Tick) :
    View σ A W D → List Sign → View σ A W D → Prop
  | late {v : View σ A W D} (gone : v.compositor.algorithm = none) :
      Divides picture overlay date v [] v
  | mk {v v₂ v₃ : View σ A W D} {asked filled : List Sign} {slots left : Slots}
      (splits : Splits crew picture v asked slots v₂)
      (fills : FillsFrom crew overlay date v₂.compositor.regions.length 0 slots v₂ filled left v₃) :
      Divides picture overlay date v (asked ++ filled) (v₃.letGoAll left)

end Relations

variable {σ ι A W D : Type} {crew : Crew σ ι A W D} {v v' : View σ A W D} {new : List Sign}

/-! ## The relations as paths -/

theorem FillsFrom.path {overlay : Option Overlay} {date : Tick} {count k : Nat}
    {slots left : Slots} (h : FillsFrom crew overlay date count k slots v new left v') :
    Path (Step crew) v new v' := by
  induction h with
  | done => exact .nil _
  | next fills _ ih => exact .cons (.fill fills) ih

theorem ShowsFrom.path {count k : Nat} (h : ShowsFrom crew count k v new v') :
    Path (Step crew) v new v' := by
  induction h with
  | done => exact .nil _
  | next shows _ ih => exact .cons (.show shows) ih

theorem Prepares.path {picture : Picture} {overlay : Option Overlay} {date : Tick}
    (h : Prepares crew picture overlay date v new v') : Path (Step crew) v new v' := by
  cases h with
  | late drains => exact drains.1.mono fun _ _ _ => .quiet
  | mk drains splits fills =>
    refine (drains.1.mono fun _ _ _ => .quiet).trans (.cons (.split splits) ?_)
    simpa using fills.path.trans (.single (.release _))

/-! ## Slots -/

theorem release_yields (picture : Option Picture) :
    (Act.release picture : Act σ ι A W D Unit).Yields crew v fun _ new v' =>
      new = [] ∧ v' = { v with ledger := v.ledger.letGo picture } := by
  cases picture with
  | none => exact .pure (And.intro rfl rfl)
  | some picture => exact Yields.modifyLedger (f := fun l => l.release picture) ⟨rfl, rfl⟩

theorem releaseSlots_yields (slots : Slots) :
    (Act.releaseSlots slots : Act σ ι A W D Unit).Yields crew v fun _ new v' =>
      new = [] ∧ v' = v.letGoAll slots := by
  induction slots generalizing v with
  | nil => exact .pure (And.intro rfl rfl)
  | cons slot rest ih =>
    refine (release_yields slot).andThen ?_
    rintro _ _ _ ⟨rfl, rfl⟩
    exact ih

theorem putPicture_yields (k : Nat) (picture : Option Picture) :
    (putPicture k picture : Act σ ι A W D Unit).Yields crew v fun _ new v' =>
      new = [] ∧ v' = v.put k picture :=
  .bind (.compositor (.bind (.modifyCompositor (release_yields _))))

theorem reportShowing_yields (stage : FrameStage) (k : Nat) :
    (reportShowing crew stage k).Yields crew v fun _ new v' =>
      new = (crew.backend.showing stage k v.env).map (fun event => .reported k (.input event)) ∧
      v' = v.become (v.compositor.withQueued k (crew.backend.showing stage k v.env)) :=
  .bind (.env (reportInputs_yields k _))

/-- What a region's display is asked when it prepares a picture. -/
theorem prepareRegion_yields {overlay : Option Overlay} {date : Tick} {k : Nat}
    {picture : Picture} (tidy : v.compositor.Tidy) :
    (prepareRegion crew overlay date k picture).Yields crew v fun prepared new v' =>
      (v.compositor.display? k = none ∧ prepared = false ∧ new = [] ∧ v' = v) ∨
      ∃ r d d' w, v.compositor.regions[k]? = some r ∧ r.display = some d ∧ prepared = true ∧
        crew.backend.prepare d picture overlay date v.outside = .ok d' w ∧
        new = .called (.prepare k (v.ledger.sight picture)
            (overlay.map v.ledger.sightOverlay) date) [k] ::
          (crew.backend.showing .prepare k v.env).map (fun event => .reported k (.input event)) ∧
        v' = ⟨(v.compositor.withQueued k (crew.backend.showing .prepare k v.env)).setRegion k
          { r with display := some d' }, w.env, w.ledger⟩ := by
  cases here : v.compositor.regions[k]? with
  | none =>
    have blank := display?_eq_none here
    refine .withLock_of_absent here (.bind (.compositor ?_))
    rw [blank]
    exact .pure (.inl ⟨rfl, rfl, rfl, rfl⟩)
  | some r =>
    obtain ⟨index, window, display, size, locked⟩ := r
    obtain ⟨rfl, rfl⟩ : index = k ∧ locked = false := tidy _ _ here
    refine .underLock tidy here (.bind (.compositor ?_))
    rw [View.compositor_become, display?_setRegion_self here, display?_of_getElem? here]
    cases display with
    | none =>
      refine .pure (.inl ⟨rfl, rfl, rfl, ?_⟩)
      -- Taking and giving back the lock leaves the region as it was.
      simp only [View.compositor_become, modifyRegion_setRegion, View.become_become,
        setRegion_self here, View.become_compositor]
    | some d =>
      refine .bind (.ledger (.bind (.askWhile (.prepare _ _ _ _) ?_)))
      -- Inputs that come in meanwhile are queued under the lock, before the display is done.
      refine (reportShowing_yields .prepare index).mono ?_
      rintro _ _ _ ⟨rfl, rfl⟩ d' w ran
      refine .bind (.changeRegion (.pure (.inr ⟨_, d, d', w, rfl, rfl, rfl, ran, ?_, ?_⟩)))
      · simp [tidy.lockedRegions_setRegion here]
      · simp [View.become, View.after]

theorem fillSlot_yields (overlay : Option Overlay) (date : Tick) (k : Nat)
    (picture : Option Picture) (tidy : v.compositor.Tidy) :
    (fillSlot crew overlay date k picture).Yields crew v fun _ new v' =>
      Fills crew overlay date k picture v new v' := by
  refine (putPicture_yields k picture).andThen ?_
  rintro _ _ _ ⟨rfl, rfl⟩
  cases picture with
  | none => exact .pure .empty
  | some picture =>
    refine (prepareRegion_yields (by exact tidy)).andThen ?_
    rintro prepared new v' (⟨blank, rfl, rfl, rfl⟩ | ⟨r, d, d', w, here, shown, rfl, ran, rfl, rfl⟩)
    · -- Nobody will show the picture, so it is taken out of the slot again.
      refine (putPicture_yields k none).mono ?_
      rintro _ _ _ ⟨rfl, rfl⟩
      exact .unshown blank
    · have prepared : Fills crew overlay date k (some picture) v _ _ := .prepared here shown ran
      refine .pure ?_
      rw [List.nil_append, List.append_nil]
      exact prepared

theorem fillSlots_yields (overlay : Option Overlay) (date : Tick) (count k : Nat) (slots : Slots)
    (tidy : v.compositor.Tidy) :
    (fillSlots crew overlay date count k slots).Yields crew v fun left new v' =>
      FillsFrom crew overlay date count k slots v new left v' := by
  -- Each round takes one slot off the list and goes on to the next region.
  induction count generalizing v k slots with
  | zero => exact .pure .done
  | succ count ih =>
    refine .bind (.guarding ?_)
    refine (fillSlot_yields overlay date k _ tidy).mono fun _ new v' fills => ?_
    exact (ih (k + 1) _ ((Step.fill fills).tidy tidy)).mono fun _ _ _ rest => .next fills rest

/-! ## Preparing and showing -/

theorem split_yields (picture : Picture) (date : Tick) {a : A}
    (alive : v.compositor.algorithm = some a) (tidy : v.compositor.Tidy) :
    (split crew a picture date).Yields crew v fun slots new v' =>
      Splits crew picture v new slots v' := by
  refine .bind (.modifyLedger (.bind (.ledger (.bind (.ask (.filter _ _) ?_)))))
  intro answer w ran
  obtain ⟨result, a'⟩ := answer
  refine .bind (.modifyCompositor (.bind (.answered ?_)))
  have splits : Splits crew picture v _ _ _ := .mk alive ran
  rw [tidy.lockedRegions_eq_nil]
  cases result with
  | ok slots => exact .pure splits
  | error cause => exact .bind (.say (.pure splits))

theorem Splits.tidy {picture : Picture} {slots : Slots} (h : Splits crew picture v new slots v')
    (tidy : v.compositor.Tidy) : v'.compositor.Tidy :=
  (Step.split h).tidy tidy

/-- What preparing does once inputs are handled: the picture is split and the slots of all regions
are filled. -/
def divide (crew : Crew σ ι A W D) (picture : Picture) (overlay : Option Overlay) (date : Tick) :
    Act σ ι A W D Unit := do
  match (← compositor).algorithm with
  | none => pure ()
  | some algorithm =>
    let slots ← split crew algorithm picture date
    let count := (← compositor).regions.length
    if count < slots.length then say (.surplusPictures slots.length count)
    let left ← fillSlots crew overlay date count 0 slots
    releaseSlots left

theorem prepare_eq (picture : Picture) (overlay : Option Overlay) (date : Tick) :
    prepare crew picture overlay date =
      (do let _ ← drain crew; divide crew picture overlay date) :=
  rfl

theorem divide_yields (picture : Picture) (overlay : Option Overlay) (date : Tick)
    (tidy : v.compositor.Tidy) :
    (divide crew picture overlay date).Yields crew v fun _ =>
      Divides crew picture overlay date v := by
  refine .bind (.compositor ?_)
  cases alive : v.compositor.algorithm with
  | none => exact .pure (.late alive)
  | some a =>
    refine (split_yields picture date alive tidy).andThen fun slots asked v₂ splits => ?_
    refine .bind (.compositor ?_)
    have fill : (fillSlots crew overlay date v₂.compositor.regions.length 0 slots >>=
        releaseSlots).Yields crew v₂ fun _ new v' =>
          Divides crew picture overlay date v (asked ++ new) v' := by
      refine (fillSlots_yields overlay date _ 0 slots (splits.tidy tidy)).andThen ?_
      refine fun left filled v₃ fills => (releaseSlots_yields left).mono ?_
      rintro _ _ _ ⟨rfl, rfl⟩
      simpa using Divides.mk splits fills
    -- That there are too many pictures or too few is only said.
    dsimp only
    split
    · exact .bind (.say (by simpa using fill))
    · simpa using fill

theorem prepare_yields (picture : Picture) (overlay : Option Overlay) (date : Tick)
    (tidy : v.compositor.Tidy) :
    (prepare crew picture overlay date).Yields crew v fun _ new v' =>
      ∃ drained divided v₁, HandlesAll crew v.compositor.queue v drained v₁ ∧
        Divides crew picture overlay date v₁ divided v' ∧ new = drained ++ divided := by
  rw [prepare_eq]
  refine (drain_yields tidy).andThen fun _ drained v₁ drains => ?_
  have tidy₁ := (drains.2.tidyPath tidy).2
  exact (divide_yields picture overlay date tidy₁).mono fun _ divided v' divides =>
    ⟨drained, divided, v₁, drains.2, divides, rfl⟩

/-- To prepare a picture in a running compositor is to drain it and then to divide the picture. -/
theorem prepare_ran (crew : Crew σ ι A W D) (picture : Picture) (overlay : Option Overlay)
    (date : Tick) (s : Running σ ι A W D) (tidy : s.compositor.Tidy) :
    match prepare crew picture overlay date s with
    | .ok _ u => ∃ count t drained divided, drain crew s = .ok count t ∧
        t.world.signs = s.world.signs ++ drained ∧
        HandlesAll crew s.compositor.queue s.view drained t.view ∧
        u.world.signs = t.world.signs ++ divided ∧
        Divides crew picture overlay date t.view divided u.view
    | .error fault _ => crew.Raises fault := by
  have drains : (drain crew).Yields crew s.view _ := drain_yields tidy
  have first := drains s rfl
  rw [prepare_eq]
  simp only [bind, EStateM.bind]
  cases ran : drain crew s with
  | error fault t =>
    rw [ran] at first
    exact first
  | ok count t =>
    rw [ran] at first
    obtain ⟨drained, signs, counted, handles⟩ := first
    have divides : (divide crew picture overlay date).Yields crew t.view _ :=
      divide_yields picture overlay date (handles.tidyPath tidy).2
    have second := divides t rfl
    simp only []
    cases ran' : divide crew picture overlay date t with
    | error fault u =>
      rw [ran'] at second
      exact second
    | ok done u =>
      rw [ran'] at second
      obtain ⟨divided, signs', divides⟩ := second
      exact ⟨count, t, drained, divided, rfl, signs, handles, signs', divides⟩

theorem HandlesAll.prepares {picture : Picture} {overlay : Option Overlay} {date : Tick}
    {drained divided : List Sign} {v₁ : View σ A W D}
    (handles : HandlesAll crew v.compositor.queue v drained v₁) (tidy : v.compositor.Tidy)
    (divides : Divides crew picture overlay date v₁ divided v') :
    Prepares crew picture overlay date v (drained ++ divided) v' := by
  have drains := handles.tidyPath tidy
  cases divides with
  | late gone => simpa using Prepares.late drains gone
  | mk splits fills => exact .mk drains splits fills

theorem displayRegion_yields (k : Nat) (tidy : v.compositor.Tidy) :
    (displayRegion crew k).Yields crew v fun _ new v' => Shows crew k v new v' := by
  refine .bind (.compositor (.bind (.modifyCompositor ?_)))
  -- The picture leaves its slot at once, so it is let go whether or not it is shown.
  change Yields crew _ (v.become (v.compositor.withSlot k none)) _
  cases here : v.compositor.regions[k]? with
  | none =>
    have blank := display?_eq_none here
    refine .withLock_of_absent here (.bind (.compositor ?_))
    rw [View.compositor_become, display?_withSlot, blank]
    refine (release_yields _).mono ?_
    rintro _ _ _ ⟨rfl, rfl⟩
    exact .blank (.inl blank)
  | some r =>
    obtain ⟨index, window, display, size, locked⟩ := r
    obtain ⟨rfl, rfl⟩ : index = k ∧ locked = false := tidy _ _ here
    have there : (v.compositor.withSlot index none).regions[index]? = _ := here
    have tidy' : (v.compositor.withSlot index none).Tidy := tidy
    refine .underLock tidy' there (.bind (.compositor ?_))
    rw [View.compositor_become, View.compositor_become, display?_setRegion_self there]
    cases display with
    | none =>
      refine (release_yields _).mono ?_
      rintro _ _ _ ⟨rfl, rfl⟩
      have blank : Shows crew index v [] (v.put index none) :=
        .blank (.inl (display?_of_getElem? here))
      simpa [View.put, View.become, setRegion_self there] using blank
    | some d =>
      cases filled : v.compositor.picture? index with
      | none =>
        have blank : Shows crew index v [] (v.put index none) := .blank (.inr filled)
        refine .pure ?_
        simpa [View.put, View.become, setRegion_self there, filled] using blank
      | some picture =>
        refine .bind (.ledger (.bind (.askWhile (.display _ _) ?_)))
        refine (reportShowing_yields .display index).mono ?_
        rintro _ _ _ ⟨rfl, rfl⟩ d' w ran
        refine .bind (.changeRegion ?_)
        refine (release_yields _).mono ?_
        rintro _ _ _ ⟨rfl, rfl⟩
        have shown : Shows crew index v _ _ := .shown here rfl filled ran
        simpa [View.become, View.after, tidy'.lockedRegions_setRegion there] using shown

theorem displayFrom_yields (count k : Nat) (tidy : v.compositor.Tidy) :
    (displayFrom crew count k).Yields crew v fun _ new v' => ShowsFrom crew count k v new v' := by
  induction count generalizing v k with
  | zero => exact .pure .done
  | succ count ih =>
    refine (displayRegion_yields k tidy).andThen fun _ new v' shows => ?_
    exact (ih (k + 1) ((Step.show shows).tidy tidy)).mono fun _ _ _ rest => .next shows rest

theorem display_yields (tidy : v.compositor.Tidy) :
    (display crew).Yields crew v fun _ new v' =>
      ShowsFrom crew v.compositor.regions.length 0 v new v' :=
  .bind (.compositor (displayFrom_yields _ 0 tidy))

end Mosaic.Compositor
