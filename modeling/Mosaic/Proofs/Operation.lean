import Mosaic.Proofs.Step

/-!
# Operations are paths of steps

Each part of an operation yields the step it is, and each operation other than closing
yields a path of steps. To drain is to handle all that waits, and nothing else.

## Main definitions

* `HandlesAll` — what waits in the queue is handled

## Main results

* `resizeRegion_yields`, `report_yields`, `handle_yields`, `split_yields`, `fillSlot_yields`,
  `displayRegion_yields` — the parts
* `drain_yields`, `control_yields`, `prepare_yields`, `display_yields` — the operations
-/

set_option autoImplicit false

namespace Mosaic.Compositor

open Act

section Relations

variable {σ ι A W D : Type} (crew : Crew σ ι A W D)

/-- What waits in the queue is handled, one input after the other. -/
inductive HandlesAll : List RegionInput → View σ A W D → List Sign → View σ A W D → Prop
  | done {v : View σ A W D} (empty : v.compositor.queue = []) : HandlesAll [] v [] v
  | next {v v' v'' : View σ A W D} {input : RegionInput} {rest : List RegionInput}
      {new more : List Sign} (queue : v.compositor.queue = input :: rest)
      (handles : Handles crew input (v.become { v.compositor with queue := rest }) new v')
      (later : HandlesAll rest v' more v'') : HandlesAll (input :: rest) v (new ++ more) v''

end Relations

variable {σ ι A W D : Type} {crew : Crew σ ι A W D} {v : View σ A W D}

/-! ## Sizes and reports -/

theorem setSize_yields (k : Nat) (d : D) (size : Size) :
    (setSize crew k d size).Yields crew v fun d' new v' => ∃ result w,
      crew.backend.control d (.displaySize size) v.outside = .ok (result, d') w ∧
      new = [.called (.control k (.displaySize size)) v.compositor.lockedRegions] ∧
      v' = v.after w := by
  refine .bind (.ask (.control _ _) fun answer w ran => ?_)
  obtain ⟨result, d'⟩ := answer
  cases result with
  | ok _ => exact .pure ⟨_, w, ran, rfl, rfl⟩
  | error e => exact .bind (.say (.pure ⟨_, w, ran, rfl, rfl⟩))

theorem tellDisplay_yields (k : Nat) (size : Size) :
    (tellDisplay crew k size).Yields crew v fun told new v' =>
      (v.compositor.display? k = none ∧ told = false ∧ new = [] ∧ v' = v) ∨
      ∃ d d' result w, v.compositor.display? k = some d ∧ told = true ∧
        crew.backend.control d (.displaySize size) v.outside = .ok (result, d') w ∧
        new = [.called (.control k (.displaySize size)) v.compositor.lockedRegions] ∧
        v' = (v.after w).become
          (v.compositor.modifyRegion k fun r => { r with display := some d' }) := by
  refine .bind (.compositor ?_)
  cases shown : v.compositor.display? k with
  | none => exact .pure (.inl ⟨rfl, rfl, rfl, rfl⟩)
  | some d =>
    refine (setSize_yields k d size).andThen ?_
    rintro d' new v' ⟨result, w, ran, rfl, rfl⟩
    exact .bind (.changeRegion (.pure (.inr ⟨d, d', result, w, rfl, rfl, ran, rfl, rfl⟩)))

theorem resizeRegion_yields {k : Nat} {size : Size} (tidy : v.compositor.Tidy)
    (inside : k < v.compositor.regions.length) :
    (resizeRegion crew k size).Yields crew v fun _ new v' => Resizes crew k size v new v' := by
  obtain ⟨⟨index, window, display, before, locked⟩, here⟩ :
      ∃ r, v.compositor.regions[k]? = some r := ⟨_, List.getElem?_eq_getElem inside⟩
  obtain ⟨rfl, rfl⟩ : index = k ∧ locked = false := tidy _ _ here
  refine .underLock tidy here (.bind (.changeRegion ?_))
  -- The region is already marked and resized when its display is looked up.
  rw [View.compositor_become, modifyRegion_setRegion, View.become_become]
  refine (tellDisplay_yields index size).andThen ?_
  rintro told new v' (⟨blank, rfl, rfl, rfl⟩ | ⟨d, d', result, w, shown, rfl, ran, rfl, rfl⟩)
  · rw [View.compositor_become, display?_setRegion_self here] at blank
    refine .bind (.call (.say ?_))
    simp only [View.compositor_become, modifyRegion_setRegion, View.become_become,
      tidy.lockedRegions_setRegion here]
    exact .unshown here blank
  · rw [View.compositor_become, display?_setRegion_self here] at shown
    refine .bind (.call (.say ?_))
    simp only [View.compositor_become, modifyRegion_setRegion, View.become_become,
      tidy.lockedRegions_setRegion here]
    exact .shown here shown ran

theorem report_yields (tidy : v.compositor.Tidy) (k : Nat) (event : WindowEvent) :
    (report crew k event).Yields crew v fun _ => TidyPath (Reports crew) v := by
  refine .bind (.reported ?_)
  cases event with
  | input event => exact .modifyCompositor (.single (.input k event) tidy)
  | resized size =>
    have asked : TidyPath (Reports crew) v [.reported k (.resized size)] v :=
      .single (.resized k size) tidy
    refine .bind (.compositor ?_)
    -- A report from a place without a region is only told.
    split
    · rename_i inside
      exact (resizeRegion_yields tidy inside).mono fun _ _ _ resizes =>
        asked.trans (.single (.resize resizes) (resizes.tidy tidy))
    · exact .say asked

theorem reportAll_yields (reports : List (Nat × WindowEvent)) (tidy : v.compositor.Tidy) :
    (reportAll crew reports).Yields crew v fun _ => TidyPath (Reports crew) v := by
  induction reports generalizing v with
  | nil => exact .pure (.nil tidy)
  | cons head rest ih =>
    refine (report_yields tidy head.1 head.2).andThen fun _ new v' first => ?_
    exact (ih first.2).mono fun _ _ _ later => first.trans later

/-- Inputs that are reported are queued, whatever locks are held. -/
theorem reportInputs_yields (k : Nat) (events : List InputEvent) :
    (reportInputs crew k events).Yields crew v fun _ new v' =>
      new = events.map (fun event => .reported k (.input event)) ∧
      v' = v.become (v.compositor.withQueued k events) := by
  induction events generalizing v with
  | nil => exact .pure ⟨rfl, by simp⟩
  | cons event rest ih =>
    refine .bind (.bind (.reported (.modifyCompositor ?_)))
    refine ih.mono ?_
    rintro _ _ _ ⟨rfl, rfl⟩
    exact ⟨rfl, congrArg v.become (withQueued_withQueued _ k [event] rest)⟩

/-! ## Queued inputs -/

theorem forward_yields (tidy : v.compositor.Tidy) (event : InputEvent) :
    (forward event : Act σ ι A W D Unit).Yields crew v fun _ new v' =>
      new = v.compositor.forwardSigns event ∧ v' = v.become (v.compositor.forwarded event) := by
  refine .bind (.compositor ?_)
  cases parent : v.compositor.parent with
  | none =>
    rw [forwarded_of_parent_eq_none parent, forwardSigns, parent]
    exact .say ⟨rfl, rfl⟩
  | some p =>
    rw [forwarded_of_parent_eq_some parent, forwardSigns, parent]
    refine .bind (.call ?_)
    rw [tidy.lockedRegions_eq_nil]
    split
    · exact .modifyCompositor ⟨rfl, rfl⟩
    · -- A parent that does not listen is told, but stays as it is.
      have same : { v.compositor with parent := some p } = v.compositor := by rw [← parent]
      rw [same]
      exact .say ⟨rfl, rfl⟩

theorem handle_yields (tidy : v.compositor.Tidy) (input : RegionInput) :
    (handle crew input).Yields crew v fun _ new v' => Handles crew input v new v' := by
  obtain ⟨k, event⟩ := input
  cases event with
  | mouse event =>
    refine .bind (.compositor ?_)
    cases alive : v.compositor.algorithm with
    | none => exact .pure (.late alive)
    | some a =>
      refine .bind (.ask (.locate _ _ _) fun answer w ran => ?_)
      obtain ⟨located, a'⟩ := answer
      refine .bind (.modifyCompositor (.bind (.answered ?_)))
      rw [tidy.lockedRegions_eq_nil]
      -- The algorithm may change even where it places the event nowhere.
      cases located with
      | none => exact .say (.dropped alive ran)
      | some moved =>
        refine .bind (.modifyCompositor ?_)
        refine (forward_yields (by exact tidy) (.mouse moved)).mono ?_
        rintro _ _ _ ⟨rfl, rfl⟩
        exact .placed alive ran
  | key code =>
    refine .bind (.say ?_)
    refine (forward_yields tidy (.key code)).mono ?_
    rintro _ _ _ ⟨rfl, rfl⟩
    show Handles crew ⟨k, .key code⟩ v _ _
    exact .plain nofun
  | closeRequested =>
    refine .bind (.say ?_)
    refine (forward_yields tidy .closeRequested).mono ?_
    rintro _ _ _ ⟨rfl, rfl⟩
    show Handles crew ⟨k, .closeRequested⟩ v _ _
    exact .plain nofun

theorem HandlesAll.tidyPath {inputs : List RegionInput} {new : List Sign} {v' : View σ A W D}
    (h : HandlesAll crew inputs v new v') (tidy : v.compositor.Tidy) :
    TidyPath (Quiet crew) v new v' := by
  induction h with
  | done => exact .nil tidy
  | next queue handles _ ih =>
    have step := Quiet.handle queue handles
    exact (TidyPath.single step (step.tidy tidy)).trans (ih (step.tidy tidy))

theorem handleAll_yields (inputs : List RegionInput) (tidy : v.compositor.Tidy)
    (queue : v.compositor.queue = inputs) :
    (handleAll crew inputs).Yields crew v fun _ => HandlesAll crew inputs v := by
  induction inputs generalizing v with
  | nil => exact .pure (.done queue)
  | cons input rest ih =>
    refine .bind (.modifyCompositor ?_)
    refine (handle_yields (by exact tidy) input).andThen fun _ new v' handles => ?_
    have left : v'.compositor.queue = rest := handles.queue_eq
    have tidy' := (Quiet.handle queue handles).tidy tidy
    refine (ih tidy' left).mono fun _ more v'' later => ?_
    show HandlesAll crew (input :: rest) v (new ++ more) v''
    exact .next queue handles later

theorem drain_yields (tidy : v.compositor.Tidy) :
    (drain crew).Yields crew v fun count new v' =>
      count = v.compositor.queue.length ∧ HandlesAll crew v.compositor.queue v new v' := by
  refine .bind (.compositor ?_)
  refine (handleAll_yields _ tidy rfl).andThen fun _ new v' handles => .pure ⟨rfl, ?_⟩
  simpa using handles

/-! ## Control queries -/

theorem resizeFrom_yields (a : A) (placement : Placement) (k : Nat) (outputs : List Output)
    (tidy : v.compositor.Tidy) (alive : v.compositor.algorithm.isSome) :
    (resizeFrom crew a placement k outputs).Yields crew v fun _ => TidyPath (Adjusts crew) v := by
  induction outputs generalizing v k with
  | nil => exact .pure (.nil tidy)
  | cons output rest ih =>
    refine .bind (.compositor ?_)
    split
    · rename_i inside
      refine .bind (.consult ?_)
      rw [tidy.lockedRegions_eq_nil]
      have asked : TidyPath (Adjusts crew) v [.called (.sizeHint k) []] v :=
        .single (.hint k alive) tidy
      refine (resizeRegion_yields tidy inside).andThen fun _ new v' resizes => ?_
      have first := asked.trans (.single (.report (.resize resizes)) (resizes.tidy tidy))
      exact (ih (k + 1) first.2 (resizes.algorithm_eq ▸ alive)).mono fun _ _ _ later => by
        simpa using first.trans later
    · exact .pure (.nil tidy)

theorem control_yields (query : ControlQuery) (tidy : v.compositor.Tidy) :
    (control crew query).Yields crew v fun _ => TidyPath (Adjusts crew) v := by
  cases query with
  | displaySize size =>
    refine .bind (.say (.bind (.modifyCompositor ?_)))
    have placed : TidyPath (Adjusts crew) v [] (v.become
        { v.compositor with placement := v.compositor.placement.resize size }) :=
      .single (.place size) tidy
    -- From here on only the view with the new placement matters.
    generalize v.become { v.compositor with placement := _ } = v' at placed ⊢
    refine .bind (.compositor ?_)
    cases alive : v'.compositor.algorithm with
    | none => exact .pure placed
    | some a =>
      refine (resizeFrom_yields a _ 0 _ placed.2 (by simp [alive])).andThen ?_
      exact fun _ new _ path => .pure (by simpa using placed.trans path)
  | unknown code => exact .bind (.say (.pure (.nil tidy)))
  | sourceAspect | sourceCrop | sourcePlace => exact .bind (.say (.pure (.nil tidy)))

end Mosaic.Compositor
