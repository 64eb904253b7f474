import Mosaic.Proofs.Closing

/-!
# Opening region by region

Setting up the region of an active output asks for a window, shows it and asks for a display,
and windows may report meanwhile. How far this comes is the `Fate` of the region. Under the
aborting policy the first fate that is a refusal ends the opening; under the tolerant one the
region keeps what it has, and opening goes on.

This file says what each part of opening comes to, in the same way as the steps of an open
compositor. What follows for the whole of an opening is read off these relations later.

## Main definitions

* `Fate` — how far the setting up of a region came
* `Attempts`, `Adopts`, `Equips` — the setting up of one region that is shown
* `Opens`, `OpensFrom` — one region of any kind, and several

## Main results

* `openWindow_yields`, `openRegion_yields`, `openRegions_yields` — each part yields its relation
* `populate_yields` — all regions are there, or everything was closed again
-/

set_option autoImplicit false

namespace Mosaic

/-- How far the setting up of a region came. -/
inductive Fate where
  /-- The output is not to be shown. -/
  | inactive
  | refused (stage : RegionStage) (cause : Cause)
  | ready

/-- What the fate of a region means for the opening. -/
def FailurePolicy.outcome (policy : FailurePolicy) (k : Nat) : Fate → Except OpenError Unit
  | .inactive | .ready => .ok ()
  | .refused stage cause =>
    match policy with
    | .tolerate => .ok ()
    | .abort => .error (.regionFailed k stage cause)

/-- Only under the aborting policy does a refusal end an opening, and it is told as it is. -/
theorem FailurePolicy.outcome_eq_error {policy : FailurePolicy} {k : Nat} {fate : Fate}
    {e : OpenError} (h : policy.outcome k fate = .error e) :
    policy = .abort ∧ ∃ stage cause, fate = .refused stage cause ∧
      e = .regionFailed k stage cause := by
  cases fate with
  | inactive | ready => cases h
  | refused stage cause =>
    cases policy with
    | tolerate => cases h
    | abort =>
      cases h
      exact ⟨rfl, stage, cause, rfl, rfl⟩

/-- What a region has got when its setting up is over. -/
def Fate.outfit (policy : FailurePolicy) : Fate → Bool × Bool
  | .inactive | .refused .window _ | .refused .enable _ => (false, false)
  | .refused .display _ =>
    match policy with
    | .tolerate => (true, false)
    | .abort => (false, false)
  | .ready => (true, true)

namespace Compositor

open Act

/-- The compositor with one more region, which has neither window nor display. -/
def withBare {A W D : Type} (c : Compositor A W D) (size : Size) : Compositor A W D :=
  { c with regions := c.regions ++ [.bare c.regions.length size] }

section Relations

variable {σ ι A W D : Type} (crew : Crew σ ι A W D)

/-- What is asked for the region of an output. -/
def request (settings : SplitSettings) (algorithm : A) (placement : Placement) (k : Nat)
    (output : Output) : DisplayRequest where
  index := k
  module := output.module
  format := output.format
  window := settings.window.resize (crew.algorithm.sizeFor algorithm output.format placement)

/-- One of the others is asked to do something while a region is set up. Windows report before
it is done. -/
inductive Attempts {α : Type} (asked : Call) (task : Run σ ι α) :
    View σ A W D → List Sign → α → View σ A W D → Prop
  | mk {v v' : View σ A W D} {told : List Sign} {a : α} {w : World σ ι}
      (reports : TidyPath (Reports crew) v told v') (ran : task v'.outside = .ok a w) :
      Attempts asked task v (.called asked [] :: told) a (v'.after w)

/-- A new display and its window are put into their region. The display is told of the size of
the region where this is not the one it was made for. -/
inductive Adopts (asked : DisplayRequest) (window : W) (display : D) :
    View σ A W D → List Sign → View σ A W D → Prop
  | fitting {v : View σ A W D} {r : Region W D}
      (here : v.compositor.regions[asked.index]? = some r) (fits : r.size = asked.window.size) :
      Adopts asked window display v [] (v.become (v.compositor.setRegion asked.index
        { r with display := some display, window := some window }))
  | resized {v : View σ A W D} {r : Region W D} {display' : D}
      {result : Except DisplayError Unit} {w : World σ ι}
      (here : v.compositor.regions[asked.index]? = some r) (changed : r.size ≠ asked.window.size)
      (ran : crew.backend.control display (.displaySize r.size) v.outside =
        .ok (result, display') w) :
      Adopts asked window display v
        [.called (.control asked.index (.displaySize r.size)) [asked.index]]
        ((v.after w).become (v.compositor.setRegion asked.index
          { r with display := some display', window := some window }))

/-- A window that is shown gets a display. Where it cannot be had, the policy decides whether the
window stays. -/
inductive Mounts (policy : FailurePolicy) (asked : DisplayRequest) (window : W) :
    View σ A W D → List Sign → Fate → View σ A W D → Prop
  | tolerated {v v₁ : View σ A W D} {made : List Sign} {cause : Cause} {r : Region W D}
      (tolerant : policy = .tolerate)
      (attempt : Attempts crew (.newDisplay asked.index asked)
        (crew.backend.newDisplay asked.index asked) v made (.error cause) v₁)
      (here : v₁.compositor.regions[asked.index]? = some r) :
      Mounts policy asked window v (made ++ [.answered (.step .display asked.index false)])
        (.refused .display cause)
        (v₁.become (v₁.compositor.setRegion asked.index { r with window := some window }))
  -- The window has no region yet, so it is taken down here and not when the split closes.
  | aborted {v v₁ v₂ : View σ A W D} {made : List Sign} {cause : Cause}
      (aborting : policy = .abort)
      (attempt : Attempts crew (.newDisplay asked.index asked)
        (crew.backend.newDisplay asked.index asked) v made (.error cause) v₁)
      (same : v₂.compositor = v₁.compositor) :
      Mounts policy asked window v
        (made ++ [.answered (.step .display asked.index false), .called (.disable asked.index) [],
          .called (.dropWindow asked.index) []])
        (.refused .display cause) v₂
  | ready {v v₁ v₂ : View σ A W D} {made adopted : List Sign} {display : D}
      (attempt : Attempts crew (.newDisplay asked.index asked)
        (crew.backend.newDisplay asked.index asked) v made (.ok display) v₁)
      (adopts : Adopts crew asked window display v₁ adopted v₂) :
      Mounts policy asked window v
        (made ++ .answered (.step .display asked.index true) :: adopted) .ready v₂

/-- A region that is shown gets its window and its display, as far as they can be had. -/
inductive Equips (policy : FailurePolicy) (asked : DisplayRequest) :
    View σ A W D → List Sign → Fate → View σ A W D → Prop
  | windowRefused {v v₁ : View σ A W D} {made : List Sign} {cause : Cause}
      (attempt : Attempts crew (.newWindow asked.index asked.window)
        (crew.backend.newWindow asked.index asked.window) v made (.error cause) v₁) :
      Equips policy asked v (made ++ [.answered (.step .window asked.index false)])
        (.refused .window cause) v₁
  | enableRefused {v v₁ v₂ v₃ : View σ A W D} {made shown : List Sign} {win win' : W}
      {cause : Cause}
      (window : Attempts crew (.newWindow asked.index asked.window)
        (crew.backend.newWindow asked.index asked.window) v made (.ok win) v₁)
      (attempt : Attempts crew (.enable asked.index asked.window)
        (crew.backend.enable win asked.window) v₁ shown (.error cause, win') v₂)
      (same : v₃.compositor = v₂.compositor) :
      Equips policy asked v
        (made ++ .answered (.step .window asked.index true) :: (shown ++
          [.answered (.step .enable asked.index false), .called (.dropWindow asked.index) []]))
        (.refused .enable cause) v₃
  | mounted {v v₁ v₂ v₃ : View σ A W D} {made shown rest : List Sign} {win win' : W} {fate : Fate}
      (window : Attempts crew (.newWindow asked.index asked.window)
        (crew.backend.newWindow asked.index asked.window) v made (.ok win) v₁)
      (enable : Attempts crew (.enable asked.index asked.window)
        (crew.backend.enable win asked.window) v₁ shown (.ok (), win') v₂)
      (mounts : Mounts crew policy asked win' v₂ rest fate v₃) :
      Equips policy asked v
        (made ++ .answered (.step .window asked.index true) :: (shown ++
          .answered (.step .enable asked.index true) :: rest)) fate v₃

/-- An output gets its region. -/
inductive Opens (settings : SplitSettings) (algorithm : A) (k : Nat) (output : Output) :
    View σ A W D → List Sign → Fate → View σ A W D → Prop
  | inactive {v : View σ A W D} {size : Size} (idle : output.active = false) :
      Opens settings algorithm k output v [.called (.sizeHint k) []] .inactive
        (v.become (v.compositor.withBare size))
  | active {v v' : View σ A W D} {asked : DisplayRequest} {new : List Sign} {fate : Fate}
      (shown : output.active = true)
      (wanted : request crew settings algorithm v.compositor.placement k output = asked)
      (equips : Equips crew settings.regionFailure asked
        (v.become (v.compositor.withBare (crew.algorithm.sizeFor algorithm output.format
          v.compositor.placement))) new fate v') :
      Opens settings algorithm k output v (.called (.sizeHint k) [] :: new) fate v'

/-- Outputs get their regions, up to the first failure. -/
inductive OpensFrom (settings : SplitSettings) (algorithm : A) :
    Nat → List Output → View σ A W D → List Sign → List Fate → Except OpenError Unit →
      View σ A W D → Prop
  | done {k : Nat} {v : View σ A W D} : OpensFrom settings algorithm k [] v [] [] (.ok ()) v
  | failed {k : Nat} {output : Output} {outputs : List Output} {v v' : View σ A W D}
      {new : List Sign} {fate : Fate} {e : OpenError}
      (opens : Opens crew settings algorithm k output v new fate v')
      (bad : settings.regionFailure.outcome k fate = .error e) :
      OpensFrom settings algorithm k (output :: outputs) v new [fate] (.error e) v'
  | next {k : Nat} {output : Output} {outputs : List Output} {v v' v'' : View σ A W D}
      {new more : List Sign} {fate : Fate} {fates : List Fate} {result : Except OpenError Unit}
      (opens : Opens crew settings algorithm k output v new fate v')
      (good : settings.regionFailure.outcome k fate = .ok ())
      (rest : OpensFrom settings algorithm (k + 1) outputs v' more fates result v'') :
      OpensFrom settings algorithm k (output :: outputs) v (new ++ more) (fate :: fates) result
        v''

end Relations

variable {σ ι A W D : Type} {crew : Crew σ ι A W D} {v v' : View σ A W D} {new : List Sign}

/-! ## The parts of opening -/

theorem stepFailed_yields (policy : FailurePolicy) (k : Nat) (stage : RegionStage)
    (cause : Cause) :
    (stepFailed policy k stage cause : Act σ ι A W D _).Yields crew v fun result new v' =>
      result = policy.outcome k (.refused stage cause) ∧ new = [] ∧ v' = v := by
  cases policy with
  | tolerate => exact .bind (.say (.pure ⟨rfl, rfl, rfl⟩))
  | abort => exact .pure ⟨rfl, rfl, rfl⟩

theorem reportOpening_yields (stage : RegionStage) (k : Nat) (tidy : v.compositor.Tidy) :
    (reportOpening crew stage k).Yields crew v fun _ => TidyPath (Reports crew) v :=
  .bind (.env (reportAll_yields _ tidy))

/-- One of the others is asked to do something, and windows report before it is done. -/
theorem attempt_yields {α : Type} {task : Run σ ι α} (asked : Call) (stage : RegionStage)
    (k : Nat) (does : crew.Does task) (tidy : v.compositor.Tidy) :
    (askWhile asked (reportOpening crew stage k) task).Yields crew v
      fun a new v' => Attempts crew asked task v new a v' := by
  refine .askWhile does ((reportOpening_yields stage k tidy).mono fun _ told v₁ reports => ?_)
  intro a w ran
  -- No lock is held while regions are set up, so the call is noted with none.
  rw [tidy.lockedRegions_eq_nil]
  exact .mk reports ran

section Attempt

variable {α : Type} {asked : Call} {task : Run σ ι α} {a : α}

theorem Attempts.tidy (h : Attempts crew asked task v new a v') : v'.compositor.Tidy := by
  cases h with
  | mk reports ran => exact reports.2

theorem Attempts.shape_eq (h : Attempts crew asked task v new a v') :
    v'.compositor.shape = v.compositor.shape := by
  cases h with
  | mk reports ran =>
    exact reports.1.keepsEq (f := fun u => u.compositor.shape) fun _ _ _ => Reports.shape_eq

/-- A region that was there is there still. -/
theorem Attempts.inside {k : Nat} (h : Attempts crew asked task v new a v')
    (inside : k < v.compositor.regions.length) : k < v'.compositor.regions.length := by
  rwa [length_regions_of_shape_eq h.shape_eq]

/-- Reports while something is asked for leave all alone but the queue and the regions. -/
theorem Attempts.fixture_eq (h : Attempts crew asked task v new a v') :
    v'.compositor.fixture = v.compositor.fixture := by
  cases h with
  | mk reports ran =>
    exact reports.1.keepsEq (f := fun u => u.compositor.fixture) fun _ _ _ => Reports.fixture_eq

end Attempt

theorem Adopts.tidy {asked : DisplayRequest} {window : W} {d : D}
    (h : Adopts crew asked window d v new v') (tidy : v.compositor.Tidy) : v'.compositor.Tidy := by
  cases h with
  | fitting here => exact tidy.setRegion (tidy _ _ here).1 (tidy _ _ here).2
  | resized here => exact tidy.setRegion (tidy _ _ here).1 (tidy _ _ here).2

theorem Adopts.fixture_eq {asked : DisplayRequest} {window : W} {d : D}
    (h : Adopts crew asked window d v new v') :
    v'.compositor.fixture = v.compositor.fixture := by
  cases h <;> rfl

theorem adopt_yields {output : Output} {asked : DisplayRequest} {window : W} {d : D}
    (tidy : v.compositor.Tidy) (inside : asked.index < v.compositor.regions.length) :
    (adopt crew output asked.index asked.window.size window d).Yields crew v fun _ new v' =>
      Adopts crew asked window d v new v' := by
  obtain ⟨⟨index, win, before, size, locked⟩, here⟩ :
      ∃ r, v.compositor.regions[asked.index]? = some r := ⟨_, List.getElem?_eq_getElem inside⟩
  obtain ⟨place, rfl⟩ : index = asked.index ∧ locked = false := tidy _ _ here
  refine .underLock tidy here (.bind (.compositor ?_))
  -- The size is read under the lock, and windows may have changed it since the request.
  rw [View.compositor_become, getElem?_setRegion_self here]
  simp only [Option.map_some, Option.getD_some]
  split
  · rename_i fits
    refine .bind (.pure (.bind (.changeRegion (.say ?_))))
    simp only [View.compositor_become, modifyRegion_setRegion, View.become_become]
    exact .fitting here fits
  · rename_i changed
    refine (setSize_yields _ _ _).andThen ?_
    rintro d' _ _ ⟨result, w, ran, rfl, rfl⟩
    refine .bind (.changeRegion (.say ?_))
    have adopts : Adopts crew asked window d v _ _ := .resized here changed ran
    -- The display is told under the lock of its own region, and no other is held.
    have locked : (v.compositor.setRegion asked.index
        (⟨index, win, before, size, true⟩ : Region W D)).lockedRegions = [asked.index] :=
      tidy.lockedRegions_setRegion here place rfl
    simpa [locked] using adopts

theorem openDisplay_yields {policy : FailurePolicy} {output : Output} {asked : DisplayRequest}
    {win : W} (wanted : (⟨asked.index, output.module, output.format, asked.window⟩ :
      DisplayRequest) = asked)
    (tidy : v.compositor.Tidy) (inside : asked.index < v.compositor.regions.length) :
    (openDisplay crew policy output asked.index asked.window win).Yields crew v
      fun result new v' => ∃ fate, result = policy.outcome asked.index fate ∧
        Mounts crew policy asked win v new fate v' := by
  unfold openDisplay
  rw [wanted]
  refine .bind (.guarding ((attempt_yields _ .display _ (.newDisplay _ _) tidy).mono ?_))
  intro result made v₁ attempt
  refine .bind (.answered ?_)
  have inside₁ := attempt.inside inside
  cases result with
  | ok display =>
    refine (adopt_yields attempt.tidy inside₁).andThen fun _ adopted v₂ adopts => ?_
    have mounts : Mounts crew policy asked win v _ _ _ := .ready attempt adopts
    exact .pure ⟨.ready, rfl, by simpa [Except.toBool] using mounts⟩
  | error cause =>
    cases policy with
    | tolerate =>
      obtain ⟨r, here⟩ : ∃ r, v₁.compositor.regions[asked.index]? = some r :=
        ⟨_, List.getElem?_eq_getElem inside₁⟩
      refine .bind (.underLock attempt.tidy here (.changeRegion ?_))
      refine (stepFailed_yields _ _ _ _).mono ?_
      rintro result _ _ ⟨rfl, rfl, rfl⟩
      have free : r.locked = false := (attempt.tidy _ _ here).2
      have mounts : Mounts crew .tolerate asked win v _ _ _ := .tolerated rfl attempt here
      exact ⟨_, rfl, by simpa [free, Except.toBool] using mounts⟩
    | abort =>
      refine (destroyWindow_yields _ _).andThen ?_
      rintro _ _ v₂ ⟨rfl, same⟩
      refine (stepFailed_yields _ _ _ _).mono ?_
      rintro result _ _ ⟨rfl, rfl, rfl⟩
      have mounts : Mounts crew .abort asked win v _ _ _ := .aborted rfl attempt same
      refine ⟨_, rfl, ?_⟩
      simpa [attempt.tidy.lockedRegions_eq_nil, Except.toBool] using mounts

theorem openWindow_yields {policy : FailurePolicy} {output : Output} (asked : DisplayRequest)
    (wanted : (⟨asked.index, output.module, output.format, asked.window⟩ :
      DisplayRequest) = asked)
    (tidy : v.compositor.Tidy) (inside : asked.index < v.compositor.regions.length) :
    (openWindow crew policy output asked.index asked.window).Yields crew v
      fun result new v' => ∃ fate, result = policy.outcome asked.index fate ∧
        Equips crew policy asked v new fate v' := by
  refine (attempt_yields _ .window _ (.newWindow _ _) tidy).andThen fun result made v₁ window => ?_
  refine .bind (.answered ?_)
  cases result with
  | error cause =>
    refine (stepFailed_yields _ _ _ _).mono ?_
    rintro result _ _ ⟨rfl, rfl, rfl⟩
    have equips : Equips crew policy asked v _ _ _ := .windowRefused window
    exact ⟨_, rfl, by simpa [Except.toBool] using equips⟩
  | ok win =>
    refine .bind (.guarding ((attempt_yields _ .enable _ (.enable _ _) window.tidy).mono ?_))
    rintro ⟨result, win'⟩ shown v₂ enable
    refine .bind (.answered ?_)
    cases result with
    | error cause =>
      refine (dropWindow_yields _ _).andThen ?_
      rintro _ _ v₃ ⟨rfl, same⟩
      refine (stepFailed_yields _ _ _ _).mono ?_
      rintro result _ _ ⟨rfl, rfl, rfl⟩
      have equips : Equips crew policy asked v _ _ _ := .enableRefused window enable same
      refine ⟨_, rfl, ?_⟩
      simpa [enable.tidy.lockedRegions_eq_nil, Except.toBool] using equips
    | ok done =>
      -- Reports keep the regions, so that the region is there whenever it is looked up.
      have inside₂ := enable.inside (window.inside inside)
      refine (openDisplay_yields wanted enable.tidy inside₂).mono ?_
      rintro result rest v₃ ⟨fate, rfl, mounts⟩
      have equips : Equips crew policy asked v _ _ _ := .mounted window enable mounts
      exact ⟨fate, rfl, by simpa [Except.toBool] using equips⟩

/-! ## One region -/

section Region

variable {policy : FailurePolicy} {asked : DisplayRequest} {fate : Fate} {k : Nat}

theorem Mounts.tidy {window : W} (h : Mounts crew policy asked window v new fate v') :
    v'.compositor.Tidy := by
  cases h with
  | tolerated _ attempt here =>
    exact attempt.tidy.setRegion (attempt.tidy _ _ here).1 (attempt.tidy _ _ here).2
  | aborted _ attempt same => exact same ▸ attempt.tidy
  | ready attempt adopts => exact adopts.tidy attempt.tidy

theorem Mounts.fixture_eq {window : W} (h : Mounts crew policy asked window v new fate v') :
    v'.compositor.fixture = v.compositor.fixture := by
  cases h with
  | tolerated _ attempt => exact attempt.fixture_eq
  | aborted _ attempt same => rw [same, attempt.fixture_eq]
  | ready attempt adopts => rw [adopts.fixture_eq, attempt.fixture_eq]

theorem Equips.tidy (h : Equips crew policy asked v new fate v') : v'.compositor.Tidy := by
  cases h with
  | windowRefused window => exact window.tidy
  | enableRefused _ enable same => exact same ▸ enable.tidy
  | mounted _ _ mounts => exact mounts.tidy

theorem Equips.fixture_eq (h : Equips crew policy asked v new fate v') :
    v'.compositor.fixture = v.compositor.fixture := by
  cases h with
  | windowRefused window => exact window.fixture_eq
  | enableRefused window enable same => rw [same, enable.fixture_eq, window.fixture_eq]
  | mounted window enable mounts =>
    rw [mounts.fixture_eq, enable.fixture_eq, window.fixture_eq]

/-! What a region has got is seen at the last place, since regions are set up in order. -/

variable {c : Compositor A W D} {before : List (Bool × Bool)} {outfit : Bool × Bool}
variable {r r' : Region W D}

theorem outfits_setLast (all : c.outfits = before ++ [outfit]) (last : before.length = k) :
    (c.setRegion k r').outfits = before ++ [r'.outfit] := by
  rw [outfits, setRegion, List.map_set]
  subst last
  have all : c.regions.map Region.outfit = before ++ [outfit] := all
  simp [all]

theorem outfit_last (all : c.outfits = before ++ [outfit]) (last : before.length = k)
    (here : c.regions[k]? = some r) : r.outfit = outfit := by
  have there : c.outfits[k]? = some r.outfit := by rw [outfits, List.getElem?_map, here]; rfl
  subst last
  simpa [all] using there.symm

theorem Attempts.outfits_eq {α : Type} {call : Call} {task : Run σ ι α} {a : α}
    (h : Attempts crew call task v new a v') : v'.compositor.outfits = v.compositor.outfits :=
  congrArg Shape.outfits h.shape_eq

theorem Mounts.outfits_eq {window : W} (h : Mounts crew policy asked window v new fate v')
    (bare : v.compositor.outfits = before ++ [(false, false)])
    (last : before.length = asked.index) :
    v'.compositor.outfits = before ++ [fate.outfit policy] := by
  cases h with
  | tolerated tolerant attempt here =>
    have bare₁ := attempt.outfits_eq.trans bare
    have none : _ = (false, false) := outfit_last bare₁ last here
    -- The window goes into a region that has no display.
    simp only [Region.outfit, Prod.mk.injEq] at none
    rw [View.compositor_become, outfits_setLast bare₁ last, tolerant]
    simp [Region.outfit, none.2, Fate.outfit]
  | aborted aborting attempt same =>
    rw [same, attempt.outfits_eq, bare, aborting]
    rfl
  | ready attempt adopts =>
    have bare₁ := attempt.outfits_eq.trans bare
    cases adopts with
    | fitting | resized =>
      rw [View.compositor_become, outfits_setLast bare₁ last]
      rfl

theorem Equips.outfits_eq (h : Equips crew policy asked v new fate v')
    (bare : v.compositor.outfits = before ++ [(false, false)])
    (last : before.length = asked.index) :
    v'.compositor.outfits = before ++ [fate.outfit policy] := by
  cases h with
  | windowRefused window => rw [window.outfits_eq, bare]; rfl
  | enableRefused window enable same =>
    rw [same, enable.outfits_eq, window.outfits_eq, bare]
    rfl
  | mounted window enable mounts =>
    exact mounts.outfits_eq (by rw [enable.outfits_eq, window.outfits_eq, bare]) last

end Region

variable {settings : SplitSettings} {algorithm : A} {k : Nat} {output : Output} {fate : Fate}

theorem Opens.tidy (h : Opens crew settings algorithm k output v new fate v')
    (tidy : v.compositor.Tidy) : v'.compositor.Tidy := by
  cases h with
  | inactive => exact tidy.addBare _
  | active _ _ equips => exact equips.tidy

/-- Setting up a region leaves all alone but the queue and the regions. -/
theorem Opens.fixture_eq (h : Opens crew settings algorithm k output v new fate v') :
    v'.compositor.fixture = v.compositor.fixture := by
  cases h with
  | inactive => rfl
  | active _ _ equips => exact equips.fixture_eq

theorem Opens.placement_eq (h : Opens crew settings algorithm k output v new fate v') :
    v'.compositor.placement = v.compositor.placement :=
  placement_of_fixture_eq h.fixture_eq

/-- A region is added, and it has what its fate left it with. -/
theorem Opens.outfits_eq (h : Opens crew settings algorithm k output v new fate v')
    (next : v.compositor.regions.length = k) :
    v'.compositor.outfits = v.compositor.outfits ++ [fate.outfit settings.regionFailure] := by
  have bare (size : Size) :
      (v.compositor.withBare size).outfits = v.compositor.outfits ++ [(false, false)] := by
    simp [outfits, withBare, Region.bare, Region.outfit]
  cases h with
  | inactive => exact bare _
  | active _ wanted equips =>
    -- The region that is set up is the one that was just added.
    subst wanted
    exact equips.outfits_eq (bare _) (by simpa [outfits, request] using next)

theorem Opens.length_eq (h : Opens crew settings algorithm k output v new fate v')
    (next : v.compositor.regions.length = k) : v'.compositor.regions.length = k + 1 := by
  have count := congrArg List.length (h.outfits_eq next)
  simpa [outfits, next] using count

theorem openRegion_yields (tidy : v.compositor.Tidy) (next : v.compositor.regions.length = k) :
    (openRegion crew settings algorithm k output).Yields crew v fun result new v' =>
      ∃ fate, result = settings.regionFailure.outcome k fate ∧
        Opens crew settings algorithm k output v new fate v' := by
  subst next
  refine .bind (.compositor (.bind (.consult (.bind (.modifyCompositor ?_)))))
  rw [tidy.lockedRegions_eq_nil]
  cases shown : output.active with
  | false =>
    refine .bind (.say (.pure ⟨.inactive, rfl, ?_⟩))
    exact .inactive shown
  | true =>
    have inside : v.compositor.regions.length <
        (v.compositor.withBare (crew.algorithm.sizeFor algorithm output.format
          v.compositor.placement)).regions.length := by
      simp [withBare]
    refine Yields.mono (openWindow_yields
      (request crew settings algorithm v.compositor.placement _ output) rfl
      (tidy.addBare _) inside) ?_
    rintro result new v' ⟨fate, rfl, equips⟩
    exact ⟨fate, rfl, .active shown rfl equips⟩

/-! ## All regions -/

theorem openRegions_yields {outputs : List Output} (tidy : v.compositor.Tidy)
    (next : v.compositor.regions.length = k) :
    (openRegions crew settings algorithm k outputs).Yields crew v fun result new v' =>
      ∃ fates, OpensFrom crew settings algorithm k outputs v new fates result v' := by
  -- The place of the next region goes up with the regions that are there.
  induction outputs generalizing v k with
  | nil => exact .pure ⟨[], .done⟩
  | cons output outputs ih =>
    refine (openRegion_yields tidy next).andThen ?_
    rintro result new v₁ ⟨fate, rfl, opens⟩
    cases came : settings.regionFailure.outcome k fate with
    | error e => exact .pure ⟨[fate], by simpa using OpensFrom.failed opens came⟩
    | ok done =>
      refine (ih (opens.tidy tidy) (opens.length_eq next)).mono ?_
      rintro result more v' ⟨fates, rest⟩
      exact ⟨fate :: fates, .next opens came rest⟩

theorem OpensFrom.tidy {outputs : List Output} {fates : List Fate}
    {result : Except OpenError Unit}
    (h : OpensFrom crew settings algorithm k outputs v new fates result v')
    (tidy : v.compositor.Tidy) : v'.compositor.Tidy := by
  induction h with
  | done => exact tidy
  | failed opens => exact opens.tidy tidy
  | next opens _ _ ih => exact ih (opens.tidy tidy)

theorem OpensFrom.fixture_eq {outputs : List Output} {fates : List Fate}
    {result : Except OpenError Unit}
    (h : OpensFrom crew settings algorithm k outputs v new fates result v') :
    v'.compositor.fixture = v.compositor.fixture := by
  induction h with
  | done => rfl
  | failed opens => exact opens.fixture_eq
  | next opens _ _ ih => rw [ih, opens.fixture_eq]

/-- The outputs get their regions. After a failure everything is closed again. -/
inductive Populates (crew : Crew σ ι A W D) (settings : SplitSettings) (algorithm : A) :
    View σ A W D → List Sign → List Fate → Except OpenError Unit → View σ A W D → Prop
  | opened {v v' : View σ A W D} {new : List Sign} {fates : List Fate}
      (opens : OpensFrom crew settings algorithm 0 v.compositor.outputs v new fates (.ok ()) v') :
      Populates crew settings algorithm v new fates (.ok ()) v'
  | failed {v v₁ v' : View σ A W D} {new : List Sign} {fates : List Fate} {e : OpenError}
      (opens : OpensFrom crew settings algorithm 0 v.compositor.outputs v new fates (.error e) v₁)
      (gone : v'.compositor = v₁.compositor.closed) :
      Populates crew settings algorithm v
        (new ++ (v₁.compositor.farewells v₁.compositor.regions.length ++
          [.called .dropAlgorithm []])) fates (.error e) v'

theorem Populates.tidy {fates : List Fate} {result : Except OpenError Unit}
    (h : Populates crew settings algorithm v new fates result v') (tidy : v.compositor.Tidy) :
    v'.compositor.Tidy := by
  cases h with
  | opened opens => exact opens.tidy tidy
  | failed _ gone =>
    rw [gone]
    exact closed_tidy _

theorem populate_yields (tidy : v.compositor.Tidy) (empty : v.compositor.regions = [])
    (alive : v.compositor.algorithm.isSome) :
    (populate crew settings algorithm).Yields crew v fun result new v' =>
      ∃ fates, Populates crew settings algorithm v new fates result v' := by
  have none : v.compositor.regions.length = 0 := by rw [empty]; rfl
  refine .bind (.compositor (.bind (.guarding ?_)))
  refine (openRegions_yields tidy none).mono ?_
  rintro result new v₁ ⟨fates, opens⟩
  cases result with
  | ok done =>
    refine .bind (.compositor (.bind (.say (.pure ⟨fates, ?_⟩))))
    simpa using Populates.opened opens
  | error e =>
    -- Opening never lets go of the algorithm, so closing finds the split open.
    have alive₁ : v₁.compositor.algorithm.isSome := by
      rwa [algorithm_of_fixture_eq opens.fixture_eq]
    refine .bind (.say ((close_yields (opens.tidy tidy)).andThen ?_))
    intro _ _ v₂ closes
    cases closes with
    | again gone => simp [gone.1] at alive₁
    | first _ last =>
      refine .pure ⟨fates, ?_⟩
      simpa [alive₁] using Populates.failed opens last

end Compositor

end Mosaic
