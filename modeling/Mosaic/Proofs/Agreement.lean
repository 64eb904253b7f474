import Mosaic.Proofs.Refusal

/-!
# Where the failure policy makes no difference

The failure policy is looked at only once a step was refused. So an opening in which nothing is
refused goes on in the same way under either policy: it makes the same calls, and it ends in the
same state.

## Main definitions

* `Refused` — a step was refused
* `Act.Agrees` — two actions do the same where nothing is refused

## Main results

* `openRegions_agrees`, `populate_agrees` — opening under two policies
-/

set_option autoImplicit false

namespace Mosaic

/-- A step of setting up a region was refused. -/
def Refused (signs : List Sign) : Prop := ∃ stage k, .step stage k false ∈ answersOf signs

theorem Refused.append_left {signs : List Sign} (h : Refused signs) (more : List Sign) :
    Refused (signs ++ more) := by
  obtain ⟨stage, k, member⟩ := h
  exact ⟨stage, k, by simp [member]⟩

theorem Refused.append_right {more : List Sign} (h : Refused more) (signs : List Sign) :
    Refused (signs ++ more) := by
  obtain ⟨stage, k, member⟩ := h
  exact ⟨stage, k, by simp [member]⟩

namespace Act

variable {σ ι A W D α β : Type} {crew : Crew σ ι A W D} {v : View σ A W D}
variable {act act' : Act σ ι A W D α} {next next' : α → Act σ ι A W D β}

/-- Started on a view, a second action does what a first one does, where nothing is refused. -/
def Agrees (act act' : Act σ ι A W D α) (v : View σ A W D) : Prop :=
  ∀ s : Running σ ι A W D, s.view = v → ∀ a t, act s = .ok a t → ¬ Refused t.world.signs →
    act' s = .ok a t

namespace Agrees

theorem refl (act : Act σ ι A W D α) (v : View σ A W D) : act.Agrees act v :=
  fun _ _ _ _ ran _ => ran

/-- After a refusal there is nothing to agree about. -/
theorem ofRefused (crew : Crew σ ι A W D) (h : act.Yields crew v fun _ new _ => Refused new) :
    act.Agrees act' v := by
  intro s seen a t ran clean
  have yield := h s seen
  rw [ran] at yield
  obtain ⟨new, signs, refused⟩ := yield
  rw [signs] at clean
  exact (clean (refused.append_right _)).elim

/-- Actions agree that agree after a common beginning. -/
theorem bind (crew : Crew σ ι A W D)
    (h : act.Yields crew v fun a _ v' => (next a).Agrees (next' a) v') :
    (act >>= next).Agrees (act >>= next') v := by
  intro s seen b u ran clean
  have yield := h s seen
  simp only [Bind.bind, EStateM.bind] at ran ⊢
  cases first : act s with
  | error fault t =>
    rw [first] at ran
    cases ran
  | ok a t =>
    rw [first] at ran yield
    obtain ⟨new, signs, agrees⟩ := yield
    exact agrees t rfl b u ran clean

/-- Agreement carries on, as what comes later takes no refusal back. -/
theorem andThen (crew : Crew σ ι A W D) (start : act.Agrees act' v)
    (h : act.Yields crew v fun a _ v' => (next a).Agrees (next' a) v' ∧
      (next a).Yields crew v' fun _ _ _ => True) :
    (act >>= next).Agrees (act' >>= next') v := by
  intro s seen b u ran clean
  have yield := h s seen
  simp only [Bind.bind, EStateM.bind] at ran ⊢
  cases first : act s with
  | error fault t =>
    rw [first] at ran
    cases ran
  | ok a t =>
    rw [first] at ran yield
    have ran : next a t = .ok b u := ran
    obtain ⟨new, signs, agrees, later⟩ := yield
    -- That nothing is refused in the end says so of the beginning, as signs only grow.
    have grown := later t rfl
    rw [ran] at grown
    obtain ⟨more, signs', -⟩ := grown
    have clean' : ¬ Refused t.world.signs := by
      intro refused
      exact clean (signs' ▸ refused.append_left more)
    rw [start s seen a t first clean']
    exact agrees t rfl b u ran clean

theorem guarding {cleanup : Act σ ι A W D Unit} (h : act.Agrees act' v) :
    (Act.guarding cleanup act).Agrees (Act.guarding cleanup act') v := by
  intro s seen a t ran clean
  rw [Act.guarding] at ran ⊢
  cases first : act s with
  | ok a' t' =>
    rw [first] at ran
    cases ran
    rw [h s seen a t first clean]
  | error fault t' =>
    rw [first] at ran
    cases last : cleanup t' <;> simp only [last] at ran <;> cases ran

end Agrees

end Act

namespace Compositor

open Act

variable {σ ι A W D : Type} {crew : Crew σ ι A W D} {v : View σ A W D} {k : Nat}

/-- After a refusal was answered, whatever follows has seen a refusal. -/
theorem refused_yields {α : Type} {rest : Act σ ι A W D α} {stage : RegionStage}
    (h : rest.Yields crew v fun _ _ _ => True) :
    Yields crew (do answered (.step stage k false); rest) v fun _ new _ => Refused new := by
  refine .bind (.answered (h.mono fun _ more _ _ => ?_))
  exact ⟨stage, k, by simp⟩

theorem stepFailed_ends (policy : FailurePolicy) (stage : RegionStage) (cause : Cause) :
    (stepFailed policy k stage cause : Act σ ι A W D _).Yields crew v fun _ _ _ => True :=
  (stepFailed_yields policy k stage cause).mono fun _ _ _ _ => trivial

theorem openDisplay_agrees (policy policy' : FailurePolicy) {output : Output}
    {settings : WindowSettings} {window : W} (tidy : v.compositor.Tidy)
    (inside : k < v.compositor.regions.length) :
    (openDisplay crew policy output k settings window).Agrees
      (openDisplay crew policy' output k settings window) v := by
  refine .bind crew (.guarding ((attempt_yields _ .display _ (.newDisplay _ _) tidy).mono ?_))
  intro result made v₁ attempt
  have inside₁ := attempt.inside inside
  cases result with
  | ok display => exact .refl _ _
  | error cause =>
    -- The policies part ways here, but only after the refusal was answered.
    refine .ofRefused crew (refused_yields ?_)
    cases policy with
    | tolerate =>
      obtain ⟨r, here⟩ : ∃ r, v₁.compositor.regions[k]? = some r :=
        ⟨_, List.getElem?_eq_getElem inside₁⟩
      exact .bind (.underLock attempt.tidy here (.changeRegion (stepFailed_ends _ _ _)))
    | abort =>
      exact (destroyWindow_yields _ _).andThen fun _ _ _ _ => stepFailed_ends _ _ _

theorem openWindow_agrees (policy policy' : FailurePolicy) {output : Output}
    {settings : WindowSettings} (tidy : v.compositor.Tidy)
    (inside : k < v.compositor.regions.length) :
    (openWindow crew policy output k settings).Agrees
      (openWindow crew policy' output k settings) v := by
  refine .bind crew ((attempt_yields _ .window _ (.newWindow _ _) tidy).mono ?_)
  intro result made v₁ asked
  cases result with
  | error cause => exact .ofRefused crew (refused_yields (stepFailed_ends _ _ _))
  | ok window =>
    refine .bind crew (.answered (.bind crew (.guarding ?_)))
    refine (attempt_yields _ .enable _ (.enable _ _) asked.tidy).mono ?_
    rintro ⟨result, window'⟩ shown v₂ enabled
    cases result with
    | error cause =>
      refine .ofRefused crew (refused_yields ?_)
      exact (dropWindow_yields _ _).andThen fun _ _ _ _ => stepFailed_ends _ _ _
    | ok done =>
      have inside₂ := enabled.inside (asked.inside inside)
      exact .bind crew (.answered (openDisplay_agrees policy policy' enabled.tidy inside₂))

/-- The same settings with a failure policy. -/
def withPolicy (settings : SplitSettings) (policy : FailurePolicy) : SplitSettings :=
  { settings with regionFailure := policy }

variable {settings : SplitSettings} {algorithm : A} {output : Output} {outputs : List Output}

theorem openRegion_agrees (policy : FailurePolicy) (tidy : v.compositor.Tidy)
    (next : v.compositor.regions.length = k) :
    (openRegion crew settings algorithm k output).Agrees
      (openRegion crew (withPolicy settings policy) algorithm k output) v := by
  subst next
  refine .bind crew (.compositor (.bind crew (.consult (.bind crew (.modifyCompositor ?_)))))
  cases output.active with
  | false => exact .refl _ _
  | true =>
    have inside : v.compositor.regions.length <
        (v.compositor.withBare (crew.algorithm.sizeFor algorithm output.format
          v.compositor.placement)).regions.length := by
      simp [withBare]
    exact openWindow_agrees settings.regionFailure policy (tidy.addBare _) inside

theorem openRegions_agrees (policy : FailurePolicy) (tidy : v.compositor.Tidy)
    (next : v.compositor.regions.length = k) :
    (openRegions crew settings algorithm k outputs).Agrees
      (openRegions crew (withPolicy settings policy) algorithm k outputs) v := by
  induction outputs generalizing v k with
  | nil => exact .refl _ _
  | cons output outputs ih =>
    refine .andThen crew (openRegion_agrees policy tidy next) ?_
    refine (openRegion_yields tidy next).mono ?_
    rintro result new v₁ ⟨fate, rfl, opens⟩
    have tidy₁ := opens.tidy tidy
    have next₁ := opens.length_eq next
    -- The outcome is a result of the first region by now, and decides for both in one way.
    cases settings.regionFailure.outcome k fate with
    | error e => exact ⟨.refl _ _, .pure trivial⟩
    | ok done =>
      exact ⟨ih tidy₁ next₁, (openRegions_yields tidy₁ next₁).mono fun _ _ _ _ => trivial⟩

theorem populate_agrees (policy : FailurePolicy) (tidy : v.compositor.Tidy)
    (empty : v.compositor.regions = []) :
    (populate crew settings algorithm).Agrees
      (populate crew (withPolicy settings policy) algorithm) v := by
  have none : v.compositor.regions.length = 0 := by rw [empty]; rfl
  refine .bind crew (.compositor ?_)
  refine .andThen crew (.guarding (openRegions_agrees policy tidy none)) (.guarding ?_)
  refine (openRegions_yields tidy none).mono ?_
  rintro result new v₁ ⟨fates, opens⟩
  cases result with
  | error e =>
    refine ⟨.refl _ _, .bind (.say ?_)⟩
    exact (close_yields (opens.tidy tidy)).andThen fun _ _ _ _ => .pure trivial
  | ok done => exact ⟨.refl _ _, .bind (.compositor (.bind (.say (.pure trivial))))⟩

end Compositor

end Mosaic
