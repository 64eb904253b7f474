import Mosaic.Proofs.Opening

/-!
# What an opening shows

Of all that shows while regions are set up, the part about windows and displays is determined
by the fates of the regions: the steps that were tried with their answers, a window that could
not be shown let go at once, and, under the aborting policy, a window for which there was no
display taken back.

## Main definitions

* `Fate.tries`, `Fate.dropping`, `Fate.undoing` — what a fate shows
* `setups`, `undone` — what the fates of several regions show

## Main results

* `Opens.signs`, `OpensFrom.signs` — opening shows what the fates say
* `OpensFrom.length_le`, `OpensFrom.outfits_eq`, `OpensFrom.result_cases` — what it comes to
-/

set_option autoImplicit false

namespace Mosaic

/-! ## Steps of setting up -/

/-- The call that a step of setting up a region makes. -/
def DisplayRequest.call (asked : DisplayRequest) : RegionStage → Call
  | .window => .newWindow asked.index asked.window
  | .enable => .enable asked.index asked.window
  | .display => .newDisplay asked.index asked

/-- What shows of a step of setting up a region. -/
def DisplayRequest.attempt (asked : DisplayRequest) (stage : RegionStage) (done : Bool) :
    List Sign :=
  [.called (asked.call stage) [], .answered (.step stage asked.index done)]

namespace Fate

/-- The steps that were tried, and whether they were done. -/
def tries : Fate → List (RegionStage × Bool)
  | inactive => []
  | refused .window _ => [(.window, false)]
  | refused .enable _ => [(.window, true), (.enable, false)]
  | refused .display _ => [(.window, true), (.enable, true), (.display, false)]
  | ready => [(.window, true), (.enable, true), (.display, true)]

/-- The answers to the steps that were tried. -/
def answers (fate : Fate) (k : Nat) : List Answer :=
  fate.tries.map fun tried => .step tried.1 k tried.2

/-- A window that could not be shown is let go at once. -/
def dropping (k : Nat) : Fate → List Call
  | refused .enable _ => [.dropWindow k]
  | refused .window _ | refused .display _ | inactive | ready => []

/-- A window for which there is no display is taken back when the opening is given up. -/
def undoing (policy : FailurePolicy) (k : Nat) : Fate → List Call
  | refused .display _ =>
    match policy with
    | .tolerate => []
    | .abort => [.disable k, .dropWindow k]
  | refused .window _ | refused .enable _ | inactive | ready => []

/-- What shows of windows and displays while a region meets its fate. -/
def setup (asked : DisplayRequest) (fate : Fate) : List Sign :=
  fate.tries.flatMap (fun tried => asked.attempt tried.1 tried.2) ++
    (fate.dropping asked.index).map (.called · [])

/-- Where the opening goes on, nothing is taken back. -/
theorem undoing_of_outcome_eq_ok {policy : FailurePolicy} {fate : Fate} {k : Nat} {done : Unit}
    (good : policy.outcome k fate = .ok done) (i : Nat) : fate.undoing policy i = [] := by
  cases fate with
  | inactive | ready => rfl
  | refused stage cause =>
    cases policy with
    | tolerate => cases stage <;> rfl
    | abort => cases good

end Fate

/-- What shows of windows and displays while outputs from one on meet their fates. -/
def setups (asked : Nat → Output → DisplayRequest) : Nat → List Output → List Fate → List Sign
  | _, [], _ => []
  | _, _ :: _, [] => []
  | k, output :: outputs, fate :: fates =>
    fate.setup (asked k output) ++ setups asked (k + 1) outputs fates

/-- What is taken back when fates from one on have been met. -/
def undone (policy : FailurePolicy) (k : Nat) (fates : List Fate) : List Call :=
  (fates.zipIdx k).flatMap fun fate => fate.1.undoing policy fate.2

namespace Compositor

variable {σ ι A W D : Type} {crew : Crew σ ι A W D} {v v' : View σ A W D} {new : List Sign}

/-! ## One region -/

section Region

variable {policy : FailurePolicy} {asked : DisplayRequest} {fate : Fate}

theorem Attempts.setupOf_eq {α : Type} {call : Call} {task : Run σ ι α} {a : α}
    (h : Attempts crew call task v new a v') (kind : call.kind = .setup) :
    setupOf new = [.called call []] := by
  cases h with
  | mk reports ran =>
    rename_i told _
    -- Windows may report before the answer comes, which is of another kind.
    have silent : ∀ sign ∈ told, sign.kind ≠ .setup := by
      refine reports.1.forall_signs fun _ _ _ step sign member => ?_
      rcases step.kind_eq sign member with kind | kind <;> simp [kind]
    have first : (Sign.called call []).kind = .setup := kind
    rw [setupOf_cons_of_setup first, setupOf_eq_nil silent]

theorem Adopts.setupOf_eq {window : W} {d : D} (h : Adopts crew asked window d v new v') :
    setupOf new = [] := by
  cases h <;> rfl

/-- Once a window is shown, the step that is left shows the rest of the fate. -/
theorem Mounts.signs {window : W} (h : Mounts crew policy asked window v new fate v') :
    ∃ opened, new = opened ++ (fate.undoing policy asked.index).map (.called · []) ∧
      asked.attempt .window true ++ asked.attempt .enable true ++ setupOf opened =
        fate.setup asked := by
  cases h with
  | tolerated tolerant attempt =>
    refine ⟨_, by rw [tolerant]; exact (List.append_nil _).symm, ?_⟩
    rw [setupOf_append, attempt.setupOf_eq rfl]
    rfl
  | aborted aborting attempt =>
    rename_i made cause _
    refine ⟨made ++ [.answered (.step .display asked.index false)], ?_, ?_⟩
    · rw [aborting, List.append_assoc]
      rfl
    · rw [setupOf_append, attempt.setupOf_eq rfl]
      rfl
  | ready attempt adopts =>
    refine ⟨_, (List.append_nil _).symm, ?_⟩
    rw [setupOf_append, attempt.setupOf_eq rfl, setupOf_cons_of_setup rfl, adopts.setupOf_eq]
    rfl

theorem Equips.signs (h : Equips crew policy asked v new fate v') :
    ∃ opened, new = opened ++ (fate.undoing policy asked.index).map (.called · []) ∧
      setupOf opened = fate.setup asked := by
  cases h with
  | windowRefused window =>
    refine ⟨_, (List.append_nil _).symm, ?_⟩
    rw [setupOf_append, window.setupOf_eq rfl]
    rfl
  | enableRefused window enable =>
    refine ⟨_, (List.append_nil _).symm, ?_⟩
    rw [setupOf_append, window.setupOf_eq rfl, setupOf_cons_of_setup rfl, setupOf_append,
      enable.setupOf_eq rfl]
    rfl
  | mounted window enable mounts =>
    obtain ⟨opened, rfl, rest⟩ := mounts.signs
    rename_i made shown _ _
    refine ⟨made ++ .answered (.step .window asked.index true) :: (shown ++
      .answered (.step .enable asked.index true) :: opened), by simp, ?_⟩
    rw [setupOf_append, window.setupOf_eq rfl, setupOf_cons_of_setup rfl, setupOf_append,
      enable.setupOf_eq rfl, setupOf_cons_of_setup rfl]
    exact rest

end Region

section Outputs

variable {settings : SplitSettings} {algorithm : A} {k : Nat} {output : Output} {fate : Fate}

/-- A region shows what its fate says, and at the end what is taken back. -/
theorem Opens.signs (h : Opens crew settings algorithm k output v new fate v') :
    ∃ opened, new = opened ++
        (fate.undoing settings.regionFailure k).map (.called · []) ∧
      setupOf opened =
        fate.setup (request crew settings algorithm v.compositor.placement k output) := by
  cases h with
  | inactive => exact ⟨_, (List.append_nil _).symm, rfl⟩
  | active _ wanted equips =>
    obtain ⟨opened, rfl, setup⟩ := equips.signs
    subst wanted
    refine ⟨.called (.sizeHint k) [] :: opened, rfl, ?_⟩
    rw [setupOf_cons_of_ne (by simp [Sign.kind, Call.kind]), setup]

/-- An output has an inactive region just if it is not to be shown. -/
theorem Opens.inactive_iff (h : Opens crew settings algorithm k output v new fate v') :
    fate.tries = [] ↔ output.active = false := by
  cases h with
  | inactive idle => simp [idle, Fate.tries]
  | active shown _ equips =>
    have tried : fate.tries ≠ [] := by
      cases equips with
      | windowRefused | enableRefused => simp [Fate.tries]
      | mounted _ _ mounts => cases mounts <;> simp [Fate.tries]
    simp [tried, shown]

/-! ## Several regions -/

variable {outputs : List Output} {fates : List Fate} {result : Except OpenError Unit}

/-- Opening shows what the fates say, and at the end what is taken back. -/
theorem OpensFrom.signs (h : OpensFrom crew settings algorithm k outputs v new fates result v')
    {asked : Nat → Output → DisplayRequest}
    (wanted : asked = request crew settings algorithm v.compositor.placement) :
    ∃ opened, new = opened ++ (undone settings.regionFailure k fates).map (.called · []) ∧
      setupOf opened = setups asked k outputs fates := by
  induction h with
  | done => exact ⟨[], rfl, rfl⟩
  | failed opens bad =>
    obtain ⟨opened, rfl, setup⟩ := opens.signs
    refine ⟨opened, by simp [undone], ?_⟩
    -- The outputs behind the failure have no fate, and nothing shows of them.
    rename_i k _ outputs _ _ _ _
    have none : setups asked (k + 1) outputs [] = [] := by cases outputs <;> rfl
    rw [setup, setups, none, wanted, List.append_nil]
  | next opens good rest ih =>
    obtain ⟨opened, rfl, setup⟩ := opens.signs
    obtain ⟨opened', rfl, setup'⟩ := ih (by rw [wanted, opens.placement_eq])
    -- Nothing is taken back where opening goes on, so what is taken back is at the end.
    refine ⟨opened ++ opened', ?_, ?_⟩
    · simp [undone, Fate.undoing_of_outcome_eq_ok good]
    · rw [setupOf_append, setup, setup', setups, wanted]

theorem OpensFrom.length_le
    (h : OpensFrom crew settings algorithm k outputs v new fates result v') :
    fates.length ≤ outputs.length := by
  induction h with
  | done => exact Nat.le_refl _
  | failed => simp
  | next _ _ _ ih => simpa using ih

/-- The regions have what their fates left them with. -/
theorem OpensFrom.outfits_eq
    (h : OpensFrom crew settings algorithm k outputs v new fates result v')
    (next : v.compositor.regions.length = k) :
    v'.compositor.outfits =
      v.compositor.outfits ++ fates.map (Fate.outfit settings.regionFailure) := by
  induction h with
  | done => simp
  | failed opens => exact opens.outfits_eq next
  | next opens _ _ ih =>
    rw [ih (opens.length_eq next), opens.outfits_eq next, List.append_assoc]
    rfl

/-- Either every output met its fate and opening went on, or the last fate met ended it. -/
theorem OpensFrom.result_cases
    (h : OpensFrom crew settings algorithm k outputs v new fates result v') :
    (result = .ok () ∧ fates.length = outputs.length ∧
      ∀ fate ∈ fates, ∀ i, fate.undoing settings.regionFailure i = []) ∨
    ∃ good fate e, fates = good ++ [fate] ∧ result = .error e ∧
      settings.regionFailure.outcome (k + good.length) fate = .error e ∧
      ∀ fate ∈ good, ∀ i, fate.undoing settings.regionFailure i = [] := by
  induction h with
  | done => exact .inl ⟨rfl, rfl, by simp⟩
  | failed _ bad => exact .inr ⟨[], _, _, rfl, rfl, bad, by simp⟩
  | next _ good _ ih =>
    have first := Fate.undoing_of_outcome_eq_ok good
    rcases ih with ⟨result, count, rest⟩ | ⟨before, last, e, rfl, result, bad, rest⟩
    · refine .inl ⟨result, by simp [count], fun fate member => ?_⟩
      rcases List.mem_cons.mp member with rfl | later
      · exact first
      · exact rest fate later
    · refine .inr ⟨_ :: before, last, e, rfl, result, ?_, fun fate member => ?_⟩
      · rw [List.length_cons, Nat.add_comm before.length, ← Nat.add_assoc]
        exact bad
      · rcases List.mem_cons.mp member with rfl | later
        · exact first
        · exact rest fate later

/-- An opening fails at a region and at nothing else. -/
theorem Populates.error_eq {e : OpenError}
    (h : Populates crew settings algorithm v new fates (.error e) v') :
    ∃ k stage cause, e = .regionFailed k stage cause := by
  cases h with
  | failed opens =>
    rcases opens.result_cases with ⟨good, -⟩ | ⟨before, fate, e', -, same, bad, -⟩
    · cases good
    · cases same
      obtain ⟨-, stage, cause, -, rfl⟩ := FailurePolicy.outcome_eq_error bad
      exact ⟨_, stage, cause, rfl⟩

end Outputs

end Compositor

end Mosaic
