import Mosaic.Proofs.Lifecycle

/-!
# The first refusal

While regions are set up every step may be refused, and the failure policy decides what a
refusal means. Under the aborting policy the steps are taken in order up to the first that is
refused; that one is reported, and nothing is asked for beyond it. Under the tolerant policy
every output gets its region, and a region has what was not refused to it.

Which steps are refused is given by a pattern, which a run follows where it asks for a step.

## Main definitions

* `requests`, `steps` — what there is to be asked for, in order
* `asksOf`, `Follows` — what was asked for, and answers that follow a pattern

## Main results

* `OpensFrom.aborts` — the aborting policy stops at the first refusal
* `OpensFrom.tolerates` — the tolerant policy leaves regions with what was not refused
* `OpensFrom.exists_follows` — there is a pattern that the run follows
-/

set_option autoImplicit false

namespace Mosaic

/-- Which steps of setting up regions are refused. -/
abbrev RefusalPattern := Nat → RegionStage → Bool

/-- Whether a call asks for a step of setting up a region. -/
def Call.isAsk : Call → Bool
  | newWindow _ _ | enable _ _ | newDisplay _ _ => true
  | _ => false

/-- The calls that ask for steps of setting up regions. -/
def asksOf (signs : List Sign) : List Call := (callsOf signs).filter Call.isAsk

/-- The answers to steps of setting up regions follow a pattern. -/
def Follows (refuses : RefusalPattern) (signs : List Sign) : Prop :=
  ∀ stage k done, .step stage k done ∈ answersOf signs → done = !refuses k stage

/-- The requests for the outputs that are to be shown. -/
def requests (asked : Nat → Output → DisplayRequest) : Nat → List Output → List DisplayRequest
  | _, [] => []
  | k, output :: outputs =>
    if output.active then asked k output :: requests asked (k + 1) outputs
    else requests asked (k + 1) outputs

/-- The steps that requests take, in order. -/
def steps (asked : List DisplayRequest) : List (DisplayRequest × RegionStage) :=
  asked.flatMap fun request => [(request, .window), (request, .enable), (request, .display)]

@[simp] theorem asksOf_append (signs more : List Sign) :
    asksOf (signs ++ more) = asksOf signs ++ asksOf more := by
  rw [asksOf, callsOf_append, List.filter_append]
  rfl

theorem Follows.left {refuses : RefusalPattern} {signs more : List Sign}
    (h : Follows refuses (signs ++ more)) : Follows refuses signs := by
  intro stage k done member
  exact h stage k done (by simp [member])

theorem Follows.right {refuses : RefusalPattern} {signs more : List Sign}
    (h : Follows refuses (signs ++ more)) : Follows refuses more := by
  intro stage k done member
  exact h stage k done (by simp [member])

theorem asksOf_setupOf (signs : List Sign) : asksOf (setupOf signs) = asksOf signs := by
  rw [asksOf, callsOf_setupOf, List.filter_filter]
  apply List.filter_congr
  intro call _
  cases call <;> rfl

namespace Compositor

variable {σ ι A W D : Type} {crew : Crew σ ι A W D} {v v' : View σ A W D} {new : List Sign}
variable {settings : SplitSettings} {algorithm : A} {k : Nat} {output : Output} {fate : Fate}
variable {refuses : RefusalPattern}

theorem asksOf_undoing (policy : FailurePolicy) (fate : Fate) (k : Nat) :
    asksOf ((fate.undoing policy k).map (.called · [])) = [] := by
  cases fate with
  | refused stage cause => cases stage <;> cases policy <;> rfl
  | inactive | ready => rfl

theorem Opens.asks (h : Opens crew settings algorithm k output v new fate v') :
    asksOf new = fate.tries.map fun tried =>
      (request crew settings algorithm v.compositor.placement k output).call tried.1 := by
  obtain ⟨opened, rfl, setup⟩ := h.signs
  rw [asksOf_append, asksOf_undoing, ← asksOf_setupOf, setup, List.append_nil]
  cases fate with
  | refused stage cause => cases stage <;> rfl
  | inactive | ready => rfl

/-- What a region meets follows the pattern. -/
theorem Opens.follows (h : Opens crew settings algorithm k output v new fate v')
    (follows : Follows refuses new) : ∀ tried ∈ fate.tries, tried.2 = !refuses k tried.1 := by
  obtain ⟨opened, rfl, setup⟩ := h.signs
  rintro ⟨stage, done⟩ member
  apply follows.left stage k done
  rw [← List.count_pos_iff, count_steps, List.count_pos_iff, setup]
  cases fate with
  | refused tried cause =>
    cases tried <;> simp_all [Fate.setup, Fate.tries, DisplayRequest.attempt, request]
  | inactive | ready => simp_all [Fate.setup, Fate.tries, DisplayRequest.attempt, request]

/-! ## The aborting policy -/

/-- Under the aborting policy either no step is refused and all are asked for, or what is asked
for ends with the first step that is refused, and this one is reported. -/
def Aborts (refuses : RefusalPattern) (asked : List DisplayRequest) (calls : List Call) :
    Except OpenError Unit → Prop
  | .ok () => (∀ step ∈ steps asked, refuses step.1.index step.2 = false) ∧
      calls = (steps asked).map fun step => step.1.call step.2
  | .error e => ∃ before request stage after cause,
      steps asked = before ++ (request, stage) :: after ∧
      (∀ step ∈ before, refuses step.1.index step.2 = false) ∧
      refuses request.index stage = true ∧ e = .regionFailed request.index stage cause ∧
      calls = (before ++ [(request, stage)]).map fun step => step.1.call step.2

theorem steps_cons (asked : DisplayRequest) (rest : List DisplayRequest) :
    steps (asked :: rest) =
      [(asked, .window), (asked, .enable), (asked, .display)] ++ steps rest :=
  rfl

/-- What is said of later steps can be said with steps before them that are not refused. -/
theorem Aborts.prepend {asked : DisplayRequest} {rest : List DisplayRequest} {calls : List Call}
    {result : Except OpenError Unit} (h : Aborts refuses rest calls result)
    (granted : ∀ stage, refuses asked.index stage = false) :
    Aborts refuses (asked :: rest)
      ([asked.call .window, asked.call .enable, asked.call .display] ++ calls) result := by
  have first : ∀ step ∈ [(asked, RegionStage.window), (asked, .enable), (asked, .display)],
      refuses step.1.index step.2 = false := by
    simp [granted]
  cases result with
  | ok done =>
    obtain ⟨none, rfl⟩ := h
    refine ⟨fun step member => ?_, by rw [steps_cons, List.map_append]; rfl⟩
    rcases List.mem_append.mp (steps_cons asked rest ▸ member) with here | later
    · exact first step here
    · exact none step later
  | error e =>
    obtain ⟨before, request, stage, after, cause, split, none, refused, told, rfl⟩ := h
    refine ⟨[(asked, .window), (asked, .enable), (asked, .display)] ++ before, request, stage,
      after, cause, by rw [steps_cons, split, List.append_assoc], fun step member => ?_, refused,
      told, rfl⟩
    rcases List.mem_append.mp member with here | earlier
    · exact first step here
    · exact none step earlier

theorem OpensFrom.aborts {outputs : List Output} {fates : List Fate}
    {result : Except OpenError Unit}
    (h : OpensFrom crew settings algorithm k outputs v new fates result v')
    {asked : Nat → Output → DisplayRequest}
    (wanted : asked = request crew settings algorithm v.compositor.placement)
    (aborting : settings.regionFailure = .abort) (follows : Follows refuses new) :
    Aborts refuses (requests asked k outputs) (asksOf new) result := by
  -- Along the outputs: those before the first refusal only add steps that were granted.
  induction h with
  | done => exact ⟨by simp [requests, steps], rfl⟩
  | failed opens bad =>
    rename_i k output outputs v v' new fate e
    obtain ⟨-, stage, cause, rfl, rfl⟩ := FailurePolicy.outcome_eq_error bad
    have shown : output.active = true := by
      have tried := opens.inactive_iff
      cases stage <;> simpa [Fate.tries] using tried
    have met := opens.follows follows
    have place : (asked k output).index = k := by rw [wanted]; rfl
    rw [opens.asks, ← wanted, requests, if_pos shown]
    -- The steps of this region before the one that is refused were granted.
    cases stage with
    | window =>
      refine ⟨[], asked k output, .window, _, cause, rfl, by simp, ?_, by rw [place], rfl⟩
      simpa [Fate.tries, place] using met
    | enable =>
      refine ⟨[(asked k output, .window)], asked k output, .enable, _, cause, rfl, ?_, ?_,
        by rw [place], rfl⟩ <;> simp_all [Fate.tries]
    | display =>
      refine ⟨[(asked k output, .window), (asked k output, .enable)], asked k output, .display, _,
        cause, rfl, ?_, ?_, by rw [place], rfl⟩ <;> simp_all [Fate.tries]
  | next opens good rest ih =>
    rename_i k output outputs v v' v'' new more fate fates result
    have later := ih (by rw [wanted, opens.placement_eq]) follows.right
    have met := opens.follows follows.left
    have place : (asked k output).index = k := by rw [wanted]; rfl
    have shown := opens.inactive_iff
    rw [asksOf_append, opens.asks, ← wanted, requests]
    cases fate with
    | inactive =>
      have idle : output.active = false := shown.mp rfl
      simpa [idle, Fate.tries] using later
    | refused stage cause =>
      -- After a refusal the aborting policy does not go on.
      rw [aborting] at good
      cases good
    | ready =>
      have active : output.active = true := by simpa [Fate.tries] using shown
      rw [if_pos active]
      refine later.prepend fun stage => ?_
      rw [place]
      cases stage <;> simp_all [Fate.tries]

/-! ## The tolerant policy -/

/-- What a region has when a pattern decides what is refused: a window if its window was made and
shown, and a display if moreover its display was made. -/
def granted (refuses : RefusalPattern) (k : Nat) (output : Output) : Bool × Bool :=
  let window := output.active && !refuses k .window && !refuses k .enable
  (window, window && !refuses k .display)

theorem Opens.granted_eq (h : Opens crew settings algorithm k output v new fate v')
    (follows : Follows refuses new) : fate.outfit .tolerate = granted refuses k output := by
  have met := h.follows follows
  have shown := h.inactive_iff
  cases fate with
  | inactive =>
    have idle : output.active = false := shown.mp rfl
    simp [granted, idle, Fate.outfit]
  | refused stage cause =>
    have active : output.active = true := by cases stage <;> simpa [Fate.tries] using shown
    cases stage <;> simp_all [granted, Fate.tries, Fate.outfit]
  | ready =>
    have active : output.active = true := by simpa [Fate.tries] using shown
    simp_all [granted, Fate.tries, Fate.outfit]

/-- Under the tolerant policy nothing is reported, and every region has what was not refused. -/
theorem OpensFrom.tolerates {outputs : List Output} {fates : List Fate}
    {result : Except OpenError Unit}
    (h : OpensFrom crew settings algorithm k outputs v new fates result v')
    (tolerant : settings.regionFailure = .tolerate) (follows : Follows refuses new) :
    result = .ok () ∧ fates.map (Fate.outfit .tolerate) =
      outputs.mapIdx fun i output => granted refuses (k + i) output := by
  induction h with
  | done => exact ⟨rfl, rfl⟩
  | failed opens bad =>
    obtain ⟨aborting, -⟩ := FailurePolicy.outcome_eq_error bad
    rw [tolerant] at aborting
    cases aborting
  | next opens good rest ih =>
    obtain ⟨done, later⟩ := ih follows.right
    refine ⟨done, ?_⟩
    rw [List.map_cons, List.mapIdx_cons, opens.granted_eq follows.left, later]
    simp only [Nat.add_zero, Nat.add_assoc, Nat.add_comm 1]

/-! ## Whole openings -/

theorem asksOf_farewells (c : Compositor A W D) (count : Nat) :
    asksOf (c.farewells count) = [] := by
  rw [asksOf, List.filter_eq_nil_iff]
  intro call member
  obtain ⟨sign, here, found⟩ := List.mem_filterMap.mp member
  obtain ⟨call', locked, rfl, parting⟩ := isParting_of_mem_farewells here
  cases found
  cases call <;> first | exact Bool.false_ne_true | cases parting

variable {outputs : List Output} {fates : List Fate} {result : Except OpenError Unit}

/-- A step is tried only once, so what was refused makes a pattern that the run follows. -/
theorem OpensFrom.exists_follows
    (h : OpensFrom crew settings algorithm 0 outputs v new fates result v') :
    ∃ refuses, Follows refuses new := by
  obtain ⟨lead, rfl, setup⟩ := h.signs rfl
  have count := count_answers setup (fun _ _ => rfl) h.length_le
  refine ⟨fun k stage => decide (.step stage k false ∈ answersOf lead), ?_⟩
  intro stage k done member
  rw [answersOf_append, answersOf_map_called, List.append_nil] at member
  cases done with
  | false => simp [member]
  | true =>
    -- Done and refused, the step would have been tried twice.
    have once : (answersOf lead).count (.step stage k true) +
        (answersOf lead).count (.step stage k false) ≤ 1 := by
      rw [count, count]
      cases fates[k]? with
      | none => exact Nat.zero_le 1
      | some fate => exact fate.count_tries_le stage
    have tried := List.count_pos_iff.mpr member
    have other : .step stage k false ∉ answersOf lead := by
      rw [← List.count_eq_zero]
      omega
    simp [other]

/-- What closing shows after a failure answers nothing, and asks for nothing. -/
theorem Populates.opens (h : Populates crew settings algorithm v new fates result v') :
    ∃ opened v₁, OpensFrom crew settings algorithm 0 v.compositor.outputs v opened fates result v₁ ∧
      answersOf new = answersOf opened ∧ asksOf new = asksOf opened ∧
      match result with
      | .ok _ => v' = v₁
      | .error _ => v'.compositor = v₁.compositor.closed := by
  cases h with
  | opened opens => exact ⟨_, _, opens, rfl, rfl, rfl⟩
  | failed opens last =>
    refine ⟨_, _, opens, ?_, ?_, last⟩
    · rw [answersOf_append, answersOf_append, answersOf_farewells]
      simp
    · rw [asksOf_append, asksOf_append, asksOf_farewells]
      exact List.append_nil _

end Compositor

end Mosaic
