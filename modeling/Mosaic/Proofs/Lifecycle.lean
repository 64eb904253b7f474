import Mosaic.Proofs.Parting
import Mosaic.Proofs.Start

/-!
# What is made is given back exactly once

However an opening goes and whatever is done afterwards: once the compositor is closed, every
display that was made has been closed, and every window that was shown has been hidden and let
go, each exactly once and in the reverse order of the regions, and the algorithm has been let go
last. After that nobody but the parent window is called any more.

## Main definitions

* `duties` — what must be called for a region, by what was answered while it was set up
* `Lifecycle` — the law

## Main results

* `lifecycle_of_fates` — what the fates oblige to is called as the law says
* `use_lifecycle` — the law for opening, any operations and closing
-/

set_option autoImplicit false

namespace Mosaic

/-- What must be called for a region in the end: its display is closed and let go if one was
made, and then its window is hidden and let go if it was shown. -/
def duties (answers : List Answer) (k : Nat) : List Call :=
  partings (decide (.step .enable k true ∈ answers), decide (.step .display k true ∈ answers)) k

/-- What is made is given back exactly once, and in order. -/
structure Lifecycle (signs : List Sign) : Prop where
  /-- A step of setting up a region is taken at most once. -/
  tried_once : ∀ stage k, (answersOf signs).count (.step stage k true) +
    (answersOf signs).count (.step stage k false) ≤ 1
  /-- A display that was made is closed exactly once. -/
  closed_once : ∀ k, (callsOf signs).count (.close k) =
    (answersOf signs).count (.step .display k true)
  /-- A display that was made is let go exactly once. -/
  display_dropped_once : ∀ k, (callsOf signs).count (.dropDisplay k) =
    (answersOf signs).count (.step .display k true)
  /-- A window that was shown is hidden exactly once, and no other one is. -/
  disabled_once : ∀ k, (callsOf signs).count (.disable k) =
    (answersOf signs).count (.step .enable k true)
  /-- A window that was made is let go exactly once, shown or not. -/
  window_dropped_once : ∀ k, (callsOf signs).count (.dropWindow k) =
    (answersOf signs).count (.step .window k true)
  /-- The algorithm is let go exactly once. -/
  algorithm_dropped_once : (callsOf signs).count .dropAlgorithm = 1
  /-- The duties are called without anything in between, the last region first, and the algorithm
  goes last. Before that nothing is given back but a window that could not be shown, and after
  that only the parent hears anything. -/
  in_order : ∃ count before after,
    callsOf signs = before ++ ((List.range count).reverse.flatMap (duties (answersOf signs)) ++
      .dropAlgorithm :: after) ∧
    (∀ call ∈ before, call.isParting = true →
      ∃ k, call = .dropWindow k ∧ .step .enable k false ∈ answersOf signs) ∧
    ∀ call ∈ after, ∃ event, call = .report event

theorem region?_of_mem_dropping {fate : Fate} {call : Call} {k : Nat}
    (h : call ∈ fate.dropping k) : call.region? = some k := by
  cases fate with
  | refused stage cause => cases stage <;> simp_all [Fate.dropping, Call.region?]
  | inactive | ready => simp [Fate.dropping] at h

theorem region?_of_mem_parting {fate : Fate} {call : Call} {k : Nat}
    (h : call ∈ fate.parting k) : call.region? = some k := by
  have listed : call ∈ [Call.close k, .dropDisplay k, .disable k, .dropWindow k] := by
    simp only [Fate.parting, partings, List.mem_append] at h
    rcases h with display | window
    · split at display
      · simp only [List.mem_cons, List.not_mem_nil, or_false] at display
        rcases display with rfl | rfl <;> simp
      · cases display
    · split at window
      · simp only [List.mem_cons, List.not_mem_nil, or_false] at window
        rcases window with rfl | rfl <;> simp
      · cases window
  simp only [List.mem_cons, List.not_mem_nil, or_false] at listed
  rcases listed with rfl | rfl | rfl | rfl <;> rfl

/-- A step is tried at most once. -/
theorem Fate.count_tries_le (fate : Fate) (stage : RegionStage) :
    fate.tries.count (stage, true) + fate.tries.count (stage, false) ≤ 1 := by
  cases fate with
  | refused tried cause => cases tried <;> cases stage <;> simp only [Fate.tries] <;> decide
  | inactive | ready => cases stage <;> simp only [Fate.tries] <;> decide

/-- What was done for a region is made good for once, while it is set up or in the end. -/
theorem Fate.balance (fate : Fate) (k : Nat) :
    (fate.dropping k ++ fate.parting k).count (.close k) = fate.tries.count (.display, true) ∧
    (fate.dropping k ++ fate.parting k).count (.dropDisplay k) =
      fate.tries.count (.display, true) ∧
    (fate.dropping k ++ fate.parting k).count (.disable k) = fate.tries.count (.enable, true) ∧
    (fate.dropping k ++ fate.parting k).count (.dropWindow k) =
      fate.tries.count (.window, true) := by
  cases fate with
  | refused tried cause =>
    cases tried <;> simp [Fate.dropping, Fate.parting, partings, Fate.outfit, Fate.tries]
  | inactive | ready => simp [Fate.dropping, Fate.parting, partings, Fate.outfit, Fate.tries]

/-! ## Counting -/

/-- What only the entry with one number can hold is counted there. -/
theorem count_flatMap_zipIdx {α β : Type} [DecidableEq β] (g : α → Nat → List β) (x : β) (j : Nat)
    (only : ∀ a i, i ≠ j → x ∉ g a i) (l : List α) (k : Nat) :
    ((l.zipIdx k).flatMap fun p => g p.1 p.2).count x =
      if k ≤ j then (l[j - k]?).elim 0 fun a => (g a j).count x else 0 := by
  -- The number of the first entry goes up along the list, until it is past the one counted.
  induction l generalizing k with
  | nil => simp
  | cons a l ih =>
    rw [List.zipIdx_cons, List.flatMap_cons, List.count_append, ih]
    by_cases here : k = j
    · subst here
      have past : ¬ k + 1 ≤ k := by omega
      simp [past]
    · rw [List.count_eq_zero.mpr (only a k here), Nat.zero_add]
      by_cases before : k ≤ j
      · have next : j - k = j - (k + 1) + 1 := by omega
        rw [if_pos before, if_pos (by omega), next, List.getElem?_cons_succ]
      · rw [if_neg before, if_neg (by omega)]

theorem callsOf_setupOf (signs : List Sign) :
    callsOf (setupOf signs) = (callsOf signs).filter fun call => call.kind = .setup := by
  induction signs with
  | nil => rfl
  | cons sign signs ih =>
    by_cases setup : sign.kind = .setup
    · rw [setupOf_cons_of_setup setup]
      cases sign with
      | called call locked =>
        have setup : call.kind = .setup := setup
        simp [ih, setup]
      | answered | reported => simpa using ih
    · rw [setupOf_cons_of_ne setup]
      cases sign with
      | called call locked =>
        have setup : call.kind ≠ .setup := setup
        simp [ih, setup]
      | answered | reported => simpa using ih

theorem answersOf_setupOf (signs : List Sign) :
    answersOf (setupOf signs) =
      (answersOf signs).filter fun answer => (Sign.answered answer).kind = .setup := by
  induction signs with
  | nil => rfl
  | cons sign signs ih =>
    by_cases setup : sign.kind = .setup
    · rw [setupOf_cons_of_setup setup]
      cases sign with
      | answered answer => simp [ih, setup]
      | called | reported => simpa using ih
    · rw [setupOf_cons_of_ne setup]
      cases sign with
      | answered answer => simp [ih, setup]
      | called | reported => simpa using ih

theorem count_callsOf {call : Call} (setup : call.kind = .setup) (signs : List Sign) :
    (callsOf signs).count call = (callsOf (setupOf signs)).count call := by
  rw [callsOf_setupOf, List.count_filter (by simpa using setup)]

theorem count_steps (stage : RegionStage) (k : Nat) (done : Bool) (signs : List Sign) :
    (answersOf signs).count (.step stage k done) =
      (answersOf (setupOf signs)).count (.step stage k done) := by
  rw [answersOf_setupOf, List.count_filter (by simp [Sign.kind])]

/-! ## What the fates show -/

section Fates

variable {asked : Nat → Output → DisplayRequest} {outputs : List Output} {fates : List Fate}
variable {k : Nat}

theorem answersOf_setups (place : ∀ k output, (asked k output).index = k)
    (short : fates.length ≤ outputs.length) :
    answersOf (setups asked k outputs fates) =
      (fates.zipIdx k).flatMap fun fate => fate.1.answers fate.2 := by
  induction fates generalizing outputs k with
  | nil => cases outputs <;> rfl
  | cons fate fates ih =>
    cases outputs with
    | nil => simp at short
    | cons output outputs =>
      rw [setups, answersOf_append, ih (by simpa using short), List.zipIdx_cons,
        List.flatMap_cons]
      congr 1
      cases fate with
      | refused stage cause =>
        cases stage <;>
          simp [Fate.setup, Fate.answers, Fate.tries, Fate.dropping, DisplayRequest.attempt, place]
      | inactive | ready =>
        simp [Fate.setup, Fate.answers, Fate.tries, Fate.dropping, DisplayRequest.attempt, place]

theorem partings_setups (place : ∀ k output, (asked k output).index = k)
    (short : fates.length ≤ outputs.length) :
    (callsOf (setups asked k outputs fates)).filter Call.isParting =
      (fates.zipIdx k).flatMap fun fate => fate.1.dropping fate.2 := by
  induction fates generalizing outputs k with
  | nil => cases outputs <;> rfl
  | cons fate fates ih =>
    cases outputs with
    | nil => simp at short
    | cons output outputs =>
      rw [setups, callsOf_append, List.filter_append, ih (by simpa using short),
        List.zipIdx_cons, List.flatMap_cons]
      congr 1
      cases fate with
      | refused stage cause =>
        cases stage <;>
          simp [Fate.setup, Fate.tries, Fate.dropping, DisplayRequest.attempt,
            DisplayRequest.call, Call.isParting, place]
      | inactive | ready =>
        simp [Fate.setup, Fate.tries, Fate.dropping, DisplayRequest.attempt, DisplayRequest.call,
          Call.isParting]

end Fates

/-! ## The law -/

section Law

variable {asked : Nat → Output → DisplayRequest} {outputs : List Output} {fates : List Fate}
variable {lead leaving later : List Sign}

/-- The fates decide how often a step was answered in which way. -/
theorem count_answers (setup : setupOf lead = setups asked 0 outputs fates)
    (place : ∀ k output, (asked k output).index = k) (short : fates.length ≤ outputs.length)
    (stage : RegionStage) (k : Nat) (done : Bool) :
    (answersOf lead).count (.step stage k done) =
      (fates[k]?).elim 0 fun fate => fate.tries.count (stage, done) := by
  have only (fate : Fate) (i : Nat) (other : i ≠ k) :
      Answer.step stage k done ∉ fate.answers i := by
    simp [Fate.answers, other]
  have here (fate : Fate) :
      (fate.answers k).count (.step stage k done) = fate.tries.count (stage, done) := by
    cases fate with
    | refused tried cause =>
      cases tried <;> cases stage <;> cases done <;> simp [Fate.answers, Fate.tries]
    | inactive | ready => cases stage <;> cases done <;> simp [Fate.answers, Fate.tries]
  rw [count_steps, setup, answersOf_setups place short,
    count_flatMap_zipIdx Fate.answers _ k only, if_pos k.zero_le]
  simp only [here, Nat.sub_zero]

/-- While regions are set up a window is let go only if it could not be shown. -/
theorem count_partings (setup : setupOf lead = setups asked 0 outputs fates)
    (place : ∀ k output, (asked k output).index = k) (short : fates.length ≤ outputs.length)
    {call : Call} {k : Nat} (parting : call.isParting = true) (region : call.region? = some k) :
    (callsOf lead).count call = (fates[k]?).elim 0 fun fate => (fate.dropping k).count call := by
  have only (fate : Fate) (i : Nat) (other : i ≠ k) : call ∉ fate.dropping i := by
    intro member
    exact other (Option.some.inj ((region?_of_mem_dropping member).symm.trans region))
  rw [count_callsOf (kind_of_isParting parting), setup,
    ← List.count_filter (p := Call.isParting) parting, partings_setups place short,
    count_flatMap_zipIdx (fun fate i => Fate.dropping i fate) _ k only, if_pos k.zero_le]
  rfl

/-- While regions are set up nothing is given back but a window that could not be shown. -/
theorem of_mem_partings (setup : setupOf lead = setups asked 0 outputs fates)
    (place : ∀ k output, (asked k output).index = k) (short : fates.length ≤ outputs.length)
    {call : Call} (member : call ∈ callsOf lead) (parting : call.isParting = true) :
    ∃ k cause, fates[k]? = some (.refused .enable cause) ∧ call = .dropWindow k := by
  have kind : call.kind = .setup := kind_of_isParting parting
  have listed : call ∈ (callsOf (setupOf lead)).filter Call.isParting := by
    rw [callsOf_setupOf]
    simp [member, kind, parting]
  rw [setup, partings_setups place short, List.mem_flatMap] at listed
  obtain ⟨⟨fate, k⟩, found, dropped⟩ := listed
  have here : fates[k]? = some fate := List.mem_zipIdx_iff_getElem?.mp found
  cases fate with
  | refused stage cause =>
    cases stage with
    | enable => exact ⟨k, cause, here, by simpa [Fate.dropping] using dropped⟩
    | window | display => simp [Fate.dropping] at dropped
  | inactive | ready => simp [Fate.dropping] at dropped

theorem count_parted {call : Call} {k : Nat} (region : call.region? = some k) :
    (parted fates).count call = (fates[k]?).elim 0 fun fate => (fate.parting k).count call := by
  have only (fate : Fate) (i : Nat) (other : i ≠ k) : call ∉ fate.parting i := by
    intro member
    exact other (Option.some.inj ((region?_of_mem_parting member).symm.trans region))
  -- The order in which regions are given back does not matter for counting.
  have order : (parted fates).Perm (fates.zipIdx.flatMap fun fate => fate.1.parting fate.2) :=
    (List.reverse_perm _).flatMap_right _
  rw [order.count_eq, count_flatMap_zipIdx Fate.parting _ k only, if_pos k.zero_le]
  rfl

/-- What the fates oblige to is called in the order that the duties say. -/
theorem parted_eq_duties {answers : List Answer}
    (count : ∀ stage k, answers.count (.step stage k true) =
      (fates[k]?).elim 0 fun fate => fate.tries.count (stage, true)) :
    parted fates = (List.range fates.length).reverse.flatMap (duties answers) := by
  rw [parted, List.flatMap_def, List.flatMap_def, List.map_reverse, List.map_reverse]
  congr 2
  apply List.ext_getElem
  · simp
  · intro k inside _
    have inside : k < fates.length := by simpa using inside
    -- What was done for a region is read off the answers just as well as off its fate.
    have here (stage : RegionStage) :
        Answer.step stage k true ∈ answers ↔ (stage, true) ∈ fates[k].tries := by
      rw [← List.count_pos_iff, count, List.getElem?_eq_getElem inside, Option.elim_some,
        List.count_pos_iff]
    simp only [List.getElem_map, List.getElem_zipIdx, List.getElem_range, Nat.zero_add, duties,
      here, Fate.parting]
    congr 1
    cases fates[k] with
    | refused stage cause => cases stage <;> rfl
    | inactive | ready => rfl

/-- What the fates oblige to is called as the law says. -/
theorem lifecycle_of_fates (setup : setupOf lead = setups asked 0 outputs fates)
    (place : ∀ k output, (asked k output).index = k) (short : fates.length ≤ outputs.length)
    (gone : callsOf leaving = parted fates) (mute : answersOf leaving = [])
    (last : ∀ call ∈ callsOf later, ∃ event, call = .report event)
    (rest : setupOf later = []) :
    Lifecycle (lead ++ (leaving ++ .called .dropAlgorithm [] :: later)) := by
  generalize all : lead ++ (leaving ++ .called .dropAlgorithm [] :: later) = signs
  have calls :
      callsOf signs = callsOf lead ++ (parted fates ++ .dropAlgorithm :: callsOf later) := by
    rw [← all, callsOf_append, callsOf_append, callsOf_called, gone]
  have answers (stage : RegionStage) (k : Nat) (done : Bool) :
      (answersOf signs).count (.step stage k done) =
        (fates[k]?).elim 0 fun fate => fate.tries.count (stage, done) := by
    have none : (answersOf later).count (.step stage k done) = 0 := by
      rw [count_steps, rest]
      rfl
    rw [← all, answersOf_append, answersOf_append, answersOf_called, mute, List.nil_append,
      List.count_append, none, count_answers setup place short]
    rfl
  -- A call for one region is made while it is set up, or when it is given back.
  have count (call : Call) (k : Nat) (parting : call.isParting = true)
      (region : call.region? = some k) :
      (callsOf signs).count call = (fates[k]?).elim 0 fun fate =>
        (fate.dropping k ++ fate.parting k).count call := by
    have other : Call.dropAlgorithm ≠ call := by
      rintro rfl
      cases region
    have none : (callsOf later).count call = 0 := by
      rw [List.count_eq_zero]
      intro member
      obtain ⟨event, rfl⟩ := last call member
      cases parting
    rw [calls, List.count_append, List.count_append, List.count_cons_of_ne other, none,
      count_partings setup place short parting region, count_parted region]
    cases fates[k]? with
    | none => rfl
    | some fate => exact List.count_append.symm
  -- What balances for every fate balances for the whole run.
  have balanced (call : Call) (stage : RegionStage) (k : Nat) (parting : call.isParting = true)
      (region : call.region? = some k)
      (fair : ∀ fate : Fate, (fate.dropping k ++ fate.parting k).count call =
        fate.tries.count (stage, true)) :
      (callsOf signs).count call = (answersOf signs).count (.step stage k true) := by
    rw [count call k parting region, answers]
    cases fates[k]? with
    | none => rfl
    | some fate => exact fair fate
  exact {
    tried_once := by
      intro stage k
      rw [answers, answers]
      cases fates[k]? with
      | none => exact Nat.zero_le 1
      | some fate => exact fate.count_tries_le stage
    closed_once := fun k => balanced _ .display k rfl rfl fun fate => (fate.balance k).1
    display_dropped_once := fun k =>
      balanced _ .display k rfl rfl fun fate => (fate.balance k).2.1
    disabled_once := fun k => balanced _ .enable k rfl rfl fun fate => (fate.balance k).2.2.1
    window_dropped_once := fun k =>
      balanced _ .window k rfl rfl fun fate => (fate.balance k).2.2.2
    algorithm_dropped_once := by
      have before : (callsOf lead).count .dropAlgorithm = 0 := by
        rw [List.count_eq_zero]
        intro member
        obtain ⟨k, cause, -, same⟩ := of_mem_partings setup place short member rfl
        cases same
      have between : (parted fates).count .dropAlgorithm = 0 := by
        rw [List.count_eq_zero, parted, List.mem_flatMap]
        rintro ⟨fate, -, member⟩
        cases region?_of_mem_parting member
      have after : (callsOf later).count .dropAlgorithm = 0 := by
        rw [List.count_eq_zero]
        intro member
        obtain ⟨event, same⟩ := last _ member
        cases same
      rw [calls, List.count_append, List.count_append, List.count_cons_self, before, between, after]
    in_order := by
      refine ⟨fates.length, callsOf lead, callsOf later, ?_, ?_, last⟩
      · rw [calls, parted_eq_duties fun stage k => answers stage k true]
      · intro call member parting
        obtain ⟨k, cause, here, rfl⟩ := of_mem_partings setup place short member parting
        refine ⟨k, rfl, ?_⟩
        rw [← List.count_pos_iff, answers, here]
        exact Nat.zero_lt_one }

end Law

namespace Compositor

variable {σ ι A W D : Type} {crew : Crew σ ι A W D} {v v' : View σ A W D} {new : List Sign}
variable {settings : SplitSettings} {algorithm : A} {fates : List Fate}

/-- An opening that fails has closed everything again. -/
theorem Populates.lifecycle {e : OpenError} (empty : v.compositor.regions = [])
    (h : Populates crew settings algorithm v new fates (.error e) v') : Lifecycle new := by
  cases h with
  | failed opens last =>
    rename_i v₁ opened
    obtain ⟨lead, rfl, setup⟩ := opens.signs rfl
    have gone : callsOf ((undone settings.regionFailure 0 fates).map (.called · []) ++
        v₁.compositor.farewells v₁.compositor.regions.length) = parted fates := by
      rw [callsOf_append, callsOf_map_called, opens.parted_eq empty]
    have mute : answersOf ((undone settings.regionFailure 0 fates).map (.called · []) ++
        v₁.compositor.farewells v₁.compositor.regions.length) = [] := by
      rw [answersOf_append, answersOf_map_called, answersOf_farewells, List.nil_append]
    have nobody : ∀ call ∈ callsOf [], ∃ event, call = Call.report event := by simp
    have law := lifecycle_of_fates setup (fun _ _ => rfl) opens.length_le gone mute nobody rfl
    simpa using law

/-- A compositor that was opened and used has closed everything in the end. -/
theorem Populates.lifecycle_of_run {v'' : View σ A W D} {more : List Sign}
    (empty : v.compositor.regions = []) (alive : v.compositor.algorithm.isSome)
    (h : Populates crew settings algorithm v new fates (.ok ()) v')
    (run : Path (Move crew) v' more v'') (gone : v''.compositor.Gone) :
    Lifecycle (new ++ more) := by
  cases h with
  | opened opens =>
    have alive' : v'.compositor.algorithm.isSome := by
      rwa [algorithm_of_fixture_eq opens.fixture_eq]
    obtain ⟨lived, later, v₁, path, rfl, last, rest⟩ := life_and_afterlife run alive' gone
    obtain ⟨lead, rfl, setup⟩ := opens.signs rfl
    -- Nothing was taken back, and life keeps the outfits of the regions.
    have none : undone settings.regionFailure 0 fates = [] := by
      rcases opens.result_cases with ⟨-, -, none⟩ | ⟨good, fate, e, -, bad, -⟩
      · rw [undone, List.flatMap_eq_nil_iff]
        exact fun fate member => none _ (List.fst_mem_of_mem_zipIdx member) _
      · cases bad
    have shape : v₁.compositor.shape = v'.compositor.shape :=
      path.keepsEq (f := fun u => u.compositor.shape) fun _ _ _ => Step.shape_eq
    -- So life may be counted with the opening: it shows nothing of windows and displays.
    have lived_setup : setupOf lived = [] :=
      setupOf_eq_nil (path.forall_signs fun _ _ _ => Step.kind_ne_setup)
    rw [← List.append_nil (setupOf lead), ← lived_setup, ← setupOf_append] at setup
    have gone : callsOf (v₁.compositor.farewells v₁.compositor.regions.length) =
        parted fates := by
      have parted := opens.parted_eq empty
      rw [none, List.nil_append] at parted
      rw [farewells_of_shape_eq shape, length_regions_of_shape_eq shape, parted]
    have law := lifecycle_of_fates setup (fun _ _ => rfl) opens.length_le gone
      (answersOf_farewells _ _) last rest
    simpa [none] using law

/-- What an opening, any operations after it and a closing in the end show keeps the law. Where
there is no algorithm nothing is called, and no run breaks off but for a fault of the others. -/
theorem use_lifecycle (crew : Crew σ ι A W D) (registry : Registry (Constructor σ ι A))
    (settings : SplitSettings) (source : VideoFormat) (parent : Option ParentWindow)
    (operations : List Operation) (env : σ) (ledger : Ledger) :
    match use crew registry settings source parent operations ⟨env, ledger, []⟩ with
    | .ok (.error (.moduleNotFound _)) w => callsOf w.signs = []
    | .ok (.error (.algorithmFailed _ _)) w => callsOf w.signs = []
    | .ok _ w => Lifecycle w.signs
    | .error fault _ => crew.Raises fault ∨ MakingRaises registry settings source fault := by
  have starts := open_starts crew registry settings source parent env ledger
  simp only [use, bind, EStateM.bind]
  cases opened : «open» crew registry settings source parent ⟨env, ledger, []⟩ with
  | error fault w =>
    rw [opened] at starts
    exact starts
  | ok result w =>
    rw [opened] at starts
    cases starts with
    | unknown missing silent => simp [pure, EStateM.pure, silent]
    | unmade known ran silent => simp [pure, EStateM.pure, silent]
    | populated known ran populates seen =>
      rename_i algorithm w₀ fates result v
      -- After a failure there is no compositor left to use, and the opening has closed it.
      have tidy := populates.tidy unpopulated_tidy
      cases result with
      | error e =>
        obtain ⟨k, stage, cause, rfl⟩ := populates.error_eq
        exact populates.lifecycle rfl
      | ok done =>
        have all : (performAll crew (operations ++ [.close])).Yields crew v _ :=
          performAll_close_yields operations tidy
        have yields := all ⟨v.compositor, w⟩ seen
        cases run : performAll crew (operations ++ [.close]) ⟨v.compositor, w⟩ with
        | error fault t =>
          rw [run] at yields
          simpa only [Except.map, EStateM.bind, runIn, run] using Or.inl yields
        | ok done t =>
          rw [run] at yields
          simp only [Except.map, EStateM.bind, runIn, run]
          obtain ⟨more, signs, path, gone⟩ := yields
          have law := populates.lifecycle_of_run rfl rfl path gone
          rwa [← signs] at law

end Compositor

end Mosaic
