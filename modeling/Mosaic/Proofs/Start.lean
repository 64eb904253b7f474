import Mosaic.Proofs.Opening

/-!
# The opening as a whole

An opening looks up an algorithm, makes it and gives its outputs their regions. Nothing shows
before the first region but what is said, so where there is no algorithm nothing shows at all,
and otherwise the making of the regions is all that shows.

## Main definitions

* `founded` — the world once there is an algorithm
* `Starts`, `MakingRaises` — what an opening comes to, and the faults of making an algorithm

## Main results

* `open_of_made` — once there is an algorithm the rest is giving its outputs their regions
* `open_starts` — every opening comes to an end, unless one of the others raises a fault
-/

set_option autoImplicit false

namespace Mosaic.Compositor

open Act

variable {σ ι A W D : Type}

/-- The world once there is an algorithm, before any region is made. -/
def founded (crew : Crew σ ι A W D) (settings : SplitSettings) (algorithm : A) (w : World σ ι) :
    World σ (Happening ι) :=
  let found : World σ (Happening ι) :=
    ⟨w.env, w.ledger, w.trace.map .inside ++ [.said (.usingModule settings.algorithmName)]⟩
  if (crew.algorithm.outputs algorithm).isEmpty then
    found.record (.said (.noOutputs settings.algorithmName))
  else found

/-- To say something adds it to the trace. -/
theorem announce_eq (notice : Notice) (w : World σ (Happening ι)) :
    announce notice w = .ok () (w.record (.said notice)) :=
  rfl

section Founded

variable (crew : Crew σ ι A W D) (settings : SplitSettings) (algorithm : A) (w : World σ ι)

/-- What was said while an algorithm was looked up and made gives no sign. -/
theorem signs_found (name : String) (w : World σ ι) :
    (⟨w.env, w.ledger, w.trace.map .inside ++ [.said (.usingModule name)]⟩ :
      World σ (Happening ι)).signs = [] :=
  World.signs_inside (World.record ⟨w.env, w.ledger, []⟩ (.said (.usingModule name))) w.env
    w.ledger w.trace

theorem signs_founded : (founded crew settings algorithm w).signs = [] := by
  unfold founded
  split
  · rw [World.signs_record, signs_found]
    rfl
  · exact signs_found _ _

@[simp] theorem env_founded : (founded crew settings algorithm w).env = w.env := by
  unfold founded
  split <;> rfl

@[simp] theorem ledger_founded : (founded crew settings algorithm w).ledger = w.ledger := by
  unfold founded
  split <;> rfl

end Founded

section Start

variable (crew : Crew σ ι A W D) (registry : Registry (Constructor σ ι A))
variable (settings : SplitSettings) (source : VideoFormat) (parent : Option ParentWindow)
variable (env : σ) (ledger : Ledger)

/-- The opening once there is an algorithm: its outputs get their regions. -/
def openWith (algorithm : A) :
    Run σ (Happening ι) (Except OpenError (Compositor A W D)) := do
  let (result, c) ← runIn (unpopulated crew settings source.upright algorithm parent)
    (populate crew settings algorithm)
  return result.map fun _ => c

variable {registry settings source env ledger}
variable {construct : Constructor σ ι A}

theorem open_of_unmade {fault : Fault} {w : World σ ι}
    (known : registry.resolve? settings.algorithmName = some construct)
    (ran : construct source.upright settings ⟨env, ledger, []⟩ = .error fault w) :
    ∃ w', «open» crew registry settings source parent ⟨env, ledger, []⟩ = .error fault w' ∧
      w'.signs = [] := by
  simp only [«open», known, bind, EStateM.bind, announce_eq, Run.within, World.record, ran]
  exact ⟨_, rfl, signs_found _ _⟩

theorem open_of_failed {cause : Cause} {w : World σ ι}
    (known : registry.resolve? settings.algorithmName = some construct)
    (ran : construct source.upright settings ⟨env, ledger, []⟩ = .ok (.error cause) w) :
    ∃ w', «open» crew registry settings source parent ⟨env, ledger, []⟩ =
        .ok (.error (.algorithmFailed settings.algorithmName cause)) w' ∧ w'.signs = [] := by
  simp only [«open», known, bind, EStateM.bind, announce_eq, Run.within, World.record, ran]
  refine ⟨_, rfl, ?_⟩
  have silent := World.signs_record (World.mk w.env w.ledger
    (w.trace.map .inside ++ [.said (.usingModule settings.algorithmName)]))
    (.said (.initializeFailed settings.algorithmName cause))
  rw [signs_found] at silent
  exact silent

/-- Once there is an algorithm the rest of an opening is giving its outputs their regions. -/
theorem open_of_made {algorithm : A} {w : World σ ι}
    (known : registry.resolve? settings.algorithmName = some construct)
    (ran : construct source.upright settings ⟨env, ledger, []⟩ = .ok (.ok algorithm) w) :
    «open» crew registry settings source parent ⟨env, ledger, []⟩ =
      openWith crew settings source parent algorithm (founded crew settings algorithm w) := by
  simp only [«open», known, bind, EStateM.bind, announce_eq, Run.within, World.record, ran]
  -- The outputs of the new compositor are those of its algorithm.
  cases idle : (unpopulated crew settings source.upright algorithm parent).outputs.isEmpty with
  | true =>
    have none : (crew.algorithm.outputs algorithm).isEmpty = true := idle
    simp only [if_true, founded, none]
    rfl
  | false =>
    have some : (crew.algorithm.outputs algorithm).isEmpty = false := idle
    simp only [Bool.false_eq_true, if_false, founded, some]
    rfl

/-! ## Every opening -/

/-- Before there is a region nothing can be untidy. -/
theorem unpopulated_tidy {crew : Crew σ ι A W D} {settings : SplitSettings} {source : VideoFormat}
    {algorithm : A} {parent : Option ParentWindow} :
    (unpopulated crew settings source algorithm parent).Tidy := by
  intro i r here
  simp [unpopulated] at here

theorem openWith_populates (crew : Crew σ ι A W D) (settings : SplitSettings)
    (source : VideoFormat) (parent : Option ParentWindow) (algorithm : A) (w : World σ ι) :
    match openWith crew settings source parent algorithm (founded crew settings algorithm w) with
    | .ok result w' => ∃ fates result' v,
        Populates crew settings algorithm
          ⟨unpopulated crew settings source.upright algorithm parent, w.env, w.ledger⟩ w'.signs
          fates result' v ∧
        populate crew settings algorithm
            ⟨unpopulated crew settings source.upright algorithm parent,
              founded crew settings algorithm w⟩ = .ok result' ⟨v.compositor, w'⟩ ∧
        (⟨v.compositor, w'⟩ : Running σ ι A W D).view = v ∧
        result = result'.map fun _ => v.compositor
    | .error fault _ => crew.Raises fault := by
  have all : (populate crew settings algorithm).Yields crew
      ⟨unpopulated crew settings source.upright algorithm parent, w.env, w.ledger⟩ _ :=
    populate_yields unpopulated_tidy rfl rfl
  -- The rules say nothing of the trace, so what was said before the first region is no matter.
  have yields := all ⟨unpopulated crew settings source.upright algorithm parent,
    founded crew settings algorithm w⟩ (by simp [Running.view])
  simp only [openWith, bind, EStateM.bind, runIn]
  cases ran : populate crew settings algorithm
      ⟨unpopulated crew settings source.upright algorithm parent,
        founded crew settings algorithm w⟩ with
  | ok result t =>
    rw [ran] at yields
    obtain ⟨new, signs, fates, populates⟩ := yields
    rw [signs_founded, List.nil_append] at signs
    exact ⟨fates, result, t.view, signs ▸ populates, rfl, rfl, rfl⟩
  | error fault t =>
    rw [ran] at yields
    exact yields

variable (registry settings source env ledger)

/-- What an opening comes to. -/
inductive Starts : Except OpenError (Compositor A W D) → World σ (Happening ι) → Prop
  | unknown {w : World σ (Happening ι)}
      (missing : registry.resolve? settings.algorithmName = none) (silent : w.signs = []) :
      Starts (.error (.moduleNotFound settings.algorithmName)) w
  | unmade {w : World σ (Happening ι)} {construct : Constructor σ ι A} {cause : Cause}
      {w₀ : World σ ι} (known : registry.resolve? settings.algorithmName = some construct)
      (ran : construct source.upright settings ⟨env, ledger, []⟩ = .ok (.error cause) w₀)
      (silent : w.signs = []) :
      Starts (.error (.algorithmFailed settings.algorithmName cause)) w
  | populated {w : World σ (Happening ι)} {construct : Constructor σ ι A} {algorithm : A}
      {w₀ : World σ ι} {fates : List Fate} {result : Except OpenError Unit} {v : View σ A W D}
      (known : registry.resolve? settings.algorithmName = some construct)
      (ran : construct source.upright settings ⟨env, ledger, []⟩ = .ok (.ok algorithm) w₀)
      (populates : Populates crew settings algorithm
        ⟨unpopulated crew settings source.upright algorithm parent, w₀.env, w₀.ledger⟩
        w.signs fates result v)
      (seen : (⟨v.compositor, w⟩ : Running σ ι A W D).view = v) :
      Starts (result.map fun _ => v.compositor) w

/-- A fault that making the algorithm raises. -/
def MakingRaises (fault : Fault) : Prop :=
  ∃ construct : Constructor σ ι A, registry.resolve? settings.algorithmName = some construct ∧
    (construct source.upright settings).Faults fault

/-- An opening comes to an end, unless one of the others raises a fault. -/
theorem open_starts :
    match «open» crew registry settings source parent ⟨env, ledger, []⟩ with
    | .ok result w => Starts crew registry settings source parent env ledger result w
    | .error fault _ => crew.Raises fault ∨ MakingRaises registry settings source fault := by
  -- One case for each way of coming to an algorithm or not; only the last one makes regions.
  cases known : registry.resolve? settings.algorithmName with
  | none =>
    simp only [«open», known, bind, EStateM.bind, announce_eq]
    exact .unknown known (World.signs_record _ _)
  | some construct =>
    cases ran : construct source.upright settings ⟨env, ledger, []⟩ with
    | error fault w₀ =>
      obtain ⟨w, faulted, -⟩ := open_of_unmade crew parent known ran
      rw [faulted]
      exact .inr ⟨construct, known, _, _, ran⟩
    | ok made w₀ =>
      cases made with
      | error cause =>
        obtain ⟨w, failed, silent⟩ := open_of_failed crew parent known ran
        rw [failed]
        exact .unmade known ran silent
      | ok algorithm =>
        rw [open_of_made crew parent known ran]
        have populates := openWith_populates crew settings source parent algorithm w₀
        cases opened : openWith crew settings source parent algorithm
            (founded crew settings algorithm w₀) with
        | error fault w =>
          rw [opened] at populates
          exact .inl populates
        | ok result w =>
          rw [opened] at populates
          obtain ⟨fates, result', v, populates, -, seen, rfl⟩ := populates
          exact .populated known ran populates seen

end Start

end Mosaic.Compositor
