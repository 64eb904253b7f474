import Mosaic.Proofs.Agreement
import Mosaic.Rehearsal.Rig

/-!
# What the failure policy decides

Opening under the aborting policy fails just if a step of an output that is to be shown is
refused. Then the first such step is reported, nothing was asked for beyond it, and what is left
of the compositor is *inert*: its windows may go on reporting, but nothing comes of it. Under the
tolerant policy opening never fails for a region. Where nothing is refused the policy makes no
difference.

## Main definitions

* `Inert` — nothing comes of what windows report
* `PolicyLaw` — the law

## Main results

* `Gone.inert` — a compositor of which nothing is left is inert
* `open_keeps_policy_law` — the law for every opening that has an algorithm
-/

set_option autoImplicit false

namespace Mosaic.Compositor

open Act

variable {σ ι A W D : Type}

/-- Nothing comes of what windows report to a compositor: no display and no window is called, the
parent hears nothing, and the others are left alone. -/
def Inert (crew : Crew σ ι A W D) (c : Compositor A W D) : Prop :=
  ∀ (reports : List (Nat × WindowEvent)) (w : World σ (Happening ι)),
    ∃ t, reportAll crew reports ⟨c, w⟩ = .ok () t ∧ callsOf t.world.signs = callsOf w.signs ∧
      t.world.env = w.env ∧ t.world.ledger = w.ledger ∧ t.compositor.parent = c.parent

theorem reported_eq (k : Nat) (event : WindowEvent) (c : Compositor A W D)
    (w : World σ (Happening ι)) :
    reported k event ⟨c, w⟩ = .ok () ⟨c, w.record (.reported k event)⟩ :=
  rfl

theorem compositor_eq (s : Running σ ι A W D) : compositor s = .ok s.compositor s := rfl

/-- A report to a compositor without regions is noted, and an input waits for good. -/
theorem Gone.report_eq {c : Compositor A W D} (gone : c.Gone) (crew : Crew σ ι A W D) (k : Nat)
    (event : WindowEvent) (w : World σ (Happening ι)) :
    ∃ t, report crew k event ⟨c, w⟩ = .ok () t ∧ t.compositor.Gone ∧
      callsOf t.world.signs = callsOf w.signs ∧ t.world.env = w.env ∧
      t.world.ledger = w.ledger ∧ t.compositor.parent = c.parent := by
  have noted : callsOf (w.record (.reported k event)).signs = callsOf w.signs := by
    rw [World.signs_record, callsOf_append]
    exact List.append_nil _
  cases event with
  | input event => exact ⟨_, rfl, gone, noted, rfl, rfl, rfl⟩
  | resized size =>
    have outside : ¬ k < c.regions.length := by simp [gone.2]
    refine ⟨⟨c, (w.record (.reported k (.resized size))).record (.said (.resizeIgnored k))⟩, ?_,
      gone, ?_, rfl, rfl, rfl⟩
    · simp only [report, bind, EStateM.bind, reported_eq, compositor_eq, outside, if_false]
      rfl
    · rw [World.signs_record, callsOf_append, noted]
      exact List.append_nil _

theorem Gone.inert {crew : Crew σ ι A W D} {c : Compositor A W D} (gone : c.Gone) :
    Inert crew c := by
  intro reports
  -- A report leaves another compositor behind, of which nothing is left either.
  induction reports generalizing c with
  | nil => exact fun w => ⟨⟨c, w⟩, rfl, rfl, rfl, rfl, rfl⟩
  | cons head rest ih =>
    intro w
    obtain ⟨k, event⟩ := head
    obtain ⟨t, ran, gone', calls, env, ledger, parent⟩ := gone.report_eq crew k event w
    obtain ⟨u, later, calls', env', ledger', parent'⟩ := ih gone' t.world
    refine ⟨u, ?_, calls'.trans calls, env'.trans env, ledger'.trans ledger,
      parent'.trans parent⟩
    simp only [reportAll, bind, EStateM.bind, ran]
    exact later

/-! ## The law -/

section Law

variable (crew : Crew σ ι A W D) (registry : Registry (Constructor σ ι A))
variable (settings : SplitSettings) (source : VideoFormat) (parent : Option ParentWindow)
variable (env : σ) (ledger : Ledger) (construct : Constructor σ ι A)
variable (algorithm : A) (w₀ : World σ ι)

/-- What the failure policy decides about an opening that has an algorithm. -/
structure PolicyLaw (result : Except OpenError (Compositor A W D))
    (w : World σ (Happening ι)) : Prop where
  /-- There is a pattern of what was refused. -/
  patterned : ∃ refuses, Follows refuses w.signs
  /-- Under the aborting policy the first step that is refused is reported, if there is one, and
  the steps that were asked for are those up to it. -/
  aborting : settings.regionFailure = .abort → ∀ refuses, Follows refuses w.signs →
    Aborts refuses
      (requests (request crew settings algorithm settings.placement) 0
        (crew.algorithm.outputs algorithm))
      (asksOf w.signs) (result.map fun _ => ())
  /-- Under the tolerant policy every output gets its region, and a region has what was not
  refused. -/
  tolerating : settings.regionFailure = .tolerate → ∀ refuses, Follows refuses w.signs →
    ∃ c, result = .ok c ∧ c.outfits =
      (crew.algorithm.outputs algorithm).mapIdx fun i output => granted refuses i output
  /-- What a failed opening leaves is inert, and the parent heard nothing. -/
  abandoned : ∀ e, result = .error e → ∃ left,
    runIn (unpopulated crew settings source.upright algorithm parent)
        (populate crew settings algorithm) (founded crew settings algorithm w₀) =
      .ok (.error e, left) w ∧ left.parent = parent ∧ Inert crew left
  /-- Where nothing is refused, the opening goes the same way under every policy. -/
  indifferent : ¬ Refused w.signs → ∀ policy,
    construct source.upright (withPolicy settings policy) ⟨env, ledger, []⟩ =
        .ok (.ok algorithm) w₀ →
      «open» crew registry (withPolicy settings policy) source parent ⟨env, ledger, []⟩ =
        .ok result w

end Law

variable {crew : Crew σ ι A W D} {registry : Registry (Constructor σ ι A)}
variable {settings : SplitSettings} {source : VideoFormat} {parent : Option ParentWindow}
variable {env : σ} {ledger : Ledger} {construct : Constructor σ ι A}
variable {algorithm : A} {w₀ : World σ ι}

/-- Where nothing is refused, the regions are made in the same way under every policy. -/
theorem openWith_agrees (policy : FailurePolicy)
    {result : Except OpenError (Compositor A W D)} {w : World σ (Happening ι)}
    (opened : openWith crew settings source parent algorithm
      (founded crew settings algorithm w₀) = .ok result w)
    (clean : ¬ Refused w.signs) :
    openWith crew (withPolicy settings policy) source parent algorithm
      (founded crew (withPolicy settings policy) algorithm w₀) = .ok result w := by
  have agrees : (populate crew settings algorithm).Agrees
      (populate crew (withPolicy settings policy) algorithm)
      (⟨unpopulated crew settings source.upright algorithm parent,
        founded crew settings algorithm w₀⟩ : Running σ ι A W D).view :=
    populate_agrees policy unpopulated_tidy rfl
  -- The policy plays no part before the first region.
  have same : founded crew (withPolicy settings policy) algorithm w₀ =
      founded crew settings algorithm w₀ := rfl
  have start : unpopulated crew (withPolicy settings policy) source.upright algorithm parent =
      unpopulated crew settings source.upright algorithm parent := rfl
  simp only [openWith, bind, EStateM.bind, runIn, same, start] at opened ⊢
  cases ran : populate crew settings algorithm
      ⟨unpopulated crew settings source.upright algorithm parent,
        founded crew settings algorithm w₀⟩ with
  | error fault t =>
    rw [ran] at opened
    cases opened
  | ok result' t =>
    rw [ran] at opened
    cases opened
    rw [agrees _ rfl result' t ran clean]
    rfl

/-- Every opening that has an algorithm keeps the law of the failure policy. -/
theorem open_keeps_policy_law (crew : Crew σ ι A W D) (parent : Option ParentWindow)
    (known : registry.resolve? settings.algorithmName = some construct)
    (made : construct source.upright settings ⟨env, ledger, []⟩ = .ok (.ok algorithm) w₀) :
    match «open» crew registry settings source parent ⟨env, ledger, []⟩ with
    | .ok result w => PolicyLaw crew registry settings source parent env ledger construct
        algorithm w₀ result w
    | .error fault _ => crew.Raises fault := by
  rw [open_of_made crew parent known made]
  have populates := openWith_populates crew settings source parent algorithm w₀
  cases opened : openWith crew settings source parent algorithm
      (founded crew settings algorithm w₀) with
  | error fault w =>
    rw [opened] at populates
    exact populates
  | ok result w =>
    rw [opened] at populates
    obtain ⟨fates, result', v, populates, ran, seen, rfl⟩ := populates
    obtain ⟨new, v₁, opens, answers, asks, last⟩ := populates.opens
    -- A pattern is about answers, and closing after a failure gives none.
    have same (refuses : RefusalPattern) : Follows refuses w.signs ↔ Follows refuses new := by
      rw [Follows, Follows, answers]
    exact {
      patterned := by
        obtain ⟨refuses, follows⟩ := opens.exists_follows
        exact ⟨refuses, (same refuses).mpr follows⟩
      aborting := by
        intro policy refuses follows
        rw [asks]
        have aborts := opens.aborts rfl policy ((same refuses).mp follows)
        cases result' with
        | ok done => exact aborts
        | error e => exact aborts
      tolerating := by
        intro policy refuses follows
        obtain ⟨rfl, outfits⟩ := opens.tolerates policy ((same refuses).mp follows)
        have last : v = v₁ := last
        subst last
        refine ⟨v.compositor, rfl, ?_⟩
        have all := opens.outfits_eq rfl
        rw [policy, outfits] at all
        simpa [unpopulated, Compositor.outfits] using all
      abandoned := by
        intro e failed
        cases result' with
        | ok done => cases failed
        | error e' =>
          cases failed
          have last : v.compositor = v₁.compositor.closed := last
          refine ⟨v.compositor, ?_, ?_, Gone.inert ?_⟩
          · rw [runIn, ran]
          · rw [last]
            exact parent_of_fixture_eq opens.fixture_eq
          · rw [last]
            exact ⟨rfl, rfl⟩
      indifferent := by
        intro clean policy made'
        have known' : registry.resolve? (withPolicy settings policy).algorithmName =
          some construct := known
        rw [open_of_made crew parent known' made']
        exact openWith_agrees policy opened clean }

/-! ## A refused display -/

/-- The failure with which an opening ended, if it ended with one. -/
def failure? {σ α : Type} : EStateM.Result Fault σ (Except OpenError α) → Option OpenError
  | .ok (.error e) _ => some e
  | .ok (.ok _) _ | .error _ _ => none

theorem eq_of_failure?_eq_some {σ α : Type} {e : OpenError}
    {came : EStateM.Result Fault σ (Except OpenError α)} (h : failure? came = some e) :
    ∃ w, came = .ok (.error e) w := by
  cases came with
  | error fault w => cases h
  | ok result w =>
    cases result with
    | ok a => cases h
    | error e' =>
      cases h
      exact ⟨w, rfl⟩

/-- Three clones of a source, the first of which is not shown. -/
def triptych (format : VideoFormat) : Builtin :=
  .clone [⟨.inactive format, .zero⟩, ⟨.shown "" format, .zero⟩, ⟨.shown "" format, .zero⟩]

/-- Makes triptychs. -/
def makeTriptych : Constructor Unit Notice Builtin := fun source _ => return .ok (triptych source)

/-- A registry that knows nothing but triptychs, under the name that is asked for. -/
def triptychs : Registry (Constructor Unit Notice Builtin) :=
  Registry.empty.register SplitSettings.standard.algorithmName makeTriptych

/-- Those who show a triptych and refuse a display to its last region. -/
def refusing : Crew Unit Notice Builtin Nat Nat :=
  ⟨Builtin.partitioner, BackendScript.backend ⟨[(.display, 2)], [], [], .follow⟩⟩

/-- The last region of a triptych gets no display, so nothing is opened. -/
theorem triptych_refused :
    triptychs.resolve? SplitSettings.standard.algorithmName = some makeTriptych ∧
      ∃ cause w,
        «open» refusing triptychs .standard (.whole .i420 64 48) none ⟨(), .empty, []⟩ =
          .ok (.error (.regionFailed 2 .display cause)) w ∧
        PolicyLaw refusing triptychs .standard (.whole .i420 64 48) none () .empty makeTriptych
          (triptych (VideoFormat.whole .i420 64 48).upright) ⟨(), .empty, []⟩
          (.error (.regionFailed 2 .display cause)) w := by
  generalize format : VideoFormat.whole .i420 64 48 = source
  have known : triptychs.resolve? SplitSettings.standard.algorithmName = some makeTriptych :=
    Registry.resolve?_register_self _ _ _
  have made : makeTriptych source.upright .standard ⟨(), .empty, []⟩ =
      .ok (.ok (triptych source.upright)) ⟨(), .empty, []⟩ := rfl
  -- The registry is used only through what it finds.
  generalize triptychs = registry at known ⊢
  have law := open_keeps_policy_law refusing none known made
  refine ⟨known, ?_⟩
  rw [open_of_made refusing none known made] at law ⊢
  have refused : failure? (openWith refusing .standard source none (triptych source.upright)
      (founded refusing .standard (triptych source.upright) ⟨(), .empty, []⟩)) =
      some (.regionFailed 2 .display
        ((Cause.ofMessage "no display for region 2").within "backend refused")) := by
    subst format
    decide +kernel
  obtain ⟨w, came⟩ := eq_of_failure?_eq_some refused
  rw [came] at law ⊢
  exact ⟨_, w, rfl, law⟩

end Mosaic.Compositor
