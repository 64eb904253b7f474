import Mosaic.Proofs.Holds
import Mosaic.Proofs.Kinship
import Mosaic.Proofs.Turns

/-!
# Regions are kept apart

Two runs may differ in what is refused to all regions but one, in what the displays of those
regions answer, and in the sizes that their windows report. Where the algorithm is deterministic,
nothing of that reaches the region in question: as long as the runs are the same for it, its
portrait is the same in both after every call. So it has a display in both or in neither, its
display is asked to do the same things in the same order, and it has the same size.

## Main definitions

* `Hears` — what a run came by since some point
* `Twin` — two runs that went on alike for a region but for what each of them heard last
* `Fresh` — a compositor that was just opened

## Main results

* `Twin.left`, `Twin.right` — a report may come in one of the runs alone
* `Twin.call` — a call keeps two runs alike
* `Twin.watches` — so do all calls, whatever is reported between them
* `open_tolerates` — under the tolerant policy an opening succeeds
* `open_isolates_regions` — the law for opening and any operations
-/

set_option autoImplicit false

namespace Mosaic.Compositor

open Act

/-! ## Two runs -/

section Twin

variable {σ ι A W D W' D' : Type}

/-- A run came by what was heard from a point at which something waited and a region had some
portrait. -/
structure Hears (waiting : List RegionInput) (base : Portrait) (k : Nat) (wanted : Size)
    (heard : Heard) (past : List Sign) (c : Compositor A W D) : Prop where
  queue : c.queue = waiting ++ heard.inputs
  portrait : c.portrait k past = base.follow wanted heard.cues

/-- Two runs went on alike for a region but for what each of them heard last. -/
structure Twin (alike : A → A → Prop) (k : Nat) (wanted : Size) (heard : Heard) (past : List Sign)
    (c : Compositor A W D) (heard' : Heard) (past' : List Sign) (c' : Compositor A W' D') :
    Prop where
  kin : Kin alike k c c'
  parted : ∃ waiting base, Hears waiting base k wanted heard past c ∧
    Hears waiting base k wanted heard' past' c'

section Reports

variable {crew : Crew σ ι A W D} {alike : A → A → Prop} {k : Nat} {wanted : Size}
variable {heard heard' : Heard} {v v₁ : View σ A W D} {past past' : List Sign} {deed : Deed}

/-- A report leaves all alone but the queue and the regions. -/
theorem Deed.Done.fixture_eq (done : deed.Done crew k wanted v v₁)
    (report : deed.operation.isReport = true) :
    v₁.compositor.fixture = v.compositor.fixture := by
  obtain ⟨operation, shown, signs⟩ := deed
  cases operation with
  | report j event =>
    exact done.comes.1.keepsEq (f := fun v => v.compositor.fixture) fun _ _ _ =>
      Reports.fixture_eq
  | prepare | display | control | drain | close => cases report

/-- A report is heard: it adds to the queue, and gives its region a cue. -/
theorem Hears.report {waiting : List RegionInput} {base : Portrait}
    (hears : Hears waiting base k wanted heard past v.compositor)
    (done : deed.Done crew k wanted v v₁) (report : deed.operation.isReport = true) :
    Hears waiting base k wanted (heard.add k deed.signs) (past ++ deed.signs) v₁.compositor := by
  obtain ⟨operation, shown, signs⟩ := deed
  cases operation with
  | report j event =>
    obtain ⟨-, minds⟩ := done.comes
    have queued : v₁.compositor.queue = v.compositor.queue ++ reportsOf signs :=
      (done.routed nofun).queue
    refine ⟨?_, ?_⟩
    · rw [queued, hears.queue, List.append_assoc]
      rfl
    · rw [minds past, hears.portrait]
      exact (Portrait.follow_append ..).symm
  | prepare | display | control | drain | close => cases report

/-- A report may come in the first run alone. -/
theorem Twin.left {c' : Compositor A W' D'}
    (twin : Twin alike k wanted heard past v.compositor heard' past' c')
    (done : deed.Done crew k wanted v v₁) (report : deed.operation.isReport = true) :
    Twin alike k wanted (heard.add k deed.signs) (past ++ deed.signs) v₁.compositor
      heard' past' c' := by
  obtain ⟨kin, waiting, base, hears, hears'⟩ := twin
  refine ⟨?_, waiting, base, hears.report done report, hears'⟩
  exact kin.refit ⟨done.settled, kin.settled.2⟩ (done.fixture_eq report) (by rw [kin.placement])

/-- A report may come in the second run alone. -/
theorem Twin.right {c' : Compositor A W' D'}
    (twin : Twin alike k wanted heard' past' c' heard past v.compositor)
    (done : deed.Done crew k wanted v v₁) (report : deed.operation.isReport = true) :
    Twin alike k wanted heard' past' c' (heard.add k deed.signs) (past ++ deed.signs)
      v₁.compositor := by
  obtain ⟨kin, waiting, base, hears', hears⟩ := twin
  refine ⟨?_, waiting, base, hears', hears.report done report⟩
  exact kin.refit ⟨kin.settled.1, done.settled⟩ (by rw [← kin.placement]) (done.fixture_eq report)

end Reports

variable {p : Partitioner σ ι A} {b : Backend σ ι W D} {b' : Backend σ ι W' D'}
variable {alike : A → A → Prop} {k : Nat} {wanted : Size} {heard heard' : Heard}
variable {v v₁ : View σ A W D} {u u₁ : View σ A W' D'} {past past' : List Sign} {deed deed' : Deed}

/-- A call keeps two compositors kin, and the portraits the same. -/
theorem Kin.call (deterministic : p.Deterministic alike)
    (kin : Kin alike k v.compositor u.compositor)
    (queue : v.compositor.queue = u.compositor.queue)
    (portrait : v.compositor.portrait k past = u.compositor.portrait k past')
    (same : deed.operation = deed'.operation) (call : deed.operation.isReport = false)
    (done : deed.Done ⟨p, b⟩ k wanted v v₁) (done' : deed'.Done ⟨p, b'⟩ k wanted u u₁) :
    Kin alike k v₁.compositor u₁.compositor ∧
      v₁.compositor.portrait k (past ++ deed.signs) =
        u₁.compositor.portrait k (past' ++ deed'.signs) := by
  have comes := done.comes
  have comes' := done'.comes
  have settled := And.intro done.settled done'.settled
  clear done done'
  obtain ⟨operation, shown, signs⟩ := deed
  obtain ⟨operation', shown', signs'⟩ := deed'
  cases same
  cases operation with
  | prepare picture overlay date =>
    obtain ⟨drained, divided, v₀, handles, divides, rfl⟩ := comes
    obtain ⟨drained', divided', u₀, handles', divides', rfl⟩ := comes'
    rw [queue] at handles
    exact kin.divide deterministic queue rfl portrait handles divides handles' divides'
  | display => exact kin.show portrait comes comes'
  | control query => exact kin.control deterministic settled portrait comes comes'
  | drain =>
    have handles : HandlesAll ⟨p, b⟩ v.compositor.queue v signs v₁ := comes
    have handles' : HandlesAll ⟨p, b'⟩ u.compositor.queue u signs' u₁ := comes'
    have still := handles.portrait_eq k past
    rw [queue] at handles
    exact ⟨kin.drain deterministic handles handles', by
      rw [still, handles'.portrait_eq, portrait]⟩
  | close => exact kin.close portrait comes comes'
  | report => cases call

/-- The queue after an operation: what was handled is gone, and what was reported is added. -/
theorem Deed.Done.queue_eq {crew : Crew σ ι A W D} (done : deed.Done crew k wanted v v₁)
    (live : deed.operation ≠ .close) :
    v₁.compositor.queue =
      (if deed.operation.drains then [] else v.compositor.queue) ++ reportsOf deed.signs := by
  have queue := (done.routed live).queue
  cases drains : deed.operation.drains with
  | true =>
    rw [drains] at queue
    exact List.append_cancel_left queue
  | false =>
    rw [drains] at queue
    exact queue

/-- A call keeps two runs alike. -/
theorem Twin.call (deterministic : p.Deterministic alike)
    (twin : Twin alike k wanted heard past v.compositor heard past' u.compositor)
    (same : deed.operation = deed'.operation) (call : deed.operation.isReport = false)
    (done : deed.Done ⟨p, b⟩ k wanted v v₁) (done' : deed'.Done ⟨p, b'⟩ k wanted u u₁) :
    Twin alike k wanted (.during deed.signs) (past ++ deed.signs) v₁.compositor
      (.during deed'.signs) (past' ++ deed'.signs) u₁.compositor := by
  obtain ⟨kin, waiting, base, hears, hears'⟩ := twin
  have queue : v.compositor.queue = u.compositor.queue := hears.queue.trans hears'.queue.symm
  obtain ⟨kin', portraits⟩ := kin.call deterministic queue
    (hears.portrait.trans hears'.portrait.symm) same call done done'
  refine ⟨kin', ?_⟩
  by_cases closing : deed.operation = .close
  · -- Nothing is reported while a compositor is closed.
    have closes : Closes v deed.signs v₁ := by
      simpa only [Deed.Comes, closing] using done.comes
    have closes' : Closes u deed'.signs u₁ := by
      simpa only [Deed.Comes, same ▸ closing] using done'.comes
    refine ⟨v₁.compositor.queue, _, ⟨?_, rfl⟩, ⟨?_, portraits.symm⟩⟩
    · simp [Heard.during, closes.reports_eq]
    · simp [Heard.during, closes'.reports_eq, kin.queue_closed queue closes closes']
  · have queued' := done'.queue_eq (same ▸ closing)
    rw [← same, ← queue] at queued'
    exact ⟨_, _, ⟨done.queue_eq closing, rfl⟩, ⟨queued', portraits.symm⟩⟩

/-- Two runs that are the same for a region show the same of it after every call. -/
theorem Twin.watches (deterministic : p.Deterministic alike) {notes notes' : List (Deed × Portrait)}
    {last last' : List Sign}
    (twin : Twin alike k wanted heard past v.compositor heard' past' u.compositor)
    (watches : Watches (Deed.Done ⟨p, b⟩ k wanted) k past v notes last v₁)
    (watches' : Watches (Deed.Done ⟨p, b'⟩ k wanted) k past' u notes' last' u₁)
    (calls : turns k heard (notes.map Prod.fst) = turns k heard' (notes'.map Prod.fst))
    (cues : (lastHeard k heard (notes.map Prod.fst)).cues =
      (lastHeard k heard' (notes'.map Prod.fst)).cues) :
    portraitsOf notes = portraitsOf notes' ∧
      v₁.compositor.portrait k last = u₁.compositor.portrait k last' := by
  -- Reports are taken from either run until both are at a call, and the calls are taken together.
  induction watches generalizing heard heard' past' u notes' with
  | nil =>
    induction watches' generalizing heard' with
    | nil =>
      obtain ⟨-, waiting, base, hears, hears'⟩ := twin
      have cues : heard.cues = heard'.cues := cues
      exact ⟨rfl, by rw [hears.portrait, hears'.portrait, cues]⟩
    | @cons _ _ _ _ _ deed' _ done' _ ih' =>
      cases report' : deed'.operation.isReport with
      | true =>
        simp only [List.map_cons, turns, lastHeard, report', if_true] at calls cues
        simpa [portraitsOf, report'] using ih' (twin.right done' report') calls cues
      | false => simp [turns, report'] at calls
  | @cons _ _ _ _ _ deed _ done tail ih =>
    cases report : deed.operation.isReport with
    | true =>
      simp only [List.map_cons, turns, lastHeard, report, if_true] at calls cues
      simpa [portraitsOf, report] using ih (twin.left done report) watches' calls cues
    | false =>
      induction watches' generalizing heard' with
      | nil => simp [turns, report] at calls
      | @cons _ _ _ _ _ deed' _ done' tail' ih' =>
        cases report' : deed'.operation.isReport with
        | true =>
          simp only [List.map_cons, turns, lastHeard, report', if_true] at calls cues
          simpa [portraitsOf, report'] using ih' ih (twin.right done' report') calls cues
        | false =>
          simp only [List.map_cons, turns, lastHeard, report, report', Bool.false_eq_true,
            if_false, List.cons.injEq, Turn.mk.injEq] at calls cues
          -- Both runs are at the same call now, and heard the same before it.
          obtain ⟨⟨rfl, same⟩, calls⟩ := calls
          have twin' := twin.call deterministic same report done done'
          obtain ⟨later, ended⟩ := ih twin' tail' calls cues
          obtain ⟨-, waiting, base, hears, hears'⟩ := twin'
          refine ⟨?_, ended⟩
          simp only [portraitsOf, List.filter_cons, report, report', Bool.not_false, if_true,
            List.map_cons, hears.portrait, hears'.portrait]
          exact congrArg _ later

end Twin

/-! ## The law -/

section Law

variable {σ ι A W D W' D' : Type} {registry : Registry (Constructor σ ι A)}
variable {settings : SplitSettings} {source : VideoFormat} {parent parent' : Option ParentWindow}

/-- A compositor that was just opened with an algorithm. -/
structure Fresh (p : Partitioner σ ι A) (settings : SplitSettings) (a : A)
    (opening : List Sign) (c : Compositor A W D) : Prop where
  settled : c.Settled
  algorithm : c.algorithm = some a
  placement : c.placement = settings.placement
  outputs : c.outputs = p.outputs a
  queue : c.queue = reportsOf opening
  slots : ∀ k, c.picture? k = none

/-- Under the tolerant policy an opening that has an algorithm succeeds. -/
theorem open_tolerates {crew : Crew σ ι A W D} {env : σ} {ledger : Ledger} {algorithm : A}
    {result : Except OpenError (Compositor A W D)} {w : World σ (Happening ι)}
    (tolerant : settings.regionFailure = .tolerate)
    (made : Makes registry settings source env ledger algorithm)
    (opened : «open» crew registry settings source parent ⟨env, ledger, []⟩ = .ok result w) :
    ∃ c, result = .ok c ∧ Fresh crew.algorithm settings algorithm w.signs c := by
  obtain ⟨construct, w₀, known, ran⟩ := made
  rw [open_of_made crew parent known ran] at opened
  have populates := openWith_populates crew settings source parent algorithm w₀
  rw [opened] at populates
  obtain ⟨fates, result', v, populates, -, -, rfl⟩ := populates
  -- Whatever pattern the refusals follow, none of them ends the opening.
  obtain ⟨new, v₁, opens, -⟩ := populates.opens
  obtain ⟨refuses, follows⟩ := opens.exists_follows
  obtain ⟨rfl, -⟩ := opens.tolerates tolerant follows
  obtain ⟨settled, slots⟩ := populates.settled unpopulated_tidy rfl rfl rfl
  generalize w.signs = opening at populates ⊢
  cases populates with
  | opened opens =>
    have fixture := opens.fixture_eq
    exact ⟨v.compositor, rfl, {
      settled := settled
      algorithm := algorithm_of_fixture_eq fixture
      placement := placement_of_fixture_eq fixture
      outputs := (congrArg Compositor.outputs fixture :)
      queue := opens.routes.queue
      slots := slots }⟩

variable {p : Partitioner σ ι A} {b : Backend σ ι W D} {b' : Backend σ ι W' D'}
variable {alike : A → A → Prop} {env env' : σ} {ledger ledger' : Ledger} {a a' : A}

/-- The size that an algorithm wants for a region at first. -/
def wantedSize (p : Partitioner σ ι A) (settings : SplitSettings) (a : A) (k : Nat) : Size :=
  ((p.outputs a)[k]?.map fun output => p.sizeFor a output.format settings.placement).getD ⟨0, 0⟩

theorem wantedSize_eq {settings : SplitSettings} {k : Nat} {output : Output}
    (there : (p.outputs a)[k]? = some output) :
    p.sizeFor a output.format settings.placement = wantedSize p settings a k := by
  rw [wantedSize, there]
  rfl

/-- Two compositors that were opened under the tolerant policy are alike for every region. -/
theorem open_twin {c : Compositor A W D} {c' : Compositor A W' D'}
    {w w' : World σ (Happening ι)} (deterministic : p.Deterministic alike) (same : alike a a')
    (made : Makes registry settings source env ledger a)
    (made' : Makes registry settings source env' ledger' a')
    (opened : «open» ⟨p, b⟩ registry settings source parent ⟨env, ledger, []⟩ = .ok (.ok c) w)
    (opened' : «open» ⟨p, b'⟩ registry settings source parent' ⟨env', ledger', []⟩ =
      .ok (.ok c') w')
    (fresh : Fresh p settings a w.signs c) (fresh' : Fresh p settings a' w'.signs c') (k : Nat) :
    Twin alike k (wantedSize p settings a k) (.of k w.signs) w.signs c (.of k w'.signs) w'.signs
      c' where
  kin := {
    settled := ⟨fresh.settled, fresh'.settled⟩
    algorithm := by
      rw [fresh.algorithm, fresh'.algorithm]
      exact .some same
    placement := fresh.placement.trans fresh'.placement.symm
    outputs := by rw [fresh.outputs, fresh'.outputs, deterministic.outputs same]
    slot := by rw [fresh.slots, fresh'.slots] }
  parted := by
    -- The second algorithm wants the size that the first one wants, since they are alike.
    refine ⟨[], .blank, ⟨fresh.queue, ?_⟩, ⟨fresh'.queue, ?_⟩⟩
    · exact open_portrait opened made fun output there => wantedSize_eq there
    · refine open_portrait opened' made' fun output there => ?_
      rw [← deterministic.outputs same] at there
      exact (deterministic.sizeFor same _ _).symm.trans (wantedSize_eq there)

/-- Regions are kept apart: under the tolerant policy and with a deterministic algorithm, two
openings succeed, and as long as two runs that follow are the same for a region, both show the same
of it after every call. -/
theorem open_isolates_regions (deterministic : p.Deterministic alike) (same : alike a a')
    (tolerant : settings.regionFailure = .tolerate)
    (made : Makes registry settings source env ledger a)
    (made' : Makes registry settings source env' ledger' a')
    {result : Except OpenError (Compositor A W D)} {w : World σ (Happening ι)}
    (opened : «open» ⟨p, b⟩ registry settings source parent ⟨env, ledger, []⟩ = .ok result w)
    {result' : Except OpenError (Compositor A W' D')} {w' : World σ (Happening ι)}
    (opened' : «open» ⟨p, b'⟩ registry settings source parent' ⟨env', ledger', []⟩ =
      .ok result' w') :
    ∃ c c', result = .ok c ∧ result' = .ok c' ∧
      ∀ k operations operations' notes notes' t t',
        performWatched ⟨p, b⟩ k operations ⟨c, w⟩ = .ok notes t →
        performWatched ⟨p, b'⟩ k operations' ⟨c', w'⟩ = .ok notes' t' →
        performAll ⟨p, b⟩ operations ⟨c, w⟩ = .ok () t ∧
        performAll ⟨p, b'⟩ operations' ⟨c', w'⟩ = .ok () t' ∧
        (SameFor k w.signs (notes.map Prod.fst) w'.signs (notes'.map Prod.fst) →
          portraitsOf notes = portraitsOf notes' ∧ t.portrait k = t'.portrait k) := by
  obtain ⟨c, rfl, fresh⟩ := open_tolerates tolerant made opened
  obtain ⟨c', rfl, fresh'⟩ := open_tolerates tolerant made' opened'
  refine ⟨c, c', rfl, rfl, fun k operations operations' notes notes' t t' ran ran' =>
    ⟨performAll_of_watched ran, performAll_of_watched ran', fun kept => ?_⟩⟩
  have twin := open_twin deterministic same made made' opened opened' fresh fresh' k
  generalize wantedSize p settings a k = wanted at twin
  have watches := performWatched_done wanted fresh.settled ran
  have watches' := performWatched_done wanted fresh'.settled ran'
  exact Twin.watches deterministic twin watches watches' kept.turns kept.cues

end Law

/-! ## A triptych with and without its last display -/

/-- Whether two runs that follow two openings are the same for a region, in which its display is
asked for so many things, while other displays are there at first. -/
def contrasts {σ ι A W D W' D' : Type} (crew : Crew σ ι A W D) (crew' : Crew σ ι A W' D')
    (k count : Nat) (operations operations' : List Operation) :
    EStateM.Result Fault (World σ (Happening ι)) (Except OpenError (Compositor A W D)) →
      EStateM.Result Fault (World σ (Happening ι)) (Except OpenError (Compositor A W' D')) → Bool
  | .ok (.ok c) w, .ok (.ok c') w' =>
    match performWatched crew k operations ⟨c, w⟩, performWatched crew' k operations' ⟨c', w'⟩ with
    | .ok notes t, .ok notes' _ =>
      let deeds := notes.map Prod.fst
      let deeds' := notes'.map Prod.fst
      c.shown != c'.shown && (t.portrait k).orders.length == count &&
        turns k (.of k w.signs) deeds == turns k (.of k w'.signs) deeds' &&
        (lastHeard k (.of k w.signs) deeds).cues == (lastHeard k (.of k w'.signs) deeds').cues
    | _, _ => false
  | _, _ => false

theorem of_contrasts {σ ι A W D W' D' : Type} {crew : Crew σ ι A W D} {crew' : Crew σ ι A W' D'}
    {k count : Nat} {operations operations' : List Operation}
    {came : EStateM.Result Fault (World σ (Happening ι)) (Except OpenError (Compositor A W D))}
    {came' : EStateM.Result Fault (World σ (Happening ι)) (Except OpenError (Compositor A W' D'))}
    (h : contrasts crew crew' k count operations operations' came came' = true) :
    ∃ c w c' w' notes t notes' t', came = .ok (.ok c) w ∧ came' = .ok (.ok c') w' ∧
      performWatched crew k operations ⟨c, w⟩ = .ok notes t ∧
      performWatched crew' k operations' ⟨c', w'⟩ = .ok notes' t' ∧ c.shown ≠ c'.shown ∧
      (t.portrait k).orders.length = count ∧
      SameFor k w.signs (notes.map Prod.fst) w'.signs (notes'.map Prod.fst) := by
  unfold contrasts at h
  split at h
  · rename_i c w c' w'
    split at h
    · rename_i notes t notes' t' ran ran'
      simp only [Bool.and_eq_true, bne_iff_ne, beq_iff_eq] at h
      obtain ⟨⟨⟨other, orders⟩, calls⟩, cues⟩ := h
      exact ⟨c, w, c', w', notes, t, notes', t', rfl, rfl, ran, ran', other, orders, calls, cues⟩
    · cases h
  · cases h

/-- What visitors of the middle of a triptych do. -/
def visits : List Operation := [
  .prepare firstFrame.1 none 40, .report 2 (.resized ⟨9, 9⟩), .display,
  .control (.displaySize ⟨32, 24⟩), .report 1 (.resized ⟨7, 5⟩), .report 2 (.input (.key 3)),
  .drain, .close]

/-- The same for the middle, with other reports of the sides. -/
def otherVisits : List Operation := [
  .prepare firstFrame.1 none 40, .display, .report 0 (.resized ⟨1, 1⟩),
  .control (.displaySize ⟨32, 24⟩), .report 2 (.input (.key 3)), .report 1 (.resized ⟨7, 5⟩),
  .drain, .close]

/-- Visitors of the middle of a triptych see the same whether or not its last region is shown. -/
theorem triptych_isolated :
    (Builtin.partitioner : Partitioner Unit Notice Builtin).Deterministic Eq ∧
      ∃ c w c' w' notes t notes' t',
        «open» gallery triptychs (withPolicy .standard .tolerate) (.whole .i420 64 48) none
          ⟨(), firstFrame.2, []⟩ = .ok (.ok c) w ∧
        «open» refusing triptychs (withPolicy .standard .tolerate) (.whole .i420 64 48) none
          ⟨(), firstFrame.2, []⟩ = .ok (.ok c') w' ∧
        performWatched gallery 1 visits ⟨c, w⟩ = .ok notes t ∧
        performWatched refusing 1 otherVisits ⟨c', w'⟩ = .ok notes' t' ∧
        performAll gallery visits ⟨c, w⟩ = .ok () t ∧
        performAll refusing otherVisits ⟨c', w'⟩ = .ok () t' ∧ c.shown ≠ c'.shown ∧
        (t.portrait 1).orders.length = 5 ∧
        SameFor 1 w.signs (notes.map Prod.fst) w'.signs (notes'.map Prod.fst) ∧
        portraitsOf notes = portraitsOf notes' ∧ t.portrait 1 = t'.portrait 1 := by
  have deterministic : (Builtin.partitioner : Partitioner Unit Notice Builtin).Deterministic Eq :=
    builtin_deterministic
  refine ⟨deterministic, ?_⟩
  generalize format : VideoFormat.whole .i420 64 48 = source
  generalize tolerant : withPolicy .standard .tolerate = settings
  have known : triptychs.resolve? settings.algorithmName = some makeTriptych := by
    subst tolerant
    exact Registry.resolve?_register_self _ _ _
  have made : makeTriptych source.upright settings ⟨(), firstFrame.2, []⟩ =
      .ok (.ok (triptych source.upright)) ⟨(), firstFrame.2, []⟩ := rfl
  -- The registry is used only through what it finds.
  generalize triptychs = registry at known ⊢
  have makes : Makes registry settings source () firstFrame.2 (triptych source.upright) :=
    ⟨_, _, known, made⟩
  have contrast : contrasts gallery refusing 1 5 visits otherVisits
      (openWith gallery settings source none (triptych source.upright)
        (founded gallery settings (triptych source.upright) ⟨(), firstFrame.2, []⟩))
      (openWith refusing settings source none (triptych source.upright)
        (founded refusing settings (triptych source.upright) ⟨(), firstFrame.2, []⟩)) = true := by
    subst format tolerant
    decide +kernel
  rw [← open_of_made gallery none known made, ← open_of_made refusing none known made] at contrast
  obtain ⟨c, w, c', w', notes, t, notes', t', opened, opened', ran, ran', other, orders, kept⟩ :=
    of_contrasts contrast
  obtain ⟨_, _, came, came', isolated⟩ := open_isolates_regions deterministic rfl
    (by subst tolerant; rfl) makes makes opened opened'
  cases came
  cases came'
  obtain ⟨performed, performed', alike⟩ := isolated 1 _ _ _ _ _ _ ran ran'
  obtain ⟨portraits, last⟩ := alike kept
  exact ⟨c, w, c', w', notes, t, notes', t', opened, opened', ran, ran', performed, performed',
    other, orders, kept, portraits, last⟩

end Mosaic.Compositor
