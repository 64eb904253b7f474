import Mosaic.Proofs.Pending
import Mosaic.Proofs.Run
import Mosaic.Proofs.Start

/-!
# What an open compositor consists of

From its opening to its closing a compositor has one region, one output and one slot for each
output that its algorithm declared. Regions stand at the places of their outputs and keep what
opening left them with: an output that is not to be shown has neither window nor display, and no
window or display comes or goes. A slot holds only what the display of its region was asked to
prepare last and was not asked to show since. Closing empties all three lists, and nothing fills
them again.

## Main definitions

* `lastFrame` — what the display of a region was asked for last
* `Compositor.Standing` — what an open compositor consists of
* `Compositor.Emptied` — nothing of a compositor is left

## Main results

* `Step.pended` — slots hold what was prepared last
* `Move.emptied` — what was emptied stays so
* `open_keeps_structure` — the law for opening and any operations
-/

set_option autoImplicit false

namespace Mosaic

/-- What the display of a region was asked for last. -/
def lastFrame (k : Nat) (signs : List Sign) : Option FrameCall :=
  ((framesOf signs).filter fun call => call.region = k).getLast?

theorem lastFrame_append (k : Nat) (signs more : List Sign) :
    lastFrame k (signs ++ more) = (lastFrame k more).or (lastFrame k signs) := by
  rw [lastFrame, framesOf_append, List.filter_append, List.getLast?_append]
  rfl

theorem lastFrame_of_frames_eq_nil {signs : List Sign} (h : framesOf signs = []) (k : Nat) :
    lastFrame k signs = none := by
  rw [lastFrame, h]
  rfl

namespace Compositor

section Definitions

variable {A W D : Type}

/-- What is in a slot is what the display of the region was asked to prepare last, and it was not
asked to show it since. -/
def Pended (signs : List Sign) (c : Compositor A W D) : Prop :=
  ∀ k picture, c.picture? k = some picture → (c.display? k).isSome ∧
    ∃ overlay date, lastFrame k signs = some (.prepared k picture overlay date)

/-- What an open compositor consists of: the outputs that were declared, how it was opened, and
what showed since the opening began. -/
structure Standing (declared : List Output) (opened : Compositor A W D) (signs : List Sign)
    (c : Compositor A W D) : Prop where
  regions : c.regions.length = declared.length
  slots : c.pictures.length = declared.length
  outputs : c.outputs = declared
  placed : ∀ (k : Nat) (r : Region W D), c.regions[k]? = some r → r.index = k
  /-- What is not to be shown has neither window nor display. -/
  inactive : ∀ (k : Nat) (output : Output), declared[k]? = some output → output.active = false →
    c.window? k = none ∧ c.display? k = none
  /-- No window and no display comes or goes. -/
  present : ∀ k, (c.window? k).isSome = (opened.window? k).isSome ∧
    (c.display? k).isSome = (opened.display? k).isSome
  pended : Pended signs c

/-- Nothing of a compositor is left. -/
structure Emptied (c : Compositor A W D) : Prop where
  algorithm : c.algorithm = none
  regions : c.regions = []
  outputs : c.outputs = []
  slots : c.pictures = []

end Definitions

variable {σ ι A W D : Type} {crew : Crew σ ι A W D} {v v' : View σ A W D} {past new : List Sign}

/-! ## Slots -/

theorem picture?_withSlot_of_ne (c : Compositor A W D) {k i : Nat} (other : i ≠ k)
    (picture : Option Picture) : (c.withSlot k picture).picture? i = c.picture? i := by
  rw [picture?, withSlot, List.getElem?_set_ne (Ne.symm other), picture?]

/-- To empty a slot empties that one and no other, be it there or not. -/
theorem picture?_withSlot_none (c : Compositor A W D) (k : Nat) :
    (c.withSlot k none).picture? k = none := by
  rw [picture?, withSlot, List.getElem?_set]
  split
  · split <;> rfl
  · contradiction

/-- Where displays are asked for no picture, slots may only get empty. -/
theorem Pended.mute (pended : Pended past v.compositor) (frames : framesOf new = [])
    (shape : v'.compositor.shape = v.compositor.shape)
    (less : ∀ k picture, v'.compositor.picture? k = some picture →
      v.compositor.picture? k = some picture) : Pended (past ++ new) v'.compositor := by
  intro k picture filled
  rw [lastFrame_append, lastFrame_of_frames_eq_nil frames, Option.none_or,
    isSome_display?_of_shape_eq shape]
  exact pended k picture (less k picture filled)

/-- Where a slot is emptied and no display is asked, what is in the others was still prepared
last. -/
theorem Pended.empty {k : Nat} (pended : Pended past v.compositor) (frames : framesOf new = [])
    (shape : v'.compositor.shape = v.compositor.shape) (here : v'.compositor.picture? k = none)
    (others : ∀ i, i ≠ k → v'.compositor.picture? i = v.compositor.picture? i) :
    Pended (past ++ new) v'.compositor := by
  refine pended.mute frames shape fun i picture filled => ?_
  rw [← others i ?_, filled]
  rintro rfl
  rw [here] at filled
  cases filled

/-- Where one display is asked for a picture, what is in the other slots was still prepared
last. -/
theorem Pended.ask {frame : FrameCall} (pended : Pended past v.compositor)
    (frames : framesOf new = [frame]) (shape : v'.compositor.shape = v.compositor.shape)
    (others : ∀ i, i ≠ frame.region → v'.compositor.picture? i = v.compositor.picture? i)
    (one : ∀ picture, v'.compositor.picture? frame.region = some picture →
      (v.compositor.display? frame.region).isSome ∧
        ∃ overlay date, frame = .prepared frame.region picture overlay date) :
    Pended (past ++ new) v'.compositor := by
  intro k picture filled
  rw [lastFrame_append, isSome_display?_of_shape_eq shape]
  by_cases here : k = frame.region
  · subst here
    obtain ⟨display, overlay, date, same⟩ := one picture filled
    refine ⟨display, overlay, date, ?_⟩
    simp [lastFrame, frames, ← same]
  · rw [others k here] at filled
    have silent : lastFrame k new = none := by simp [lastFrame, frames, Ne.symm here]
    rw [silent, Option.none_or]
    exact pended k picture filled

theorem Fills.pended {overlay : Option Overlay} {date : Tick} {k : Nat} {picture : Option Picture}
    (h : Fills crew overlay date k picture v new v') (settled : v.compositor.Settled)
    (pended : Pended past v.compositor) : Pended (past ++ new) v'.compositor := by
  have shape := h.shape_eq
  have frames := h.frames_eq
  cases h with
  | empty =>
    exact pended.empty rfl shape (picture?_withSlot_none _ k) fun i other =>
      picture?_withSlot_of_ne _ other none
  | @unshown _ picture =>
    exact pended.empty rfl shape (picture?_withSlot_none _ k) fun i other =>
      (picture?_withSlot_of_ne _ other none).trans
        (picture?_withSlot_of_ne v.compositor other (some picture))
  | @prepared _ picture _ _ _ _ here display =>
    have inside : k < v.compositor.pictures.length := by
      rw [settled.slots]
      exact (List.getElem?_eq_some_iff.mp here).1
    have shown : (v.compositor.display? k).isSome := by simp [display?_of_getElem? here, display]
    rw [if_pos shown] at frames
    refine pended.ask frames shape
      (fun i other => picture?_withSlot_of_ne v.compositor other (some picture))
      fun part filled => ⟨shown, overlay, date, ?_⟩
    have slot := (v.compositor.picture?_withSlot inside (some picture) k).symm.trans filled
    rw [if_pos rfl] at slot
    cases slot
    rfl

theorem Shows.pended {k : Nat} (h : Shows crew k v new v')
    (pended : Pended past v.compositor) : Pended (past ++ new) v'.compositor := by
  have shape := h.shape_eq
  have here : v'.compositor.picture? k = none := by
    cases h <;> exact picture?_withSlot_none v.compositor k
  have others : ∀ i, i ≠ k → v'.compositor.picture? i = v.compositor.picture? i := by
    intro i other
    cases h <;> exact picture?_withSlot_of_ne v.compositor other none
  have frames := h.frames_eq
  cases h with
  | blank => exact pended.empty rfl shape here others
  | shown at_ display filled =>
    rw [display?_of_getElem? at_, display, filled] at frames
    refine pended.ask frames shape others fun part filled' => ?_
    rw [FrameCall.region, here] at filled'
    cases filled'

/-- What is in the slots is always what was prepared last. -/
theorem Step.pended (h : Step crew v new v') (settled : v.compositor.Settled)
    (pended : Pended past v.compositor) : Pended (past ++ new) v'.compositor := by
  have shape := h.shape_eq
  cases h with
  | quiet quiet =>
    have path := Path.single quiet
    refine pended.mute (Quiet.frames_eq path) shape fun k picture filled => ?_
    rwa [picture?, ← quiet.pictures_eq]
  | split splits =>
    cases splits
    exact pended.mute rfl shape fun _ _ => id
  | fill fills => exact fills.pended settled pended
  | «show» shows => exact shows.pended pended
  | release => exact pended.mute rfl shape fun _ _ => id

/-! ## Closing -/

theorem Emptied.gone {c : Compositor A W D} (emptied : c.Emptied) : c.Gone :=
  ⟨emptied.algorithm, emptied.regions⟩

/-- What was emptied stays so, whatever is done with it. -/
theorem Move.emptied (h : Move crew v new v') (emptied : v.compositor.Emptied) :
    v'.compositor.Emptied := by
  cases h with
  | step step =>
    have shape := step.shape_eq
    obtain ⟨algorithm, regions⟩ := (gone_iff_of_shape_eq shape).mpr emptied.gone
    refine ⟨algorithm, regions, ?_, List.length_eq_zero_iff.mp ?_⟩
    · exact (congrArg Shape.outputs shape).trans emptied.outputs
    · have slots : v'.compositor.pictures.length = v.compositor.pictures.length :=
        congrArg Shape.slots shape
      rw [slots, emptied.slots]
      rfl
  | close closes =>
    cases closes with
    | again => exact emptied
    | first left => exact (left emptied.gone).elim

/-- A compositor is open until it is emptied. -/
theorem Move.open_or_emptied (h : Move crew v new v')
    (before : v.compositor.algorithm.isSome ∨ v.compositor.Emptied) :
    v'.compositor.algorithm.isSome ∨ v'.compositor.Emptied := by
  rcases before with alive | emptied
  · cases h with
    | step step =>
      left
      rwa [show v'.compositor.algorithm.isSome = v.compositor.algorithm.isSome from
        congrArg Shape.isOpen step.shape_eq]
    | close closes =>
      cases closes with
      | again => exact .inl alive
      | first left last =>
        rw [last]
        exact .inr ⟨rfl, rfl, rfl, rfl⟩
  · exact .inr (h.emptied emptied)

/-- Operations among which there is a closing leave nothing of an open compositor. -/
theorem performAll_empties (operations : List Operation) (closing : .close ∈ operations)
    (tidy : v.compositor.Tidy)
    (before : v.compositor.algorithm.isSome ∨ v.compositor.Emptied) :
    (performAll crew operations).Yields crew v fun _ _ v' => v'.compositor.Emptied := by
  obtain ⟨earlier, later, rfl⟩ := List.append_of_mem closing
  rw [performAll_append]
  refine (performAll_yields earlier tidy).andThen fun _ _ v₁ ⟨run, tidy₁⟩ => ?_
  have before₁ := run.keepsView
    (P := fun u => u.compositor.algorithm.isSome ∨ u.compositor.Emptied)
    (fun _ _ _ kept move => move.open_or_emptied kept) before
  refine (close_yields tidy₁).andThen fun _ _ v₂ closes => ?_
  have emptied₂ : v₂.compositor.Emptied := by
    have move : Move crew v₁ _ v₂ := .close closes
    rcases move.open_or_emptied before₁ with alive | emptied
    · rw [closes.gone.1] at alive
      cases alive
    · exact emptied
  refine (performAll_yields later (closes.tidy tidy₁)).mono fun _ _ v₃ ⟨run', _⟩ => ?_
  exact run'.keepsView (P := fun u => u.compositor.Emptied)
    (fun _ _ _ kept move => move.emptied kept) emptied₂

/-! ## Opening -/

section Opening

variable {settings : SplitSettings} {algorithm : A} {k : Nat} {outputs : List Output}
variable {fates : List Fate} {result : Except OpenError Unit}

/-- An output that is not to be shown is not set up. -/
theorem OpensFrom.inactive
    (h : OpensFrom crew settings algorithm k outputs v new fates result v') (i : Nat)
    {fate : Fate} {output : Output} (met : fates[i]? = some fate)
    (given : outputs[i]? = some output) (idle : output.active = false) : fate = .inactive := by
  have one {k : Nat} {v v' : View σ A W D} {new : List Sign} {fate : Fate}
      (opens : Opens crew settings algorithm k output v new fate v') : fate = .inactive := by
    cases opens with
    | inactive => rfl
    | active shown => simp [idle] at shown
  induction h generalizing i with
  | done => cases given
  | failed opens =>
    cases i with
    | zero =>
      cases met
      cases given
      exact one opens
    | succ i => cases met
  | next opens _ _ ih =>
    cases i with
    | zero =>
      cases met
      cases given
      exact one opens
    | succ i => exact ih i met given

/-- What opening leaves is as it should be. -/
theorem Populates.standing (tidy : v.compositor.Tidy) (empty : v.compositor.regions = [])
    (alive : v.compositor.algorithm.isSome)
    (slots : v.compositor.pictures = v.compositor.outputs.map fun _ => none)
    (h : Populates crew settings algorithm v new fates (.ok ()) v') :
    v'.compositor.Settled ∧ v'.compositor.algorithm.isSome ∧
      Standing v.compositor.outputs v'.compositor new v'.compositor := by
  obtain ⟨settled, unfilled⟩ := h.settled tidy empty alive slots
  cases h with
  | opened opens =>
    have fixture := opens.fixture_eq
    have count : v'.compositor.pictures.length = v.compositor.outputs.length := by
      rw [pictures_of_fixture_eq fixture, slots, List.length_map]
    refine ⟨settled, by rwa [algorithm_of_fixture_eq fixture], ?_⟩
    exact {
      regions := by rw [← settled.slots, count]
      slots := count
      outputs := (congrArg Compositor.outputs fixture :)
      placed := fun k r here => (settled.tidy k r here).1
      inactive := by
        intro k output given idle
        -- An output that is not shown met no fate but that, and that leaves nothing.
        have outfit : v'.compositor.outfits[k]? = none ∨
            v'.compositor.outfits[k]? = some (false, false) := by
          rw [opens.outfits_eq (by rw [empty]; rfl), Compositor.outfits, empty, List.map_nil,
            List.nil_append, List.getElem?_map]
          cases met : fates[k]? with
          | none => exact .inl rfl
          | some fate =>
            rw [opens.inactive k met given idle]
            exact .inr rfl
        rw [← Option.not_isSome_iff_eq_none, ← Option.not_isSome_iff_eq_none, isSome_window?,
          isSome_display?]
        rcases outfit with none | some <;> simp [*]
      present := fun _ => ⟨rfl, rfl⟩
      pended := by
        intro k picture filled
        rw [unfilled k] at filled
        cases filled }

end Opening

/-! ## The law -/

/-- Steps leave what a compositor consists of as it should be. -/
theorem Standing.steps {declared : List Output} {opened : Compositor A W D}
    (standing : Standing declared opened past v.compositor) (settled : v.compositor.Settled)
    (path : Path (Step crew) v new v') : Standing declared opened (past ++ new) v'.compositor := by
  have shape := Step.path_shape_eq path
  have outfits : v'.compositor.outfits = v.compositor.outfits := congrArg Shape.outfits shape
  have windows (k : Nat) :
      (v'.compositor.window? k).isSome = (v.compositor.window? k).isSome := by
    rw [isSome_window?, isSome_window?, outfits]
  have displays := isSome_display?_of_shape_eq shape
  have slots : v'.compositor.pictures.length = v.compositor.pictures.length :=
    congrArg Shape.slots shape
  -- What was prepared last needs the slots to be those of the regions at every step.
  have kept := path.keeps
    (P := fun past u => u.compositor.Settled ∧ Pended past u.compositor)
    (fun _ _ _ _ ⟨settled, pended⟩ step =>
      ⟨Step.settled (.single step) settled, step.pended settled pended⟩)
    ⟨settled, standing.pended⟩
  exact {
    regions := by rw [length_regions_of_shape_eq shape, standing.regions]
    slots := by rw [slots, standing.slots]
    outputs := (congrArg Shape.outputs shape).trans standing.outputs
    placed := fun k r here => (kept.1.tidy k r here).1
    inactive := fun k output given idle => by
      obtain ⟨window, display⟩ := standing.inactive k output given idle
      rw [← Option.not_isSome_iff_eq_none, windows, window, ← Option.not_isSome_iff_eq_none,
        displays, display]
      simp
    present := fun k => by rw [windows, displays]; exact standing.present k
    pended := kept.2 }

/-- The algorithm that an opening makes. -/
def Makes (registry : Registry (Constructor σ ι A)) (settings : SplitSettings)
    (source : VideoFormat) (env : σ) (ledger : Ledger) (algorithm : A) : Prop :=
  ∃ construct w₀, registry.resolve? settings.algorithmName = some construct ∧
    construct source.upright settings ⟨env, ledger, []⟩ = .ok (.ok algorithm) w₀

/-- From its opening to its closing a compositor consists of what its algorithm declared, and
after its closing of nothing. -/
theorem open_keeps_structure (crew : Crew σ ι A W D) (registry : Registry (Constructor σ ι A))
    (settings : SplitSettings) (source : VideoFormat) (parent : Option ParentWindow)
    (operations : List Operation) (env : σ) (ledger : Ledger) :
    match «open» crew registry settings source parent ⟨env, ledger, []⟩ with
    | .error fault _ => crew.Raises fault ∨ MakingRaises registry settings source fault
    | .ok (.error _) _ => True
    | .ok (.ok opened) w => ∃ algorithm, Makes registry settings source env ledger algorithm ∧
      match performAll crew operations ⟨opened, w⟩ with
      | .ok _ t =>
        (.close ∉ operations →
          Standing (crew.algorithm.outputs algorithm) opened t.world.signs t.compositor) ∧
        (.close ∈ operations → t.compositor.Emptied)
      | .error fault _ => crew.Raises fault := by
  have starts := open_starts crew registry settings source parent env ledger
  cases came : «open» crew registry settings source parent ⟨env, ledger, []⟩ with
  | error fault w =>
    rw [came] at starts
    exact starts
  | ok result w =>
    rw [came] at starts
    cases starts with
    | unknown | unmade => trivial
    | @populated _ construct algorithm w₀ fates result v known ran populates seen =>
      cases result with
      | error e => trivial
      | ok done =>
        refine ⟨algorithm, ⟨construct, w₀, known, ran⟩, ?_⟩
        obtain ⟨settled, alive, standing⟩ := populates.standing unpopulated_tidy rfl rfl rfl
        cases performed : performAll crew operations ⟨v.compositor, w⟩ with
        | error fault t =>
          have all : (performAll crew operations).Yields crew v _ :=
            performAll_yields operations settled.tidy
          have yields := all ⟨v.compositor, w⟩ seen
          rw [performed] at yields
          exact yields
        | ok done t =>
          refine ⟨fun going => ?_, fun closing => ?_⟩
          · have steps : (performAll crew operations).Yields crew v _ :=
              performAll_steps operations going settled.tidy
            have yields := steps ⟨v.compositor, w⟩ seen
            rw [performed] at yields
            obtain ⟨new, signs, path, -⟩ := yields
            rw [signs]
            exact standing.steps settled path
          · have empties : (performAll crew operations).Yields crew v _ :=
              performAll_empties operations closing settled.tidy (.inl alive)
            have yields := empties ⟨v.compositor, w⟩ seen
            rw [performed] at yields
            obtain ⟨new, -, emptied⟩ := yields
            exact emptied

end Compositor

end Mosaic
