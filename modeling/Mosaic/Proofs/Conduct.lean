import Mosaic.Proofs.Afterlife
import Mosaic.Proofs.Sights
import Mosaic.Proofs.Tiling

/-!
# A compositor of lawful displays

A compositor that lays out its regions with one of the algorithms at hand, and whose displays are
lawful, does all that it is asked. No operation breaks off where the pictures fit, each of its
leaves does its part, and everything stays in order.

What an action does is said by `Act.Ensures`, from the single region up to the operation.

## Main definitions

* `Backend.crew` — displays and windows together with the algorithms at hand
* `Obeys` — what becomes of a display that is told its size

## Main results

* `drain_ensures`, `report_ensures`, `control_ensures` — operations that touch no picture
* `prepare_ensures`, `display_ensures` — every leaf prepares a picture, and shows it
* `close_ensures` — every leaf is closed once, the last one first
-/

set_option autoImplicit false

namespace Mosaic

/-- The algorithms at hand together with windows and displays. -/
abbrev Backend.crew {σ ι W D : Type} (backend : Backend σ ι W D) : Crew σ ι Builtin W D :=
  ⟨Builtin.partitioner, backend⟩

namespace Compositor

open Act

variable {σ ι W D : Type} {backend : Backend σ ι W D} {o : Sights ι D} {b : Builtin}
variable {waiting : Nat → Bool} {c : Compositor Builtin W D}

/-! ## Inputs -/

/-- The algorithms at hand place pointer events without a change and without a fault. -/
theorem handle_ensures (input : RegionInput) (alive : c.algorithm = some b) :
    (handle backend.crew input).Ensures c fun _ inner c' => inner = [] ∧ Stays c c' := by
  obtain ⟨k, event⟩ := input
  cases event with
  | mouse event =>
    refine .bind (.compositor ?_)
    rw [alive]
    have placed : (Builtin.partitioner.locate b k event : Run σ ι _).Ends fun answer items =>
        answer = (b.locate k event, b) ∧ items = [] := .pure ⟨rfl, rfl⟩
    refine .bind (.ask placed ?_)
    rintro _ _ ⟨rfl, rfl⟩
    refine .bind (.modifyCompositor (.bind (.answered ?_)))
    -- The algorithm comes back as it was.
    have same : Stays c { c with algorithm := some b } := ⟨alive.symm, rfl, rfl, rfl⟩
    cases b.locate k event with
    | none => exact .say ⟨rfl, same⟩
    | some moved =>
      refine .bind (.modifyCompositor ((forward_ensures (.mouse moved)).mono ?_))
      rintro _ _ _ ⟨rfl, rfl⟩
      exact ⟨rfl, same.trans ⟨rfl, rfl, rfl, rfl⟩⟩
  | key | closeRequested =>
    refine .bind (.say ((forward_ensures _).mono ?_))
    rintro _ _ _ ⟨rfl, rfl⟩
    exact ⟨rfl, rfl, rfl, rfl, rfl⟩

theorem handleAll_ensures (inputs : List RegionInput) (alive : c.algorithm = some b) :
    (handleAll backend.crew inputs).Ensures c fun _ inner c' => inner = [] ∧ Stays c c' := by
  induction inputs generalizing c with
  | nil => exact .pure ⟨rfl, .refl c⟩
  | cons input rest ih =>
    have first : (handle backend.crew input).Ensures { c with queue := rest } _ :=
      handle_ensures input alive
    refine .bind (.modifyCompositor (first.andThen ?_))
    rintro _ _ c₁ ⟨rfl, stays⟩
    refine (ih (stays.algorithm.trans alive)).mono ?_
    rintro _ _ c' ⟨rfl, later⟩
    exact ⟨rfl, Stays.trans ⟨stays.algorithm, stays.outputs, stays.regions, stays.pictures⟩ later⟩

theorem drain_ensures (alive : c.algorithm = some b) :
    (drain backend.crew).Ensures c fun _ inner c' => inner = [] ∧ Stays c c' := by
  refine .bind (.compositor ((handleAll_ensures _ alive).andThen ?_))
  rintro _ _ c' ⟨rfl, stays⟩
  exact .pure ⟨rfl, stays⟩

/-- Inputs that are reported are queued, whatever locks are held. -/
theorem reportInputs_ensures (k : Nat) (events : List InputEvent) :
    (reportInputs backend.crew k events).Ensures c fun _ inner c' =>
      inner = [] ∧ c' = c.withQueued k events := by
  induction events generalizing c with
  | nil => exact .pure ⟨rfl, (withQueued_nil c k).symm⟩
  | cons event rest ih =>
    refine .bind (.bind (.reported (.modifyCompositor (ih.mono ?_))))
    rintro _ _ _ ⟨rfl, rfl⟩
    exact ⟨rfl, withQueued_withQueued c k [event] rest⟩

theorem reportShowing_ensures (stage : FrameStage) (k : Nat) :
    (reportShowing backend.crew stage k).Ensures c fun _ inner c' =>
      inner = [] ∧ ∃ events, c' = c.withQueued k events :=
  .bind (.env fun _ => (reportInputs_ensures k _).mono fun _ _ _ ⟨silent, queued⟩ =>
    ⟨silent, _, queued⟩)

/-! ## Sizes -/

/-- What becomes of a display that is in order when nothing is done with pictures. -/
structure Calm (o : Sights ι D) (k : Nat) (waits : Bool) (d d' : D) : Prop where
  sound : o.Sound k waits d'
  becomes : o.Becomes id d d'

/-- What becomes of the display of a region that is told its size. -/
structure Obeys (o : Sights ι D) (k : Nat) (waits : Bool) (size : Size) (d d' : D) : Prop extends
    Calm o k waits d d' where
  /-- A size in full is taken everywhere. -/
  sized : size.width ≠ 0 → size.height ≠ 0 → ∀ taken ∈ o.sizes d', taken = size

theorem Obeys.calm {k : Nat} {waits : Bool} {size : Size} {display display' : Option D}
    (obeys : Option.Rel (Obeys o k waits size) display display') :
    Option.Rel (Calm o k waits) display display' := by
  cases obeys with
  | none => exact .none
  | some obeys => exact .some obeys.toCalm

theorem Obeys.takes {k : Nat} {waits : Bool} {size : Size} {display display' : Option D}
    (obeys : Option.Rel (Obeys o k waits size) display display') (width : size.width ≠ 0)
    (height : size.height ≠ 0) :
    ∀ d, display' = some d → ∀ taken ∈ o.sizes d, taken = size := by
  rintro d rfl
  cases obeys with
  | some obeys => exact obeys.sized width height

/-- Where a display stays in order, so does its compositor, and no leaf did anything. -/
theorem Sound.calm {k : Nat} {r : Region W D} {size : Size} {display : Option D}
    (sound : c.Sound o b waiting) (here : c.regions[k]? = some r)
    (calm : Option.Rel (Calm o k (waiting k)) r.display display) :
    (c.setRegion k { r with size := size, display := display }).Sound o b waiting ∧
      Alters o (fun _ => id) c (c.setRegion k { r with size := size, display := display }) := by
  obtain ⟨index, window, before, _, locked⟩ := r
  have turned : (c.setRegion k ⟨index, window, display, size, locked⟩).Sound o b _ :=
    sound.adjust here (sound.tidy _ _ here).1 (sound.tidy _ _ here).2 ?_ ?_
  · have kept : Option.Rel (o.Becomes id) before display := by
      cases calm with
      | none => exact .none
      | some calm => exact .some calm.becomes
    exact ⟨turned, (Alters.turn here kept).congr fun i _ => ite_self id⟩
  · cases calm <;> rfl
  · intro d shows
    cases calm with
    | none => cases shows
    | some calm => cases shows; exact calm.sound

section Lawful

variable (lawful : Lawful backend o)
include lawful

theorem setSize_ensures {k : Nat} {waits : Bool} {d : D} (size : Size)
    (sound : o.Sound k waits d) :
    (setSize backend.crew k d size).Ensures c fun d' inner c' =>
      o.closed inner = [] ∧ c' = c ∧ Obeys o k waits size d d' := by
  refine .bind (.ask (lawful.control (.displaySize size) sound) ?_)
  rintro ⟨result, d'⟩ items ⟨sound', becomes, silent, sized⟩
  have obeys : Obeys o k waits size d d' := ⟨⟨sound', becomes⟩, sized size rfl⟩
  cases result with
  | ok _ => exact .pure ⟨by simpa using silent, rfl, obeys⟩
  | error e => exact .bind (.say (.pure ⟨by simpa using silent, rfl, obeys⟩))

theorem tellDisplay_ensures {k : Nat} {r : Region W D} {waits : Bool} (size : Size)
    (here : c.regions[k]? = some r) (sound : ∀ d, r.display = some d → o.Sound k waits d) :
    (tellDisplay backend.crew k size).Ensures c fun _ inner c' =>
      o.closed inner = [] ∧ ∃ display, c' = c.setRegion k { r with display := display } ∧
        Option.Rel (Obeys o k waits size) r.display display := by
  refine .bind (.compositor ?_)
  rw [display?_of_getElem? here]
  cases shown : r.display with
  | none =>
    refine .pure ⟨rfl, none, ?_, .none⟩
    rw [← shown]
    exact (setRegion_self here).symm
  | some d =>
    refine (setSize_ensures lawful size (sound d shown)).andThen ?_
    rintro d' inner _ ⟨silent, rfl, obeys⟩
    refine .bind (.changeRegion (.pure ⟨by simpa using silent, some d', ?_, .some obeys⟩))
    exact modifyRegion_eq_setRegion here _

theorem resizeRegion_ensures {k : Nat} {r : Region W D} (size : Size)
    (sound : c.Sound o b waiting) (here : c.regions[k]? = some r) :
    (resizeRegion backend.crew k size).Ensures c fun _ inner c' =>
      o.closed inner = [] ∧
      ∃ display, c' = c.setRegion k { r with size := size, display := display } ∧
        Option.Rel (Obeys o k (waiting k) size) r.display display := by
  obtain ⟨index, window, display, before, locked⟩ := r
  obtain ⟨rfl, rfl⟩ : index = k ∧ locked = false := sound.tidy _ _ here
  refine .underLock sound.tidy here (.bind (.changeRegion ?_))
  rw [modifyRegion_setRegion]
  have orderly (d : D) (shows : display = some d) : o.Sound index (waiting index) d :=
    sound.displays index d (by rw [display?_of_getElem? here, shows])
  refine (tellDisplay_ensures lawful size (getElem?_setRegion_self here) orderly).andThen ?_
  rintro told inner _ ⟨silent, display', rfl, obeys⟩
  refine .bind (.call (.say ⟨by simpa using silent, display', ?_, obeys⟩))
  rw [setRegion_setRegion, modifyRegion_setRegion]

theorem report_ensures (k : Nat) (event : WindowEvent) (sound : c.Sound o b waiting) :
    (report backend.crew k event).Ensures c fun _ inner c' =>
      o.closed inner = [] ∧ c'.Sound o b waiting ∧ Alters o (fun _ => id) c c' := by
  refine .bind (.reported ?_)
  cases event with
  | input event =>
    have stays : Stays c (c.withQueued k [event]) := ⟨rfl, rfl, rfl, rfl⟩
    exact .modifyCompositor ⟨rfl, sound.of_stays stays, .of_stays stays⟩
  | resized size =>
    refine .bind (.compositor ?_)
    split
    · rename_i inside
      have here := List.getElem?_eq_getElem inside
      refine (resizeRegion_ensures lawful size sound here).mono ?_
      rintro _ inner _ ⟨silent, display, rfl, obeys⟩
      exact ⟨by simpa using silent, sound.calm here (Obeys.calm obeys)⟩
    · exact .say ⟨rfl, sound, .of_stays (.refl c)⟩

/-! ## Control queries -/

/-- Regions from one on get their sizes, and keep them while those behind them get theirs. -/
theorem resizeFrom_ensures (placement : Placement) {k : Nat} {outputs : List Output}
    (sound : c.Sound o b waiting) (rest : k + outputs.length = c.regions.length) :
    (resizeFrom backend.crew b placement k outputs).Ensures c fun _ inner c' =>
      o.closed inner = [] ∧ c'.Sound o b waiting ∧ Alters o (fun _ => id) c c' ∧
      (∀ i < k, c'.regions[i]? = c.regions[i]?) ∧
      (placement.width ≠ 0 → placement.height ≠ 0 → ∀ i r, k ≤ i → c'.regions[i]? = some r →
        r.Takes o ⟨placement.width, placement.height⟩) := by
  induction outputs generalizing c k with
  | nil =>
    refine .pure ⟨rfl, sound, .of_stays (.refl c), fun _ _ => rfl, fun _ _ i r beyond here => ?_⟩
    obtain ⟨inside, -⟩ := List.getElem?_eq_some_iff.mp here
    simp only [List.length_nil] at rest
    omega
  | cons output outputs ih =>
    have inside : k < c.regions.length := by simp only [List.length_cons] at rest; omega
    have here := List.getElem?_eq_getElem inside
    refine .bind (.compositor ?_)
    rw [if_pos inside]
    refine .bind (.consult ((resizeRegion_ensures lawful _ sound here).andThen ?_))
    rintro _ inner _ ⟨silent, display, rfl, obeys⟩
    obtain ⟨sound₁, alters⟩ := sound.calm here (Obeys.calm obeys)
    refine (ih sound₁ ?_).mono ?_
    · rw [alters.count, ← rest, List.length_cons]
      omega
    rintro _ more c' ⟨silent', sound', alters', kept, sized⟩
    refine ⟨by simp [silent, silent'], sound', alters.trans alters', fun i before => ?_, ?_⟩
    · rw [kept i (by omega), getElem?_setRegion_of_ne (by omega)]
    · intro width height i r from_ there
      rcases Nat.eq_or_lt_of_le from_ with rfl | beyond
      · -- The region at hand keeps what it got.
        rw [kept k (by omega), getElem?_setRegion_self here] at there
        cases there
        have granted : Builtin.partitioner.sizeFor (σ := σ) (ι := ι) b output.format placement =
            ⟨placement.width, placement.height⟩ :=
          placement.sizeFor_of_requested output.format width height
        rw [granted] at obeys
        exact ⟨granted, Obeys.takes obeys width height⟩
      · exact sized width height i r beyond there

theorem control_ensures (query : ControlQuery) (sound : c.Sound o b waiting) :
    (control backend.crew query).Ensures c fun _ inner c' =>
      o.closed inner = [] ∧ c'.Sound o b waiting ∧ Alters o (fun _ => id) c c' ∧
      ∀ size, query = .displaySize size → size.width ≠ 0 → size.height ≠ 0 →
        ∀ taken ∈ c'.sizes o.sizes, taken = size := by
  cases query with
  | displaySize size =>
    refine .bind (.say (.bind (.modifyCompositor (.bind (.compositor ?_)))))
    -- From here on only the compositor with the new placement matters.
    have stays : Stays c { c with placement := c.placement.resize size } := ⟨rfl, rfl, rfl, rfl⟩
    have placed : ({ c with placement := c.placement.resize size } :
      Compositor Builtin W D).placement = c.placement.resize size := rfl
    generalize ({ c with placement := c.placement.resize size } :
      Compositor Builtin W D) = c₁ at stays placed
    have sound₁ := sound.of_stays stays
    rw [sound₁.algorithm, sound₁.outputs, placed]
    have all : 0 + b.outputs.length = c₁.regions.length := by
      simp [Builtin.outputs, sound₁.count]
    refine (resizeFrom_ensures lawful _ sound₁ all).andThen ?_
    rintro _ inner c' ⟨silent, sound', alters, -, sized⟩
    refine .pure ⟨by simpa using silent, sound', (Alters.of_stays stays).trans alters, ?_⟩
    rintro _ ⟨⟩ width height taken member
    exact eq_of_mem_sizes (fun i r here => sized width height i r (Nat.zero_le i) here) member
  | unknown code =>
    exact .bind (.say (.pure ⟨rfl, sound, .of_stays (.refl c), nofun⟩))
  | sourceAspect | sourceCrop | sourcePlace =>
    exact .bind (.say (.pure ⟨rfl, sound, .of_stays (.refl c), nofun⟩))

end Lawful

/-! ## Preparing -/

theorem putPicture_ensures (k : Nat) (picture : Option Picture) :
    (putPicture k picture : Act σ ι Builtin W D Unit).Ensures c fun _ inner c' =>
      inner = [] ∧ c' = c.withSlot k picture :=
  .bind (.compositor (.bind (.modifyCompositor (.release ⟨rfl, rfl⟩))))

section Region

variable {k : Nat} {r : Region W D} {overlay : Option Overlay} {date : Tick}

theorem prepareRegion_blank (picture : Picture) (tidy : c.Tidy) (here : c.regions[k]? = some r)
    (blank : r.display = none) :
    (prepareRegion backend.crew overlay date k picture).Ensures c fun done inner c' =>
      done = false ∧ inner = [] ∧ c' = c := by
  obtain ⟨index, window, display, size, locked⟩ := r
  obtain ⟨rfl, rfl⟩ : index = k ∧ locked = false := tidy _ _ here
  obtain rfl : display = none := blank
  refine .underLock tidy here (.bind (.compositor ?_))
  rw [display?_setRegion_self here]
  refine .pure ⟨rfl, rfl, ?_⟩
  rw [modifyRegion_setRegion]
  exact setRegion_self here

theorem prepareRegion_ensures (lawful : Lawful backend o) {waits : Bool} {d : D}
    {picture : Picture} (tidy : c.Tidy) (here : c.regions[k]? = some r)
    (shown : r.display = some d) (sound : o.Sound k waits d) (fits : o.Fits d picture.origin) :
    (prepareRegion backend.crew overlay date k picture).Ensures c fun done inner c' =>
      done = true ∧ o.closed inner = [] ∧ ∃ d' events,
        c' = (c.withQueued k events).setRegion k { r with display := some d' } ∧
        o.Sound k true d' ∧ o.Becomes .prepare d d' := by
  obtain ⟨index, window, display, size, locked⟩ := r
  obtain ⟨rfl, rfl⟩ : index = k ∧ locked = false := tidy _ _ here
  refine .underLock tidy here (.bind (.compositor ?_))
  rw [display?_setRegion_self here, shown]
  refine .bind (.ledger fun _ => .bind (.askWhile
    (lawful.prepare picture overlay date sound fits) ((reportShowing_ensures _ index).mono ?_)))
  rintro _ _ _ ⟨rfl, events, rfl⟩ d' inner ⟨sound', becomes, silent⟩
  refine .bind (.changeRegion (.pure ⟨rfl, by simpa using silent, d', events, ?_, sound', becomes⟩))
  rw [withQueued_setRegion, modifyRegion_setRegion, modifyRegion_setRegion]

/-- A display that prepared the picture in the slot of its region, and one that showed it. -/
theorem Sound.work {waits : Bool} {picture : Option Picture} {events : List InputEvent} {d d' : D}
    {act : Leaf → Leaf} (sound : c.Sound o b waiting) (here : c.regions[k]? = some r)
    (shown : r.display = some d) (filled : picture.isSome = waits) (sound' : o.Sound k waits d')
    (becomes : o.Becomes act d d') :
    (((c.withSlot k picture).withQueued k events).setRegion k
        { r with display := some d' }).Sound o b (fun i => if i = k then waits else waiting i) ∧
      Alters o (fun i => if i = k then act else id) c
        (((c.withSlot k picture).withQueued k events).setRegion k
          { r with display := some d' }) := by
  have queued : (c.withQueued k events).Sound o b waiting := sound.of_stays ⟨rfl, rfl, rfl, rfl⟩
  constructor
  · refine queued.turn here (sound.tidy _ _ here).1 (sound.tidy _ _ here).2 ?_ ?_ ?_
    · rw [shown]
      rfl
    · rintro _ ⟨⟩
      exact sound'
    · simpa using filled
  · have aside : Alters o (fun _ => id) c ((c.withSlot k picture).withQueued k events) :=
      .of_regions_eq rfl rfl
    refine aside.trans (Alters.turn here ?_)
    rw [shown]
    exact .some becomes

/-- Where a region has nothing to show, its slot is left empty. -/
theorem Sound.blank {waits : Bool} (sound : c.Sound o b waiting) (here : c.regions[k]? = some r)
    (blank : r.display = none ∨ (waits = false ∧ waiting k = false)) :
    (c.withSlot k none).Sound o b (fun i => if i = k then waits else waiting i) := by
  have orderly (d : D) (shown : r.display = some d) : o.Sound k waits d := by
    rcases blank with blank | ⟨rfl, idle⟩
    · rw [blank] at shown
      cases shown
    · exact idle ▸ sound.displays k d (by rw [display?_of_getElem? here, shown])
  have empty : (none : Option Picture).isSome = (waits && r.display.isSome) := by
    rcases blank with blank | ⟨rfl, -⟩
    · rw [blank, Option.isSome_none, Option.isSome_none, Bool.and_false]
    · rfl
  have turned := sound.turn here (sound.tidy _ _ here).1 (sound.tidy _ _ here).2 rfl orderly empty
  rwa [setRegion_self (c := c.withSlot k none) here] at turned

/-- The slot of a region is filled and its display prepares the picture, if there is a display. -/
theorem fillSlot_ensures (lawful : Lawful backend o) {picture : Option Picture}
    (sound : c.Sound o b waiting) (here : c.regions[k]? = some r)
    (fits : ∀ d, r.display = some d → ∃ p, picture = some p ∧ o.Fits d p.origin) :
    (fillSlot backend.crew overlay date k picture).Ensures c fun _ inner c' =>
      o.closed inner = [] ∧ c'.Sound o b (fun i => if i = k then true else waiting i) ∧
        Alters o (fun i => if i = k then .prepare else id) c c' := by
  refine (putPicture_ensures k picture).andThen ?_
  rintro _ _ _ ⟨rfl, rfl⟩
  cases shown : r.display with
  | none =>
    have blank : (c.withSlot k none).Sound o b fun i => if i = k then true else waiting i :=
      sound.blank here (.inl shown)
    have still : Alters o (fun i => if i = k then .prepare else id) c (c.withSlot k none) :=
      .blank here shown rfl rfl
    cases picture with
    | none => exact .pure ⟨rfl, blank, still⟩
    | some p =>
      have asked : (prepareRegion backend.crew overlay date k p).Ensures
          (c.withSlot k (some p)) _ := prepareRegion_blank p sound.tidy here shown
      refine asked.andThen ?_
      rintro _ _ _ ⟨rfl, rfl, rfl⟩
      refine (putPicture_ensures k none).mono ?_
      rintro _ _ _ ⟨rfl, rfl⟩
      rw [withSlot_withSlot]
      exact ⟨rfl, blank, still⟩
  | some d =>
    obtain ⟨p, rfl, fit⟩ := fits d shown
    have orderly := sound.displays k d (by rw [display?_of_getElem? here, shown])
    have asked : (prepareRegion backend.crew overlay date k p).Ensures (c.withSlot k (some p)) _ :=
      prepareRegion_ensures lawful sound.tidy here shown orderly fit
    refine asked.andThen ?_
    rintro _ inner _ ⟨rfl, silent, d', events, rfl, sound', becomes⟩
    exact .pure ⟨by simpa using silent, sound.work here shown rfl sound' becomes⟩

end Region

theorem fillSlots_ensures (lawful : Lawful backend o) {overlay : Option Overlay} {date : Tick}
    {count k : Nat} {slots : Slots} (sound : c.Sound o b waiting)
    (all : k + count = c.regions.length)
    (fits : ∀ i d, k ≤ i → c.display? i = some d →
      ∃ p, slots[i - k]?.join = some p ∧ o.Fits d p.origin) :
    (fillSlots backend.crew overlay date count k slots).Ensures c fun _ inner c' =>
      o.closed inner = [] ∧ c'.Sound o b (fun i => if k ≤ i then true else waiting i) ∧
        Alters o (fun i => if k ≤ i then .prepare else id) c c' := by
  induction count generalizing k c waiting slots with
  | zero =>
    -- Behind the last region there is nothing to fill.
    refine .pure ⟨rfl, sound.congr fun i inside => ?_, (Alters.of_stays (.refl c)).congr ?_⟩
    · rw [if_neg (by omega)]
    · intro i inside
      rw [if_neg (by omega)]
  | succ count ih =>
    have inside : k < c.regions.length := by omega
    have here := List.getElem?_eq_getElem inside
    have first (d : D) (shown : c.regions[k].display = some d) :
        ∃ p, slots.head?.join = some p ∧ o.Fits d p.origin := by
      have found := fits k d (Nat.le_refl k) (by rw [display?_of_getElem? here, shown])
      rwa [Nat.sub_self, ← List.head?_eq_getElem?] at found
    refine (Ensures.guarding (fillSlot_ensures lawful sound here first)).andThen ?_
    rintro _ inner c₁ ⟨silent, sound₁, alters⟩
    refine (ih sound₁ (by rw [alters.count]; omega) fun i d beyond shown => ?_).mono ?_
    · -- The displays behind this region are as they were.
      have same := alters.displays i
      rw [if_neg (by omega), shown] at same
      generalize before : c.display? i = old at same
      cases same with
      | some becomes =>
        obtain ⟨p, part, fits⟩ := fits i _ (by omega) before
        refine ⟨p, ?_, (becomes.fits_iff _).mpr fits⟩
        rw [List.getElem?_tail, show i - (k + 1) + 1 = i - k by omega]
        exact part
    rintro left more c' ⟨silent', sound', alters'⟩
    exact ⟨by simp [silent, silent'], sound'.onward, alters.onward alters'⟩

/-- The place of a part of a picture, where it has one. -/
def partAt (origin offset : Origin) : Origin := (origin.shift offset).toOption.getD .zero

theorem shift_view {b : Builtin} {origin : Origin}
    (fits : ∀ (k : Nat) (cell : Cell), b.cells[k]? = some cell → cell.output.active = true →
      ∃ start, origin.shift cell.origin = .ok start) :
    ∀ want : VideoFormat × Origin, some want ∈ b.cells.map Cell.view? →
      origin.shift want.2 = .ok (partAt origin want.2) := by
  intro want member
  obtain ⟨cell, inside, view⟩ := List.mem_map.mp member
  obtain ⟨k, here⟩ := List.mem_iff_getElem?.mp inside
  unfold Cell.view? at view
  split at view
  · rename_i active
    cases view
    obtain ⟨start, shifted⟩ := fits k cell here active
    rw [partAt, shifted]
    rfl
  · cases view

/-- Splitting a picture that fits gives a part for every cell that is to be shown, at its
place. -/
theorem split_ensures {picture : Picture} {date : Tick} (alive : c.algorithm = some b)
    (fits : ∀ (k : Nat) (cell : Cell), b.cells[k]? = some cell → cell.output.active = true →
      ∃ start, picture.origin.shift cell.origin = .ok start) :
    (split backend.crew b picture date).Ensures c fun slots inner c' =>
      inner = [] ∧ Stays c c' ∧
      ∀ (k : Nat) (cell : Cell) (start : Origin), b.cells[k]? = some cell →
        cell.output.active = true → picture.origin.shift cell.origin = .ok start →
          ∃ p : Picture, slots[k]?.join = some p ∧ p.origin = start := by
  have placed := shift_view fits
  have ends : (Builtin.partitioner.filter b picture : Run σ ι _).Ends fun answer items =>
      items = [] ∧ ∃ slots, answer = (.ok slots, b) ∧
        slots.map (Option.map fun v => (v.format, v.origin)) =
          (b.cells.map Cell.view?).map (Option.map fun want =>
            (want.1, partAt picture.origin want.2)) := by
    intro w
    obtain ⟨slots, l', done, parts, -⟩ :=
      Ledger.views_of_shift (b.cells.map Cell.view?) placed w.ledger
    refine ⟨(.ok slots, b), [], { w with ledger := l'.release picture }, ?_,
      (List.append_nil _).symm, rfl, slots, rfl, parts⟩
    simp only [Builtin.partitioner, bind, EStateM.bind, Run.consuming, Builtin.split, done]
    rfl
  refine .bind (.modifyLedger (.bind (.ledger fun _ => .bind (.ask ends ?_))))
  rintro _ _ ⟨rfl, slots, rfl, parts⟩
  refine .bind (.modifyCompositor (.bind (.answered (.pure
    ⟨rfl, ⟨alive.symm, rfl, rfl, rfl⟩, ?_⟩))))
  intro k cell start here active shifted
  -- The slot is read off the list of all parts.
  have part := congrArg (fun l => l[k]?) parts
  simp only [List.getElem?_map, here, Option.map_some, Cell.view?, active, if_true] at part
  obtain ⟨slot, found, filled⟩ := Option.map_eq_some_iff.mp part
  obtain ⟨p, rfl, place⟩ := Option.map_eq_some_iff.mp filled
  refine ⟨p, by rw [found]; rfl, (Prod.mk.inj place).2.trans ?_⟩
  rw [partAt, shifted]
  rfl

theorem prepare_ensures (lawful : Lawful backend o) (picture : Picture)
    (overlay : Option Overlay) (date : Tick) (sound : c.Sound o b waiting)
    (fits : c.Fits o.Fits picture.origin) :
    (prepare backend.crew picture overlay date).Ensures c fun _ inner c' =>
      o.closed inner = [] ∧ c'.Sound o b (fun _ => true) ∧
        Alters o (fun _ => .prepare) c c' := by
  refine (drain_ensures sound.algorithm).andThen ?_
  rintro _ _ c₁ ⟨rfl, stays⟩
  have sound₁ := sound.of_stays stays
  refine .bind (.compositor ?_)
  rw [sound₁.algorithm]
  have places := fits b sound.algorithm
  refine (split_ensures sound₁.algorithm fun k cell here active => ?_).andThen ?_
  · obtain ⟨start, shifted, -⟩ := places k cell here active
    exact ⟨start, shifted⟩
  rintro slots _ c₂ ⟨rfl, stays', parts⟩
  have sound₂ := sound₁.of_stays stays'
  have aside : Alters o (fun _ => id) c c₂ := .of_stays (stays.trans stays')
  -- Every display is there for a cell that is shown, so there is a part for it.
  have ready (i : Nat) (d : D) (_ : 0 ≤ i) (shows : c₂.display? i = some d) :
      ∃ p, slots[i - 0]?.join = some p ∧ o.Fits d p.origin := by
    obtain ⟨cell, here, active⟩ := sound₂.shown i d shows
    obtain ⟨start, shifted, fit⟩ := places i cell here active
    obtain ⟨p, found, rfl⟩ := parts i cell start here active shifted
    have same : c₂.display? i = c.display? i := by
      rw [display?, display?, stays'.regions, stays.regions]
    exact ⟨p, found, fit d (same ▸ shows)⟩
  refine .bind (.compositor ?_)
  have fill : (fillSlots backend.crew overlay date c₂.regions.length 0 slots >>=
      releaseSlots).Ensures c₂ fun _ inner c' => o.closed inner = [] ∧
        c'.Sound o b (fun _ => true) ∧ Alters o (fun _ => .prepare) c c' := by
    refine (fillSlots_ensures lawful sound₂ (Nat.zero_add _) ready).andThen ?_
    rintro left inner c' ⟨silent, sound', alters⟩
    refine .releaseSlots ⟨by simpa using silent, sound'.congr fun i _ => ?_,
      (aside.trans alters).congr fun i _ => ?_⟩
    · rw [if_pos (Nat.zero_le i)]
    · rw [if_pos (Nat.zero_le i)]
      rfl
  -- There are as many parts as regions, and otherwise it would only be said.
  dsimp only
  split
  · exact .bind (.say (by simpa using fill))
  · simpa using fill

/-! ## Showing -/

/-- The display of a region shows what is in its slot, if there is something. -/
theorem displayRegion_ensures (lawful : Lawful backend o) {k : Nat} {r : Region W D}
    (sound : c.Sound o b waiting) (here : c.regions[k]? = some r) :
    (displayRegion backend.crew k).Ensures c fun _ inner c' =>
      o.closed inner = [] ∧ c'.Sound o b (fun i => if i = k then false else waiting i) ∧
        Alters o (fun i => if i = k then .displayIf (waiting k) else id) c c' := by
  refine .bind (.compositor (.bind (.modifyCompositor ?_)))
  change Ensures _ (c.withSlot k none) _
  obtain ⟨index, window, display, size, locked⟩ := r
  obtain ⟨rfl, rfl⟩ : index = k ∧ locked = false := sound.tidy _ _ here
  have there : (c.withSlot index none).regions[index]? =
      some ⟨index, window, display, size, false⟩ := here
  have waits : (c.picture? index).isSome = (waiting index && display.isSome) := by
    rw [sound.pictures, display?_of_getElem? here]
  refine .underLock sound.tidy there (.bind (.compositor ?_))
  rw [display?_setRegion_self there]
  cases display with
  | none =>
    refine .release ⟨rfl, ?_⟩
    rw [modifyRegion_setRegion, setRegion_self there]
    exact ⟨sound.blank here (.inl rfl), .blank here rfl rfl rfl⟩
  | some d =>
    cases filled : c.picture? index with
    | none =>
      rw [filled, Option.isSome_none, Option.isSome_some, Bool.and_true] at waits
      refine .pure ⟨rfl, ?_⟩
      rw [modifyRegion_setRegion, setRegion_self there, ← waits]
      have still : Alters o (fun _ => id) c (c.withSlot index none) := .of_regions_eq rfl rfl
      exact ⟨sound.blank here (.inr ⟨rfl, waits.symm⟩), still.congr fun i _ => (ite_self id).symm⟩
    | some picture =>
      rw [filled, Option.isSome_some, Option.isSome_some, Bool.and_true] at waits
      have orderly : o.Sound index true d := by
        rw [waits]
        exact sound.displays index d (display?_of_getElem? here)
      refine .bind (.ledger fun _ => .bind (.askWhile (lawful.display picture orderly)
        ((reportShowing_ensures _ index).mono ?_)))
      rintro _ _ _ ⟨rfl, events, rfl⟩ d' inner ⟨sound', becomes, silent⟩
      refine .bind (.changeRegion (.release ⟨by simpa using silent, ?_⟩))
      rw [withQueued_setRegion, modifyRegion_setRegion, modifyRegion_setRegion, ← waits]
      exact sound.work here rfl rfl sound' becomes

theorem displayFrom_ensures (lawful : Lawful backend o) {count k : Nat}
    (sound : c.Sound o b waiting) (all : k + count = c.regions.length) :
    (displayFrom backend.crew count k).Ensures c fun _ inner c' =>
      o.closed inner = [] ∧ c'.Sound o b (fun i => if k ≤ i then false else waiting i) ∧
        Alters o (fun i => if k ≤ i then .displayIf (waiting i) else id) c c' := by
  induction count generalizing k c waiting with
  | zero =>
    refine .pure ⟨rfl, sound.congr fun i inside => ?_, (Alters.of_stays (.refl c)).congr ?_⟩
    · rw [if_neg (by omega)]
    · intro i inside
      rw [if_neg (by omega)]
  | succ count ih =>
    have here := List.getElem?_eq_getElem (show k < c.regions.length by omega)
    refine (displayRegion_ensures lawful sound here).andThen ?_
    rintro _ inner c₁ ⟨silent, sound₁, alters⟩
    refine (ih sound₁ (by rw [alters.count]; omega)).mono ?_
    rintro _ more c' ⟨silent', sound', alters'⟩
    refine ⟨by simp [silent, silent'], sound'.onward, alters.onward (alters'.congr fun i _ => ?_)⟩
    -- What waits behind this region has not changed.
    split
    · rw [if_neg (by omega)]
    · rfl

theorem display_ensures (lawful : Lawful backend o) {waits : Bool}
    (sound : c.Sound o b fun _ => waits) :
    (display backend.crew).Ensures c fun _ inner c' =>
      o.closed inner = [] ∧ c'.Sound o b (fun _ => false) ∧
        Alters o (fun _ => .displayIf waits) c c' := by
  refine .bind (.compositor ((displayFrom_ensures lawful sound (Nat.zero_add _)).mono ?_))
  rintro _ inner c' ⟨silent, sound', alters⟩
  refine ⟨by simpa using silent, sound'.congr fun i _ => ?_, alters.congr fun i _ => ?_⟩
  · rw [if_pos (Nat.zero_le i)]
  · rw [if_pos (Nat.zero_le i)]

/-! ## Closing -/

section Closing

variable (lawful : Lawful backend o)
include lawful

theorem destroyDisplay_ensures {k : Nat} {waits : Bool} {d : D} (sound : o.Sound k waits d) :
    (destroyDisplay backend.crew k d).Ensures c fun _ inner c' =>
      o.closed inner = (o.leaves d).reverse.map Leaf.closing ∧ c' = c := by
  refine .bind (.ask (lawful.close sound) ?_)
  rintro d' items ⟨closings, ends⟩
  refine .ask ends ?_
  rintro _ more silent
  exact ⟨by simp [closings, silent], rfl⟩

theorem destroyWindow_ensures (k : Nat) (window : W) :
    (destroyWindow backend.crew k window).Ensures c fun _ inner c' =>
      o.closed inner = [] ∧ c' = c := by
  refine .bind (.ask (lawful.disable window) ?_)
  rintro window' items silent
  refine .ask (lawful.dropWindow window') ?_
  rintro _ more silent'
  exact ⟨by simp [silent, silent'], rfl⟩

omit lawful in
/-- A window is taken out of its region under the lock. -/
theorem takeWindow_ensures (index : Nat) (window : Option W) (display : Option D) (size : Size) :
    Ensures (do
      let found := (← compositor).window? index
      changeRegion index fun r => { r with window := none }
      return found : Act σ ι Builtin W D _)
      (c.setRegion index ⟨index, window, display, size, true⟩) fun _ inner c' =>
        inner = [] ∧ c' = c.setRegion index ⟨index, none, display, size, true⟩ :=
  .bind (.compositor (.bind (.changeRegion (.pure ⟨rfl, modifyRegion_setRegion _⟩))))

/-- A region is torn down, and the leaves of its display are closed. -/
theorem teardown_ensures {k : Nat} {r : Region W D} (tidy : c.Tidy)
    (here : c.regions[k]? = some r)
    (sound : ∀ d, r.display = some d → ∃ waits, o.Sound k waits d) :
    (teardown backend.crew k).Ensures c fun _ inner c' =>
      o.closed inner = (r.display.elim [] o.leaves).reverse.map Leaf.closing ∧
      c' = c.setRegion k { r with window := none, display := none } := by
  obtain ⟨index, window, display, size, locked⟩ := r
  obtain ⟨rfl, rfl⟩ : index = k ∧ locked = false := tidy _ _ here
  -- Under the lock the display goes, and the window is only taken out.
  refine .bind (.underLock tidy here (.mono (?_ : Ensures _
    (c.setRegion index ⟨index, window, display, size, true⟩) fun found inner c' =>
      o.closed inner = (display.elim [] o.leaves).reverse.map Leaf.closing ∧
        c' = c.setRegion index ⟨index, none, none, size, true⟩) ?_))
  · refine .bind (.compositor ?_)
    rw [display?_setRegion_self here]
    cases display with
    | none =>
      refine (takeWindow_ensures index window none size).mono ?_
      rintro _ _ _ ⟨rfl, rfl⟩
      exact ⟨rfl, rfl⟩
    | some d =>
      obtain ⟨waits, sound⟩ := sound d rfl
      refine .bind (.changeRegion ((destroyDisplay_ensures lawful sound).andThen ?_))
      rintro _ inner _ ⟨closings, rfl⟩
      rw [modifyRegion_setRegion]
      refine .bind (.say ((takeWindow_ensures index window none size).mono ?_))
      rintro _ _ _ ⟨rfl, rfl⟩
      exact ⟨by simpa using closings, rfl⟩
  rintro found inner _ ⟨closings, rfl⟩
  rw [modifyRegion_setRegion]
  cases found with
  | none => exact .pure ⟨by simpa using closings, rfl⟩
  | some window =>
    refine (destroyWindow_ensures lawful index window).andThen ?_
    rintro _ more _ ⟨silent, rfl⟩
    exact .say ⟨by simp [closings, silent], rfl⟩

omit lawful in
/-- The leaves of the last region come last. -/
theorem leaves_take (of : D → List Leaf) {count : Nat} (all : c.regions.length = count + 1) :
    c.leaves of = ({ c with regions := c.regions.take count } : Compositor Builtin W D).leaves of ++
      (c.display? count).elim [] of := by
  have fewer : (c.regions.take count).length = count := by simp [all]
  have same (k : Nat) (below : k < count) :
      ({ c with regions := c.regions.take count } : Compositor Builtin W D).display? k =
        c.display? k := by
    simp [display?, below]
  rw [leaves, leaves, all, fewer, List.range_succ, List.flatMap_append, List.flatMap_singleton]
  congr 1
  exact List.flatMap_congr fun k inside => by rw [same k (List.mem_range.mp inside)]

theorem teardownLast_ensures {count : Nat} (tidy : c.Tidy) (all : c.regions.length = count)
    (sound : ∀ k d, c.display? k = some d → ∃ waits, o.Sound k waits d) :
    (teardownLast backend.crew count).Ensures c fun _ inner c' =>
      o.closed inner = (c.leaves o.leaves).reverse.map Leaf.closing ∧
      c' = { c with regions := [] } := by
  -- The regions that are left are the first ones, so each round is about the last of them.
  induction count generalizing c with
  | zero =>
    have none : c.regions = [] := List.length_eq_zero_iff.mp all
    refine .pure ⟨by simp [leaves, none], ?_⟩
    rw [← none]
  | succ count ih =>
    have here := List.getElem?_eq_getElem (show count < c.regions.length by omega)
    have last (d : D) (shown : c.regions[count].display = some d) :
        ∃ waits, o.Sound count waits d :=
      sound count d (by rw [display?_of_getElem? here, shown])
    refine (teardown_ensures lawful tidy here last).andThen ?_
    rintro _ inner _ ⟨closings, rfl⟩
    refine .bind (.modifyCompositor ?_)
    have shrunk (r : Region W D) : ({ c.setRegion count r with
        regions := (c.setRegion count r).regions.take count } : Compositor Builtin W D) =
          { c with regions := c.regions.take count } := by
      simp [setRegion, List.take_set_of_le]
    rw [shrunk]
    refine (ih (tidy.take count) (by simp; omega) fun k d shown => ?_).mono ?_
    · refine sound k d ?_
      rw [display?, List.getElem?_take] at shown
      split at shown
      · exact shown
      · cases shown
    rintro _ more _ ⟨closings', rfl⟩
    refine ⟨?_, rfl⟩
    rw [leaves_take o.leaves all, display?_of_getElem? here]
    simp [closings, closings']

/-- Every leaf is closed once, the last one first, and nothing is left. -/
theorem close_ensures (sound : c.Sound o b waiting) :
    (close backend.crew).Ensures c fun _ inner c' =>
      o.closed inner = (c.leaves o.leaves).reverse.map Leaf.closing ∧ c'.Gone := by
  refine .bind (.compositor ?_)
  rw [if_neg (by simp [sound.algorithm])]
  refine .bind (.modifyCompositor (.bind (.releaseSlots ?_)))
  have last : (teardownLast backend.crew c.regions.length).Ensures { c with pictures := [] } _ :=
    teardownLast_ensures lawful sound.tidy rfl fun k d shown =>
      ⟨waiting k, sound.displays k d shown⟩
  refine last.andThen ?_
  rintro _ inner _ ⟨closings, rfl⟩
  have closings : o.closed inner = (c.leaves o.leaves).reverse.map Leaf.closing := closings
  refine .bind (.modifyCompositor (.bind (.bind (.compositor ?_))))
  have dropped : (Builtin.partitioner.drop b : Run σ ι Unit).Ends fun _ items => items = [] :=
    .pure rfl
  simp only [sound.algorithm]
  refine .bind (.modifyCompositor (.bind (.ask dropped ?_)))
  rintro _ _ rfl
  exact .say (.modifyCompositor ⟨by simpa using closings, rfl, rfl⟩)

end Closing

end Compositor

end Mosaic
