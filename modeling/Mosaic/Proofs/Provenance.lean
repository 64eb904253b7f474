import Mosaic.Proofs.Accounts
import Mosaic.Proofs.Tiling
import Mosaic.Rehearsal.Shelf

/-!
# Where pictures come from

Pictures are told apart by serials and their pixels by buffers, and both are numbers that a ledger
gave out. What they are to say is where a picture comes from: two places hold one picture if it was
taken from one place to the other by cloning, and two pictures share their pixels if both come from
the same pixels, through however many views, whether or not the picture that brought the pixels in
is still there. So the descent of every picture is written down beside the shelf, in a chart that
knows neither serials nor holds, and shelf and chart are followed side by side.

## Main definitions

* `Descent` — how a picture came about
* `Chart`, `Chart.step` — the descents of the pictures on a shelf
* `Shelf.after` — a shelf after several steps, each taken whatever became of those before it
* `Shelf.Provenance` — what the chart tells of a shelf, and what a next step leaves alone

## Main results

* `Charted.step` — a step keeps shelf and chart together
* `shelf_keeps_provenance` — so do any steps from an empty shelf
-/

set_option autoImplicit false

namespace Mosaic

/-- How a picture came about, with the turn at which that was: brought in over pixels of its own,
or as a view into another one. -/
inductive Descent where
  | base (turn : Nat) (pixels : Pixels) (format : VideoFormat) (date : Tick)
  | view (turn : Nat) (parent : Descent) (format : VideoFormat) (offset : Origin)
deriving DecidableEq

namespace Descent

/-- The turn at which the picture came about. Each turn brings about one picture at most. -/
def turn : Descent → Nat
  | base turn .. | view turn .. => turn

/-- The turn at which its pixels came in. -/
def root : Descent → Nat
  | base turn .. => turn
  | view _ parent .. => parent.root

/-- The pixels that were brought in. -/
def pixels : Descent → Pixels
  | base _ pixels .. => pixels
  | view _ parent .. => parent.pixels

/-- The format that was asked for. -/
def format : Descent → VideoFormat
  | base _ _ format _ | view _ _ format _ => format

/-- The date that came with the pixels. -/
def date : Descent → Tick
  | base _ _ _ date => date
  | view _ parent .. => parent.date

/-- How far the views along the descent lead to the right. -/
def x : Descent → Nat
  | base .. => 0
  | view _ parent _ offset => parent.x + offset.x.toNat

/-- How far the views along the descent lead down. -/
def y : Descent → Nat
  | base .. => 0
  | view _ parent _ offset => parent.y + offset.y.toNat

/-- Whether a view at an offset is still inside what words can tell. -/
def Reaches (d : Descent) (offset : Origin) : Prop :=
  d.x + offset.x.toNat < 0x100000000 ∧ d.y + offset.y.toNat < 0x100000000

instance (d : Descent) (offset : Origin) : Decidable (d.Reaches offset) :=
  inferInstanceAs (Decidable (_ ∧ _))

/-- A picture is as its descent tells. -/
structure Tells (d : Descent) (p : Picture) : Prop where
  pixels : p.pixels = d.pixels
  format : p.format = d.format
  date : p.date = d.date
  x : p.origin.x.toNat = d.x
  y : p.origin.y.toNat = d.y

theorem Tells.shift_of_reaches {d : Descent} {p : Picture} {offset : Origin} (tells : d.Tells p)
    (reaches : d.Reaches offset) :
    p.origin.shift offset = .ok ⟨p.origin.x + offset.x, p.origin.y + offset.y⟩ := by
  rw [Reaches, ← tells.x, ← tells.y] at reaches
  rw [Wall.shift_eq_ok_iff, UInt32.toNat_add, UInt32.toNat_add]
  exact ⟨Nat.mod_eq_of_lt reaches.1, Nat.mod_eq_of_lt reaches.2⟩

theorem Tells.reaches_of_shift {d : Descent} {p : Picture} {offset origin : Origin}
    (tells : d.Tells p) (moved : p.origin.shift offset = .ok origin) : d.Reaches offset := by
  obtain ⟨x, y⟩ := Wall.shift_eq_ok_iff.mp moved
  rw [Reaches, ← tells.x, ← tells.y, ← x, ← y]
  exact ⟨origin.x.toNat_lt, origin.y.toNat_lt⟩

end Descent

/-- The descents of the pictures on the places of a shelf. -/
abbrev Chart := List (Option Descent)

namespace Chart

/-- A chart of so many empty places. -/
def empty (places : Nat) : Chart := List.replicate places none

/-- The descent of the picture on a place. -/
def descent? (chart : Chart) (place : Nat) : Option Descent := chart[place]?.join

/-- The chart after a step at some turn. A step that cannot be done changes nothing. -/
def step (turn : Nat) (c : Chart) : Shelf.Step → Chart
  | .blank place format date =>
    match Picture.blankLength format with
    | .ok length => c.set place (some (.base turn (.blank length) format date))
    | .error _ => c
  | .pixels place content format date =>
    c.set place (some (.base turn (.bytes content) format date))
  | .clone source place => c.set place (c.descent? source)
  | .view source place format offset =>
    match c.descent? source with
    | none => c.set place none
    | some d =>
      if d.Reaches offset then c.set place (some (.view turn d format offset)) else c
  | .drop place => c.set place none
  | .compare _ _ | .overlay _ => c

/-- The chart after several steps, from some turn on. -/
def after (turn : Nat) (c : Chart) : List Shelf.Step → Chart
  | [] => c
  | step :: rest => after (turn + 1) (c.step turn step) rest

end Chart

namespace Ledger

variable {l : Ledger}

theorem count_release (l : Ledger) (p : Picture) (serial : Nat) :
    (l.release p).live.count serial =
      l.live.count serial - if p.serial = serial then 1 else 0 := by
  rw [release, List.count_erase]
  simp only [beq_iff_eq]

/-- A picture that is made is held once, and nothing else is held or let go. -/
theorem count_make (l : Ledger) (r : PictureRequest) (serial : Nat) :
    (l.make r).2.live.count serial =
      l.live.count serial + if (l.make r).1.serial = serial then 1 else 0 := by
  obtain ⟨format, date, origin⟩ := r
  cases origin with
  | none =>
    show (l.next :: l.live).count serial = _ + if l.next = serial then 1 else 0
    rw [List.count_cons]
    simp only [beq_iff_eq]
  | some origin =>
    -- The picture that the view looks into is let go at once.
    show (((l.next + 1) :: l.next :: l.live).erase l.next).count serial =
      _ + if l.next + 1 = serial then 1 else 0
    rw [List.count_erase, List.count_cons, List.count_cons]
    simp only [beq_iff_eq]
    omega

theorem next_make_le (l : Ledger) (r : PictureRequest) : l.next ≤ (l.make r).2.next := by
  obtain ⟨format, date, origin⟩ := r
  cases origin with
  | none => exact Nat.le_succ _
  | some origin => exact Nat.le_trans (Nat.le_succ _) (Nat.le_succ _)

theorem count_makeOverlay (l : Ledger) (elements : List OverlayRequest) (serial : Nat) :
    (l.makeOverlay elements).2.live.count serial = l.live.count serial +
      ((l.makeOverlay elements).1.pictures.map Picture.serial).count serial := by
  induction elements generalizing l with
  | nil => rfl
  | cons r rest ih =>
    show ((l.make r.picture).2.makeOverlay rest).2.live.count serial = _ +
      ((l.make r.picture).1.serial ::
        ((l.make r.picture).2.makeOverlay rest).1.pictures.map Picture.serial).count serial
    rw [ih, count_make, List.count_cons]
    simp only [beq_iff_eq]
    omega

theorem next_makeOverlay_le (l : Ledger) (elements : List OverlayRequest) :
    l.next ≤ (l.makeOverlay elements).2.next := by
  induction elements generalizing l with
  | nil => exact Nat.le_refl _
  | cons r rest ih => exact Nat.le_trans (next_make_le l r.picture) (ih _)

theorem count_releaseAll (l : Ledger) (ps : List Picture) (serial : Nat) :
    (l.releaseAll ps).live.count serial =
      l.live.count serial - (ps.map Picture.serial).count serial := by
  induction ps generalizing l with
  | nil => rfl
  | cons p rest ih =>
    show ((l.release p).releaseAll rest).live.count serial = _
    rw [ih, count_release, List.map_cons, List.count_cons]
    simp only [beq_iff_eq]
    omega

theorem next_releaseAll (l : Ledger) (ps : List Picture) : (l.releaseAll ps).next = l.next := by
  induction ps generalizing l with
  | nil => rfl
  | cons p rest ih => exact ih (l.release p)

/-- An overlay that is made and let go leaves the holds as they were. -/
theorem balanced_overlay (l : Ledger) (elements : List OverlayRequest) :
    l.Balanced ((l.makeOverlay elements).2.releaseAll (l.makeOverlay elements).1.pictures) where
  holds serial := by
    rw [count_releaseAll, count_makeOverlay]
    exact Nat.add_sub_cancel _ _
  issued := by
    rw [next_releaseAll]
    exact next_makeOverlay_le l elements

end Ledger

namespace Shelf

/-- A shelf after several steps. A step that broke off does not keep the next one from being
taken. -/
def after (s : Shelf) (steps : List Step) : Shelf := steps.foldl (fun s step => (s.step step).2) s

/-- The place that a step puts something on, or empties. -/
def Step.target? : Step → Option Nat
  | blank place _ _ | pixels place _ _ _ | clone _ place | view _ place _ _ | drop place =>
    some place
  | compare _ _ | overlay _ => none

variable {s : Shelf} {place : Nat} {slot : Option Picture}

theorem put_eq (s : Shelf) (place : Nat) (slot : Option Picture) :
    s.put place slot = ⟨s.places.set place slot, s.ledger.letGo (s.picture? place)⟩ := by
  unfold put
  cases s.picture? place <;> rfl

theorem picture?_put (inside : place < s.places.length) (i : Nat) :
    (s.put place slot).picture? i = if i = place then slot else s.picture? i := by
  rw [put_eq, picture?, List.getElem?_set]
  by_cases same : i = place
  · rw [if_pos same, if_pos same.symm, if_pos inside, Option.join_some]
  · rw [if_neg same, if_neg (Ne.symm same)]
    rfl

/-- What is put on a place leaves the other places alone, also where there is no such place. -/
theorem picture?_put_of_ne {i : Nat} (other : i ≠ place) :
    (s.put place slot).picture? i = s.picture? i := by
  rw [put_eq, picture?, List.getElem?_set_ne (Ne.symm other)]
  rfl

/-! ## What a step leaves alone -/

theorem putNew_of_broken {made : Except Fault (Picture × Ledger)} {fault : Fault}
    (broken : (s.putNew place made).1 = .broken fault) : (s.putNew place made).2 = s := by
  cases made with
  | ok result => cases broken
  | error fault => rfl

theorem picture?_putNew_of_ne {made : Except Fault (Picture × Ledger)} {i : Nat}
    (other : i ≠ place) : (s.putNew place made).2.picture? i = s.picture? i := by
  cases made with
  | ok result => exact picture?_put_of_ne other
  | error fault => rfl

/-- A step changes no place but the one that it is about. -/
theorem picture?_step_of_ne (s : Shelf) {step : Step} {i : Nat} (other : step.target? ≠ some i) :
    (s.step step).2.picture? i = s.picture? i := by
  have apart {place : Nat} (h : some place ≠ some i) : i ≠ place := fun same => h (same ▸ rfl)
  cases step with
  | blank place format date => exact picture?_putNew_of_ne (apart other)
  | pixels place content format date => exact picture?_putNew_of_ne (apart other)
  | clone source place | view source place format offset =>
    simp only [step]
    split
    · exact picture?_put_of_ne (apart other)
    · exact picture?_putNew_of_ne (apart other)
  | drop place => exact picture?_put_of_ne (apart other)
  | compare first second =>
    simp only [step]
    split <;> rfl
  | overlay elements => rfl

/-- A step that breaks off leaves the whole shelf as it was. -/
theorem step_of_broken (s : Shelf) {step : Step} {fault : Fault}
    (broken : (s.step step).1 = .broken fault) : (s.step step).2 = s := by
  cases step with
  | blank place format date => exact putNew_of_broken broken
  | pixels place content format date => exact putNew_of_broken broken
  | clone source place | view source place format offset =>
    simp only [step] at broken ⊢
    split at broken
    · cases broken
    · exact putNew_of_broken broken
  | drop place => cases broken
  | compare first second =>
    simp only [step] at broken
    split at broken <;> cases broken
  | overlay elements => cases broken

theorem length_put (s : Shelf) (place : Nat) (slot : Option Picture) :
    (s.put place slot).places.length = s.places.length := by
  rw [put_eq, List.length_set]

theorem length_putNew (s : Shelf) (place : Nat) (made : Except Fault (Picture × Ledger)) :
    (s.putNew place made).2.places.length = s.places.length := by
  cases made with
  | ok result => exact length_put _ _ _
  | error fault => rfl

/-- There are always as many places. -/
theorem length_step (s : Shelf) (step : Step) :
    (s.step step).2.places.length = s.places.length := by
  cases step with
  | blank place format date | pixels place content format date => exact length_putNew _ _ _
  | clone source place | view source place format offset =>
    simp only [step]
    split
    · exact length_put _ _ _
    · exact length_putNew _ _ _
  | drop place => exact length_put _ _ _
  | compare first second =>
    simp only [step]
    split <;> rfl
  | overlay elements => rfl

/-! ## Shelf and chart side by side -/

/-- What two pictures share is what their descents share. -/
structure Tied (p : Picture) (d : Descent) (q : Picture) (e : Descent) : Prop where
  same : p.SameAs q ↔ d.turn = e.turn
  shares : p.SharesPixels q ↔ d.root = e.root

theorem Tied.refl (p : Picture) (d : Descent) : Tied p d p d :=
  ⟨iff_of_true rfl rfl, iff_of_true rfl rfl⟩

theorem Tied.symm {p q : Picture} {d e : Descent} (h : Tied p d q e) : Tied q e p d :=
  ⟨eq_comm.trans (h.same.trans eq_comm), eq_comm.trans (h.shares.trans eq_comm)⟩

/-- A place holds a picture and the chart has its descent there. -/
def Shows (s : Shelf) (c : Chart) (p : Picture) (d : Descent) : Prop :=
  ∃ i, s.picture? i = some p ∧ c.descent? i = some d

/-- A picture and its descent are older than a serial and a turn. -/
structure Older (next now : Nat) (p : Picture) (d : Descent) : Prop where
  serial : p.serial < next
  buffer : p.buffer < next
  turn : d.turn < now
  root : d.root < now

/-- A chart tells of a shelf, and all of it was before some turn. -/
structure Charted (turn : Nat) (c : Chart) (s : Shelf) : Prop where
  length : c.length = s.places.length
  tells : ∀ i, Option.Rel Descent.Tells (c.descent? i) (s.picture? i)
  older : ∀ p d, s.Shows c p d → Older s.ledger.next turn p d
  tied : ∀ p d q e, s.Shows c p d → s.Shows c q e → Tied p d q e
  holds : ∀ serial, s.ledger.live.count serial = holding s.places serial

/-- A picture with its descent fits in with those on a shelf. -/
structure Joins (turn : Nat) (c : Chart) (s : Shelf) (next : Nat) (p : Picture) (d : Descent) :
    Prop where
  tells : d.Tells p
  older : Older next (turn + 1) p d
  tied : ∀ q e, s.Shows c q e → Tied p d q e

variable {turn : Nat} {c : Chart}

theorem Older.later {next next' now now' : Nat} {p : Picture} {d : Descent}
    (h : Older next now p d) (issued : next ≤ next') (later : now ≤ now') :
    Older next' now' p d :=
  ⟨Nat.lt_of_lt_of_le h.serial issued, Nat.lt_of_lt_of_le h.buffer issued,
    Nat.lt_of_lt_of_le h.turn later, Nat.lt_of_lt_of_le h.root later⟩

namespace Charted

theorem descent?_of_picture? (h : Charted turn c s) {i : Nat} {p : Picture}
    (here : s.picture? i = some p) : ∃ d, c.descent? i = some d ∧ d.Tells p := by
  have tells := h.tells i
  rw [here] at tells
  cases descent : c.descent? i with
  | none => rw [descent] at tells; cases tells
  | some d =>
    rw [descent] at tells
    cases tells with
    | some tells => exact ⟨d, rfl, tells⟩

theorem descent?_of_picture?_eq_none (h : Charted turn c s) {i : Nat}
    (here : s.picture? i = none) : c.descent? i = none := by
  have tells := h.tells i
  rw [here] at tells
  cases descent : c.descent? i with
  | none => rfl
  | some d => rw [descent] at tells; cases tells

theorem picture?_of_descent? (h : Charted turn c s) {i : Nat} {d : Descent}
    (here : c.descent? i = some d) : ∃ p, s.picture? i = some p ∧ d.Tells p := by
  have tells := h.tells i
  rw [here] at tells
  cases picture : s.picture? i with
  | none => rw [picture] at tells; cases tells
  | some p =>
    rw [picture] at tells
    cases tells with
    | some tells => exact ⟨p, rfl, tells⟩

/-- The chart tells whether a view can be made. -/
theorem view_broken_iff (h : Charted turn c s) {source place : Nat} {format : VideoFormat}
    {offset : Origin} {d : Descent} (here : c.descent? source = some d) :
    (∃ fault, (s.step (.view source place format offset)).1 = .broken fault) ↔
      ¬ d.Reaches offset := by
  obtain ⟨p, picture, tells⟩ := h.picture?_of_descent? here
  simp only [Shelf.step, picture, Ledger.view]
  cases moved : p.origin.shift offset with
  | ok origin =>
    refine ⟨?_, fun beyond => (beyond (tells.reaches_of_shift moved)).elim⟩
    rintro ⟨_, ⟨⟩⟩
  | error fault =>
    refine ⟨fun _ reaches => ?_, fun _ => ⟨fault, rfl⟩⟩
    rw [tells.shift_of_reaches reaches] at moved
    cases moved

/-- As many holds as before are held by the same places. -/
theorem balanced (h : Charted turn c s) {l : Ledger} (balanced : s.ledger.Balanced l) :
    Charted (turn + 1) c { s with ledger := l } where
  length := h.length
  tells := h.tells
  older p d shows_ := (h.older p d shows_).later balanced.issued turn.le_succ
  tied := h.tied
  holds serial := (balanced.holds serial).trans (h.holds serial)

/-- A step that does nothing still takes a turn. -/
theorem idle (h : Charted turn c s) : Charted (turn + 1) c s := h.balanced (.refl _)

theorem descent?_set (inside : place < c.length) (slot : Option Descent) (i : Nat) :
    Chart.descent? (c.set place slot) i = if i = place then slot else c.descent? i := by
  rw [Chart.descent?, Chart.descent?, List.getElem?_set]
  by_cases same : i = place
  · rw [if_pos same, if_pos same.symm, if_pos inside, Option.join_some]
  · rw [if_neg same, if_neg (Ne.symm same)]

/-- What is put on a place that fits in, with a hold of its own, keeps shelf and chart together. -/
theorem put (h : Charted turn c s) (inside : place < s.places.length) {l : Ledger}
    (entry : Option (Picture × Descent)) (issued : s.ledger.next ≤ l.next)
    (held : ∀ serial, l.live.count serial =
      s.ledger.live.count serial + inSlot (entry.map Prod.fst) serial)
    (joins : ∀ p d, entry = some (p, d) → Joins turn c s l.next p d) :
    Charted (turn + 1) (c.set place (entry.map Prod.snd))
      ({ s with ledger := l }.put place (entry.map Prod.fst)) := by
  have inside' : place < c.length := h.length ▸ inside
  have pictures (i : Nat) : ({ s with ledger := l }.put place (entry.map Prod.fst)).picture? i =
      if i = place then entry.map Prod.fst else s.picture? i := picture?_put inside i
  -- What a place shows now is what was put there, or what some place showed before.
  have shown {p : Picture} {d : Descent}
      (h' : ({ s with ledger := l }.put place (entry.map Prod.fst)).Shows
        (c.set place (entry.map Prod.snd)) p d) : entry = some (p, d) ∨ s.Shows c p d := by
    obtain ⟨i, picture, descent⟩ := h'
    rw [pictures] at picture
    rw [descent?_set inside'] at descent
    by_cases same : i = place
    · rw [if_pos same] at picture descent
      cases entry with
      | none => cases picture
      | some entry =>
        cases picture
        cases descent
        exact .inl rfl
    · rw [if_neg same] at picture descent
      exact .inr ⟨i, picture, descent⟩
  have next : ({ s with ledger := l }.put place (entry.map Prod.fst)).ledger.next = l.next := by
    rw [put_eq]
    exact Ledger.next_letGo _ _
  refine ⟨?_, fun i => ?_, fun p d old => ?_, fun p d q e old old' => ?_, fun serial => ?_⟩
  · rw [put_eq, List.length_set, List.length_set]
    exact h.length
  · rw [pictures, descent?_set inside']
    by_cases same : i = place
    · rw [if_pos same, if_pos same]
      cases entry with
      | none => exact .none
      | some entry => exact .some (joins _ _ rfl).tells
    · rw [if_neg same, if_neg same]
      exact h.tells i
  · rw [next]
    rcases shown old with new | old
    · exact (joins _ _ new).older
    · exact (h.older p d old).later issued turn.le_succ
  · rcases shown old with new | old
    · rcases shown old' with new' | old'
      · cases new.symm.trans new'
        exact .refl p d
      · exact (joins _ _ new).tied q e old'
    · rcases shown old' with new' | old'
      · exact ((joins _ _ new').tied p d old).symm
      · exact h.tied p d q e old old'
  · have count := holding_set inside (entry.map Prod.fst) serial
    have count' := held serial
    have total := h.holds serial
    rw [put_eq]
    show (l.letGo (s.picture? place)).live.count serial =
      holding (s.places.set place (entry.map Prod.fst)) serial
    rw [Ledger.count_letGo, picture?]
    omega

/-- An emptied place. -/
theorem vacate (h : Charted turn c s) (inside : place < s.places.length) :
    Charted (turn + 1) (c.set place none) (s.put place none) :=
  h.put inside none (Nat.le_refl _) (fun _ => rfl) nofun

/-- A picture on the shelf fits in anywhere. -/
theorem joins_known (h : Charted turn c s) {p : Picture} {d : Descent} {i : Nat}
    (picture : s.picture? i = some p) (descent : c.descent? i = some d) (tells : d.Tells p) :
    Joins turn c s s.ledger.next p d :=
  ⟨tells, (h.older p d ⟨i, picture, descent⟩).later (Nat.le_refl _) turn.le_succ,
    fun q e => h.tied p d q e ⟨i, picture, descent⟩⟩

/-- A picture that is new at this turn fits in if its pixels are tied to those on the shelf as its
descent is. -/
theorem issue (h : Charted turn c s) (inside : place < s.places.length) {p : Picture}
    {d : Descent} (tells : d.Tells p) (serial : p.serial = s.ledger.next) (born : d.turn = turn)
    (buffer : p.buffer ≤ s.ledger.next) (root : d.root ≤ turn)
    (shares : ∀ q e, s.Shows c q e → (p.SharesPixels q ↔ d.root = e.root)) :
    Charted (turn + 1) (c.set place (some d))
      ({ s with ledger := ⟨s.ledger.next + 1, s.ledger.next :: s.ledger.live⟩ }.put place
        (some p)) := by
  refine h.put inside (some (p, d)) (Nat.le_succ _) (fun other => ?_) fun p' d' new => ?_
  · rw [Option.map_some, inSlot_some, serial, List.count_cons]
    simp only [beq_iff_eq]
  · cases new
    refine ⟨tells, ⟨?_, Nat.lt_succ_of_le buffer, ?_, Nat.lt_succ_of_le root⟩, fun q e old => ?_⟩
    · exact serial ▸ Nat.lt_succ_self _
    · exact born ▸ Nat.lt_succ_self _
    · -- What was there before has older serials and turns.
      have older := h.older q e old
      refine ⟨iff_of_false (fun same => ?_) fun same => ?_, shares q e old⟩
      · exact Nat.ne_of_lt older.serial (same.symm.trans serial)
      · exact Nat.ne_of_lt older.turn (same.symm.trans born)

theorem record (h : Charted turn c s) (inside : place < s.places.length) (pixels : Pixels)
    (format : VideoFormat) (date : Tick) :
    Charted (turn + 1) (c.set place (some (.base turn pixels format date)))
      (s.putNew place (.ok (s.ledger.record format date pixels))).2 := by
  refine h.issue inside ⟨rfl, rfl, rfl, rfl, rfl⟩ rfl rfl (Nat.le_refl _) (Nat.le_refl _)
    fun q e old => ?_
  have older := h.older q e old
  exact iff_of_false (Nat.ne_of_gt older.buffer) (Nat.ne_of_gt older.root)

theorem clone (h : Charted turn c s) (inside : place < s.places.length) {p : Picture}
    {d : Descent} {i : Nat} (picture : s.picture? i = some p) (descent : c.descent? i = some d)
    (tells : d.Tells p) :
    Charted (turn + 1) (c.set place (some d))
      (s.putNew place (.ok (p, s.ledger.retain p))).2 := by
  refine h.put inside (some (p, d)) (Nat.le_refl _) (fun other => ?_) fun p' d' new => ?_
  · rw [Option.map_some, inSlot_some]
    exact List.count_cons.trans (by simp only [beq_iff_eq])
  · cases new
    exact h.joins_known picture descent tells

theorem view (h : Charted turn c s) (inside : place < s.places.length) {p : Picture}
    {d : Descent} {i : Nat} (picture : s.picture? i = some p) (descent : c.descent? i = some d)
    (tells : d.Tells p) (format : VideoFormat) (offset : Origin) :
    Charted (turn + 1)
      (if d.Reaches offset then c.set place (some (.view turn d format offset)) else c)
      (s.putNew place (s.ledger.view p format offset)).2 := by
  have shown : s.Shows c p d := ⟨i, picture, descent⟩
  have older := h.older p d shown
  cases moved : p.origin.shift offset with
  | error fault =>
    have beyond : ¬ d.Reaches offset := fun reaches => by
      rw [tells.shift_of_reaches reaches] at moved
      cases moved
    rw [if_neg beyond, Ledger.view, moved]
    exact h.idle
  | ok origin =>
    obtain ⟨x, y⟩ := Wall.shift_eq_ok_iff.mp moved
    rw [if_pos (tells.reaches_of_shift moved), Ledger.view, moved]
    refine h.issue inside ⟨tells.pixels, rfl, tells.date, ?_, ?_⟩ rfl rfl
      (Nat.le_of_lt older.buffer) (Nat.le_of_lt older.root) fun q e old =>
        (h.tied p d q e shown old).shares
    · rw [Descent.x, ← tells.x]
      exact x
    · rw [Descent.y, ← tells.y]
      exact y

/-- A step keeps shelf and chart together. -/
theorem step (h : Charted turn c s) {step : Step}
    (inside : ∀ place, step.target? = some place → place < s.places.length) :
    Charted (turn + 1) (c.step turn step) (s.step step).2 := by
  cases step with
  | blank place format date =>
    simp only [Shelf.step, Chart.step]
    cases Picture.blankLength format with
    | error fault => exact h.idle
    | ok length => exact h.record (inside place rfl) (.blank length) format date
  | pixels place content format date =>
    exact h.record (inside place rfl) (.bytes content) format date
  | clone source place =>
    simp only [Shelf.step, Chart.step]
    cases picture : s.picture? source with
    | none =>
      rw [h.descent?_of_picture?_eq_none picture]
      exact h.vacate (inside place rfl)
    | some p =>
      obtain ⟨d, descent, tells⟩ := h.descent?_of_picture? picture
      rw [descent]
      exact h.clone (inside place rfl) picture descent tells
  | view source place format offset =>
    simp only [Shelf.step, Chart.step]
    cases picture : s.picture? source with
    | none =>
      rw [h.descent?_of_picture?_eq_none picture]
      exact h.vacate (inside place rfl)
    | some p =>
      obtain ⟨d, descent, tells⟩ := h.descent?_of_picture? picture
      rw [descent]
      exact h.view (inside place rfl) picture descent tells format offset
  | drop place => exact h.vacate (inside place rfl)
  | compare first second =>
    simp only [Shelf.step, Chart.step]
    split <;> exact h.idle
  | overlay elements => exact h.balanced (s.ledger.balanced_overlay elements)

/-- Several steps keep shelf and chart together, whatever becomes of each. -/
theorem after (h : Charted turn c s) {steps : List Step}
    (inside : ∀ step ∈ steps, ∀ place, step.target? = some place → place < s.places.length) :
    ∃ now, Charted now (c.after turn steps) (s.after steps) := by
  induction steps generalizing turn c s with
  | nil => exact ⟨turn, h⟩
  | cons step rest ih =>
    refine ih (h.step (inside step List.mem_cons_self)) fun later member place target => ?_
    rw [length_step]
    exact inside later (List.mem_cons_of_mem step member) place target

end Charted

theorem charted_empty (n : Nat) : Charted 0 (.empty n) (empty n) := by
  have picture (i : Nat) : (empty n).picture? i = none := by
    simp only [empty, picture?, List.getElem?_replicate]
    split <;> rfl
  refine ⟨by simp [Chart.empty, empty], fun i => ?_, ?_, ?_, fun serial => ?_⟩
  · have descent : (Chart.empty n).descent? i = none := by
      simp only [Chart.empty, Chart.descent?, List.getElem?_replicate]
      split <;> rfl
    rw [picture, descent]
    exact .none
  · rintro p d ⟨i, here, -⟩
    rw [picture] at here
    cases here
  · rintro p d q e ⟨i, here, -⟩
    rw [picture] at here
    cases here
  · simp [empty, Ledger.empty, holding, List.countP_replicate]

/-! ## The law -/

/-- What a chart tells of a shelf, and what any next step leaves alone. -/
structure Provenance (c : Chart) (s : Shelf) : Prop where
  /-- There is a picture wherever the chart has a descent, and it is as that tells. -/
  tells : ∀ i, Option.Rel Descent.Tells (c.descent? i) (s.picture? i)
  /-- A picture is held once for every place that holds it. -/
  holds : ∀ i p, s.picture? i = some p →
    s.ledger.holds p = s.places.countP fun slot => slot.any fun q => decide (q.SameAs p)
  /-- Two places hold the same picture if both got what came about at one turn. -/
  same : ∀ p d q e, s.Shows c p d → s.Shows c q e → (p.SameAs q ↔ d.turn = e.turn)
  /-- Two pictures share their pixels if those came in at one turn. -/
  shares : ∀ p d q e, s.Shows c p d → s.Shows c q e → (p.SharesPixels q ↔ d.root = e.root)
  /-- A view breaks off if its place is beyond what words can tell. -/
  overflows : ∀ source place format offset d, c.descent? source = some d →
    ((∃ fault, (s.step (.view source place format offset)).1 = .broken fault) ↔
      ¬ d.Reaches offset)
  keeps : ∀ (step : Step) i, step.target? ≠ some i →
    (s.step step).2.picture? i = s.picture? i
  /-- What breaks off has done nothing, also on the place that it was about. -/
  breaks : ∀ (step : Step) fault, (s.step step).1 = .broken fault → (s.step step).2 = s

/-- Whatever is done with the places of a shelf, the chart tells where every picture comes from. -/
theorem shelf_keeps_provenance (n : Nat) (steps : List Step)
    (inside : ∀ step ∈ steps, ∀ place, step.target? = some place → place < n) :
    Provenance ((Chart.empty n).after 0 steps) ((empty n).after steps) := by
  obtain ⟨now, charted⟩ := (charted_empty n).after fun step member place target => by
    simpa [empty] using inside step member place target
  refine ⟨charted.tells, fun i p _ => ?_,
    fun p d q e old old' => (charted.tied p d q e old old').same,
    fun p d q e old old' => (charted.tied p d q e old old').shares,
    fun source place format offset d descent => ?_,
    fun step i other => picture?_step_of_ne _ other, fun step fault => step_of_broken _⟩
  · exact charted.holds p.serial
  · exact charted.view_broken_iff descent

/-- A picture is let go while a view into it is held twice, and a view from there on is too far
out. -/
def errands : List Step :=
  let format := VideoFormat.whole .i420 4 2
  [.blank 0 format 7, .view 0 1 format ⟨5, 6⟩, .clone 1 2, .drop 0, .pixels 0 [1, 2] format 8,
    .view 2 0 format ⟨0xfffffffb, 0⟩]

theorem errands_keep_provenance :
    ((empty 3).after errands).places.map (Option.map Picture.serial) =
        [some 2, some 1, some 1] ∧
      Provenance ((Chart.empty 3).after 0 errands) ((empty 3).after errands) :=
  ⟨by decide, shelf_keeps_provenance 3 errands (by simp [errands, Step.target?])⟩

end Shelf

end Mosaic
