import Mosaic.Headless
import Mosaic.Proofs.Fate
import Mosaic.Proofs.Run
import Mosaic.Proofs.Start

/-!
# Regions and displays agree on their sizes

The size of a region is kept twice: in the region, and by its display, which is told of it when
it is made and whenever the region takes a new size. Windows may ask for a new size at any time,
also while the display of their region is being made and cannot be told yet. Still the two never
differ between two operations: the size of a region is the one its display was told last.

A display that heeds what it is told therefore shows at the size of its region. What a display
does with its size is left open here, by a relation `fits` between displays and sizes.

## Main definitions

* `lastTold` — the size that the display of a region was told last
* `Heeds` — displays take the sizes that they are told, and keep them otherwise
* `Compositor.Sized` — the law
* `Compositor.Always` — what holds between any two operations

## Main results

* `Move.sized` — no operation breaks the law
* `OpensFrom.sized` — nor does opening, whatever windows report meanwhile
* `sizes_always_agree` — the law for opening and any operations
-/

set_option autoImplicit false

namespace Mosaic

/-! ## What displays are told -/

/-- The size that a call tells the display of a region, if it tells one. -/
def Call.told? (k : Nat) : Call → Option Size
  | .newDisplay index request => if index = k then some request.window.size else none
  | .control index query => if index = k then query.size? else none
  | _ => none

/-- The size that the display of a region was told last. -/
def lastTold (k : Nat) (signs : List Sign) : Option Size :=
  ((callsOf signs).filterMap (Call.told? k)).getLast?

section LastTold

variable {k : Nat} {signs more : List Sign}

@[simp] theorem lastTold_nil (k : Nat) : lastTold k [] = none := rfl

/-- What is told later counts. -/
theorem lastTold_append (k : Nat) (signs more : List Sign) :
    lastTold k (signs ++ more) = (lastTold k more).or (lastTold k signs) := by
  rw [lastTold, callsOf_append, List.filterMap_append, List.getLast?_append]
  rfl

theorem lastTold_append_of_none (h : lastTold k more = none) (signs : List Sign) :
    lastTold k (signs ++ more) = lastTold k signs := by
  rw [lastTold_append, h, Option.none_or]

theorem lastTold_append_of_some {size : Size} (h : lastTold k more = some size)
    (signs : List Sign) : lastTold k (signs ++ more) = some size := by
  rw [lastTold_append, h, Option.some_or]

theorem lastTold_called (k : Nat) (call : Call) (locked : List Nat) :
    lastTold k [.called call locked] = call.told? k := by
  rw [lastTold, callsOf_called, callsOf_nil, List.filterMap_cons, List.filterMap_nil]
  cases call.told? k <;> rfl

/-- Signs that are neither about setting up nor about sizes tell nothing. -/
theorem lastTold_eq_none
    (h : ∀ sign ∈ signs, sign.kind ≠ .setup ∧ sign.kind ≠ .size) (k : Nat) :
    lastTold k signs = none := by
  rw [lastTold, List.getLast?_eq_none_iff, List.filterMap_eq_nil_iff]
  intro call member
  obtain ⟨sign, here, found⟩ := List.mem_filterMap.mp member
  obtain ⟨setup, size⟩ := h sign here
  cases sign with
  | called call' locked =>
    cases found
    cases call <;> first | rfl | exact (setup rfl).elim | exact (size rfl).elim
  | answered | reported => cases found

end LastTold

/-- Displays take the sizes that they are told, and keep them when they prepare and show
pictures. -/
structure Heeds {σ ι W D : Type} (backend : Backend σ ι W D) (fits : D → Size → Prop) : Prop where
  made : ∀ {k request w d w'}, backend.newDisplay k request w = .ok (.ok d) w' →
    fits d request.window.size
  resized : ∀ {d size w result d' w'},
    backend.control d (.displaySize size) w = .ok (result, d') w' → fits d' size
  prepared : ∀ {d picture overlay date w d' w' size},
    backend.prepare d picture overlay date w = .ok d' w' → fits d size → fits d' size
  displayed : ∀ {d picture w d' w' size},
    backend.display d picture w = .ok d' w' → fits d size → fits d' size

/-- Headless displays heed what they are told. -/
theorem headless_heeds {σ : Type} : Heeds (headless (σ := σ)) fun d size => d.size = size where
  made := by
    intro k request w d w' ran
    simp only [headless, HeadlessDisplay.request] at ran
    split at ran
    · cases ran
      rfl
    · cases ran
  resized := by
    intro d size w result d' w' ran
    cases ran
    rfl
  prepared := by
    intro d picture overlay date w d' w' size ran fits
    cases ran
    exact fits
  displayed := by
    intro d picture w d' w' size ran fits
    cases ran
    exact fits

namespace Compositor

section Law

variable {A W D : Type}

/-- The size of every region that has a display is the one its display was told last, and the
display fits it. -/
def Sized (fits : D → Size → Prop) (signs : List Sign) (c : Compositor A W D) : Prop :=
  ∀ k r d, c.regions[k]? = some r → r.display = some d →
    lastTold k signs = some r.size ∧ fits d r.size

variable {fits : D → Size → Prop} {past new : List Sign} {c c' : Compositor A W D}

/-- Where no display is told anything and the regions stay, the law holds on. -/
theorem Sized.mute (sized : Sized fits past c) (same : c'.regions = c.regions)
    (silent : ∀ k, (c.display? k).isSome → lastTold k new = none) :
    Sized fits (past ++ new) c' := by
  intro k r d here display
  rw [same] at here
  rw [lastTold_append_of_none (silent k (by simp [display?_of_getElem? here, display]))]
  exact sized k r d here display

/-- The law holds on where it holds of the one region that is replaced, and no other display is
told anything. -/
theorem Sized.setRegion {k : Nat} {r' : Region W D} (sized : Sized fits past c)
    (others : ∀ i, i ≠ k → lastTold i new = none)
    (one : ∀ d, r'.display = some d →
      lastTold k (past ++ new) = some r'.size ∧ fits d r'.size) :
    Sized fits (past ++ new) (c.setRegion k r') := by
  intro i r d here display
  rcases getElem?_setRegion_cases here with ⟨rfl, rfl⟩ | ⟨other, here⟩
  · exact one d display
  · rw [lastTold_append_of_none (others i other)]
    exact sized i r d here display

/-- A region without a display may be added. -/
theorem Sized.addBare (sized : Sized fits past c) (size : Size) :
    Sized fits past (c.withBare size) := by
  intro k r d here display
  by_cases inside : k < c.regions.length
  · exact sized k r d (by simpa [withBare, List.getElem?_append_left inside] using here) display
  · rw [withBare, List.getElem?_append_right (Nat.le_of_not_lt inside),
      List.getElem?_singleton] at here
    split at here
    · cases here
      cases display
    · cases here

end Law

variable {σ ι A W D : Type} {crew : Crew σ ι A W D} {v v' : View σ A W D} {past new : List Sign}
variable {fits : D → Size → Prop}

/-! ## Steps -/

theorem Resizes.sized {k : Nat} {size : Size} (heeds : Heeds crew.backend fits)
    (h : Resizes crew k size v new v') (sized : Sized fits past v.compositor) :
    Sized fits (past ++ new) v'.compositor := by
  cases h with
  | unshown here blank =>
    have silent : ∀ i, lastTold i [.called (.acknowledge k size) [k]] = none :=
      fun i => lastTold_called i _ _
    refine sized.setRegion (fun i _ => silent i) fun d display => ?_
    rw [blank] at display
    cases display
  | shown here display ran =>
    refine sized.setRegion (fun i other => ?_) fun d display => ?_
    · -- Only the display of the region in question is told anything.
      simp [lastTold, Call.told?, Ne.symm other]
    · cases display
      have told : Call.told? k (.control k (.displaySize size)) = some size := if_pos rfl
      refine ⟨lastTold_append_of_some ?_ past, heeds.resized ran⟩
      rw [lastTold, callsOf_called, List.filterMap_cons_some told]
      rfl

theorem Reports.sized (heeds : Heeds crew.backend fits) (h : Reports crew v new v')
    (sized : Sized fits past v.compositor) : Sized fits (past ++ new) v'.compositor := by
  cases h with
  | input | resized => exact sized.mute rfl fun _ _ => rfl
  | resize resizes => exact resizes.sized heeds sized

theorem Quiet.sized (heeds : Heeds crew.backend fits) (h : Quiet crew v new v')
    (sized : Sized fits past v.compositor) : Sized fits (past ++ new) v'.compositor := by
  cases h with
  | report reports => exact reports.sized heeds sized
  | handle _ handles =>
    have silent : ∀ k, lastTold k new = none :=
      lastTold_eq_none fun sign member => by simp [handles.kind_eq sign member]
    refine sized.mute ?_ fun k _ => silent k
    cases handles <;> rfl
  | place | hint => exact sized.mute rfl fun _ _ => rfl

/-- The reports of inputs around a call for a picture tell nothing. -/
theorem lastTold_frame (k i : Nat) {call : Call} (frame : call.kind = .frame)
    (locked : List Nat) (events : List InputEvent) :
    lastTold k (.called call locked :: events.map fun event => .reported i (.input event)) =
      none := by
  apply lastTold_eq_none
  intro sign member
  rcases List.mem_cons.mp member with rfl | later
  · simp [Sign.kind, frame]
  · obtain ⟨event, -, rfl⟩ := List.mem_map.mp later
    simp [Sign.kind]

theorem Fills.sized {overlay : Option Overlay} {date : Tick} {k : Nat} {picture : Option Picture}
    (heeds : Heeds crew.backend fits) (h : Fills crew overlay date k picture v new v')
    (sized : Sized fits past v.compositor) : Sized fits (past ++ new) v'.compositor := by
  cases h with
  | empty | unshown => exact sized.mute rfl fun _ _ => rfl
  | prepared here display ran =>
    obtain ⟨told, fit⟩ := sized k _ _ here display
    refine Sized.setRegion sized (fun i _ => lastTold_frame i k rfl [k] _) fun d same => ?_
    cases same
    exact ⟨(lastTold_append_of_none (lastTold_frame k k rfl [k] _) past).trans told,
      heeds.prepared ran fit⟩

theorem Shows.sized {k : Nat} (heeds : Heeds crew.backend fits) (h : Shows crew k v new v')
    (sized : Sized fits past v.compositor) : Sized fits (past ++ new) v'.compositor := by
  cases h with
  | blank => exact sized.mute rfl fun _ _ => rfl
  | shown here display filled ran =>
    obtain ⟨told, fit⟩ := sized k _ _ here display
    refine Sized.setRegion sized (fun i _ => lastTold_frame i k rfl [k] _) fun d same => ?_
    cases same
    exact ⟨(lastTold_append_of_none (lastTold_frame k k rfl [k] _) past).trans told,
      heeds.displayed ran fit⟩

theorem Step.sized (heeds : Heeds crew.backend fits) (h : Step crew v new v')
    (sized : Sized fits past v.compositor) : Sized fits (past ++ new) v'.compositor := by
  cases h with
  | quiet quiet => exact quiet.sized heeds sized
  | split splits =>
    cases splits
    exact sized.mute rfl fun _ _ => rfl
  | fill fills => exact fills.sized heeds sized
  | «show» shows => exact shows.sized heeds sized
  | release => exact sized.mute rfl fun _ _ => rfl

/-- No move breaks the law: after closing there is nothing left that it speaks of. -/
theorem Move.sized (heeds : Heeds crew.backend fits) (h : Move crew v new v')
    (sized : Sized fits past v.compositor) : Sized fits (past ++ new) v'.compositor := by
  cases h with
  | step step => exact step.sized heeds sized
  | close closes =>
    cases closes with
    | again => exact sized.mute rfl fun _ _ => rfl
    | first left last =>
      intro k r d here
      simp [last, closed] at here

/-! ## Opening -/

section Opening

variable {policy : FailurePolicy} {asked : DisplayRequest} {fate : Fate}

theorem Resizes.blank {j k : Nat} {size : Size} (h : Resizes crew j size v new v')
    (blank : v.compositor.display? k = none) : lastTold k new = none := by
  cases h with
  | unshown => rfl
  | shown here display =>
    have other : j ≠ k := by
      rintro rfl
      rw [display?_of_getElem? here, display] at blank
      cases blank
    simp [lastTold, Call.told?, other]

/-- While a region has no display, whatever windows report tells its display nothing. -/
theorem Reports.blank {k : Nat} (path : Path (Reports crew) v new v')
    (blank : v.compositor.display? k = none) :
    lastTold k new = none ∧ v'.compositor.display? k = none := by
  have start : lastTold k [] = none ∧ v.compositor.display? k = none := ⟨rfl, blank⟩
  -- Reports make no display, so there is none to tell at any later report either.
  refine path.keeps (P := fun past u => lastTold k past = none ∧ u.compositor.display? k = none)
    ?_ start
  rintro past u new u' ⟨silent, blank⟩ step
  have still : u'.compositor.display? k = none := by
    rw [← Option.not_isSome_iff_eq_none, isSome_display?_of_shape_eq step.shape_eq, blank]
    exact Bool.false_ne_true
  refine ⟨?_, still⟩
  cases step with
  | input | resized =>
    rw [lastTold_append_of_none rfl]
    exact silent
  | resize resizes =>
    rw [lastTold_append_of_none (resizes.blank blank)]
    exact silent

section Attempt

variable {α : Type} {call : Call} {task : Run σ ι α} {a : α}

theorem Attempts.ran (h : Attempts crew call task v new a v') : ∃ w w', task w = .ok a w' := by
  cases h with
  | mk reports ran => exact ⟨_, _, ran⟩

/-- Where a region has no display, only the call itself can tell one. -/
theorem Attempts.blank {k : Nat} (h : Attempts crew call task v new a v')
    (blank : v.compositor.display? k = none) :
    lastTold k new = call.told? k ∧ v'.compositor.display? k = none := by
  cases h with
  | mk reports ran =>
    obtain ⟨silent, still⟩ := Reports.blank reports.1 blank
    refine ⟨?_, still⟩
    rw [← List.singleton_append, lastTold_append_of_none silent]
    exact lastTold_called k call []

/-- Reports that come while something is asked for keep the law, if the call tells nothing to a
display that is there. -/
theorem Attempts.sized (heeds : Heeds crew.backend fits) (h : Attempts crew call task v new a v')
    (sized : Sized fits past v.compositor)
    (silent : ∀ k, (v.compositor.display? k).isSome → call.told? k = none) :
    Sized fits (past ++ new) v'.compositor := by
  cases h with
  | mk reports ran =>
    have asked : Sized fits (past ++ [.called call []]) v.compositor :=
      sized.mute rfl fun k display => by rw [lastTold_called, silent k display]
    have reported := reports.1.keeps (P := fun past u => Sized fits past u.compositor)
      (fun _ _ _ _ kept step => step.sized heeds kept) asked
    rwa [List.append_assoc] at reported

/-- An answer tells nothing. -/
theorem Attempts.sized_answered (heeds : Heeds crew.backend fits)
    (h : Attempts crew call task v new a v') (sized : Sized fits past v.compositor)
    (silent : ∀ k, (v.compositor.display? k).isSome → call.told? k = none) (answer : Answer) :
    Sized fits (past ++ new ++ [.answered answer]) v'.compositor :=
  (h.sized heeds sized silent).mute rfl fun _ _ => rfl

end Attempt

/-- A display that is put into its region is told of the size that the region has by now. -/
theorem Adopts.sized {window : W} {d : D} (heeds : Heeds crew.backend fits)
    (h : Adopts crew asked window d v new v') (sized : Sized fits past v.compositor)
    (told : lastTold asked.index past = some asked.window.size)
    (fit : fits d asked.window.size) : Sized fits (past ++ new) v'.compositor := by
  cases h with
  | fitting here same =>
    -- The size is the one in the request, which was told last.
    refine sized.setRegion (fun _ _ => rfl) fun d' display => ?_
    cases display
    rw [List.append_nil, told, same]
    exact ⟨rfl, fit⟩
  | @resized r d' _ _ here changed ran =>
    -- The region was resized while it had no display, and the display is told of that now.
    refine sized.setRegion (fun i other => ?_) fun d'' display => ?_
    · rw [lastTold_called]
      exact if_neg (Ne.symm other)
    · cases display
      have told : Call.told? asked.index (.control asked.index (.displaySize r.size)) =
          some r.size := if_pos rfl
      exact ⟨lastTold_append_of_some ((lastTold_called _ _ _).trans told) past,
        heeds.resized ran⟩

theorem Mounts.sized {window : W} (heeds : Heeds crew.backend fits)
    (h : Mounts crew policy asked window v new fate v') (sized : Sized fits past v.compositor)
    (blank : v.compositor.display? asked.index = none) :
    Sized fits (past ++ new) v'.compositor := by
  -- The request for a display tells only the region that has none yet.
  have silent : ∀ k, (v.compositor.display? k).isSome →
      (Call.newDisplay asked.index asked).told? k = none := by
    intro k display
    have other : asked.index ≠ k := by
      rintro rfl
      rw [blank] at display
      cases display
    exact if_neg other
  cases h with
  | tolerated tolerant attempt here =>
    have sized₁ := attempt.sized heeds sized silent
    have blank₁ := (attempt.blank blank).2
    rw [display?_of_getElem? here] at blank₁
    rw [← List.append_assoc]
    refine sized₁.setRegion (fun _ _ => rfl) fun d display => ?_
    -- The region still has no display, so the law says nothing of it.
    rw [blank₁] at display
    cases display
  | aborted aborting attempt same =>
    have sized₁ := attempt.sized heeds sized silent
    rw [← List.append_assoc]
    refine sized₁.mute ?_ fun _ _ => rfl
    rw [same]
  | @ready v₁ _ made adopted d attempt adopts =>
    have sized₁ := attempt.sized_answered heeds sized silent (.step .display asked.index true)
    have told : lastTold asked.index
        (past ++ made ++ [.answered (.step .display asked.index true)]) =
          some asked.window.size := by
      rw [lastTold_append_of_none rfl]
      exact lastTold_append_of_some ((attempt.blank blank).1.trans (if_pos rfl)) past
    obtain ⟨w, w', ran⟩ := attempt.ran
    have adopted := adopts.sized heeds sized₁ told (heeds.made ran)
    simpa using adopted

theorem Equips.sized (heeds : Heeds crew.backend fits)
    (h : Equips crew policy asked v new fate v') (sized : Sized fits past v.compositor)
    (blank : v.compositor.display? asked.index = none) :
    Sized fits (past ++ new) v'.compositor := by
  cases h with
  | windowRefused window =>
    rw [← List.append_assoc]
    exact window.sized_answered heeds sized (fun _ _ => rfl) _
  | @enableRefused v₁ v₂ v₃ made shown _ _ _ window enable same =>
    have sized₁ := window.sized_answered heeds sized (fun _ _ => rfl)
      (.step .window asked.index true)
    have sized₂ : Sized fits (past ++ made ++ [.answered (.step .window asked.index true)] ++
        shown ++ [.answered (.step .enable asked.index false),
          .called (.dropWindow asked.index) []]) v'.compositor :=
      (enable.sized heeds sized₁ fun _ _ => rfl).mute (congrArg Compositor.regions same)
        fun _ _ => rfl
    simpa using sized₂
  | @mounted v₁ v₂ _ made shown rest _ _ _ window enable mounts =>
    have sized₁ := window.sized_answered heeds sized (fun _ _ => rfl)
      (.step .window asked.index true)
    have sized₂ := enable.sized_answered heeds sized₁ (fun _ _ => rfl)
      (.step .enable asked.index true)
    have blank₂ := (enable.blank (window.blank blank).2).2
    simpa using mounts.sized heeds sized₂ blank₂

variable {settings : SplitSettings} {algorithm : A} {k : Nat} {output : Output}

theorem Opens.sized (heeds : Heeds crew.backend fits)
    (h : Opens crew settings algorithm k output v new fate v')
    (next : v.compositor.regions.length = k) (sized : Sized fits past v.compositor) :
    Sized fits (past ++ new) v'.compositor := by
  cases h with
  | inactive => exact (sized.addBare _).mute rfl fun _ _ => rfl
  | @active _ asked _ _ shown wanted equips =>
    have bare (size : Size) : (v.compositor.withBare size).display? asked.index = none := by
      subst wanted next
      simp [withBare, display?, request, Region.bare]
    have hinted : Sized fits (past ++ [.called (.sizeHint k) []])
        (v.compositor.withBare (crew.algorithm.sizeFor algorithm output.format
          v.compositor.placement)) :=
      (sized.addBare _).mute rfl fun _ _ => rfl
    simpa using equips.sized heeds hinted (bare _)

/-- Opening keeps the law, whatever windows report meanwhile. -/
theorem OpensFrom.sized {outputs : List Output} {fates : List Fate}
    {result : Except OpenError Unit} (heeds : Heeds crew.backend fits)
    (h : OpensFrom crew settings algorithm k outputs v new fates result v')
    (next : v.compositor.regions.length = k) (sized : Sized fits past v.compositor) :
    Sized fits (past ++ new) v'.compositor := by
  induction h generalizing past with
  | done => rwa [List.append_nil]
  | failed opens => exact opens.sized heeds next sized
  | next opens _ _ ih =>
    rw [← List.append_assoc]
    exact ih (opens.length_eq next) (opens.sized heeds next sized)

end Opening

/-! ## One region at a time -/

theorem Resizes.size_eq {k : Nat} {size : Size} (h : Resizes crew k size v new v') (i : Nat) :
    (v'.compositor.regions[i]?).map Region.size =
      (v.compositor.regions[i]?).map fun r => if i = k then size else r.size := by
  -- Whether or not there is a display, the region is replaced by one of the new size.
  have replaced {r r' : Region W D} (here : v.compositor.regions[k]? = some r)
      (changed : r'.size = size) :
      ((v.compositor.setRegion k r').regions[i]?).map Region.size =
        (v.compositor.regions[i]?).map fun r => if i = k then size else r.size := by
    by_cases same : i = k
    · subst same
      rw [getElem?_setRegion_self here, here, Option.map_some, Option.map_some, if_pos rfl, changed]
    · rw [getElem?_setRegion_of_ne (Ne.symm same)]
      simp only [if_neg same]
  cases h with
  | unshown here | shown here => exact replaced here rfl

/-- A window that reports a new size changes the size of its region and of no other one. -/
theorem report_resized_yields (k : Nat) (size : Size) (tidy : v.compositor.Tidy) :
    (report crew k (.resized size)).Yields crew v fun _ _ v' =>
      ∀ i, (v'.compositor.regions[i]?).map Region.size =
        (v.compositor.regions[i]?).map fun r => if i = k then size else r.size := by
  refine .bind (.reported (.bind (.compositor ?_)))
  split
  · rename_i inside
    exact (resizeRegion_yields tidy inside).mono fun _ _ _ resizes => resizes.size_eq
  · rename_i outside
    refine .say fun i => ?_
    -- Nothing changes here, and the place reported from is none of a region.
    by_cases same : i = k
    · subst same
      rw [List.getElem?_eq_none (Nat.le_of_not_lt outside)]
      rfl
    · simp only [if_neg same]

/-! ## Every run -/

/-- What holds of every state between two operations of a compositor that was opened. A run
breaks off only for a fault that one of the others raises. -/
def Always (crew : Crew σ ι A W D) (registry : Registry (Constructor σ ι A))
    (settings : SplitSettings) (source : VideoFormat) (parent : Option ParentWindow) (env : σ)
    (ledger : Ledger) (holds : Running σ ι A W D → Prop) : Prop :=
  ∀ operations, match «open» crew registry settings source parent ⟨env, ledger, []⟩ with
    | .error fault _ => crew.Raises fault ∨ MakingRaises registry settings source fault
    | .ok (.error _) _ => True
    | .ok (.ok c) w =>
      match performAll crew operations ⟨c, w⟩ with
      | .ok _ t => holds t
      | .error fault _ => crew.Raises fault

/-- What holds of one state between two operations. -/
structure SizeLaw (crew : Crew σ ι A W D) (s : Running σ ι A W D) : Prop where
  /-- Regions stand at their places, and windows find the locks free. -/
  tidy : s.compositor.Tidy
  /-- The size of a region that has a display is the one its display was told last. -/
  told : ∀ (k : Nat) (r : Region W D) (d : D), s.compositor.regions[k]? = some r →
    r.display = some d → lastTold k s.world.signs = some r.size
  /-- Displays that heed what they are told fit their regions. -/
  heeded : ∀ fits, Heeds crew.backend fits →
    ∀ (k : Nat) (r : Region W D) (d : D), s.compositor.regions[k]? = some r →
      r.display = some d → fits d r.size

theorem Populates.sized {settings : SplitSettings} {algorithm : A} {fates : List Fate}
    (heeds : Heeds crew.backend fits) (empty : v.compositor.regions = [])
    (h : Populates crew settings algorithm v new fates (.ok ()) v') :
    Sized fits new v'.compositor := by
  cases h with
  | opened opens =>
    have start : Sized fits [] v.compositor := by
      intro k r d here
      simp [empty] at here
    exact opens.sized heeds (by rw [empty]; rfl) start

theorem always_sizeLaw (crew : Crew σ ι A W D) (registry : Registry (Constructor σ ι A))
    (settings : SplitSettings) (source : VideoFormat) (parent : Option ParentWindow) (env : σ)
    (ledger : Ledger) :
    Always crew registry settings source parent env ledger (SizeLaw crew) := by
  intro operations
  have starts := open_starts crew registry settings source parent env ledger
  cases opened : «open» crew registry settings source parent ⟨env, ledger, []⟩ with
  | error fault w =>
    rw [opened] at starts
    exact starts
  | ok result w =>
    rw [opened] at starts
    cases starts with
    | unknown | unmade => trivial
    | populated known ran populates seen =>
      rename_i algorithm w₀ fates result v
      cases result with
      | error e => trivial
      | ok done =>
        have tidy := populates.tidy unpopulated_tidy
        have all : (performAll crew operations).Yields crew v _ := performAll_yields operations tidy
        have yields := all ⟨v.compositor, w⟩ seen
        cases ran : performAll crew operations ⟨v.compositor, w⟩ with
        | error fault t =>
          rw [ran] at yields
          simpa only [Except.map, ran] using yields
        | ok done t =>
          rw [ran] at yields
          obtain ⟨new, signs, run, tidy'⟩ := yields
          simp only [Except.map, ran]
          have sized (fits : D → Size → Prop) (heeds : Heeds crew.backend fits) :
              Sized fits t.world.signs t.compositor := by
            rw [signs]
            -- The law is about all that displays were told since the opening began.
            exact run.keeps (P := fun past u => Sized fits past u.compositor)
              (fun _ _ _ _ kept move => move.sized heeds kept) (populates.sized heeds rfl)
          -- Every display fits where nothing is asked of the sizes.
          have anything : Heeds crew.backend fun _ _ => True :=
            ⟨fun _ => trivial, fun _ => trivial, fun _ _ => trivial, fun _ _ => trivial⟩
          exact ⟨tidy', fun k r d here display => (sized _ anything k r d here display).1,
            fun fits heeds k r d here display => (sized fits heeds k r d here display).2⟩

/-- Regions and displays always agree on their sizes, headless displays by their own account. A
report of a new size changes the size of one region alone. -/
theorem sizes_always_agree (crew : Crew σ ι A W D) (registry : Registry (Constructor σ ι A))
    (settings : SplitSettings) (source : VideoFormat) (parent : Option ParentWindow) (env : σ)
    (ledger : Ledger) :
    Always crew registry settings source parent env ledger (SizeLaw crew) ∧
    (∀ s : Running σ ι A W D, s.compositor.Tidy → ∀ k size,
      match report crew k (.resized size) s with
      | .ok _ t => ∀ i, (t.compositor.regions[i]?).map Region.size =
          (s.compositor.regions[i]?).map fun r => if i = k then size else r.size
      | .error fault _ => crew.Raises fault) ∧
    ∀ (algorithm : Partitioner σ Notice A) (registry' : Registry (Constructor σ Notice A)),
      Always ⟨algorithm, headless⟩ registry' settings source parent env ledger fun s =>
        ∀ (k : Nat) (r : Region HeadlessWindow HeadlessDisplay) (d : HeadlessDisplay),
          s.compositor.regions[k]? = some r → r.display = some d → d.size = r.size := by
  refine ⟨always_sizeLaw crew registry settings source parent env ledger, ?_, ?_⟩
  · intro s tidy k size
    have all : (report crew k (.resized size)).Yields crew s.view _ :=
      report_resized_yields k size tidy
    have yields := all s rfl
    cases ran : report crew k (.resized size) s with
    | error fault t =>
      rw [ran] at yields
      exact yields
    | ok done t =>
      rw [ran] at yields
      obtain ⟨new, -, sizes⟩ := yields
      exact sizes
  · intro algorithm registry' operations
    have always := always_sizeLaw ⟨algorithm, headless⟩ registry' settings source parent env
      ledger operations
    split at always
    · assumption
    · trivial
    · split at always
      · exact always.heeded _ headless_heeds
      · assumption

end Compositor

end Mosaic
