import Mosaic.Proofs.Sizes
import Mosaic.Proofs.Structure

/-!
# One region by itself

Of all that happens while a compositor is opened, little concerns a given region: it is added,
the steps of setting it up are answered, and its window reports new sizes. These are its *cues*.
They alone decide its size, whether it has a display, and what its display is asked to do, which
together are the *portrait* of the region. What becomes of the other regions plays no part.

## Main definitions

* `Order`, `ordersOf` — what the display of a region is asked to do
* `Cue`, `cuesOf` — what concerns a region while it is set up and its window reports
* `Portrait`, `Compositor.portrait` — the size of a region, its display and the orders to it
* `Portrait.follow` — what cues make of a portrait
* `Compositor.Minds` — a portrait changes as the cues say

## Main results

* `report_minds` — a report of any window changes the portrait as the cues say
* `open_portrait` — after an opening the portrait is what the cues make of a blank one
-/

set_option autoImplicit false

namespace Mosaic

/-! ## Orders -/

/-- What two pictures have in common that differ in nothing but in being two. -/
structure Picture.Likeness where
  pixels : Pixels
  format : VideoFormat
  date : Tick
  origin : Origin
deriving DecidableEq

/-- The likeness of a picture. -/
def Picture.likeness (p : Picture) : Picture.Likeness := ⟨p.pixels, p.format, p.date, p.origin⟩

/-- What the display of a region is asked to do. -/
inductive Order where
  | prepare (part : Picture.Likeness) (overlay : Option Overlay) (date : Tick)
  | display (part : Picture.Likeness)
  | control (query : ControlQuery)
  | close
deriving DecidableEq

/-- What a call asks the display of a region to do, if it asks anything of it. -/
def Call.order? (k : Nat) : Call → Option Order
  | .prepare index frame overlay date =>
    if index = k then
      some (.prepare frame.picture.likeness (overlay.map (List.map OverlaySighting.region)) date)
    else none
  | .display index frame => if index = k then some (.display frame.picture.likeness) else none
  | .control index query => if index = k then some (.control query) else none
  | .close index => if index = k then some .close else none
  | _ => none

/-- What the display of a region was asked to do, in order of time. -/
def ordersOf (k : Nat) (signs : List Sign) : List Order :=
  (callsOf signs).filterMap (Call.order? k)

@[simp] theorem ordersOf_nil (k : Nat) : ordersOf k [] = [] := rfl

@[simp] theorem ordersOf_append (k : Nat) (signs more : List Sign) :
    ordersOf k (signs ++ more) = ordersOf k signs ++ ordersOf k more := by
  rw [ordersOf, callsOf_append, List.filterMap_append]
  rfl

@[simp] theorem ordersOf_called (k : Nat) (call : Call) (locked : List Nat) (signs : List Sign) :
    ordersOf k (.called call locked :: signs) = (call.order? k).toList ++ ordersOf k signs := by
  cases h : call.order? k <;> simp [ordersOf, h]

@[simp] theorem ordersOf_answered (k : Nat) (answer : Answer) (signs : List Sign) :
    ordersOf k (.answered answer :: signs) = ordersOf k signs := rfl

@[simp] theorem ordersOf_reported (k i : Nat) (event : WindowEvent) (signs : List Sign) :
    ordersOf k (.reported i event :: signs) = ordersOf k signs := rfl

/-! ## Cues -/

/-- What concerns a region while it is set up and its window reports. -/
inductive Cue where
  /-- The algorithm is asked for the size of the region, and the region is added. -/
  | added
  /-- A step of setting the region up is done or refused. -/
  | answered (stage : RegionStage) (done : Bool)
  /-- The window of the region reports a new size. -/
  | resized (size : Size)
deriving DecidableEq

/-- The cue that a sign gives a region, if it gives one. -/
def Sign.cue? (k : Nat) : Sign → Option Cue
  | called (.sizeHint index) _ => if index = k then some .added else none
  | answered (.step stage index done) => if index = k then some (.answered stage done) else none
  | reported index (.resized size) => if index = k then some (.resized size) else none
  | _ => none

/-- The cues of a region among some signs. -/
def cuesOf (k : Nat) (signs : List Sign) : List Cue := signs.filterMap (Sign.cue? k)

@[simp] theorem cuesOf_nil (k : Nat) : cuesOf k [] = [] := rfl

@[simp] theorem cuesOf_append (k : Nat) (signs more : List Sign) :
    cuesOf k (signs ++ more) = cuesOf k signs ++ cuesOf k more :=
  List.filterMap_append

@[simp] theorem cuesOf_cons (k : Nat) (sign : Sign) (signs : List Sign) :
    cuesOf k (sign :: signs) = (sign.cue? k).toList ++ cuesOf k signs := by
  cases h : sign.cue? k <;> simp [cuesOf, h]

/-! ## Portraits -/

/-- What is to be seen of a region: its size if it is there, whether it has a display, and what
the display was asked to do so far. -/
@[ext]
structure Portrait where
  size : Option Size
  shown : Bool
  orders : List Order
deriving DecidableEq

namespace Portrait

/-- A region that is not there yet. -/
def blank : Portrait := ⟨none, false, []⟩

/-- What a cue makes of a portrait. The algorithm wants some size for the region. A new display is
told the size of its region where that is another one by then. -/
def take (wanted : Size) (p : Portrait) : Cue → Portrait
  | .added => { p with size := some wanted }
  | .answered .display true =>
    { p with
      shown := true
      orders := p.orders ++
        (p.size.toList.filter (· ≠ wanted)).map fun size => .control (.displaySize size) }
  | .answered _ _ => p
  | .resized size =>
    { p with
      size := p.size.map fun _ => size
      orders := p.orders ++ if p.shown then [.control (.displaySize size)] else [] }

/-- What cues make of a portrait, one after the other. -/
def follow (wanted : Size) (p : Portrait) (cues : List Cue) : Portrait :=
  cues.foldl (take wanted) p

@[simp] theorem follow_nil (wanted : Size) (p : Portrait) : p.follow wanted [] = p := rfl

@[simp] theorem follow_cons (wanted : Size) (p : Portrait) (cue : Cue) (cues : List Cue) :
    p.follow wanted (cue :: cues) = (p.take wanted cue).follow wanted cues := rfl

@[simp] theorem follow_append (wanted : Size) (p : Portrait) (cues more : List Cue) :
    p.follow wanted (cues ++ more) = (p.follow wanted cues).follow wanted more :=
  List.foldl_append

end Portrait

namespace Compositor

open Act

section Seen

variable {A W D : Type} {c c' : Compositor A W D} {k : Nat}

/-- The size of a region. -/
def size? (c : Compositor A W D) (k : Nat) : Option Size := c.regions[k]?.map Region.size

/-- What is to be seen of a region after some signs. -/
def portrait (c : Compositor A W D) (k : Nat) (past : List Sign) : Portrait :=
  ⟨c.size? k, (c.display? k).isSome, ordersOf k past⟩

theorem size?_setRegion_of_size_eq {j : Nat} {r r' : Region W D} (here : c.regions[j]? = some r)
    (same : r'.size = r.size) : (c.setRegion j r').size? k = c.size? k := by
  by_cases place : j = k
  · subst place
    rw [size?, getElem?_setRegion_self here, size?, here, Option.map_some, Option.map_some, same]
  · rw [size?, getElem?_setRegion_of_ne place, size?]

end Seen

variable {σ ι A W D : Type} {crew : Crew σ ι A W D} {v v' v'' : View σ A W D}
variable {past new more : List Sign} {k : Nat} {wanted : Size}

/-- Whatever happened before, the portrait of a region changes as the cues say. -/
def Minds (k : Nat) (wanted : Size) (v : View σ A W D) (new : List Sign) (v' : View σ A W D) :
    Prop :=
  ∀ past, v'.compositor.portrait k (past ++ new) =
    (v.compositor.portrait k past).follow wanted (cuesOf k new)

namespace Minds

/-- Where region, orders and cues are left alone, the portrait is. -/
theorem aside (size : v'.compositor.size? k = v.compositor.size? k)
    (shown : (v'.compositor.display? k).isSome = (v.compositor.display? k).isSome)
    (orders : ordersOf k new = []) (cues : cuesOf k new = []) : Minds k wanted v new v' := by
  intro past
  rw [portrait, size, shown, ordersOf_append, orders, List.append_nil, cues]
  rfl

/-- Where the compositor stays as it is, signs that are neither orders nor cues make no change. -/
theorem silent (same : v'.compositor = v.compositor) (orders : ordersOf k new = [])
    (cues : cuesOf k new = []) : Minds k wanted v new v' :=
  .aside (by rw [same]) (by rw [same]) orders cues

theorem trans (h : Minds k wanted v new v') (h' : Minds k wanted v' more v'') :
    Minds k wanted v (new ++ more) v'' := by
  intro past
  rw [← List.append_assoc, h' (past ++ new), h past, cuesOf_append, Portrait.follow_append]

end Minds

/-! ## Reports -/

/-- A region that takes a new size is told so, and no other region is. -/
theorem Resizes.portrait_eq {j : Nat} {size : Size} (h : Resizes crew j size v new v')
    (wanted : Size) (k : Nat) (past : List Sign) :
    v'.compositor.portrait k (past ++ new) =
      if j = k then (v.compositor.portrait k past).take wanted (.resized size)
      else v.compositor.portrait k past := by
  have shown := isSome_display?_of_shape_eq h.shape_eq k
  have sizes : v'.compositor.size? k = _ := h.size_eq k
  by_cases same : j = k
  · subst same
    have orders : ordersOf j new =
        if (v.compositor.display? j).isSome then [.control (.displaySize size)] else [] := by
      cases h with
      | unshown here blank => simp [display?_of_getElem? here, blank, Call.order?]
      | shown here display => simp [display?_of_getElem? here, display, Call.order?]
    rw [if_pos rfl, portrait, shown, sizes, ordersOf_append, orders]
    cases told : (v.compositor.display? j).isSome <;>
      simp [Portrait.take, portrait, size?, Function.comp_def, told]
  · have silent : ordersOf k new = [] := by
      cases h <;> simp [Call.order?, same]
    rw [if_neg same, portrait, shown, sizes, ordersOf_append, silent, List.append_nil]
    simp [portrait, size?, Ne.symm same]

/-- Whatever window reports, the portrait of a region changes as the cues say. -/
theorem report_minds (k : Nat) (wanted : Size) (tidy : v.compositor.Tidy) (j : Nat)
    (event : WindowEvent) :
    (report crew j event).Yields crew v fun _ new v' => Minds k wanted v new v' := by
  refine .bind (.reported ?_)
  cases event with
  | input event => exact .modifyCompositor (.aside rfl rfl rfl rfl)
  | resized size =>
    have cues : cuesOf k [.reported j (.resized size)] = if j = k then [.resized size] else [] := by
      by_cases same : j = k <;> simp [Sign.cue?, same]
    refine .bind (.compositor ?_)
    split
    · rename_i inside
      refine (resizeRegion_yields tidy inside).mono fun _ new v' resizes past => ?_
      have told : cuesOf k new = [] := by
        cases resizes <;> simp [Sign.cue?]
      have asked := resizes.portrait_eq wanted k (past ++ [.reported j (.resized size)])
      rw [List.append_assoc] at asked
      rw [List.nil_append, asked, cuesOf_append, cues, told, List.append_nil]
      have before : v.compositor.portrait k (past ++ [.reported j (.resized size)]) =
          v.compositor.portrait k past := by
        simp [portrait]
      rw [before]
      split <;> rfl
    · rename_i outside
      refine .say fun past => ?_
      rw [List.append_nil, List.append_nil, cues]
      split
      · -- What is not there has no size that could change and no display to be told.
        rename_i same
        subst same
        have absent : v.compositor.regions[j]? = none :=
          List.getElem?_eq_none (Nat.le_of_not_lt outside)
        simp [portrait, Portrait.take, size?, absent, display?_eq_none absent]
      · simp [portrait]

theorem reportAll_minds (reports : List (Nat × WindowEvent)) (tidy : v.compositor.Tidy) :
    (reportAll crew reports).Yields crew v fun _ new v' => Minds k wanted v new v' := by
  induction reports generalizing v with
  | nil => exact .pure (.silent rfl rfl rfl)
  | cons head rest ih =>
    obtain ⟨j, event⟩ := head
    refine ((report_yields tidy j event).both (report_minds k wanted tidy j event)).andThen ?_
    rintro _ new v₁ ⟨path, minds⟩
    exact (ih path.2).mono fun _ _ _ later => minds.trans later

/-! ## Opening -/

section Opening

variable {policy : FailurePolicy} {asked : DisplayRequest}

/-- An answer other than that there is a display changes nothing. -/
theorem Minds.answered {stage : RegionStage} {done : Bool} (j : Nat)
    (undone : stage = .display → done = false) (size : v'.compositor.size? k = v.compositor.size? k)
    (shown : (v'.compositor.display? k).isSome = (v.compositor.display? k).isSome) :
    Minds k wanted v [.answered (.step stage j done)] v' := by
  intro past
  have idle (p : Portrait) : p.take wanted (.answered stage done) = p := by
    cases stage with
    | display => rw [undone rfl]; rfl
    | window | enable => rfl
  by_cases same : j = k <;> simp [portrait, size, shown, Sign.cue?, same, idle]

/-- Reports while something is asked for change a portrait as the cues say. -/
theorem attempt_minds {α : Type} {task : Run σ ι α} {call : Call} (k : Nat) (wanted : Size)
    (stage : RegionStage) (j : Nat) (does : crew.Does task) (tidy : v.compositor.Tidy)
    (order : call.order? k = none)
    (cue : (Sign.called call []).cue? k = none) :
    (askWhile call (reportOpening crew stage j) task).Yields crew v
      fun a new v' => Attempts crew call task v new a v' ∧ Minds k wanted v new v' := by
  have reports : (reportOpening crew stage j).Yields crew v fun _ told v₁ =>
      Minds k wanted v told v₁ :=
    .bind (.env (reportAll_minds _ tidy))
  refine (attempt_yields call stage j does tidy).both (.askWhile does (reports.mono ?_))
  intro _ told v₁ minds a w _
  rw [tidy.lockedRegions_eq_nil]
  have idle : Minds k wanted v [.called call []] v :=
    .silent rfl (by simp [order]) (by simp [cue])
  exact idle.trans minds

/-- A new display is told the size of its region where that is not the one asked for. -/
theorem Adopts.minds {window : W} {d : D} (h : Adopts crew asked window d v new v')
    (size : asked.index = k → asked.window.size = wanted) :
    Minds k wanted v (.answered (.step .display asked.index true) :: new) v' := by
  intro past
  by_cases same : asked.index = k
  · obtain rfl := size same
    subst same
    cases h with
    | fitting here fits =>
      simp [portrait, size?, getElem?_setRegion_self here, display?_setRegion_self here, here,
        Sign.cue?, Portrait.take, fits]
    | resized here changed =>
      simp [portrait, size?, getElem?_setRegion_self here, display?_setRegion_self here, here,
        Sign.cue?, Portrait.take, changed, Call.order?]
  · have other : k ≠ asked.index := Ne.symm same
    cases h with
    | fitting here | resized here =>
      simp [portrait, size?_setRegion_of_size_eq here, display?_setRegion_of_ne other,
        Sign.cue?, same, Call.order?]

theorem openDisplay_minds {output : Output} {win : W}
    (whole : (⟨asked.index, output.module, output.format, asked.window⟩ : DisplayRequest) = asked)
    (tidy : v.compositor.Tidy) (inside : asked.index < v.compositor.regions.length)
    (size : asked.index = k → asked.window.size = wanted) :
    (openDisplay crew policy output asked.index asked.window win).Yields crew v
      fun _ new v' => Minds k wanted v new v' := by
  unfold openDisplay
  rw [whole]
  refine .bind (.guarding
    ((attempt_minds k wanted .display _ (.newDisplay _ _) tidy rfl rfl).mono ?_))
  rintro result made v₁ ⟨attempt, minds⟩
  refine .bind (.answered ?_)
  have inside₁ := attempt.inside inside
  cases result with
  | ok display =>
    refine (adopt_yields attempt.tidy inside₁).andThen fun _ adopted v₂ adopts => .pure ?_
    simpa [Except.toBool] using minds.trans (adopts.minds size)
  | error cause =>
    cases policy with
    | tolerate =>
      obtain ⟨r, here⟩ : ∃ r, v₁.compositor.regions[asked.index]? = some r :=
        ⟨_, List.getElem?_eq_getElem inside₁⟩
      refine .bind (.underLock attempt.tidy here (.changeRegion ?_))
      refine (stepFailed_yields _ _ _ _).mono ?_
      rintro result _ _ ⟨rfl, rfl, rfl⟩
      -- The region gets its window, which is no part of its portrait.
      simp only [View.compositor_become, modifyRegion_setRegion, View.become_become,
        List.append_nil]
      refine minds.trans (.answered _ (fun _ => rfl) (size?_setRegion_of_size_eq here rfl) ?_)
      by_cases same : k = asked.index
      · subst same
        rw [View.compositor_become, display?_setRegion_self here, display?_of_getElem? here]
      · rw [View.compositor_become, display?_setRegion_of_ne same]
    | abort =>
      refine (destroyWindow_yields _ _).andThen ?_
      rintro _ _ v₂ ⟨rfl, same⟩
      refine (stepFailed_yields _ _ _ _).mono ?_
      rintro result _ _ ⟨rfl, rfl, rfl⟩
      have refused : Minds k wanted v₁ [.answered (.step .display asked.index false)] v₁ :=
        .answered _ (fun _ => rfl) rfl rfl
      simpa [Except.toBool] using minds.trans (refused.trans (.silent same rfl rfl))

theorem openWindow_minds {output : Output} (asked : DisplayRequest)
    (whole : (⟨asked.index, output.module, output.format, asked.window⟩ : DisplayRequest) = asked)
    (tidy : v.compositor.Tidy) (inside : asked.index < v.compositor.regions.length)
    (size : asked.index = k → asked.window.size = wanted) :
    (openWindow crew policy output asked.index asked.window).Yields crew v
      fun _ new v' => Minds k wanted v new v' := by
  have idle {v v' : View σ A W D} (stage : RegionStage) (early : stage ≠ .display) (done : Bool)
      (same : v'.compositor = v.compositor) :
      Minds k wanted v [.answered (.step stage asked.index done)] v' :=
    .answered _ (fun late => (early late).elim) (by rw [same]) (by rw [same])
  refine (attempt_minds k wanted .window _ (.newWindow _ _) tidy rfl rfl).andThen ?_
  rintro result made v₁ ⟨window, opened⟩
  refine .bind (.answered ?_)
  cases result with
  | error cause =>
    refine (stepFailed_yields _ _ _ _).mono ?_
    rintro result _ _ ⟨rfl, rfl, rfl⟩
    exact opened.trans (idle .window (by decide) _ rfl)
  | ok win =>
    refine .bind (.guarding
      ((attempt_minds k wanted .enable _ (.enable _ _) window.tidy rfl rfl).mono ?_))
    rintro ⟨result, win'⟩ shown v₂ ⟨enable, minds⟩
    have first := opened.trans ((idle .window (by decide) true rfl).trans minds)
    refine .bind (.answered ?_)
    cases result with
    | error cause =>
      refine (dropWindow_yields _ _).andThen ?_
      rintro _ _ v₃ ⟨rfl, same⟩
      have dropped : Minds k wanted v₂
          [.called (.dropWindow asked.index) v₂.compositor.lockedRegions] v₃ :=
        .silent same rfl rfl
      refine (stepFailed_yields _ _ _ _).mono ?_
      rintro result _ _ ⟨rfl, rfl, rfl⟩
      simpa [Except.toBool] using first.trans ((idle .enable (by decide) false rfl).trans dropped)
    | ok done =>
      have inside₂ := enable.inside (window.inside inside)
      refine (openDisplay_minds whole enable.tidy inside₂ size).mono fun _ rest v₃ later => ?_
      simpa [Except.toBool] using first.trans ((idle .enable (by decide) true rfl).trans later)

variable {settings : SplitSettings} {algorithm : A} {j : Nat} {output : Output}

/-- A region is added in the size that the algorithm wants. -/
theorem Minds.addBare {size : Size} (next : v.compositor.regions.length = j)
    (right : j = k → size = wanted) :
    Minds k wanted v [.called (.sizeHint j) []] (v.become (v.compositor.withBare size)) := by
  intro past
  by_cases same : j = k
  · subst same
    simp [portrait, withBare, size?, display?, Sign.cue?, Portrait.take, Call.order?, next,
      right rfl, Region.bare]
  · have there : (v.compositor.withBare size).regions[k]? = v.compositor.regions[k]? := by
      rw [withBare, List.getElem?_append]
      split
      · rfl
      · rw [List.getElem?_eq_none (by simp; omega), List.getElem?_eq_none (by omega)]
    simp [portrait, size?, display?, there, Sign.cue?, Call.order?, same]

theorem openRegion_minds (tidy : v.compositor.Tidy) (next : v.compositor.regions.length = j)
    (right : j = k →
      crew.algorithm.sizeFor algorithm output.format v.compositor.placement = wanted) :
    (openRegion crew settings algorithm j output).Yields crew v
      fun _ new v' => Minds k wanted v new v' := by
  refine .bind (.compositor (.bind (.consult (.bind (.modifyCompositor ?_)))))
  rw [tidy.lockedRegions_eq_nil]
  have added := Minds.addBare next right
  cases shown : output.active with
  | false =>
    subst next
    exact .bind (.say (.pure (by exact added)))
  | true =>
    subst next
    have inside : v.compositor.regions.length <
        (v.compositor.withBare (crew.algorithm.sizeFor algorithm output.format
          v.compositor.placement)).regions.length := by
      simp [withBare]
    refine Yields.mono (openWindow_minds
      (request crew settings algorithm v.compositor.placement _ output) rfl (tidy.addBare _)
      inside right) fun _ _ _ later => ?_
    exact added.trans later

/-- While regions are added in order, what happens to any of them changes the portrait of a region
as its cues say. -/
theorem openRegions_minds {outputs : List Output} (tidy : v.compositor.Tidy)
    (next : v.compositor.regions.length = j)
    (right : ∀ i output, outputs[i]? = some output → j + i = k →
      crew.algorithm.sizeFor algorithm output.format v.compositor.placement = wanted) :
    (openRegions crew settings algorithm j outputs).Yields crew v
      fun _ new v' => Minds k wanted v new v' := by
  induction outputs generalizing v j with
  | nil => exact .pure (.silent rfl rfl rfl)
  | cons output outputs ih =>
    have one : (openRegion crew settings algorithm j output).Yields crew v
        fun _ new v' => Minds k wanted v new v' :=
      openRegion_minds tidy next (right 0 output rfl)
    refine ((openRegion_yields tidy next).both one).andThen ?_
    rintro result new v₁ ⟨⟨fate, rfl, opens⟩, minds⟩
    cases settings.regionFailure.outcome j fate with
    | error e => exact .pure (by simpa using minds)
    | ok done =>
      refine (ih (opens.tidy tidy) (opens.length_eq next) ?_).mono fun _ _ _ later =>
        minds.trans later
      intro i output given place
      rw [opens.placement_eq]
      exact right (i + 1) output given (by omega)

theorem populate_minds (tidy : v.compositor.Tidy) (empty : v.compositor.regions = [])
    (right : ∀ output, v.compositor.outputs[k]? = some output →
      crew.algorithm.sizeFor algorithm output.format v.compositor.placement = wanted) :
    (populate crew settings algorithm).Yields crew v
      fun result new v' => result = .ok () → Minds k wanted v new v' := by
  have none : v.compositor.regions.length = 0 := by rw [empty]; rfl
  have all : (openRegions crew settings algorithm 0 v.compositor.outputs).Yields crew v
      fun _ new v' => Minds k wanted v new v' := by
    refine openRegions_minds tidy none fun i output given place => ?_
    obtain rfl : i = k := by omega
    exact right output given
  refine .bind (.compositor (.bind (.guarding (((openRegions_yields tidy none).both all).mono ?_))))
  rintro result new v₁ ⟨⟨fates, opens⟩, minds⟩
  cases result with
  | ok done =>
    refine .bind (.compositor (.bind (.say (.pure fun _ => ?_))))
    simpa using minds
  | error e =>
    exact .bind (.say ((close_yields (opens.tidy tidy)).andThen fun _ _ _ _ => .pure nofun))

/-- After an opening the portrait of a region is what the cues make of a blank one. -/
theorem open_portrait {registry : Registry (Constructor σ ι A)} {source : VideoFormat}
    {parent : Option ParentWindow} {env : σ} {ledger : Ledger} {c : Compositor A W D}
    {w : World σ (Happening ι)}
    (opened : «open» crew registry settings source parent ⟨env, ledger, []⟩ = .ok (.ok c) w)
    (made : Makes registry settings source env ledger algorithm)
    (right : ∀ output, (crew.algorithm.outputs algorithm)[k]? = some output →
      crew.algorithm.sizeFor algorithm output.format settings.placement = wanted) :
    c.portrait k w.signs = Portrait.blank.follow wanted (cuesOf k w.signs) := by
  obtain ⟨construct, w₀, known, ran⟩ := made
  rw [open_of_made crew parent known ran] at opened
  have populates := openWith_populates crew settings source parent algorithm w₀
  rw [opened] at populates
  obtain ⟨fates, result, v, -, ran', -, same⟩ := populates
  cases result with
  | error e => cases same
  | ok done =>
    cases same
    have all : (populate crew settings algorithm).Yields crew
        ⟨unpopulated crew settings source.upright algorithm parent, w₀.env, w₀.ledger⟩
        fun result new v' => result = .ok () → Minds k wanted _ new v' :=
      populate_minds unpopulated_tidy rfl right
    have yields := all ⟨unpopulated crew settings source.upright algorithm parent,
      founded crew settings algorithm w₀⟩ (by simp [Running.view])
    rw [ran'] at yields
    obtain ⟨new, signs, minds⟩ := yields
    rw [signs_founded, List.nil_append] at signs
    subst signs
    exact minds rfl []

end Opening

end Compositor

end Mosaic
