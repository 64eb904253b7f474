import Mosaic.Proofs.Frame
import Mosaic.Proofs.Shape

/-!
# Closing in reverse order

Closing tears the regions down from the last to the first, in each the display under the lock
and then the window without it, and lets the algorithm go at the end. What it shows depends
on nothing but which regions have a window or a display.

## Main definitions

* `Call.isParting` — the calls that give something back
* `farewell`, `farewells` — what the tearing down of one region and of several shows
* `closed` — a compositor after closing
* `Closes` — the whole of closing

## Main results

* `teardown_yields`, `teardownLast_yields` — one region, and all of them
* `close_yields` — closing a tidy compositor
-/

set_option autoImplicit false

namespace Mosaic

/-- Whether a call gives something back. -/
def Call.isParting : Call → Bool
  | disable _ | dropWindow _ | close _ | dropDisplay _ | dropAlgorithm => true
  | _ => false

theorem kind_of_isParting {call : Call} (parting : call.isParting = true) :
    call.kind = .setup := by
  cases call <;> first | rfl | cases parting

namespace Compositor

open Act

variable {σ ι A W D : Type} {crew : Crew σ ι A W D} {v : View σ A W D}

/-- What the tearing down of a region shows: its display goes before its window. -/
def farewell (c : Compositor A W D) (k : Nat) : List Sign :=
  (if (c.display? k).isSome then [.called (.close k) [k], .called (.dropDisplay k) [k]] else []) ++
    if (c.window? k).isSome then [.called (.disable k) [], .called (.dropWindow k) []] else []

/-- What the tearing down of the first so many regions shows: the last one goes first. -/
def farewells (c : Compositor A W D) (count : Nat) : List Sign :=
  (List.range count).reverse.flatMap c.farewell

/-- A compositor after closing. -/
def closed (c : Compositor A W D) : Compositor A W D :=
  { c with algorithm := none, outputs := [], regions := [], pictures := [], queue := [] }

/-- Where no region is left, none is untidy. -/
theorem closed_tidy (c : Compositor A W D) : c.closed.Tidy := by
  intro i r here
  simp [closed] at here

@[simp] theorem farewells_zero (c : Compositor A W D) : c.farewells 0 = [] := rfl

theorem farewells_succ (c : Compositor A W D) (count : Nat) :
    c.farewells (count + 1) = c.farewell count ++ c.farewells count := by
  simp [farewells, List.range_succ]

/-- A farewell consists of calls that give something back. -/
theorem isParting_of_mem_farewells {c : Compositor A W D} {count : Nat} {sign : Sign}
    (member : sign ∈ c.farewells count) :
    ∃ call locked, sign = .called call locked ∧ call.isParting = true := by
  obtain ⟨k, -, here⟩ := List.mem_flatMap.mp member
  rcases List.mem_append.mp here with display | window
  · split at display
    · simp only [List.mem_cons, List.not_mem_nil, or_false] at display
      rcases display with rfl | rfl <;> exact ⟨_, _, rfl, rfl⟩
    · cases display
  · split at window
    · simp only [List.mem_cons, List.not_mem_nil, or_false] at window
      rcases window with rfl | rfl <;> exact ⟨_, _, rfl, rfl⟩
    · cases window

theorem answersOf_farewells (c : Compositor A W D) (count : Nat) :
    answersOf (c.farewells count) = [] := by
  rw [answersOf, List.filterMap_eq_nil_iff]
  intro sign member
  obtain ⟨call, locked, rfl, -⟩ := isParting_of_mem_farewells member
  rfl

theorem farewell_congr {c c' : Compositor A W D} {k : Nat} (h : c.regions[k]? = c'.regions[k]?) :
    c.farewell k = c'.farewell k := by
  rw [farewell, farewell, display?, display?, window?, window?, h]

theorem farewells_congr {c c' : Compositor A W D} {count : Nat}
    (h : ∀ k < count, c.regions[k]? = c'.regions[k]?) : c.farewells count = c'.farewells count := by
  induction count with
  | zero => rfl
  | succ count ih =>
    rw [farewells_succ, farewells_succ, farewell_congr (h count count.lt_succ_self),
      ih fun k below => h k (Nat.lt_succ_of_lt below)]

theorem Tidy.take {c : Compositor A W D} (tidy : c.Tidy) (count : Nat) :
    ({ c with regions := c.regions.take count } : Compositor A W D).Tidy := by
  intro i r here
  rw [List.getElem?_take] at here
  split at here
  · exact tidy i r here
  · cases here

/-! ## One region -/

theorem dropWindow_yields (k : Nat) (window : W) :
    (dropWindow crew k window).Yields crew v fun _ new v' =>
      new = [.called (.dropWindow k) v.compositor.lockedRegions] ∧
      v'.compositor = v.compositor :=
  .ask (.dropWindow _) fun _ _ _ => ⟨rfl, rfl⟩

theorem destroyWindow_yields (k : Nat) (window : W) :
    (destroyWindow crew k window).Yields crew v fun _ new v' =>
      new = [.called (.disable k) v.compositor.lockedRegions,
        .called (.dropWindow k) v.compositor.lockedRegions] ∧
      v'.compositor = v.compositor := by
  refine .bind (.ask (.disable _) fun window' w _ => ?_)
  refine (dropWindow_yields k window').mono ?_
  rintro _ _ _ ⟨rfl, same⟩
  exact ⟨rfl, same⟩

theorem destroyDisplay_yields (k : Nat) (d : D) :
    (destroyDisplay crew k d).Yields crew v fun _ new v' =>
      new = [.called (.close k) v.compositor.lockedRegions,
        .called (.dropDisplay k) v.compositor.lockedRegions] ∧
      v'.compositor = v.compositor := by
  refine .bind (.ask (.close _) fun d' w _ => ?_)
  exact .ask (.dropDisplay _) fun _ _ _ => ⟨rfl, rfl⟩

/-- A window is taken out of its region under the lock. -/
theorem takeWindow_yields {index : Nat} {r : Region W D} {window : Option W}
    {display : Option D} {size : Size} {v₁ : View σ A W D}
    (here : v.compositor.regions[index]? = some r)
    (seen : v₁.compositor = v.compositor.setRegion index ⟨index, window, display, size, true⟩) :
    Yields crew (do
      let found := (← compositor).window? index
      changeRegion index fun r => { r with window := none }
      return found) v₁ fun found new v' => found = window ∧ new = [] ∧
        v'.compositor = v.compositor.setRegion index ⟨index, none, display, size, true⟩ := by
  refine .bind (.compositor (.bind (.changeRegion (.pure ⟨?_, rfl, ?_⟩))))
  · rw [seen, window?_setRegion_self here]
  · rw [View.compositor_become, seen, modifyRegion_setRegion]

theorem teardown_yields {k : Nat} {r : Region W D} (tidy : v.compositor.Tidy)
    (here : v.compositor.regions[k]? = some r) :
    (teardown crew k).Yields crew v fun _ new v' =>
      new = v.compositor.farewell k ∧
      v'.compositor = v.compositor.setRegion k { r with window := none, display := none } := by
  obtain ⟨index, window, display, size, locked⟩ := r
  obtain ⟨rfl, rfl⟩ : index = k ∧ locked = false := tidy _ _ here
  -- Under the lock the display goes, and the window is only taken out.
  refine .bind (.underLock tidy here (.mono (?_ : Yields crew _
    (v.become (v.compositor.setRegion index ⟨index, window, display, size, true⟩))
    fun found new v' => found = window ∧
      new = (if display.isSome then [.called (.close index) [index],
        .called (.dropDisplay index) [index]] else []) ∧
      v'.compositor = v.compositor.setRegion index ⟨index, none, none, size, true⟩) ?_))
  · refine .bind (.compositor ?_)
    rw [View.compositor_become, display?_setRegion_self here]
    cases display with
    | none => exact (takeWindow_yields here rfl).mono fun _ _ _ h => by simpa using h
    | some d =>
      refine .bind (.changeRegion ((destroyDisplay_yields index d).andThen ?_))
      rintro _ _ v₁ ⟨rfl, same⟩
      have bare : v₁.compositor =
          v.compositor.setRegion index ⟨index, window, none, size, true⟩ := by
        rw [same, View.compositor_become, View.compositor_become, modifyRegion_setRegion]
      refine .bind (.say ((takeWindow_yields here bare).mono ?_))
      rintro found new v' ⟨rfl, rfl, last⟩
      refine ⟨rfl, ?_, last⟩
      simp [tidy.lockedRegions_setRegion here]
  -- The window goes when the lock is free again, so its calls are noted without one.
  rintro found new v' ⟨rfl, rfl, last⟩
  rw [last, modifyRegion_setRegion]
  have tidy' :
      (v.compositor.setRegion index (⟨index, none, none, size, false⟩ : Region W D)).Tidy :=
    tidy.setRegion rfl rfl
  cases found with
  | none =>
    refine .pure ⟨?_, rfl⟩
    simp [farewell, display?_of_getElem? here, window?_of_getElem? here]
  | some window =>
    refine (destroyWindow_yields index window).andThen ?_
    rintro _ _ v₂ ⟨rfl, same⟩
    refine .say ⟨?_, same⟩
    simp [farewell, display?_of_getElem? here, window?_of_getElem? here,
      tidy'.lockedRegions_eq_nil]

/-! ## The whole compositor -/

theorem teardownLast_yields {count : Nat} (tidy : v.compositor.Tidy)
    (all : v.compositor.regions.length = count) :
    (teardownLast crew count).Yields crew v fun _ new v' =>
      new = v.compositor.farewells count ∧
      v'.compositor = { v.compositor with regions := [] } := by
  -- The regions that are left are the first ones, so each round is about the last of them.
  induction count generalizing v with
  | zero =>
    refine .pure ⟨rfl, ?_⟩
    rw [← List.length_eq_zero_iff.mp all]
  | succ count ih =>
    obtain ⟨r, here⟩ : ∃ r, v.compositor.regions[count]? = some r :=
      ⟨_, List.getElem?_eq_getElem (by omega)⟩
    refine (teardown_yields tidy here).andThen ?_
    rintro _ _ v₁ ⟨rfl, same⟩
    refine .bind (.modifyCompositor ?_)
    have shrunk : ({ v₁.compositor with regions := v₁.compositor.regions.take count } :
        Compositor A W D) = { v.compositor with regions := v.compositor.regions.take count } := by
      simp [same, setRegion, List.take_set_of_le]
    rw [shrunk]
    refine (ih (tidy.take count) (by simp; omega)).mono ?_
    rintro _ _ v₂ ⟨rfl, last⟩
    refine ⟨?_, last⟩
    -- Without the last region the others are said farewell to as before.
    have rest : Compositor.farewells
        { v.compositor with regions := v.compositor.regions.take count } count =
        v.compositor.farewells count :=
      farewells_congr fun k below => by simp [below]
    rw [farewells_succ, List.nil_append, View.compositor_become, rest]

theorem releaseAlgorithm_yields (tidy : v.compositor.Tidy) :
    (releaseAlgorithm crew).Yields crew v fun _ new v' =>
      new = (if v.compositor.algorithm.isSome then [.called .dropAlgorithm []] else []) ∧
      v'.compositor = { v.compositor with algorithm := none } := by
  refine .bind (.compositor ?_)
  cases alive : v.compositor.algorithm with
  | none =>
    refine .pure ⟨rfl, ?_⟩
    rw [← alive]
  | some a =>
    refine .bind (.modifyCompositor (.bind (.ask (.drop a) fun _ w _ => .say ⟨?_, rfl⟩)))
    have free : ({ v.compositor with algorithm := none } : Compositor A W D).lockedRegions = [] :=
      tidy.lockedRegions_eq_nil
    simp [free]

/-- A compositor is closed: it says farewell to every region, the last one first, and then to the
algorithm. Where nothing is left, closing changes nothing. -/
inductive Closes : View σ A W D → List Sign → View σ A W D → Prop
  | again {v : View σ A W D} (gone : v.compositor.Gone) : Closes v [] v
  | first {v v' : View σ A W D} (left : ¬ v.compositor.Gone)
      (last : v'.compositor = v.compositor.closed) :
      Closes v
        (v.compositor.farewells v.compositor.regions.length ++
          if v.compositor.algorithm.isSome then [.called .dropAlgorithm []] else []) v'

theorem close_yields (tidy : v.compositor.Tidy) :
    (close crew).Yields crew v fun _ new v' => Closes v new v' := by
  refine .bind (.compositor ?_)
  split
  · rename_i nothing
    simp only [Bool.and_eq_true, Option.isNone_iff_eq_none, List.isEmpty_iff] at nothing
    exact .pure (.again nothing)
  · rename_i something
    simp only [Bool.and_eq_true, Option.isNone_iff_eq_none, List.isEmpty_iff] at something
    have left : ¬ v.compositor.Gone := something
    refine .bind (.modifyCompositor ((releaseSlots_yields _).andThen ?_))
    rintro _ _ _ ⟨rfl, rfl⟩
    -- The pictures go first, and of the view after that only the compositor matters.
    generalize seen : (v.become { v.compositor with pictures := [] }).letGoAll _ = v₀
    have same : v₀.compositor = { v.compositor with pictures := [] } := seen ▸ rfl
    have regions : v₀.compositor.regions = v.compositor.regions := by rw [same]
    have tidy' : v₀.compositor.Tidy := by rw [same]; exact tidy
    rw [← regions]
    refine (teardownLast_yields tidy' rfl).andThen ?_
    rintro _ _ v₁ ⟨rfl, bare⟩
    refine .bind (.modifyCompositor ?_)
    refine (releaseAlgorithm_yields fun i r here => ?_).andThen ?_
    · simp [bare] at here
    rintro _ _ v₂ ⟨rfl, last⟩
    have told (count : Nat) : v₀.compositor.farewells count = v.compositor.farewells count :=
      farewells_congr fun k _ => by rw [regions]
    refine .modifyCompositor ?_
    -- The outputs and the queue go last, which leaves nothing but the placement and the parent.
    generalize ended : v₂.become _ = v₃
    have closed : v₃.compositor = v.compositor.closed := by
      rw [← ended, View.compositor_become, last, View.compositor_become, bare, same]
      rfl
    have closes : Closes v _ v₃ := .first left closed
    rw [told, regions]
    simpa [bare, same] using closes

theorem Closes.gone {v' : View σ A W D} {new : List Sign} (h : Closes v new v') :
    v'.compositor.Gone := by
  cases h with
  | again gone => exact gone
  | first _ last => rw [last]; exact ⟨rfl, rfl⟩

theorem Closes.tidy {v' : View σ A W D} {new : List Sign} (h : Closes v new v')
    (tidy : v.compositor.Tidy) : v'.compositor.Tidy := by
  cases h with
  | again => exact tidy
  | first _ last =>
    rw [last]
    exact closed_tidy _

end Compositor

end Mosaic
