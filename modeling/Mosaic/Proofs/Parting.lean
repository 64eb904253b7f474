import Mosaic.Proofs.Fate
import Mosaic.Proofs.Run

/-!
# What an opening obliges to

Whatever a region got while it was set up has to be given back: a display that was made is
closed and let go, a window that was shown is hidden and let go. What has to be called for that
follows from the fate of the region alone. Under the tolerant policy it is called when the
compositor is closed, under the aborting one a part of it before, in the same order.

## Main definitions

* `partings` — what giving back the outfit of a region calls
* `Fate.parting`, `parted` — what the fates of regions oblige to

## Main results

* `callsOf_farewells` — closing calls what the outfits of the regions oblige to
* `OpensFrom.parted_eq` — taken back or called on closing, it is what the fates oblige to
-/

set_option autoImplicit false

namespace Mosaic

/-- What giving back the outfit of a region calls: the display goes before the window. -/
def partings (outfit : Bool × Bool) (k : Nat) : List Call :=
  (if outfit.2 then [.close k, .dropDisplay k] else []) ++
    if outfit.1 then [.disable k, .dropWindow k] else []

/-- What a region with a fate obliges to. -/
def Fate.parting (fate : Fate) (k : Nat) : List Call := partings (fate.outfit .tolerate) k

/-- What is taken back and what is left together are what a fate obliges to. -/
theorem Fate.undoing_append_partings (fate : Fate) (policy : FailurePolicy) (k : Nat) :
    fate.undoing policy k ++ partings (fate.outfit policy) k = fate.parting k := by
  -- The policies only differ in when a window without a display is given back.
  cases fate with
  | inactive | ready => rfl
  | refused stage cause => cases stage <;> cases policy <;> rfl

/-- What fates oblige to: the last region goes first. -/
def parted (fates : List Fate) : List Call :=
  fates.zipIdx.reverse.flatMap fun fate => fate.1.parting fate.2

theorem parted_concat (fates : List Fate) (fate : Fate) :
    parted (fates ++ [fate]) = fate.parting fates.length ++ parted fates := by
  simp [parted, List.zipIdx_append]

/-! ## Closing -/

namespace Compositor

variable {σ ι A W D : Type} {crew : Crew σ ι A W D} {v v' : View σ A W D} {new : List Sign}
variable {c : Compositor A W D}

theorem callsOf_farewell (c : Compositor A W D) (k : Nat) :
    callsOf (c.farewell k) = partings ((c.outfits[k]?).getD (false, false)) k := by
  rw [farewell, isSome_display?, isSome_window?, partings]
  cases c.outfits[k]? with
  | none => rfl
  | some outfit =>
    obtain ⟨window, display⟩ := outfit
    cases window <;> cases display <;> rfl

/-- Farewells depend on the outfits alone. -/
theorem farewells_of_shape_eq {c c' : Compositor A W D} (h : c.shape = c'.shape) (count : Nat) :
    c.farewells count = c'.farewells count := by
  have same : c.outfits = c'.outfits := congrArg Shape.outfits h
  induction count with
  | zero => rfl
  | succ count ih =>
    rw [farewells_succ, farewells_succ, ih, farewell, farewell, isSome_display?, isSome_display?,
      isSome_window?, isSome_window?, same]

/-- Closing calls what the outfits of the regions oblige to, the last one first. -/
theorem callsOf_farewells {policy : FailurePolicy} {fates : List Fate}
    (all : c.outfits = fates.map (Fate.outfit policy)) :
    callsOf (c.farewells fates.length) =
      fates.zipIdx.reverse.flatMap fun fate => partings (fate.1.outfit policy) fate.2 := by
  -- The claim for the first regions alone lets the induction take off the last of them.
  suffices h : ∀ count ≤ fates.length, callsOf (c.farewells count) =
      (fates.take count).zipIdx.reverse.flatMap fun fate =>
        partings (fate.1.outfit policy) fate.2 by
    simpa using h fates.length (Nat.le_refl _)
  intro count
  induction count with
  | zero => simp
  | succ count ih =>
    intro inside
    have here : fates[count]? = some fates[count] := List.getElem?_eq_getElem inside
    have grown : fates.take (count + 1) = fates.take count ++ [fates[count]] := by
      rw [List.take_add_one, here, Option.toList_some]
    have below : (fates.take count).length = count :=
      List.length_take_of_le (Nat.le_of_succ_le inside)
    rw [farewells_succ, callsOf_append, ih (Nat.le_of_succ_le inside), callsOf_farewell, all,
      List.getElem?_map, here, grown, List.zipIdx_append, List.reverse_append,
      List.flatMap_append, below, Nat.zero_add]
    simp only [Option.map_some, Option.getD_some, List.zipIdx_cons, List.zipIdx_nil,
      List.reverse_cons, List.reverse_nil, List.nil_append, List.flatMap_cons, List.flatMap_nil,
      List.append_nil]

variable {settings : SplitSettings} {algorithm : A} {outputs : List Output} {fates : List Fate}
variable {result : Except OpenError Unit}

/-- What was taken back while opening and what closing calls are together what the fates oblige
to. -/
theorem OpensFrom.parted_eq
    (h : OpensFrom crew settings algorithm 0 outputs v new fates result v')
    (empty : v.compositor.regions = []) :
    undone settings.regionFailure 0 fates ++
      callsOf (v'.compositor.farewells v'.compositor.regions.length) = parted fates := by
  have all : v'.compositor.outfits = fates.map (Fate.outfit settings.regionFailure) := by
    rw [h.outfits_eq (by simp [empty])]
    simp [outfits, empty]
  have count : v'.compositor.regions.length = fates.length := by
    simpa [outfits] using congrArg List.length all
  rw [count, callsOf_farewells all]
  -- Only the last fate can have been taken back, and its region is the first to go.
  have kept (fates : List Fate) (none : ∀ fate ∈ fates, ∀ i,
      fate.undoing settings.regionFailure i = []) :
      undone settings.regionFailure 0 fates = [] ∧
        (fates.zipIdx.reverse.flatMap fun fate =>
          partings (fate.1.outfit settings.regionFailure) fate.2) = parted fates := by
    constructor
    · rw [undone, List.flatMap_eq_nil_iff]
      intro fate member
      exact none fate.1 (List.fst_mem_of_mem_zipIdx member) fate.2
    · rw [parted, List.flatMap_def, List.flatMap_def]
      congr 1
      apply List.map_congr_left
      intro fate member
      have member := List.fst_mem_of_mem_zipIdx (List.mem_reverse.mp member)
      rw [← fate.1.undoing_append_partings settings.regionFailure, none _ member, List.nil_append]
  rcases h.result_cases with ⟨-, -, none⟩ | ⟨good, fate, e, rfl, -, -, none⟩
  · rw [(kept fates none).1, (kept fates none).2, List.nil_append]
  · have before := kept good none
    rw [parted_concat, ← before.2, ← fate.undoing_append_partings settings.regionFailure]
    have tail : undone settings.regionFailure 0 (good ++ [fate]) =
        fate.undoing settings.regionFailure good.length := by
      have first := before.1
      simp only [undone] at first
      simp [undone, List.zipIdx_append, first]
    rw [tail]
    simp [List.zipIdx_append]

end Compositor

end Mosaic
