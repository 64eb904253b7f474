import Mosaic.Proofs.Outcome

/-!
# Regions and their locks

Between two operations no lock is held and every region stands at the place of its index:
the compositor is *tidy*. Then a call made outside of all locks is noted with none, and a
call made under the lock of one region is noted with that region alone.

## Main definitions

* `Compositor.setRegion` — another region in the place of one
* `Compositor.Tidy` — indices are places and no lock is held

## Main results

* `Tidy.lockedRegions_eq_nil`, `Tidy.lockedRegions_setRegion` — the locks held
* `Tidy.setRegion` — a region may be replaced by one that is as tidy
-/

set_option autoImplicit false

namespace Mosaic.Compositor

variable {A W D : Type} {c : Compositor A W D} {k : Nat} {r r' : Region W D}

/-- Puts a region in the place of another. -/
def setRegion (c : Compositor A W D) (k : Nat) (r : Region W D) : Compositor A W D :=
  { c with regions := c.regions.set k r }

@[simp] theorem setRegion_setRegion : (c.setRegion k r).setRegion k r' = c.setRegion k r' := by
  simp [setRegion]

@[simp] theorem modifyRegion_setRegion (f : Region W D → Region W D) :
    (c.setRegion k r).modifyRegion k f = c.setRegion k (f r) := by
  simp only [setRegion, modifyRegion, Compositor.mk.injEq, true_and, and_true]
  -- Place by place, so that a place beyond the last region needs no case of its own above.
  apply List.ext_getElem?
  intro i
  simp only [List.getElem?_modify, List.getElem?_set]
  by_cases h : k = i
  · subst h
    by_cases inside : k < c.regions.length <;> simp [inside]
  · simp [h]

theorem setRegion_self (here : c.regions[k]? = some r) : c.setRegion k r = c := by
  obtain ⟨inside, rfl⟩ := List.getElem?_eq_some_iff.mp here
  simp [setRegion]

/-- Changing a region that is there puts the changed one in its place. -/
theorem modifyRegion_eq_setRegion (here : c.regions[k]? = some r)
    (f : Region W D → Region W D) : c.modifyRegion k f = c.setRegion k (f r) := by
  rw [← setRegion_self here, modifyRegion_setRegion, setRegion_setRegion]

theorem getElem?_setRegion_self (here : c.regions[k]? = some r) :
    (c.setRegion k r').regions[k]? = some r' := by
  obtain ⟨inside, -⟩ := List.getElem?_eq_some_iff.mp here
  simp [setRegion, inside]

theorem getElem?_setRegion_of_ne {i : Nat} (h : k ≠ i) :
    (c.setRegion k r).regions[i]? = c.regions[i]? := by
  simp [setRegion, h]

/-- A region of a compositor with one region replaced is that one, or an old one elsewhere. -/
theorem getElem?_setRegion_cases {i : Nat} {found : Region W D}
    (h : (c.setRegion k r).regions[i]? = some found) :
    (i = k ∧ found = r) ∨ (i ≠ k ∧ c.regions[i]? = some found) := by
  by_cases same : k = i
  · subst same
    obtain ⟨inside, rfl⟩ := List.getElem?_eq_some_iff.mp h
    exact .inl ⟨rfl, by simp [setRegion]⟩
  · exact .inr ⟨Ne.symm same, by rwa [getElem?_setRegion_of_ne same] at h⟩

theorem display?_setRegion_self (here : c.regions[k]? = some r) :
    (c.setRegion k r').display? k = r'.display := by
  rw [display?, getElem?_setRegion_self here, Option.bind_some]

/-- The displays of all other regions stay where one region changes. -/
theorem display?_setRegion_of_ne {i : Nat} (other : i ≠ k) :
    (c.setRegion k r).display? i = c.display? i := by
  rw [display?, getElem?_setRegion_of_ne (Ne.symm other), display?]

theorem window?_setRegion_self (here : c.regions[k]? = some r) :
    (c.setRegion k r').window? k = r'.window := by
  rw [window?, getElem?_setRegion_self here, Option.bind_some]

theorem display?_of_getElem? (here : c.regions[k]? = some r) : c.display? k = r.display := by
  rw [display?, here, Option.bind_some]

/-- What is no region has no display. -/
theorem display?_eq_none (absent : c.regions[k]? = none) : c.display? k = none := by
  rw [display?, absent, Option.bind_none]

theorem window?_of_getElem? (here : c.regions[k]? = some r) : c.window? k = r.window := by
  rw [window?, here, Option.bind_some]

/-- Between two operations: every region stands at the place of its index, and no lock is
held. -/
def Tidy (c : Compositor A W D) : Prop :=
  ∀ (i : Nat) (r : Region W D), c.regions[i]? = some r → r.index = i ∧ r.locked = false

namespace Tidy

/-- A region may be replaced by one that is as tidy. -/
theorem setRegion (tidy : c.Tidy) (index : r.index = k) (free : r.locked = false) :
    (c.setRegion k r).Tidy := by
  intro i found here
  rcases getElem?_setRegion_cases here with ⟨rfl, rfl⟩ | ⟨-, here⟩
  · exact ⟨index, free⟩
  · exact tidy i found here

/-- No lock is held. -/
theorem lockedRegions_eq_nil (tidy : c.Tidy) : c.lockedRegions = [] := by
  rw [lockedRegions, List.map_eq_nil_iff, List.filter_eq_nil_iff]
  intro r member
  obtain ⟨i, inside, rfl⟩ := List.getElem_of_mem member
  simp [(tidy i _ (List.getElem?_eq_getElem inside)).2]

/-- Under the lock of a region no other lock is held. -/
theorem lockedRegions_setRegion (tidy : c.Tidy) (here : c.regions[k]? = some r)
    (index : r'.index = k) (held : r'.locked = true) :
    (c.setRegion k r').lockedRegions = [k] := by
  obtain ⟨inside, -⟩ := List.getElem?_eq_some_iff.mp here
  -- Regions before and behind the place are the old ones, and theirs are free.
  have free (l : List (Region W D)) (part : ∀ x ∈ l, x ∈ c.regions) :
      l.filter Region.locked = [] := by
    rw [List.filter_eq_nil_iff]
    intro x member
    obtain ⟨i, inside, rfl⟩ := List.getElem_of_mem (part x member)
    simp [(tidy i _ (List.getElem?_eq_getElem inside)).2]
  rw [lockedRegions, Compositor.setRegion, List.set_eq_take_append_cons_drop, if_pos inside,
    List.filter_append, List.filter_cons_of_pos held, free _ fun _ h => List.mem_of_mem_take h,
    free _ fun _ h => List.mem_of_mem_drop h, List.nil_append, List.map_singleton, index]

/-- A region before its window and display are made may be added at the end. -/
theorem addBare (tidy : c.Tidy) (size : Size) :
    ({ c with regions := c.regions ++ [.bare c.regions.length size] } :
      Compositor A W D).Tidy := by
  intro i r here
  by_cases inside : i < c.regions.length
  · exact tidy i r (by simpa [List.getElem?_append_left inside] using here)
  · rw [List.getElem?_append_right (Nat.le_of_not_lt inside), List.getElem?_singleton] at here
    split at here
    · cases here
      exact ⟨by simp only [Region.bare]; omega, rfl⟩
    · cases here

end Tidy

end Mosaic.Compositor

namespace Mosaic.Act.Yields

variable {σ ι A W D α : Type} {crew : Crew σ ι A W D} {act : Act σ ι A W D α}
variable {v : View σ A W D} {post : α → List Sign → View σ A W D → Prop}

/-- The lock of a region of a tidy compositor is free, so it is held for the length of the
action. -/
theorem underLock {k : Nat} {r : Region W D} (tidy : v.compositor.Tidy)
    (here : v.compositor.regions[k]? = some r)
    (h : act.Yields crew (v.become (v.compositor.setRegion k { r with locked := true }))
      fun a new v' =>
        post a new (v'.become (v'.compositor.modifyRegion k fun r => { r with locked := false }))) :
    (Act.withLock k act).Yields crew v post := by
  refine withLock here (tidy k r here).2 ?_
  rwa [Compositor.modifyRegion_eq_setRegion here]

end Mosaic.Act.Yields
