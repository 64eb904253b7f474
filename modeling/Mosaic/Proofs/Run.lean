import Mosaic.Proofs.Closing

/-!
# Runs of an open compositor

Whatever is done with an open compositor, in whatever order, is a run of moves: steps, and
closing as often as somebody likes. Up to the first closing the shape stays as opening left it.
That closing says farewell to what is there, and after it only the parent hears anything.

## Main definitions

* `Move` — what a run consists of

## Main results

* `perform_steps`, `performAll_steps` — operations other than closing are paths of steps
* `perform_yields`, `performAll_yields` — operations are runs
* `life_and_afterlife` — a run that ends with nothing left goes through one real closing
-/

set_option autoImplicit false

namespace Mosaic.Compositor

open Act

section Relations

variable {σ ι A W D : Type} (crew : Crew σ ι A W D)

/-- What a run consists of. -/
inductive Move : View σ A W D → List Sign → View σ A W D → Prop
  | step {v v' : View σ A W D} {new : List Sign} (step : Step crew v new v') : Move v new v'
  | close {v v' : View σ A W D} {new : List Sign} (closes : Closes v new v') : Move v new v'

end Relations

variable {σ ι A W D : Type} {crew : Crew σ ι A W D} {v v' : View σ A W D} {new : List Sign}

/-! ## Operations as runs -/

/-- Every operation but closing is a path of steps. -/
theorem perform_steps (operation : Operation) (going : operation ≠ .close)
    (tidy : v.compositor.Tidy) :
    (operation.perform crew).Yields crew v fun _ => TidyPath (Step crew) v := by
  have ofQuiet {new : List Sign} {v' : View σ A W D} (path : TidyPath (Quiet crew) v new v') :
      TidyPath (Step crew) v new v' :=
    path.mono fun _ _ _ => .quiet
  cases operation with
  | prepare picture overlay date =>
    refine (prepare_yields picture overlay date tidy).mono ?_
    rintro _ _ _ ⟨drained, divided, v₁, handles, divides, rfl⟩
    exact Step.tidyPath (handles.prepares tidy divides).path tidy
  | display => exact (display_yields tidy).mono fun _ _ _ path => Step.tidyPath path.path tidy
  | control query =>
    refine (control_yields query tidy).andThen fun _ new _ path => .pure ?_
    simpa using ofQuiet (path.mono fun _ _ _ => Adjusts.quiet)
  | drain =>
    refine (drain_yields tidy).andThen fun _ new _ drains => .pure ?_
    simpa using ofQuiet (drains.2.tidyPath tidy)
  | report k event =>
    refine (report_yields tidy k event).mono fun _ _ _ path => ofQuiet ?_
    exact path.mono fun _ _ _ => .report
  | close => exact (going rfl).elim

/-- Every operation is a run. -/
theorem perform_yields (operation : Operation) (tidy : v.compositor.Tidy) :
    (operation.perform crew).Yields crew v fun _ => TidyPath (Move crew) v := by
  by_cases going : operation = .close
  · subst going
    refine (close_yields tidy).mono fun _ _ _ closes => ?_
    exact .single (.close closes) (closes.tidy tidy)
  · exact (perform_steps operation going tidy).mono fun _ _ _ path =>
      path.mono fun _ _ _ => .step

/-- Operations without a closing are a path of steps. -/
theorem performAll_steps (operations : List Operation) (going : .close ∉ operations)
    (tidy : v.compositor.Tidy) :
    (performAll crew operations).Yields crew v fun _ => TidyPath (Step crew) v := by
  induction operations generalizing v with
  | nil => exact .pure (.nil tidy)
  | cons operation rest ih =>
    simp only [List.mem_cons, not_or] at going
    obtain ⟨here, later⟩ := going
    refine (perform_steps operation (Ne.symm here) tidy).andThen fun _ new v₁ first => ?_
    exact (ih later first.2).mono fun _ _ _ path => first.trans path

/-- Operations in any order are a run. -/
theorem performAll_yields (operations : List Operation) (tidy : v.compositor.Tidy) :
    (performAll crew operations).Yields crew v fun _ => TidyPath (Move crew) v := by
  induction operations generalizing v with
  | nil => exact .pure (.nil tidy)
  | cons operation rest ih =>
    -- The rest starts on whatever view the first operation leaves, which is tidy again.
    refine (perform_yields operation tidy).andThen fun _ new v₁ first => ?_
    exact (ih first.2).mono fun _ _ _ later => first.trans later

theorem performAll_append (operations more : List Operation) :
    performAll crew (operations ++ more) =
      (do performAll crew operations; performAll crew more) := by
  induction operations with
  | nil => simp [performAll]
  | cons operation rest ih => simp [performAll, ih]

/-- Operations with a closing at the end are a run after which nothing is left. -/
theorem performAll_close_yields (operations : List Operation) (tidy : v.compositor.Tidy) :
    (performAll crew (operations ++ [.close])).Yields crew v fun _ new v' =>
      Path (Move crew) v new v' ∧ v'.compositor.Gone := by
  rw [performAll_append]
  refine (performAll_yields operations tidy).andThen fun _ new v₁ run => ?_
  refine (close_yields run.2).andThen fun _ more v₂ closes => .pure ⟨?_, closes.gone⟩
  simpa using run.1.trans (.single (.close closes))

/-! ## Life and afterlife -/

/-- A move of a compositor of which nothing is left. -/
theorem Move.of_gone (h : Move crew v new v') (gone : v.compositor.Gone) :
    (∀ call ∈ callsOf new, ∃ event, call = .report event) ∧ setupOf new = [] ∧
      v'.compositor.Gone := by
  cases h with
  | step step =>
    have kept := (gone_iff_of_shape_eq step.shape_eq).mpr gone
    exact ⟨step.call_of_gone gone, setupOf_eq_nil step.kind_ne_setup, kept⟩
  | close closes =>
    cases closes with
    | again => simpa using gone
    | first left => exact (left gone).elim

/-- After closing only the parent hears anything. -/
theorem afterlife (h : Path (Move crew) v new v') (gone : v.compositor.Gone) :
    (∀ call ∈ callsOf new, ∃ event, call = .report event) ∧ setupOf new = [] := by
  induction h with
  | nil => simp
  | cons head _ ih =>
    obtain ⟨calls, setup, gone'⟩ := head.of_gone gone
    obtain ⟨later, setup'⟩ := ih gone'
    refine ⟨fun call member => ?_, by rw [setupOf_append, setup, setup', List.append_nil]⟩
    rcases List.mem_append.mp (callsOf_append ▸ member) with first | last
    · exact calls call first
    · exact later call last

/-- A run of an open compositor that ends with nothing left falls into its life, the first
closing and what comes after it. -/
theorem life_and_afterlife (h : Path (Move crew) v new v') (alive : v.compositor.algorithm.isSome)
    (gone : v'.compositor.Gone) :
    ∃ lived later v₁, Path (Step crew) v lived v₁ ∧
      new = lived ++ (v₁.compositor.farewells v₁.compositor.regions.length ++
        .called .dropAlgorithm [] :: later) ∧
      (∀ call ∈ callsOf later, ∃ event, call = .report event) ∧ setupOf later = [] := by
  -- By the first move: steps before the first closing are the life, and that closing ends it.
  induction h with
  | nil => simp [gone.1] at alive
  | @cons v v₁ _ new more head tail ih =>
    cases head with
    | step step =>
      have alive₁ : v₁.compositor.algorithm.isSome := by
        rwa [show v₁.compositor.algorithm.isSome = v.compositor.algorithm.isSome from
          congrArg Shape.isOpen step.shape_eq]
      obtain ⟨lived, later, v₂, path, rfl, rest⟩ := ih alive₁ gone
      exact ⟨new ++ lived, later, v₂, .cons step path, by simp, rest⟩
    | close closes =>
      cases closes with
      | again gone => simp [gone.1] at alive
      | first left last =>
        -- What is left of the run starts with nothing, whatever moves it consists of.
        have ended : v₁.compositor.Gone := by rw [last]; exact ⟨rfl, rfl⟩
        refine ⟨[], more, v, .nil v, ?_, afterlife tail ended⟩
        simp [alive]

end Mosaic.Compositor
