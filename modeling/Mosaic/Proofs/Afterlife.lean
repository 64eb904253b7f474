import Mosaic.Proofs.Ensures
import Mosaic.Proofs.Routing
import Mosaic.Proofs.Run

/-!
# What is heard of a compositor that was closed

Windows may go on reporting after their compositor was closed, and everything that can be done
with an open compositor can still be asked of a closed one. Nobody is called any more but the
parent, the buttons held stay as they are, and pointer events and sizes come to nothing.

Keys and wishes to close are no pointer events: they do not need the algorithm, so they wait in
the queue and still reach the parent once somebody handles inputs. Only what waited when the
compositor was closed is forgotten.

## Main definitions

* `Compositor.outlived` — what an operation makes of a compositor of which nothing is left
* `AfterlifeLaw` — what becomes of inputs after closing

## Main results

* `perform_outlives` — the operations on such a compositor
* `open_keeps_afterlife_law` — the law for any operations before and after closing
* `key_after_closing` — a key that is heard after closing
-/

set_option autoImplicit false

namespace Mosaic.Compositor

open Act

variable {σ ι A W D : Type} {crew : Crew σ ι A W D} {c : Compositor A W D}

/-- The compositor once its parent was told of some inputs. -/
def telling (c : Compositor A W D) (events : List InputEvent) : Compositor A W D :=
  { c with parent := c.parent.map (.hear events) }

/-- The compositor once all inputs that wait were handled without an algorithm. -/
def silenced (c : Compositor A W D) : Compositor A W D :=
  { c.telling (routed c.queue []) with queue := [] }

/-- What an operation makes of a compositor of which nothing is left. -/
def outlived (c : Compositor A W D) : Operation → Compositor A W D
  | .prepare _ _ _ | .drain => c.silenced
  | .control (.displaySize size) => { c with placement := c.placement.resize size }
  | .report k (.input event) => c.withQueued k [event]
  | .control _ | .report _ (.resized _) | .display | .close => c

@[simp] theorem telling_nil (c : Compositor A W D) : c.telling [] = c := by
  cases c
  simp [telling]

/-! ## Operations -/

theorem forward_ensures (event : InputEvent) :
    (forward event : Act σ ι A W D Unit).Ensures c fun _ inner c' =>
      inner = [] ∧ c' = c.telling [event] := by
  refine .bind (.compositor ?_)
  show Ensures _ c fun _ inner c' => inner = [] ∧ c' = c.forwarded event
  cases parent : c.parent with
  | none => exact .say ⟨rfl, (forwarded_of_parent_eq_none parent event).symm⟩
  | some p =>
    rw [forwarded_of_parent_eq_some parent]
    refine .bind (.call ?_)
    split
    · exact .modifyCompositor ⟨rfl, rfl⟩
    · refine .say ⟨rfl, ?_⟩
      rw [← parent]

/-- Without an algorithm pointer events come to nothing, and all else is passed on. -/
theorem handle_late (input : RegionInput) (gone : c.algorithm = none) :
    (handle crew input).Ensures c fun _ inner c' =>
      inner = [] ∧ c' = c.telling (routed [input] []) := by
  obtain ⟨k, event⟩ := input
  cases event with
  | mouse event =>
    refine .bind (.compositor ?_)
    split
    · exact .pure ⟨rfl, (telling_nil c).symm⟩
    · rename_i alive
      simp [gone] at alive
  | key | closeRequested => exact .bind (.say (forward_ensures _))

theorem handleAll_late (inputs : List RegionInput) (queue : c.queue = inputs)
    (gone : c.algorithm = none) :
    (handleAll crew inputs).Ensures c fun _ inner c' => inner = [] ∧ c' = c.silenced := by
  induction inputs generalizing c with
  | nil =>
    refine .pure ⟨rfl, ?_⟩
    obtain ⟨source, placement, name, _, _, regions, pictures, waiting, parent, held⟩ := c
    subst queue
    simp [silenced, routed, telling]
  | cons input rest ih =>
    have first : (handle crew input).Ensures { c with queue := rest } _ := handle_late input gone
    refine .bind (.modifyCompositor (first.andThen ?_))
    rintro _ _ _ ⟨rfl, rfl⟩
    refine Ensures.mono (ih rfl (by exact gone)) ?_
    rintro _ _ _ ⟨rfl, rfl⟩
    refine ⟨rfl, ?_⟩
    have pieces := routed_append_unplaced [input] rest
    simp only [silenced, telling, queue, Option.map_map, ParentWindow.hear_comp_hear, ← pieces]
    rfl

theorem drain_late (gone : c.algorithm = none) :
    (drain crew).Ensures c fun _ inner c' => inner = [] ∧ c' = c.silenced := by
  refine .bind (.compositor ((handleAll_late _ rfl gone).andThen ?_))
  rintro _ _ _ ⟨rfl, rfl⟩
  exact .pure ⟨rfl, rfl⟩

/-- Whatever is asked of a compositor of which nothing is left is done, and nobody acts. -/
theorem perform_outlives (operation : Operation) (gone : c.Gone) :
    (operation.perform crew).Ensures c fun _ inner c' =>
      inner = [] ∧ c' = c.outlived operation := by
  cases operation with
  | prepare picture overlay date =>
    refine (drain_late gone.1).andThen ?_
    rintro _ _ _ ⟨rfl, rfl⟩
    refine .bind (.compositor ?_)
    split
    · exact .pure ⟨rfl, rfl⟩
    · rename_i alive
      simp [silenced, telling, gone.1] at alive
  | display =>
    refine .bind (.compositor ?_)
    have none : c.regions.length = 0 := by rw [gone.2]; rfl
    rw [none]
    exact .pure ⟨rfl, rfl⟩
  | drain =>
    refine (drain_late gone.1).andThen ?_
    rintro _ _ _ ⟨rfl, rfl⟩
    exact .pure ⟨rfl, rfl⟩
  | control query =>
    cases query with
    | displaySize size =>
      refine .bind (.bind (.say (.bind (.modifyCompositor (.bind (.compositor ?_))))))
      split
      · exact .pure (.pure ⟨rfl, rfl⟩)
      · rename_i alive
        simp [gone.1] at alive
    | unknown | sourceAspect | sourceCrop | sourcePlace =>
      exact .bind (.bind (.say (.pure (.pure ⟨rfl, rfl⟩))))
  | report k event =>
    refine .bind (.reported ?_)
    cases event with
    | input event => exact .modifyCompositor ⟨rfl, rfl⟩
    | resized size =>
      refine .bind (.compositor ?_)
      rw [if_neg (by simp [gone.2])]
      exact .say ⟨rfl, rfl⟩
  | close =>
    refine .bind (.compositor ?_)
    rw [if_pos (by simp [gone.1, gone.2])]
    exact .pure ⟨rfl, rfl⟩

theorem outlived_gone (operation : Operation) (gone : c.Gone) : (c.outlived operation).Gone := by
  cases operation with
  | control query => cases query <;> exact gone
  | report k event => cases event <;> exact gone
  | prepare | display | drain | close => exact gone

theorem performAll_outlives (operations : List Operation) (gone : c.Gone) :
    (performAll crew operations).Ensures c fun _ inner c' =>
      inner = [] ∧ c' = operations.foldl outlived c := by
  induction operations generalizing c with
  | nil => exact .pure ⟨rfl, rfl⟩
  | cons operation rest ih =>
    refine (perform_outlives operation gone).andThen ?_
    rintro _ _ _ ⟨rfl, rfl⟩
    exact ih (outlived_gone operation gone)

/-! ## The law -/

/-- The input that an operation reports, if it reports one. -/
def Operation.input? : Operation → Option RegionInput
  | report index (.input event) => some ⟨index, event⟩
  | _ => none

/-- The inputs that operations report, in order. -/
def inputsOf (operations : List Operation) : List RegionInput :=
  operations.filterMap Operation.input?

/-- What becomes of inputs while operations are performed on a compositor that was closed. -/
structure AfterlifeLaw (s : Running σ ι A W D) (operations : List Operation)
    (t : Running σ ι A W D) : Prop where
  held : t.compositor.held = s.compositor.held
  /-- Neither the algorithm nor a window or a display does anything. -/
  inner : t.world.inner = s.world.inner
  /-- Nobody is called but the parent. -/
  calls : ∃ new, t.world.signs = s.world.signs ++ new ∧
    ∀ call ∈ callsOf new, ∃ event, call = .report event
  /-- As long as nobody handles inputs the parent hears nothing. -/
  undrained : (∀ operation ∈ operations, operation.drains = false) →
    t.compositor.parent = s.compositor.parent
  /-- Otherwise it hears what waited and what was reported before the last handling, but for
  pointer events and sizes. -/
  drained : ∀ before operation after, operations = before ++ operation :: after →
    operation.drains = true → (∀ later ∈ after, later.drains = false) →
    t.compositor.parent =
      s.compositor.parent.map (.hear (routed (s.compositor.queue ++ inputsOf before) []))

theorem inputsOf_cons (operation : Operation) (operations : List Operation) :
    inputsOf (operation :: operations) = inputsOf [operation] ++ inputsOf operations := by
  cases h : operation.input? <;> simp [inputsOf, h]

theorem held_foldl_outlived (operations : List Operation) :
    (operations.foldl outlived c).held = c.held := by
  induction operations generalizing c with
  | nil => rfl
  | cons operation rest ih =>
    rw [List.foldl_cons, ih]
    cases operation with
    | control query => cases query <;> rfl
    | report k event => cases event <;> rfl
    | prepare | display | drain | close => rfl

/-- An operation that handles no inputs only adds what it reports. -/
theorem outlived_of_undrained {operation : Operation} (idle : operation.drains = false) :
    (c.outlived operation).parent = c.parent ∧
      (c.outlived operation).queue = c.queue ++ inputsOf [operation] := by
  cases operation with
  | prepare | drain => cases idle
  | control query => cases query <;> exact ⟨rfl, (List.append_nil _).symm⟩
  | report k event =>
    cases event with
    | input event => exact ⟨rfl, rfl⟩
    | resized size => exact ⟨rfl, (List.append_nil _).symm⟩
  | display | close => exact ⟨rfl, (List.append_nil _).symm⟩

theorem outlived_of_drained {operation : Operation} (drains : operation.drains = true) :
    c.outlived operation = c.silenced ∧ inputsOf [operation] = [] := by
  cases operation with
  | prepare | drain => exact ⟨rfl, rfl⟩
  | control | report | display | close => cases drains

theorem parent_foldl_outlived {operations : List Operation}
    (idle : ∀ operation ∈ operations, operation.drains = false) :
    (operations.foldl outlived c).parent = c.parent := by
  induction operations generalizing c with
  | nil => rfl
  | cons operation rest ih =>
    rw [List.foldl_cons, ih fun later member => idle later (List.mem_cons_of_mem _ member),
      (outlived_of_undrained (idle operation List.mem_cons_self)).1]

/-- The inputs that were handled come before those that wait, and no pointer event among them is
placed. -/
theorem foldl_outlived (operations : List Operation) :
    ∃ handled, handled ++ (operations.foldl outlived c).queue = c.queue ++ inputsOf operations ∧
      (operations.foldl outlived c).parent = c.parent.map (.hear (routed handled [])) := by
  induction operations generalizing c with
  | nil => exact ⟨[], (List.append_nil _).symm, by simp [routed]⟩
  | cons operation rest ih =>
    obtain ⟨handled, queue, parent⟩ := ih (c := c.outlived operation)
    rw [List.foldl_cons, inputsOf_cons]
    cases drains : operation.drains with
    | true =>
      obtain ⟨silenced, none⟩ := outlived_of_drained (c := c) drains
      refine ⟨c.queue ++ handled, ?_, ?_⟩
      · rw [List.append_assoc, queue, silenced, none]
        rfl
      · rw [parent, silenced, routed_append_unplaced, ← ParentWindow.hear_comp_hear,
          ← Option.map_map]
        rfl
    | false =>
      obtain ⟨same, added⟩ := outlived_of_undrained (c := c) drains
      exact ⟨handled, by rw [queue, added, List.append_assoc], by rw [parent, same]⟩

theorem parent_foldl_outlived_of_drained {before after : List Operation} {operation : Operation}
    (drains : operation.drains = true) (idle : ∀ later ∈ after, later.drains = false) :
    ((before ++ operation :: after).foldl outlived c).parent =
      c.parent.map (.hear (routed (c.queue ++ inputsOf before) [])) := by
  obtain ⟨handled, queue, parent⟩ := foldl_outlived (c := c) before
  rw [List.foldl_append, List.foldl_cons, parent_foldl_outlived idle,
    (outlived_of_drained drains).1, ← queue, routed_append_unplaced,
    ← ParentWindow.hear_comp_hear, ← Option.map_map, ← parent]
  rfl

/-- Whatever is done with a compositor of which nothing is left is done, by the law. -/
theorem performAll_afterlife (operations : List Operation) (s : Running σ ι A W D)
    (gone : s.compositor.Gone) :
    ∃ t, performAll crew operations s = .ok () t ∧ AfterlifeLaw s operations t := by
  have outlives : (performAll crew operations).Ensures s.compositor _ :=
    performAll_outlives operations gone
  obtain ⟨_, _, c', w', ran, noted, silent, rfl⟩ := outlives s.world
  have tidy : s.compositor.Tidy := by
    intro k r here
    simp [gone.2] at here
  have moves : (performAll crew operations).Yields crew s.view _ :=
    performAll_yields operations tidy
  have yields := moves s rfl
  rw [show performAll crew operations s = _ from ran] at yields
  obtain ⟨new, signs, path, -⟩ := yields
  refine ⟨_, ran, held_foldl_outlived _, ?_, ⟨new, signs, ?_⟩, parent_foldl_outlived, ?_⟩
  · rw [World.inner, noted, insideOf_append, silent, List.append_nil]
    rfl
  · exact (afterlife path gone).1
  · rintro before operation after rfl
    exact parent_foldl_outlived_of_drained

/-- Operations but closing leave an open compositor open. -/
theorem performAll_stays {v : View σ A W D} {operations : List Operation}
    (unclosed : .close ∉ operations) (tidy : v.compositor.Tidy) :
    (performAll crew operations).Yields crew v fun _ _ v' =>
      v'.compositor.Tidy ∧ v'.compositor.isOpen = v.compositor.isOpen := by
  induction operations generalizing v with
  | nil => exact .pure ⟨tidy, rfl⟩
  | cons operation rest ih =>
    have live : operation ≠ .close := fun close => unclosed (close ▸ List.mem_cons_self)
    refine (perform_routed operation live tidy).andThen ?_
    rintro _ new v₁ ⟨routed, tidy₁⟩
    refine (ih (fun member => unclosed (List.mem_cons_of_mem _ member)) tidy₁).mono ?_
    rintro _ _ v' ⟨tidy', same⟩
    exact ⟨tidy', same.trans routed.isOpen_eq⟩

/-- The first closing leaves nothing, no input either; a later one finds nothing left. -/
theorem performAll_close {v : View σ A W D} (operations : List Operation)
    (tidy : v.compositor.Tidy) (isOpen : v.compositor.isOpen = true) :
    (performAll crew (operations ++ [.close])).Yields crew v fun _ _ v' =>
      v'.compositor.Gone ∧ (.close ∉ operations → v'.compositor.queue = []) := by
  by_cases closed : .close ∈ operations
  · exact (performAll_close_yields operations tidy).mono fun _ _ _ done =>
      ⟨done.2, fun unclosed => (unclosed closed).elim⟩
  · rw [performAll_append]
    refine (performAll_stays closed tidy).andThen ?_
    rintro _ _ v₁ ⟨tidy₁, same⟩
    refine (close_yields tidy₁).andThen fun _ _ v' closes => .pure ⟨closes.gone, fun _ => ?_⟩
    cases closes with
    | again gone =>
      have alive : v₁.compositor.isOpen = true := same.trans isOpen
      simp [Compositor.isOpen, gone.1] at alive
    | first _ last => rw [last]; rfl

/-- Whatever was done with a compositor that was opened, once it was closed everything that is
asked of it is done by the law. Where it was closed for the first time, no input waits. -/
theorem open_keeps_afterlife_law (crew : Crew σ ι A W D)
    (registry : Registry (Constructor σ ι A)) (settings : SplitSettings) (source : VideoFormat)
    (parent : Option ParentWindow) (operations later : List Operation) (env : σ)
    (ledger : Ledger) :
    match «open» crew registry settings source parent ⟨env, ledger, []⟩ with
    | .error fault _ => crew.Raises fault ∨ MakingRaises registry settings source fault
    | .ok (.error _) _ => True
    | .ok (.ok c) w =>
      match performAll crew (operations ++ [.close]) ⟨c, w⟩ with
      | .error fault _ => crew.Raises fault
      | .ok _ s => (.close ∉ operations → s.compositor.queue = []) ∧
          ∃ t, performAll crew later s = .ok () t ∧ AfterlifeLaw s later t := by
  have starts := open_starts crew registry settings source parent env ledger
  cases opened : «open» crew registry settings source parent ⟨env, ledger, []⟩ with
  | error fault w =>
    rw [opened] at starts
    exact starts
  | ok result w =>
    rw [opened] at starts
    cases result with
    | error e => trivial
    | ok c =>
      obtain ⟨tidy, isOpen, -, -⟩ := starts.fresh
      have ends : (performAll crew (operations ++ [.close])).Yields crew ⟨c, w.env, w.ledger⟩ _ :=
        performAll_close operations tidy isOpen
      have closes := ends ⟨c, w⟩ rfl
      dsimp only
      cases ran : performAll crew (operations ++ [.close]) ⟨c, w⟩ with
      | error fault s =>
        rw [ran] at closes
        exact closes
      | ok done s =>
        rw [ran] at closes
        obtain ⟨-, -, gone, empty⟩ := closes
        exact ⟨empty, performAll_afterlife later s gone⟩

/-- A key that is pressed after closing is passed on. -/
theorem key_after_closing :
    ∃ c w s t,
      «open» keepers turnstiles .standard (.whole .i420 64 48) (some .fresh) ⟨(), .empty, []⟩ =
        .ok (.ok c) w ∧
      performAll keepers [.close] ⟨c, w⟩ = .ok () s ∧
      s.compositor.parent.map ParentWindow.received = some [] ∧
      performAll keepers [.close, .report 0 (.input (.key 42)), .drain] ⟨c, w⟩ = .ok () t ∧
      t.compositor.parent.map ParentWindow.received = some [.key 42] := by
  have known := turnstiles_resolve
  have made : makeTurnstile (VideoFormat.whole .i420 64 48).upright .standard ⟨(), .empty, []⟩ =
      .ok (.ok true) ⟨(), .empty, []⟩ := rfl
  -- The registry is used only through what it finds.
  generalize turnstiles = registry at known ⊢
  rw [open_of_made keepers (some .fresh) known made]
  have silent : heard? keepers [.close] (openWith keepers .standard (.whole .i420 64 48)
      (some .fresh) true (founded keepers .standard true ⟨(), .empty, []⟩)) = some [] := by
    decide +kernel
  have heard : heard? keepers [.close, .report 0 (.input (.key 42)), .drain]
      (openWith keepers .standard (.whole .i420 64 48) (some .fresh) true
        (founded keepers .standard true ⟨(), .empty, []⟩)) = some [.key 42] := by
    decide +kernel
  obtain ⟨c, w, deeds, s, came, ran, nothing⟩ := of_heard?_eq_some silent
  rw [came] at heard
  obtain ⟨_, _, deeds', t, same, ran', received⟩ := of_heard?_eq_some heard
  cases same
  exact ⟨c, w, s, t, came, performAll_of_noted ran, nothing, performAll_of_noted ran', received⟩

end Mosaic.Compositor
