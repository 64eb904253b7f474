import Mosaic.Proofs.Tree

/-!
# The leaves of a tree of compositors

A compositor at the root is fed, controlled and closed, and its displays are headless ones or
compositors, of any plan. Meanwhile windows report at the root and anywhere further down.

Every leaf prepares every picture, and shows those that are to be shown before the next one is
prepared. Sizes in full reach everything. Closing the root closes every leaf once, and from then
on nothing happens inside any display.

## Main definitions

* `Plan.Move`, `Plan.makeAll` — what happens to a tree
* `Plan.pictures`, `Plan.showings` — what it asks of the leaves
* `Plan.LeafLaw` — what becomes of the leaves

## Main results

* `make_ensures`, `makeAll_ensures` — what a move does to a tree, and what a run does
* `open_keeps_leaf_law` — the law for any plans and any moves
-/

set_option autoImplicit false

namespace Mosaic

open Compositor

namespace Plan

/-! ## Moves -/

/-- What happens to a tree: something is done with the compositor at its root, or the window of a
region reports somewhere further down. The first region and the path lead to its compositor. -/
inductive Move where
  | root (operation : Compositor.Operation)
  | below (i : Nat) (path : List Nat) (k : Nat) (event : WindowEvent)
deriving DecidableEq

namespace Move

/-- The picture that is prepared, if one is. -/
def picture? : Move → Option Picture
  | root (.prepare picture _ _) => some picture
  | root _ | below _ _ _ _ => none

/-- Whether a picture is prepared. -/
def prepares (move : Move) : Bool := move.picture?.isSome

/-- Whether pictures are shown, if there are any. -/
def shows : Move → Bool
  | root .display => true
  | root _ | below _ _ _ _ => false

/-- Whether pictures wait to be shown after a move. -/
def waits (move : Move) (before : Bool) : Bool := move.prepares || (before && !move.shows)

/-- What every leaf does, given whether pictures wait. -/
def act (move : Move) (before : Bool) : Leaf → Leaf :=
  if move.prepares then .prepare else .displayIf (before && move.shows)

end Move

/-- The pictures that are prepared, in order. -/
def pictures (moves : List Move) : List Picture := moves.filterMap Move.picture?

/-- Whether pictures are shown before the next one is prepared. -/
def showsNext : List Move → Bool
  | [] => false
  | move :: rest => !move.prepares && (move.shows || showsNext rest)

/-- How many of the pictures that are prepared are shown before the next one is prepared. -/
def showings : List Move → Nat
  | [] => 0
  | move :: rest => (move.prepares && showsNext rest).toNat + showings rest

/-- A leaf after some moves, given whether a picture waited before them. -/
def served (moves : List Move) (waits : Bool) (leaf : Leaf) : Leaf :=
  { leaf with
    prepared := leaf.prepared + (pictures moves).length
    displayed := leaf.displayed + (waits && showsNext moves).toNat + showings moves }

theorem pictures_cons (move : Move) (moves : List Move) :
    pictures (move :: moves) = move.picture?.toList ++ pictures moves := by
  cases h : move.picture? <;> simp [pictures, h]

theorem length_pictures_cons (move : Move) (moves : List Move) :
    (pictures (move :: moves)).length = move.prepares.toNat + (pictures moves).length := by
  rw [pictures_cons, List.length_append, Move.prepares]
  cases move.picture? <;> rfl

theorem served_nil (waits : Bool) : served [] waits = id := by
  funext leaf
  simp [served, pictures, showsNext, showings]

theorem served_cons (move : Move) (moves : List Move) (waits : Bool) :
    served (move :: moves) waits = served moves (move.waits waits) ∘ move.act waits := by
  funext leaf
  simp only [served, showsNext, showings, Move.waits, Move.act, Function.comp,
    length_pictures_cons]
  cases move.prepares <;> cases move.shows <;> cases waits <;> cases showsNext moves <;>
    simp [Leaf.prepare, Leaf.displayIf, Leaf.display] <;> omega

section Making

variable {σ : Type} (inner : Nat → Plan σ)

/-- Those a compositor works with whose displays are of some plans. -/
abbrev crew : Crew σ (Σ k, (inner k).Item) Builtin (Σ k, (inner k).Window)
    (Σ k, (inner k).Display) :=
  (Backend.each fun k => (inner k).backend).crew

/-- What is seen of the displays. -/
abbrev around : Sights (Σ k, (inner k).Item) (Σ k, (inner k).Display) :=
  .each fun k => (inner k).sights

/-- Lets a move happen to a tree. -/
def Move.make : Move → Act σ (Σ k, (inner k).Item) Builtin (Σ k, (inner k).Window)
    (Σ k, (inner k).Display) Unit
  | root operation => operation.perform (crew inner)
  | below i path k event => stir i (Run.each fun k' => (inner k').hear path k event)

/-- Lets several moves happen in their order. -/
def makeAll : List Move → Act σ (Σ k, (inner k).Item) Builtin (Σ k, (inner k).Window)
    (Σ k, (inner k).Display) Unit
  | [] => pure ()
  | move :: rest => do
    move.make inner
    makeAll rest

end Making

section Runs

variable {σ : Type} {inner : Nat → Plan σ} {b : Builtin} {waits : Bool}
variable {c : Compositor Builtin (Σ k, (inner k).Window) (Σ k, (inner k).Display)}

/-- Whatever the displays are, they are lawful. -/
theorem lawful_each (inner : Nat → Plan σ) :
    Lawful (Backend.each fun k => (inner k).backend) (around inner) :=
  .each fun k => (inner k).lawful

/-! ## A tree that is open -/

/-- Short of closing, a move is made, every leaf does its part, and everything stays in order. -/
theorem make_ensures (move : Move) (live : move ≠ .root .close)
    (sound : c.Sound (around inner) b fun _ => waits)
    (fits : ∀ picture ∈ move.picture?, c.Fits (around inner).Fits picture.origin) :
    (move.make inner).Ensures c fun _ items c' =>
      (around inner).closed items = [] ∧ c'.Sound (around inner) b (fun _ => move.waits waits) ∧
        Alters (around inner) (fun _ => move.act waits) c c' := by
  have lawful := lawful_each inner
  -- Moves that are no matter for pictures leave what waits as it is.
  have calm {move : Move} {items : List (Σ k, (inner k).Item)} {c'}
      (idle : move.prepares = false) (blank : move.shows = false)
      (h : (around inner).closed items = [] ∧ c'.Sound (around inner) b (fun _ => waits) ∧
        Alters (around inner) (fun _ => id) c c') :
      (around inner).closed items = [] ∧
        c'.Sound (around inner) b (fun _ => move.waits waits) ∧
        Alters (around inner) (fun _ => move.act waits) c c' := by
    simpa [Move.waits, Move.act, Leaf.displayIf, idle, blank] using h
  cases move with
  | below i path k event =>
    have stirs := sound.stir_each i fun k' _ _ sound => (inner k').hear_ends path k event sound
    exact stirs.mono fun _ _ _ => calm rfl rfl
  | root operation =>
    cases operation with
    | close => exact (live rfl).elim
    | prepare picture overlay date =>
      exact prepare_ensures lawful picture overlay date sound (fits picture rfl)
    | display =>
      refine (display_ensures lawful sound).mono ?_
      simp [Move.waits, Move.act, Move.prepares, Move.picture?, Move.shows]
    | control query =>
      refine (control_ensures lawful query sound).andThen ?_
      rintro _ items c' ⟨silent, sound', alters, -⟩
      exact .pure (calm rfl rfl ⟨by simpa using silent, sound', alters⟩)
    | drain =>
      refine (drain_ensures sound.algorithm).andThen ?_
      rintro _ _ c' ⟨rfl, stays⟩
      exact .pure (calm rfl rfl ⟨rfl, sound.of_stays stays, .of_stays stays⟩)
    | report k event => exact (report_ensures lawful k event sound).mono fun _ _ _ => calm rfl rfl

/-- Short of closing, moves are made one after the other, and every leaf does its part in all of
them. -/
theorem makeAll_ensures (moves : List Move) (unclosed : .root .close ∉ moves)
    (sound : c.Sound (around inner) b fun _ => waits)
    (fits : ∀ picture ∈ pictures moves, c.Fits (around inner).Fits picture.origin) :
    (makeAll inner moves).Ensures c fun _ items c' =>
      (around inner).closed items = [] ∧ (∃ waits', c'.Sound (around inner) b fun _ => waits') ∧
        Alters (around inner) (fun _ => served moves waits) c c' := by
  -- Along the run it varies whether pictures wait; pictures that fit once fit until the end.
  induction moves generalizing c waits with
  | nil =>
    refine .pure ⟨rfl, ⟨waits, sound⟩, ?_⟩
    rw [served_nil]
    exact .of_stays (.refl c)
  | cons move rest ih =>
    have live : move ≠ .root .close := fun close => unclosed (close ▸ List.mem_cons_self)
    rw [pictures_cons] at fits
    refine (make_ensures move live sound fun picture now =>
      fits picture (List.mem_append_left _ (Option.mem_toList.mpr now))).andThen ?_
    rintro _ items c₁ ⟨silent, sound₁, alters⟩
    refine (ih (fun close => unclosed (List.mem_cons_of_mem _ close)) sound₁
      fun picture later => ?_).mono ?_
    · exact (alters.fits_iff _).mpr (fits picture (List.mem_append_right _ later))
    rintro _ more c' ⟨silent', sound', alters'⟩
    refine ⟨by simp [silent, silent'], sound', ?_⟩
    rw [served_cons]
    exact alters.trans alters'

/-! ## A tree that was closed -/

/-- Whatever happens to a tree of which nothing is left, nothing happens inside. -/
theorem makeAll_late (moves : List Move) (gone : c.Gone) :
    (makeAll inner moves).Ensures c fun _ items c' => items = [] ∧ c'.Gone := by
  induction moves generalizing c with
  | nil => exact .pure ⟨rfl, gone⟩
  | cons move rest ih =>
    have one : (move.make inner).Ensures c fun _ items c' => items = [] ∧ c'.Gone := by
      cases move with
      | root operation =>
        refine (perform_outlives operation gone).mono ?_
        rintro _ _ _ ⟨rfl, rfl⟩
        exact ⟨rfl, outlived_gone operation gone⟩
      | below i path k event =>
        -- No display is left in which something could happen.
        refine .bind (.compositor ?_)
        rw [display?_eq_none (by simp [gone.2])]
        exact .pure ⟨rfl, gone⟩
    refine one.andThen ?_
    rintro _ _ c₁ ⟨rfl, gone₁⟩
    exact ih gone₁

/-! ## The law -/

/-- What becomes of the leaves of a tree that was opened as `c` in a world that was then `w`, once
moves have led to `s`. -/
structure LeafLaw (inner : Nat → Plan σ)
    (c : Compositor Builtin (Σ k, (inner k).Window) (Σ k, (inner k).Display))
    (w : World σ (Happening (Σ k, (inner k).Item))) (moves : List Move)
    (s : Running σ (Σ k, (inner k).Item) Builtin (Σ k, (inner k).Window)
      (Σ k, (inner k).Display)) : Prop where
  /-- Every leaf prepared every picture, and showed those that were to be shown before the next
  one was prepared. -/
  counts : s.compositor.leaves (around inner).leaves =
    (c.leaves (around inner).leaves).map fun leaf =>
      { leaf with prepared := (pictures moves).length, displayed := showings moves }
  /-- No two leaves are at the end of the same path. -/
  apart : ((c.leaves (around inner).leaves).map Leaf.path).Nodup
  /-- No leaf was closed. -/
  lasting : (around inner).closed s.world.inner = (around inner).closed w.inner
  /-- A size in full is taken everywhere when the root is asked for it. -/
  sized : ∀ size : Size, size.width ≠ 0 → size.height ≠ 0 →
    ∃ t, Move.make inner (.root (.control (.displaySize size))) s = .ok () t ∧
      t.compositor.sizes (around inner).sizes =
        List.replicate (s.compositor.sizes (around inner).sizes).length size
  /-- Closing the root closes every leaf, the last one first, and then nothing happens inside
  any more. -/
  closing : ∃ t, Move.make inner (.root .close) s = .ok () t ∧
    (around inner).closed t.world.inner = (around inner).closed s.world.inner ++
      (s.compositor.leaves (around inner).leaves).reverse.map Leaf.closing ∧
    ∀ later, ∃ u, makeAll inner later t = .ok () u ∧ u.compositor.Gone ∧
      u.world.inner = t.world.inner

/-- Whatever the displays of a compositor that was opened are, short of closing it all moves are
made where the pictures fit, and the leaves keep the law. -/
theorem open_keeps_leaf_law {settings : SplitSettings} {source : VideoFormat}
    {parent : Option ParentWindow} {env : σ} {ledger : Ledger}
    {w : World σ (Happening (Σ k, (inner k).Item))}
    (opened : «open» (crew inner) Builtin.registry settings source parent ⟨env, ledger, []⟩ =
      .ok (.ok c) w)
    (moves : List Move) (unclosed : .root .close ∉ moves)
    (fits : ∀ picture ∈ pictures moves, c.Fits (around inner).Fits picture.origin) :
    ∃ s, makeAll inner moves ⟨c, w⟩ = .ok () s ∧ LeafLaw inner c w moves s := by
  have lawful := lawful_each inner
  have starts := open_starts (crew inner) Builtin.registry settings source parent env ledger
  rw [opened] at starts
  -- The run starts with nothing that waits and leaves that counted nothing.
  obtain ⟨⟨b, sound⟩, fresh⟩ := starts.sound lawful
  obtain ⟨_, _, c', w', ran, inside, silent, ⟨waits, sound'⟩, alters⟩ :=
    (makeAll_ensures moves unclosed sound fits).run w
  refine ⟨⟨c', w'⟩, ran, ?counts, ?apart, ?lasting, ?sized, ?closing⟩
  case counts =>
    rw [alters.leaves_eq]
    refine List.map_congr_left fun leaf member => ?_
    obtain ⟨prepared, displayed⟩ := fresh leaf member
    simp [served, prepared, displayed]
  case apart => exact sound.apart fun k waits d sound => (inner k).apart sound
  case lasting => rw [inside, Sights.closed_append, silent, List.append_nil]
  case sized =>
    intro size width height
    obtain ⟨_, _, c₁, w₁, ran, -, -, -, alters, sized⟩ :=
      (control_ensures lawful (.displaySize size) sound').run w'
    refine ⟨⟨c₁, w₁⟩, ?_, List.eq_replicate_iff.mpr
      ⟨alters.length_sizes, sized size rfl width height⟩⟩
    simp only [Move.make, Operation.perform, bind, EStateM.bind, ran]
    rfl
  case closing =>
    obtain ⟨_, _, c₁, w₁, ran, inside, closings, gone⟩ := (close_ensures lawful sound').run w'
    refine ⟨⟨c₁, w₁⟩, ran, by rw [inside, Sights.closed_append, closings], fun later => ?_⟩
    obtain ⟨_, _, c₂, w₂, ran, inside, rfl, gone'⟩ := (makeAll_late later gone).run w₁
    exact ⟨⟨c₂, w₂⟩, ran, gone', by rw [inside, List.append_nil]⟩

end Runs

/-! ## A screening -/

/-- The leaves of a tree that was opened, if a picture at an origin fits. -/
def ready? {σ : Type} (inner : Nat → Plan σ) (origin : Origin) :
    EStateM.Result Fault (World σ (Happening (Σ k, (inner k).Item))) (Except OpenError
      (Compositor Builtin (Σ k, (inner k).Window) (Σ k, (inner k).Display))) → Option (List Leaf)
  | .ok (.ok c) _ =>
    if c.Fits (around inner).Fits origin then some (c.leaves (around inner).leaves) else none
  | .ok (.error _) _ | .error _ _ => none

theorem of_ready?_eq_some {σ : Type} {inner : Nat → Plan σ} {origin : Origin} {came}
    {leaves : List Leaf} (h : ready? inner origin came = some leaves) :
    ∃ c w, came = .ok (.ok c) w ∧ c.Fits (around inner).Fits origin ∧
      c.leaves (around inner).leaves = leaves := by
  unfold ready? at h
  split at h
  · rename_i c w
    split at h
    · rename_i fits
      exact ⟨c, w, rfl, fits, Option.some.inj h⟩
    · cases h
  · cases h
  · cases h

/-- The outer two of three tiles in a row. -/
def outerTiles : SplitSettings :=
  ((SplitSettings.standard.setOption "cols" (.number (.ofNat 3))).setOption "rows"
    (.number (.ofNat 1))).setOption "active" (.array [.number (.ofNat 0), .number (.ofNat 2)])

/-- Two clones in the first tile, and a headless display in the others. -/
def twinsFirst : Nat → Plan Unit
  | 0 => .compositor .headless (.withAlgorithm "clone") fun _ => .headless .headless
  | _ => .headless .headless

/-- A blank picture. -/
def slide : Picture := (Ledger.empty.record (.whole .i420 96 48) 0 (.blank 18432)).1

/-- Three pictures, of which the second is not shown, while windows change their sizes. -/
def screening : List Move := [
  .root (.prepare slide none 0), .below 0 [] 1 (.resized ⟨20, 10⟩), .root .display, .root .display,
  .root (.prepare slide none 40), .root (.control (.displaySize ⟨64, 64⟩)),
  .root (.prepare slide none 80), .root (.report 2 (.resized ⟨30, 30⟩)), .root .drain,
  .root .display]

/-- All leaves prepare three pictures and show two. -/
theorem screening_reaches_leaves :
    .root .close ∉ screening ∧ ∃ c w s,
      «open» (crew twinsFirst) Builtin.registry outerTiles (.whole .i420 96 48) none
        ⟨(), .empty, []⟩ = .ok (.ok c) w ∧
      (∀ picture ∈ pictures screening, c.Fits (around twinsFirst).Fits picture.origin) ∧
      makeAll twinsFirst screening ⟨c, w⟩ = .ok () s ∧
      s.compositor.leaves (around twinsFirst).leaves =
        [⟨[0, 0], "#0", 3, 2⟩, ⟨[0, 1], "#1", 3, 2⟩, ⟨[2], "#2", 3, 2⟩] ∧
      LeafLaw twinsFirst c w screening s := by
  have unclosed : .root .close ∉ screening := by decide
  have ready : ready? twinsFirst .zero («open» (crew twinsFirst) Builtin.registry outerTiles
      (.whole .i420 96 48) none ⟨(), .empty, []⟩) =
      some [⟨[0, 0], "#0", 0, 0⟩, ⟨[0, 1], "#1", 0, 0⟩, ⟨[2], "#2", 0, 0⟩] := by
    decide +kernel
  obtain ⟨c, w, opened, fits, leaves⟩ := of_ready?_eq_some ready
  have all : ∀ picture ∈ pictures screening, c.Fits (around twinsFirst).Fits picture.origin := by
    intro picture member
    obtain rfl : picture = slide := List.eq_of_mem_replicate (n := 3) member
    exact fits
  obtain ⟨s, ran, law⟩ := open_keeps_leaf_law opened screening unclosed all
  exact ⟨unclosed, c, w, s, opened, all, ran, by rw [law.counts, leaves]; rfl, law⟩

end Plan

end Mosaic
