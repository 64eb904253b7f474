import Mosaic.Proofs.Splitting
import Mosaic.Proofs.Start

/-!
# Every picture shown was prepared last

While operations go on in whatever order, displays are asked for pictures in one pattern only.
To prepare asks each display at most once, in rising order of the regions, for the part that
the algorithm gave for it, which is asked once for the parts of that picture. To display asks each
display for exactly what the last preparing asked it to prepare, unless that was displayed already.
So for every region each display is preceded by the preparing of the same picture, with no other one
in between, and no preparing is shown twice.

## Main definitions

* `Deed`, `performNoted` — operations with what each of them showed
* `awaiting`, `stillOpen` — what waits to be shown after some deeds, and whether none of them closed
  the compositor
* `Deed.Lawful`, `Deed.Consults` — what a deed asks of displays, and of the algorithm
* `Alternates`, `FrameLaw` — the law of a region and of a run

## Main results

* `perform_lawful` — an operation keeps the law and leaves what waits in the slots
* `perform_consults` — an operation asks the algorithm as it should
* `Lawful.alternates` — lawful deeds alternate in every region
* `open_keeps_frame_law` — the law for opening and any operations
-/

set_option autoImplicit false

namespace Mosaic

/-- The picture that the display of a region is asked to prepare, if a call asks for that. -/
def FrameCall.prepared? (k : Nat) : FrameCall → Option Picture
  | prepared index picture _ _ => if index = k then some picture else none
  | displayed _ _ => none

/-- In the calls for one region every display follows the preparing of its picture. The picture
is the one that waits before the first call. -/
def Alternates : Option Picture → List FrameCall → Prop
  | _, [] => True
  | _, .prepared _ picture _ _ :: rest => Alternates (some picture) rest
  | waiting, .displayed _ picture :: rest => waiting = some picture ∧ Alternates none rest

/-- Where nothing needs to wait, something may. -/
theorem Alternates.ofNone {frames : List FrameCall} (h : Alternates none frames)
    (waiting : Option Picture) : Alternates waiting frames := by
  cases frames with
  | nil => trivial
  | cons frame rest =>
    cases frame with
    | prepared => exact h
    | displayed => cases h.1

/-- What comes right before a display, if anything does, is the preparing of its picture. -/
theorem Alternates.before_displayed {waiting : Option Picture} {before after : List FrameCall}
    {k : Nat} {picture : Picture}
    (h : Alternates waiting (before ++ .displayed k picture :: after)) :
    (before = [] ∧ waiting = some picture) ∨
      ∃ earlier i overlay date, before = earlier ++ [.prepared i picture overlay date] := by
  induction before generalizing waiting with
  | nil => exact .inl ⟨rfl, h.1⟩
  | cons frame before ih =>
    cases frame with
    | prepared i other overlay date =>
      rcases ih h with ⟨rfl, same⟩ | ⟨earlier, i', overlay', date', rfl⟩
      · cases same
        exact .inr ⟨[], i, overlay, date, rfl⟩
      · exact .inr ⟨_ :: earlier, i', overlay', date', rfl⟩
    | displayed i other =>
      rcases ih h.2 with ⟨-, none⟩ | ⟨earlier, i', overlay', date', rfl⟩
      · cases none
      · exact .inr ⟨_ :: earlier, i', overlay', date', rfl⟩

/-! ## Calls for several regions -/

section Sweep

variable {shown : List Nat} {part : Nat → Option Picture} {frame : Nat → Picture → FrameCall}

/-- Where every region is asked at most once, one region is asked for its own part. -/
theorem filter_region_filterMap (place : ∀ k picture, (frame k picture).region = k)
    (ordered : shown.Pairwise (· < ·)) (k : Nat) :
    ((shown.filterMap fun i => (part i).map (frame i)).filter fun call => call.region = k) =
      if k ∈ shown then ((part k).map (frame k)).toList else [] := by
  -- Regions come in rising order, so behind the one in question it does not come again.
  induction shown with
  | nil => rfl
  | cons i shown ih =>
    obtain ⟨above, ordered⟩ := List.pairwise_cons.mp ordered
    have rest := ih ordered
    rw [List.filterMap_cons]
    by_cases here : i = k
    · subst here
      have once : i ∉ shown := fun member => Nat.lt_irrefl i (above i member)
      rw [if_neg once] at rest
      cases part i <;> simp [rest, place]
    · have other : k ∈ i :: shown ↔ k ∈ shown := by simp [Ne.symm here]
      simp only [other]
      rw [← rest]
      cases part i <;> simp [place, here]

/-- What a region is asked to prepare is its own part. -/
theorem findSome?_prepared (overlay : Option Overlay) (date : Tick) (k : Nat) :
    (shown.filterMap fun i => (part i).map fun part =>
      FrameCall.prepared i part overlay date).findSome? (FrameCall.prepared? k) =
      if k ∈ shown then part k else none := by
  induction shown with
  | nil => rfl
  | cons i shown ih =>
    rw [List.filterMap_cons]
    by_cases here : i = k
    · subst here
      cases found : part i <;> simp [ih, found, FrameCall.prepared?]
    · have other : k ∈ i :: shown ↔ k ∈ shown := by simp [Ne.symm here]
      simp only [other]
      rw [← ih]
      cases part i <;> simp [FrameCall.prepared?, here]

end Sweep

namespace Compositor

/-! ## Deeds -/

/-- An operation that was performed: the regions that had a display when it began, and what it
showed. -/
structure Deed where
  operation : Operation
  shown : List Nat
  signs : List Sign

namespace Deed

/-- What displays were asked to prepare and to show. -/
def frames (deed : Deed) : List FrameCall := framesOf deed.signs

/-- The parts into which the picture was split. -/
def slots (deed : Deed) : Slots := slotsOf deed.signs

/-- What waits to be shown after a deed, by what waited before it: to prepare replaces all of it,
and nothing waits any more once it was displayed. -/
def leaves (deed : Deed) (waiting : Nat → Option Picture) : Nat → Option Picture :=
  match deed.operation with
  | .prepare _ _ _ => fun k => deed.frames.findSome? (FrameCall.prepared? k)
  | .display | .close => fun _ => none
  | .control _ | .drain | .report _ _ => waiting

/-- The law of one deed. To prepare asks the displays of the regions whose slots the algorithm
filled, each for the part in its slot and with the overlay and the time that were given. To
display asks the displays for which something waits, each for what waits. Nothing else asks for
pictures. -/
def Lawful (waiting : Nat → Option Picture) (deed : Deed) : Prop :=
  deed.shown.Pairwise (· < ·) ∧
  match deed.operation with
  | .prepare _ overlay date =>
    deed.frames = deed.shown.filterMap fun k =>
      (deed.slots[k]?.join).map fun part => .prepared k part overlay date
  | .display =>
    deed.frames = deed.shown.filterMap fun k => (waiting k).map (.displayed k)
  | .control _ | .drain | .report _ _ | .close => deed.frames = []

/-- What a deed asks the algorithm. To prepare a picture on an open compositor asks for its parts,
once, and what is answered are the parts. Nothing else asks for parts. -/
def Consults (isOpen : Bool) (deed : Deed) : Prop :=
  match deed.operation, isOpen with
  | .prepare picture _ _, true => ∃ answer,
      splitsOf deed.signs = [.asked picture, .answered answer] ∧ deed.slots = answer.getD []
  | _, _ => splitsOf deed.signs = []

end Deed

/-- What waits to be shown after some deeds. -/
def awaiting (deeds : List Deed) : Nat → Option Picture :=
  deeds.foldl (fun waiting deed => deed.leaves waiting) fun _ => none

/-- Whether none of some deeds closed the compositor. -/
def stillOpen (deeds : List Deed) : Bool := deeds.all fun deed => deed.operation != .close

/-- Displays are asked for pictures as they should be. -/
structure FrameLaw (deeds : List Deed) : Prop where
  /-- Every deed asks the algorithm as it should, which is there until the compositor is closed. -/
  consults : ∀ past deed future, deeds = past ++ deed :: future → deed.Consults (stillOpen past)
  /-- Every deed keeps its law, by what waited when it began. -/
  lawful : ∀ past deed future, deeds = past ++ deed :: future → deed.Lawful (awaiting past)
  /-- In every region a display comes right after the preparing of the same picture. -/
  paired : ∀ k before picture after,
    ((deeds.flatMap Deed.frames).filter fun call => call.region = k) =
        before ++ .displayed k picture :: after →
      ∃ earlier overlay date, before = earlier ++ [.prepared k picture overlay date]

/-- The deeds are lawful one after the other, where something waits before the first of them. -/
def LawfulFrom : (Nat → Option Picture) → List Deed → Prop
  | _, [] => True
  | waiting, deed :: rest => deed.Lawful waiting ∧ LawfulFrom (deed.leaves waiting) rest

theorem LawfulFrom.lawful {waiting : Nat → Option Picture} {deeds : List Deed}
    (h : LawfulFrom waiting deeds) {past : List Deed} {deed : Deed} {future : List Deed}
    (split : deeds = past ++ deed :: future) :
    deed.Lawful (past.foldl (fun waiting deed => deed.leaves waiting) waiting) := by
  -- What waits before a deed is what the deeds before it left, one after the other.
  induction past generalizing waiting deeds with
  | nil =>
    subst split
    exact h.1
  | cons first past ih =>
    subst split
    exact ih h.2 rfl

/-- The calls of a lawful deed for one region alternate, and so do those that follow. -/
theorem Deed.Lawful.alternates {waiting : Nat → Option Picture} {deed : Deed}
    (h : deed.Lawful waiting) {k : Nat} {rest : List FrameCall}
    (later : Alternates (deed.leaves waiting k) rest) :
    Alternates (waiting k) ((deed.frames.filter fun call => call.region = k) ++ rest) := by
  obtain ⟨operation, shown, signs⟩ := deed
  obtain ⟨ordered, law⟩ := h
  cases operation with
  | prepare picture overlay date =>
    have frames : Deed.frames ⟨.prepare picture overlay date, shown, signs⟩ = _ := law
    simp only [Deed.leaves] at later
    rw [frames, findSome?_prepared] at later
    rw [frames, filter_region_filterMap (fun _ _ => rfl) ordered]
    by_cases here : k ∈ shown
    · -- Only a region whose part is there has something waiting, and was asked to prepare it.
      rw [if_pos here] at later ⊢
      generalize (Deed.slots ⟨.prepare picture overlay date, shown, signs⟩)[k]?.join = part
        at later ⊢
      cases part with
      | none => exact later.ofNone _
      | some part => exact later
    · rw [if_neg here] at later ⊢
      exact later.ofNone _
  | display =>
    have frames : Deed.frames ⟨.display, shown, signs⟩ = _ := law
    rw [frames, filter_region_filterMap (fun _ _ => rfl) ordered]
    have later : Alternates none rest := later
    -- What waited is shown, or there is no display for it; in either case nothing waits later.
    by_cases here : k ∈ shown
    · rw [if_pos here]
      cases waiting k with
      | none => exact later
      | some picture => exact ⟨rfl, later⟩
    · rw [if_neg here]
      exact later.ofNone _
  | close =>
    have frames : framesOf signs = [] := law
    have later : Alternates none rest := later
    simp only [Deed.frames, frames]
    exact later.ofNone _
  | control | drain | report =>
    have frames : framesOf signs = [] := law
    simp only [Deed.frames, frames]
    exact later

theorem LawfulFrom.alternates {waiting : Nat → Option Picture} {deeds : List Deed}
    (h : LawfulFrom waiting deeds) (k : Nat) :
    Alternates (waiting k) ((deeds.flatMap Deed.frames).filter fun call => call.region = k) := by
  induction deeds generalizing waiting with
  | nil => trivial
  | cons deed rest ih =>
    rw [List.flatMap_cons, List.filter_append]
    exact h.1.alternates (ih h.2)

/-- Deeds that are lawful one after the other, with nothing waiting before them, keep the law. -/
theorem LawfulFrom.frameLaw {deeds : List Deed} (h : LawfulFrom (fun _ => none) deeds)
    (consults : ∀ past deed future, deeds = past ++ deed :: future →
      deed.Consults (stillOpen past)) : FrameLaw deeds where
  consults := consults
  lawful := fun past deed future split => h.lawful split
  paired := by
    intro k before picture after split
    have alternates := h.alternates k
    rw [split] at alternates
    rcases alternates.before_displayed with ⟨-, none⟩ | ⟨earlier, i, overlay, date, rfl⟩
    · cases none
    · -- All calls in question are for the same region.
      have member : FrameCall.prepared i picture overlay date ∈
          (deeds.flatMap Deed.frames).filter fun call => call.region = k := by
        simp [split]
      have place : i = k := of_decide_eq_true (List.mem_filter.mp member).2
      subst place
      exact ⟨earlier, overlay, date, rfl⟩

/-! ## Operations -/

section Run

variable {σ ι A W D : Type} {crew : Crew σ ι A W D} {v : View σ A W D}

/-- What waits to be shown is what the slots hold. -/
def Waits (waiting : Nat → Option Picture) (c : Compositor A W D) : Prop :=
  c.Settled ∧ ∀ k, c.picture? k = waiting k

/-- A deed that asks for no picture and touches no slot. -/
theorem Waits.quiet {waiting : Nat → Option Picture} {v' : View σ A W D} {new : List Sign}
    (waits : Waits waiting v.compositor) (path : TidyPath (Quiet crew) v new v') :
    framesOf new = [] ∧ Waits waiting v'.compositor := by
  obtain ⟨settled, pictures⟩ := Quiet.settled path.1 path.2 waits.1
  refine ⟨Quiet.frames_eq path.1, settled, fun k => ?_⟩
  rw [picture?, pictures]
  exact waits.2 k

/-- Every operation is a lawful deed and leaves what then waits in the slots. -/
theorem perform_lawful (crew : Crew σ ι A W D) (operation : Operation)
    {waiting : Nat → Option Picture} (waits : Waits waiting v.compositor) :
    (operation.perform crew).Yields crew v fun _ new v' =>
      Deed.Lawful waiting ⟨operation, v.compositor.shown, new⟩ ∧
      Waits (Deed.leaves ⟨operation, v.compositor.shown, new⟩ waiting) v'.compositor := by
  have tidy := waits.1.tidy
  have ordered := v.compositor.shown_pairwise
  cases operation with
  | prepare picture overlay date =>
    refine (prepare_yields picture overlay date tidy).mono ?_
    rintro _ new v' ⟨drained, divided, v₁, handles, divides, parts⟩
    have prepares : Prepares crew picture overlay date v new v' :=
      parts ▸ handles.prepares tidy divides
    have frames := prepares.frames_eq waits.1
    refine ⟨⟨ordered, frames⟩, Step.settled prepares.path waits.1, fun k => ?_⟩
    have left : (framesOf new).findSome? (FrameCall.prepared? k) = _ :=
      frames ▸ findSome?_prepared overlay date k
    rw [prepares.picture?_eq waits.1]
    exact left.symm
  | display =>
    refine (display_yields tidy).mono fun _ new v' shows => ?_
    have filled : (fun k => (v.compositor.picture? k).map (FrameCall.displayed k)) =
        fun k => (waiting k).map (.displayed k) :=
      funext fun k => by rw [waits.2 k]
    have frames := shows.frames_eq_shown waits.1
    rw [filled] at frames
    exact ⟨⟨ordered, frames⟩, Step.settled shows.path waits.1,
      shows.picture?_eq_none waits.1⟩
  | control query =>
    refine (control_yields query tidy).andThen fun _ new v' path => .pure ?_
    obtain ⟨frames, waits'⟩ := waits.quiet (path.mono fun _ _ _ => Adjusts.quiet)
    rw [List.append_nil]
    exact ⟨⟨ordered, frames⟩, waits'⟩
  | drain =>
    refine (drain_yields tidy).andThen fun _ new v' drains => .pure ?_
    obtain ⟨frames, waits'⟩ := waits.quiet (drains.2.tidyPath tidy)
    rw [List.append_nil]
    exact ⟨⟨ordered, frames⟩, waits'⟩
  | report k event =>
    refine (report_yields tidy k event).mono fun _ new v' path => ?_
    obtain ⟨frames, waits'⟩ := waits.quiet (path.mono fun _ _ _ => Quiet.report)
    exact ⟨⟨ordered, frames⟩, waits'⟩
  | close =>
    refine (close_yields tidy).mono fun _ new v' closes => ?_
    have settled := closes.settled waits.1
    refine ⟨⟨ordered, closes.frames_eq⟩, settled, fun k => ?_⟩
    exact settled.picture?_eq_none (by simp [closes.gone.2])

/-- A deed asks the algorithm as it should, and the compositor stays open unless it is closed. -/
def Consulting (v : View σ A W D) (deed : Deed) (v' : View σ A W D) : Prop :=
  deed.Consults v.compositor.isOpen ∧
    v'.compositor.isOpen = (v.compositor.isOpen && deed.operation != .close)

/-- Every operation asks the algorithm as it should, and none but closing closes a compositor. -/
theorem perform_consults (crew : Crew σ ι A W D) (operation : Operation)
    (tidy : v.compositor.Tidy) :
    (operation.perform crew).Yields crew v fun _ new v' =>
      Consulting v ⟨operation, v.compositor.shown, new⟩ v' := by
  have stays {v' : View σ A W D} (shape : v'.compositor.shape = v.compositor.shape) :
      v'.compositor.isOpen = (v.compositor.isOpen && true) := by
    rw [Bool.and_true]
    exact isOpen_of_shape_eq shape
  have quiet {new : List Sign} {v' : View σ A W D} (path : Path (Quiet crew) v new v') :
      splitsOf new = [] ∧ v'.compositor.isOpen = (v.compositor.isOpen && true) :=
    ⟨Quiet.splits_eq path, stays (Quiet.path_shape_eq path)⟩
  cases operation with
  | prepare picture overlay date =>
    refine (prepare_yields picture overlay date tidy).mono ?_
    rintro _ _ v' ⟨drained, divided, v₁, handles, divides, rfl⟩
    have drains := (handles.tidyPath tidy).1
    refine ⟨?_, stays (Step.path_shape_eq (handles.prepares tidy divides).path)⟩
    cases isOpen : v.compositor.isOpen with
    | true =>
      obtain ⟨a, result, a', w, -, -, -, splits, slots⟩ := divides.asks drains isOpen
      exact ⟨result.toOption, splits, slots⟩
    | false => exact divides.asks_nobody drains isOpen
  | display =>
    refine (display_yields tidy).mono fun _ new v' shows => ?_
    exact ⟨shows.splits_eq, stays (Step.path_shape_eq shows.path)⟩
  | control query =>
    refine (control_yields query tidy).andThen fun _ new v' path => .pure ?_
    rw [List.append_nil]
    exact quiet (path.mono fun _ _ _ => Adjusts.quiet).1
  | drain =>
    refine (drain_yields tidy).andThen fun _ new v' drains => .pure ?_
    rw [List.append_nil]
    exact quiet (drains.2.tidyPath tidy).1
  | report k event =>
    exact (report_yields tidy k event).mono fun _ new v' path =>
      quiet (path.mono fun _ _ _ => Quiet.report).1
  | close =>
    refine (close_yields tidy).mono fun _ new v' closes => ?_
    exact ⟨closes.splits_eq, by simp [Compositor.isOpen, closes.gone.1]⟩

/-- Performs operations and notes what each of them shows. -/
def performNoted (crew : Crew σ ι A W D) : List Operation → Act σ ι A W D (List Deed)
  | [] => pure []
  | operation :: rest => do
    let before ← get
    operation.perform crew
    let after ← get
    let deed : Deed := ⟨operation, before.compositor.shown,
      after.world.signs.drop before.world.signs.length⟩
    let later ← performNoted crew rest
    return deed :: later

/-- To note what operations show changes nothing about them. -/
theorem performNoted_forget (crew : Crew σ ι A W D) (operations : List Operation) :
    (do let _ ← performNoted crew operations) = performAll crew operations := by
  induction operations with
  | nil => rfl
  | cons operation rest ih =>
    rw [performAll, ← ih]
    simp only [performNoted, bind_assoc, pure_bind]
    rfl

theorem performAll_of_noted {crew : Crew σ ι A W D} {operations : List Operation}
    {s t : Running σ ι A W D} {deeds : List Deed}
    (ran : performNoted crew operations s = .ok deeds t) :
    performAll crew operations s = .ok () t := by
  rw [← performNoted_forget]
  simp only [bind, EStateM.bind, ran]
  rfl

/-- Deeds one after the other, each of which does what `does` says. -/
inductive Deeds (does : View σ A W D → Deed → View σ A W D → Prop) :
    View σ A W D → List Deed → View σ A W D → Prop
  | nil (v : View σ A W D) : Deeds does v [] v
  | cons {v v' v'' : View σ A W D} {deed : Deed} {later : List Deed} (head : does v deed v')
      (tail : Deeds does v' later v'') : Deeds does v (deed :: later) v''

theorem Deeds.mono {does does' : View σ A W D → Deed → View σ A W D → Prop} {deeds : List Deed}
    {v' : View σ A W D} (h : Deeds does v deeds v')
    (weaker : ∀ v deed v', does v deed v' → does' v deed v') : Deeds does' v deeds v' := by
  induction h with
  | nil => exact .nil _
  | cons head _ ih => exact .cons (weaker _ _ _ head) ih

theorem Deeds.append_iff {does : View σ A W D → Deed → View σ A W D → Prop}
    {deeds more : List Deed} {v' : View σ A W D} :
    Deeds does v (deeds ++ more) v' ↔ ∃ u, Deeds does v deeds u ∧ Deeds does u more v' := by
  induction deeds generalizing v with
  | nil =>
    constructor
    · exact fun h => ⟨v, .nil v, h⟩
    · rintro ⟨u, ⟨⟩, h⟩
      exact h
  | cons deed deeds ih =>
    constructor
    · rintro (_ | ⟨head, tail⟩)
      obtain ⟨u, first, later⟩ := ih.mp tail
      exact ⟨u, .cons head first, later⟩
    · rintro ⟨u, _ | ⟨head, tail⟩, later⟩
      exact .cons head (ih.mpr ⟨u, tail, later⟩)

/-- What operations show falls into their deeds. Where each operation does what `does` says and
keeps what it needs for that, so do they all. -/
theorem performNoted_deeds (crew : Crew σ ι A W D)
    (does : View σ A W D → Deed → View σ A W D → Prop) (Ready : View σ A W D → Prop)
    (operations : List Operation)
    (one : ∀ operation ∈ operations, ∀ v, Ready v →
      (operation.perform crew).Yields crew v fun _ new v' =>
        does v ⟨operation, v.compositor.shown, new⟩ v' ∧ Ready v')
    (s : Running σ ι A W D) (ready : Ready s.view) :
    match performNoted crew operations s with
    | .ok deeds t => deeds.map Deed.operation = operations ∧
        t.world.signs = s.world.signs ++ deeds.flatMap Deed.signs ∧
        Deeds does s.view deeds t.view ∧ Ready t.view
    | .error fault _ => crew.Raises fault := by
  induction operations generalizing s with
  | nil => exact ⟨rfl, (List.append_nil _).symm, .nil _, ready⟩
  | cons operation rest ih =>
    have first := one operation List.mem_cons_self s.view ready s rfl
    have seen (s : Running σ ι A W D) : (get : Act σ ι A W D _) s = .ok s s := rfl
    simp only [performNoted, bind, EStateM.bind, seen]
    cases ran : operation.perform crew s with
    | error fault t =>
      rw [ran] at first
      exact first
    | ok done t =>
      rw [ran] at first
      obtain ⟨new, signs, head, ready'⟩ := first
      -- What is noted of the operation are the signs it added.
      have noted : t.world.signs.drop s.world.signs.length = new := by
        rw [signs, List.drop_left]
      have later := ih (fun operation member => one operation (List.mem_cons_of_mem _ member)) t
        ready'
      simp only [noted]
      cases ran' : performNoted crew rest t with
      | error fault u =>
        rw [ran'] at later
        exact later
      | ok deeds u =>
        rw [ran'] at later
        obtain ⟨operations, signs', tail, ready''⟩ := later
        refine ⟨congrArg (operation :: ·) operations, ?_, .cons head tail, ready''⟩
        rw [signs', signs, List.append_assoc]
        rfl

/-- A deed that is lawful by what the slots hold and leaves in them what then waits. -/
def FillsLawfully (v : View σ A W D) (deed : Deed) (v' : View σ A W D) : Prop :=
  ∀ waiting, Waits waiting v.compositor →
    deed.Lawful waiting ∧ Waits (deed.leaves waiting) v'.compositor

theorem Deeds.lawfulFrom {deeds : List Deed} {waiting : Nat → Option Picture}
    {v' : View σ A W D} (h : Deeds FillsLawfully v deeds v')
    (waits : Waits waiting v.compositor) : LawfulFrom waiting deeds := by
  -- The slots carry the induction: they hold what waits, whatever came before.
  induction h generalizing waiting with
  | nil => trivial
  | cons head _ ih =>
    obtain ⟨lawful, waits'⟩ := head waiting waits
    exact ⟨lawful, ih waits'⟩

/-- A compositor is open for as long as no deed closes it. -/
theorem Deeds.isOpen_eq {deeds : List Deed} {v' : View σ A W D}
    (h : Deeds Consulting v deeds v') :
    v'.compositor.isOpen = (v.compositor.isOpen && stillOpen deeds) := by
  induction h with
  | nil => simp [stillOpen]
  | cons head _ ih => rw [ih, head.2, stillOpen, stillOpen, List.all_cons, Bool.and_assoc]

theorem Deeds.consults {past future : List Deed} {deed : Deed} {v' : View σ A W D}
    (h : Deeds Consulting v (past ++ deed :: future) v') (isOpen : v.compositor.isOpen = true) :
    deed.Consults (stillOpen past) := by
  obtain ⟨u, before, _ | ⟨head, -⟩⟩ := append_iff.mp h
  have still := before.isOpen_eq
  rw [isOpen, Bool.true_and] at still
  exact still ▸ head.1

/-- What operations show are deeds that are lawful one after the other. -/
theorem performNoted_lawful (crew : Crew σ ι A W D) (operations : List Operation)
    {waiting : Nat → Option Picture} (s : Running σ ι A W D) (waits : Waits waiting s.compositor) :
    match performNoted crew operations s with
    | .ok deeds t => deeds.map Deed.operation = operations ∧
        t.world.signs = s.world.signs ++ deeds.flatMap Deed.signs ∧ LawfulFrom waiting deeds ∧
        Deeds Consulting s.view deeds t.view ∧ t.compositor.Settled
    | .error fault _ => crew.Raises fault := by
  have noted := performNoted_deeds crew
    (fun v deed v' => FillsLawfully v deed v' ∧ Consulting v deed v')
    (fun v => ∃ waiting, Waits waiting v.compositor) operations
    (fun operation _ v ⟨waiting, waits⟩ =>
      ((perform_lawful crew operation waits).both
        (perform_consults crew operation waits.1.tidy)).mono
      fun _ _ _ ⟨⟨lawful, waits'⟩, consulting⟩ => ⟨⟨fun waiting' waits'' => by
        obtain rfl : waiting = waiting' := funext fun k => (waits.2 k).symm.trans (waits''.2 k)
        exact ⟨lawful, waits'⟩, consulting⟩, _, waits'⟩) s ⟨waiting, waits⟩
  cases ran : performNoted crew operations s with
  | error fault t =>
    rw [ran] at noted
    exact noted
  | ok deeds t =>
    rw [ran] at noted
    obtain ⟨all, signs, done, _, waits'⟩ := noted
    exact ⟨all, signs, (done.mono fun _ _ _ => And.left).lawfulFrom waits,
      done.mono fun _ _ _ => And.right, waits'.1⟩

/-- Whatever is done with a compositor that was opened, displays are asked for pictures by the
law; and however far it has come, as long as it is open, to prepare another picture would ask the
algorithm for its parts. Opening itself asks for none. -/
theorem open_keeps_frame_law (crew : Crew σ ι A W D) (registry : Registry (Constructor σ ι A))
    (settings : SplitSettings) (source : VideoFormat) (parent : Option ParentWindow)
    (operations : List Operation) (env : σ) (ledger : Ledger) :
    match «open» crew registry settings source parent ⟨env, ledger, []⟩ with
    | .error fault _ => crew.Raises fault ∨ MakingRaises registry settings source fault
    | .ok (.error _) w => framesOf w.signs = []
    | .ok (.ok c) w => framesOf w.signs = [] ∧
      match performNoted crew operations ⟨c, w⟩ with
      | .ok deeds t => performAll crew operations ⟨c, w⟩ = .ok () t ∧
          deeds.map Deed.operation = operations ∧
          t.world.signs = w.signs ++ deeds.flatMap Deed.signs ∧ FrameLaw deeds ∧
          (stillOpen deeds = true → ∀ picture overlay date, SplitLaw crew t picture overlay date)
      | .error fault _ => crew.Raises fault := by
  have starts := open_starts crew registry settings source parent env ledger
  cases opened : «open» crew registry settings source parent ⟨env, ledger, []⟩ with
  | error fault w =>
    rw [opened] at starts
    exact starts
  | ok result w =>
    rw [opened] at starts
    cases starts with
    | unknown missing silent | unmade known ran silent =>
      dsimp only
      rw [silent]
      rfl
    | populated known ran populates seen =>
      rename_i algorithm w₀ fates result v
      cases result with
      | error e => exact populates.frames_eq
      | ok done =>
        refine ⟨populates.frames_eq, ?_⟩
        have isOpen : v.compositor.isOpen = true := populates.isOpen_eq
        have waits : Waits (fun _ => none) v.compositor :=
          populates.settled unpopulated_tidy rfl rfl rfl
        have noted := performNoted_lawful crew operations ⟨v.compositor, w⟩ waits
        cases ran : performNoted crew operations ⟨v.compositor, w⟩ with
        | error fault t =>
          rw [ran] at noted
          exact noted
        | ok deeds t =>
          rw [ran] at noted
          obtain ⟨all, signs, law, done, settled⟩ := noted
          refine ⟨performAll_of_noted ran, all, signs, law.frameLaw ?_, fun still => ?_⟩
          · rintro past deed future rfl
            exact done.consults isOpen
          · have kept : t.compositor.isOpen = (v.compositor.isOpen && _) := done.isOpen_eq
            exact prepare_splits t settled (by rw [kept, isOpen, still, Bool.and_self])

end Run

end Compositor

end Mosaic
