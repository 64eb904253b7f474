import Mosaic.Proofs.Start

/-!
# Locks

The display of a region is only spoken to under the lock of that region, and a new size is only
acknowledged under it; no other lock is held then. Windows, the algorithm and the parent are only
spoken to while no lock is held at all, so none of them can wait for somebody who waits for them.

This holds of every run, also of one that a fault of the others breaks off: on the way out the
locks are given back and what is there is taken down, again under the locks that it takes. So it
is no matter for a law of results, and is proved of actions as they are, whatever they come to.

## Main definitions

* `Call.guards`, `Disciplined` — the locks that a call takes, and calls made under exactly those
* `Compositor.Under` — one lock is held, or none
* `Act.Guards` — an action that keeps the discipline, broken off or not
* `overAll` — operations in their order, whatever each comes to

## Main results

* `Guards.bind`, `Guards.withLock`, `Guards.guarding` and their like — the rules
* `perform_guards`, `populate_guards` — operations and openings
* `open_keeps_lock_law` — the law for openings and any operations
-/

set_option autoImplicit false

namespace Mosaic

/-- The locks that a call takes: what goes to the display of a region, and the acknowledgement of
its size, take the lock of that region; all else takes none. -/
def Call.guards : Call → List Nat
  | .prepare index _ _ _ | .display index _ | .control index _ | .close index
  | .dropDisplay index | .acknowledge index _ => [index]
  | .newWindow _ _ | .enable _ _ | .disable _ | .dropWindow _ | .newDisplay _ _ | .sizeHint _
  | .filter _ | .mouseMap _ _ | .report _ | .dropAlgorithm => []

/-- Every call is made while the locks that it takes are held, and no others. -/
def Disciplined (signs : List Sign) : Prop :=
  ∀ call locked, .called call locked ∈ signs → locked = call.guards

namespace Disciplined

variable {signs more : List Sign}

theorem nil : Disciplined [] := by simp [Disciplined]

theorem of_silent (silent : signs = []) : Disciplined signs := silent ▸ nil

theorem append (h : Disciplined signs) (h' : Disciplined more) : Disciplined (signs ++ more) := by
  intro call locked member
  rcases List.mem_append.mp member with first | later
  · exact h call locked first
  · exact h' call locked later

theorem singleton {call : Call} {locked : List Nat} (h : locked = call.guards) :
    Disciplined [.called call locked] := by
  intro call' locked' member
  cases List.mem_singleton.mp member
  exact h

end Disciplined

namespace Compositor

variable {A W D : Type} {c : Compositor A W D} {holder : Option Nat} {k : Nat}

/-- Every region stands at the place of its index, and no lock is held but that of one region, if
one is named. -/
def Under (c : Compositor A W D) (holder : Option Nat) : Prop :=
  ∀ (i : Nat) (r : Region W D), c.regions[i]? = some r →
    r.index = i ∧ (r.locked = true ↔ holder = some i)

theorem under_none_iff : c.Under none ↔ c.Tidy := by
  simp [Under, Tidy]

/-- The locks that are held are the one that is named. -/
theorem Under.lockedRegions_eq (under : c.Under holder)
    (inside : ∀ k, holder = some k → k < c.regions.length) :
    c.lockedRegions = holder.toList := by
  cases holder with
  | none => exact (under_none_iff.mp under).lockedRegions_eq_nil
  | some k =>
    obtain ⟨r, here⟩ : ∃ r, c.regions[k]? = some r :=
      ⟨_, List.getElem?_eq_getElem (inside k rfl)⟩
    obtain ⟨place, held⟩ := under k r here
    -- Taken off that one region, the mark leaves a compositor without any.
    have tidy : (c.setRegion k { r with locked := false }).Tidy := by
      intro i found there
      rcases getElem?_setRegion_cases there with ⟨rfl, rfl⟩ | ⟨other, there⟩
      · exact ⟨place, rfl⟩
      · obtain ⟨place, held⟩ := under i found there
        refine ⟨place, Bool.eq_false_iff.mpr fun locked => other ?_⟩
        exact (Option.some.inj (held.mp locked)).symm
    have whole := tidy.lockedRegions_setRegion (getElem?_setRegion_self here) place
      (held.mpr rfl)
    rwa [setRegion_setRegion, setRegion_self here] at whole

/-- A region of a compositor with one region changed is the changed one, or an old one elsewhere. -/
theorem getElem?_modifyRegion_cases {f : Region W D → Region W D} {i : Nat} {found : Region W D}
    (h : (c.modifyRegion k f).regions[i]? = some found) :
    ∃ r, c.regions[i]? = some r ∧ ((i = k ∧ found = f r) ∨ (i ≠ k ∧ found = r)) := by
  rw [modifyRegion, List.getElem?_modify, Option.map_eq_map, Option.map_eq_some_iff] at h
  obtain ⟨r, old, rfl⟩ := h
  refine ⟨r, old, ?_⟩
  by_cases same : k = i
  · exact .inl ⟨same.symm, if_pos same⟩
  · exact .inr ⟨Ne.symm same, if_neg same⟩

/-- To mark a region changes the locks that are held by that one. -/
theorem Under.mark {before after : Option Nat} {locked : Bool} (under : c.Under before)
    (here : locked = true ↔ after = some k)
    (others : ∀ i, i ≠ k → (before = some i ↔ after = some i)) :
    (c.modifyRegion k fun r => { r with locked := locked }).Under after := by
  intro i found there
  obtain ⟨r, old, ⟨rfl, rfl⟩ | ⟨other, rfl⟩⟩ := getElem?_modifyRegion_cases there
  · exact ⟨(under i r old).1, here⟩
  · exact ⟨(under i found old).1, (under i found old).2.trans (others i other)⟩

theorem Under.take (under : c.Under none) (k : Nat) :
    (c.modifyRegion k fun r => { r with locked := true }).Under (some k) := by
  refine under.mark (by simp) fun i other => ?_
  simpa using Ne.symm other

theorem Under.giveBack (under : c.Under (some k)) :
    (c.modifyRegion k fun r => { r with locked := false }).Under none := by
  refine under.mark (by simp) fun i other => ?_
  simpa using Ne.symm other

/-- What is done to a region without touching its place or its mark changes no lock. -/
theorem Under.modifyRegion {f : Region W D → Region W D} (under : c.Under holder)
    (kept : ∀ r, (f r).index = r.index ∧ (f r).locked = r.locked) :
    (c.modifyRegion k f).Under holder := by
  intro i found there
  obtain ⟨r, old, ⟨rfl, rfl⟩ | ⟨-, rfl⟩⟩ := getElem?_modifyRegion_cases there
  · rw [(kept r).1, (kept r).2]
    exact under i r old
  · exact under i found old

theorem length_modifyRegion (c : Compositor A W D) (k : Nat) (f : Region W D → Region W D) :
    (c.modifyRegion k f).regions.length = c.regions.length := by
  rw [modifyRegion, List.length_modify]

end Compositor

/-! ## Actions that keep the discipline -/

/-- No lock is held but that of the holder, and all calls so far were disciplined. -/
structure Running.Orderly {σ ι A W D : Type} (holder : Option Nat) (s : Running σ ι A W D) :
    Prop where
  under : s.compositor.Under holder
  calls : Disciplined s.world.signs

namespace Act

variable {σ ι A W D α β : Type}

/-- Started among so many regions with the lock of the holder held, if there is one, an action ends
with the same lock held, comes to an end or is broken off by a fault that one of the others raises;
in both cases every call on the way is disciplined. `post` tells of the result and of the number of
regions at the end. -/
def Guards (crew : Crew σ ι A W D) (holder : Option Nat) (count : Nat) (act : Act σ ι A W D α)
    (post : α → Nat → Prop) : Prop :=
  ∀ s : Running σ ι A W D, s.Orderly holder → s.compositor.regions.length = count →
    match act s with
    | .ok a t => t.Orderly holder ∧ post a t.compositor.regions.length
    | .error fault t => t.Orderly holder ∧ crew.Raises fault

namespace Guards

variable {crew : Crew σ ι A W D} {holder : Option Nat} {count : Nat} {act : Act σ ι A W D α}
variable {post post' : α → Nat → Prop}

theorem mono (h : act.Guards crew holder count post) (weaker : ∀ a n, post a n → post' a n) :
    act.Guards crew holder count post' := by
  intro s orderly length
  have guards := h s orderly length
  cases run : act s with
  | ok a t =>
    rw [run] at guards
    exact ⟨guards.1, weaker _ _ guards.2⟩
  | error fault t =>
    rw [run] at guards
    exact guards

theorem pure {a : α} (h : post a count) :
    (Pure.pure a : Act σ ι A W D α).Guards crew holder count post := by
  rintro s orderly rfl
  exact ⟨orderly, h⟩

/-- One action after another: the second starts among the regions that the first one leaves. -/
theorem bind {next : α → Act σ ι A W D β} {post : β → Nat → Prop}
    (h : act.Guards crew holder count fun a n => (next a).Guards crew holder n post) :
    (act >>= next).Guards crew holder count post := by
  intro s orderly length
  have first := h s orderly length
  simp only [Bind.bind, EStateM.bind]
  cases run : act s with
  | ok a t =>
    rw [run] at first
    exact first.2 t first.1 rfl
  | error fault t =>
    rw [run] at first
    exact first

/-- What is put in order before a fault passes on is done with the same lock held, among however
many regions there are by then. -/
theorem guarding {cleanup : Act σ ι A W D Unit} (h : act.Guards crew holder count post)
    (tidies : ∀ n, cleanup.Guards crew holder n fun _ _ => True) :
    (Act.guarding cleanup act).Guards crew holder count post := by
  intro s orderly length
  have body := h s orderly length
  rw [Act.guarding]
  cases run : act s with
  | ok a t =>
    rw [run] at body
    exact body
  | error fault t =>
    rw [run] at body
    have last := tidies _ t body.1 rfl
    cases run' : cleanup t with
    | ok _ u =>
      rw [run'] at last
      simpa only [run'] using ⟨last.1, body.2⟩
    | error _ u =>
      rw [run'] at last
      simpa only [run'] using ⟨last.1, body.2⟩

/-- Between the taking and the giving back of a lock that one is held, whatever comes of it. -/
theorem withLock {k : Nat} (h : act.Guards crew (some k) count post) (inside : k < count) :
    (Act.withLock k act).Guards crew none count post := by
  intro s orderly length
  obtain ⟨r, here⟩ : ∃ r, s.compositor.regions[k]? = some r :=
    ⟨_, List.getElem?_eq_getElem (length ▸ inside)⟩
  have free : r.locked = false := by simpa using (orderly.under k r here).2
  have taken : ({ s with compositor := s.compositor.modifyRegion k fun r =>
      { r with locked := true } } : Running σ ι A W D).Orderly (some k) :=
    ⟨orderly.under.take k, orderly.calls⟩
  have body := h _ taken ((s.compositor.length_modifyRegion k _).trans length)
  simp only [Act.withLock, here, free, Bool.false_eq_true, if_false]
  cases run : act { s with compositor := s.compositor.modifyRegion k fun r =>
      { r with locked := true } } with
  | ok a t =>
    rw [run] at body
    refine ⟨⟨body.1.under.giveBack, body.1.calls⟩, ?_⟩
    rw [Compositor.length_modifyRegion]
    exact body.2
  | error fault t =>
    rw [run] at body
    exact ⟨⟨body.1.under.giveBack, body.1.calls⟩, body.2⟩

/-- What is read of a compositor tells how many regions there are. -/
theorem compositor {post : Compositor A W D → Nat → Prop}
    (h : ∀ c, c.regions.length = count → post c count) :
    (Act.compositor : Act σ ι A W D _).Guards crew holder count post := by
  rintro s orderly rfl
  exact ⟨orderly, h s.compositor rfl⟩

theorem ledger {post : Ledger → Nat → Prop} (h : ∀ l, post l count) :
    (Act.ledger : Act σ ι A W D _).Guards crew holder count post := by
  rintro s orderly rfl
  exact ⟨orderly, h _⟩

theorem env {post : σ → Nat → Prop} (h : ∀ e, post e count) :
    (Act.env : Act σ ι A W D _).Guards crew holder count post := by
  rintro s orderly rfl
  exact ⟨orderly, h _⟩

section Units

variable {post : Unit → Nat → Prop}

/-- What is done to the rest of a compositor concerns no lock. -/
theorem modifyCompositor {f : Compositor A W D → Compositor A W D}
    (apart : ∀ c, (f c).regions = c.regions) (h : post () count) :
    (Act.modifyCompositor f : Act σ ι A W D Unit).Guards crew holder count post := by
  rintro s orderly rfl
  have same := apart s.compositor
  refine ⟨⟨?_, orderly.calls⟩, ?_⟩
  · show (f s.compositor).Under holder
    rw [Compositor.Under, same]
    exact orderly.under
  · show post () (f s.compositor).regions.length
    rwa [same]

/-- What is done to a region touches neither its place nor its mark. -/
theorem changeRegion {k : Nat} {f : Region W D → Region W D}
    (kept : ∀ r, (f r).index = r.index ∧ (f r).locked = r.locked) (h : post () count) :
    (Act.changeRegion k f : Act σ ι A W D Unit).Guards crew holder count post := by
  rintro s orderly rfl
  refine ⟨⟨orderly.under.modifyRegion kept, orderly.calls⟩, ?_⟩
  show post () (s.compositor.modifyRegion k f).regions.length
  rwa [Compositor.length_modifyRegion]

theorem modifyLedger {f : Ledger → Ledger} (h : post () count) :
    (Act.onWorld (Run.modifyLedger f) : Act σ ι A W D Unit).Guards crew holder count post := by
  rintro s orderly rfl
  exact ⟨⟨orderly.under, orderly.calls⟩, h⟩

/-- What is noted besides calls is no matter. -/
theorem record {item : Happening ι} (silent : Disciplined item.sign?.toList) (h : post () count) :
    (Act.onWorld (Run.record item) : Act σ ι A W D Unit).Guards crew holder count post := by
  rintro s orderly rfl
  refine ⟨⟨orderly.under, ?_⟩, h⟩
  show Disciplined (s.world.record item).signs
  rw [World.signs_record]
  exact orderly.calls.append silent

theorem say {notice : Notice} (h : post () count) :
    (Act.say notice : Act σ ι A W D Unit).Guards crew holder count post :=
  record .nil h

theorem answered {answer : Answer} (h : post () count) :
    (Act.answered answer : Act σ ι A W D Unit).Guards crew holder count post :=
  record (by simp [Disciplined, Happening.sign?]) h

theorem reported {k : Nat} {event : WindowEvent} (h : post () count) :
    (Act.reported k event : Act σ ι A W D Unit).Guards crew holder count post :=
  record (by simp [Disciplined, Happening.sign?]) h

/-- A call keeps the discipline where the lock that is held is the one that it takes. -/
theorem asking {asked : Call} (takes : asked.guards = holder.toList)
    (inside : ∀ k, holder = some k → k < count) (h : post () count) :
    (Act.call asked : Act σ ι A W D Unit).Guards crew holder count post := by
  rintro s orderly rfl
  have noted : Disciplined [.called asked s.compositor.lockedRegions] :=
    .singleton ((orderly.under.lockedRegions_eq inside).trans takes.symm)
  have note : (Act.onWorld (Run.record (.called asked s.compositor.lockedRegions)) :
      Act σ ι A W D Unit).Guards crew holder _ post := record noted h
  exact note s orderly rfl

/-- A call that takes no lock is made outside of all. -/
theorem call {asked : Call} (takes : asked.guards = []) (h : post () count) :
    (Act.call asked : Act σ ι A W D Unit).Guards crew none count post :=
  asking takes nofun h

/-- A call that takes the lock of a region is made under it. -/
theorem callUnder {k : Nat} {asked : Call} (takes : asked.guards = [k]) (inside : k < count)
    (h : post () count) : (Act.call asked : Act σ ι A W D Unit).Guards crew (some k) count post :=
  asking takes (by simpa using inside) h

theorem release {picture : Option Picture} (h : post () count) :
    (Act.release picture : Act σ ι A W D Unit).Guards crew holder count post := by
  cases picture with
  | none => exact pure h
  | some picture =>
    have give : (Act.onWorld (Run.modifyLedger fun l => l.release picture) :
        Act σ ι A W D Unit).Guards crew holder count post := modifyLedger h
    exact give

theorem releaseSlots {slots : Slots} (h : post () count) :
    (Act.releaseSlots slots : Act σ ι A W D Unit).Guards crew holder count post := by
  induction slots with
  | nil => exact pure h
  | cons slot rest ih => exact bind (release ih)

end Units

/-- Whatever one of the others does, no lock and no call of the compositor comes of it. -/
theorem collaborate {task : Run σ ι α} (does : crew.Does task) (h : ∀ a, post a count) :
    (Act.collaborate task).Guards crew holder count post := by
  rintro s orderly rfl
  simp only [Act.collaborate, Act.onWorld, Run.within]
  have calls (w : World σ ι) : Disciplined (World.signs
      ⟨w.env, w.ledger, w.trace.map .inside ++ s.world.trace⟩) := by
    rw [World.signs_inside]
    exact orderly.calls
  cases run : task ⟨s.world.env, s.world.ledger, []⟩ with
  | ok a w => exact ⟨⟨orderly.under, calls w⟩, h a⟩
  | error fault w => exact ⟨⟨orderly.under, calls w⟩, α, task, does, _, _, run⟩

section Asking

variable {asked : Call} {task : Run σ ι α} {meanwhile : Act σ ι A W D Unit}

/-- Who is asked outside of all locks acts outside of all. -/
theorem ask (takes : asked.guards = []) (does : crew.Does task) (h : ∀ a, post a count) :
    (Act.ask asked task).Guards crew none count post :=
  bind (call takes (collaborate does h))

/-- Who is asked under the lock of a region acts under it. -/
theorem askUnder {k : Nat} (takes : asked.guards = [k]) (inside : k < count)
    (does : crew.Does task) (h : ∀ a, post a count) :
    (Act.ask asked task).Guards crew (some k) count post :=
  bind (callUnder takes inside (collaborate does h))

theorem askWhile (takes : asked.guards = []) (does : crew.Does task)
    (told : meanwhile.Guards crew none count fun _ n => n = count) (h : ∀ a, post a count) :
    (Act.askWhile asked meanwhile task).Guards crew none count post :=
  bind (call takes (bind (told.mono fun _ n same => by subst same; exact collaborate does h)))

theorem askWhileUnder {k : Nat} (takes : asked.guards = [k]) (inside : k < count)
    (does : crew.Does task) (told : meanwhile.Guards crew (some k) count fun _ n => n = count)
    (h : ∀ a, post a count) : (Act.askWhile asked meanwhile task).Guards crew (some k) count post :=
  bind (callUnder takes inside
    (bind (told.mono fun _ n same => by subst same; exact collaborate does h)))

theorem consult {answer : α} (takes : asked.guards = []) (h : post answer count) :
    (Act.consult asked answer : Act σ ι A W D α).Guards crew none count post :=
  bind (call takes (pure h))

end Asking

end Guards

/-- An action that keeps the discipline and the number of regions. -/
def Keeps (crew : Crew σ ι A W D) (holder : Option Nat) (count : Nat)
    (act : Act σ ι A W D α) : Prop :=
  act.Guards crew holder count fun _ n => n = count

/-- What comes after an action that keeps the number of regions starts among as many. -/
theorem Keeps.andThen {crew : Crew σ ι A W D} {holder : Option Nat} {count : Nat}
    {act : Act σ ι A W D α} {next : α → Act σ ι A W D β} {post : β → Nat → Prop}
    (h : act.Keeps crew holder count) (rest : ∀ a, (next a).Guards crew holder count post) :
    (act >>= next).Guards crew holder count post :=
  .bind (Guards.mono h fun a n same => by subst same; exact rest a)

end Act

namespace Compositor

open Act

variable {σ ι A W D : Type} {crew : Crew σ ι A W D} {holder : Option Nat} {count k : Nat}

/-! ## Sizes, reports and inputs -/

theorem setSize_keeps (d : D) (size : Size) (inside : k < count) :
    (setSize crew k d size).Keeps crew (some k) count := by
  refine .bind (.askUnder rfl inside (.control _ _) fun answer => ?_)
  obtain ⟨result, d'⟩ := answer
  cases result with
  | ok _ => exact .pure rfl
  | error e => exact .bind (.say (.pure rfl))

theorem tellDisplay_keeps (size : Size) (inside : k < count) :
    (tellDisplay crew k size).Keeps crew (some k) count := by
  refine .bind (.compositor fun c _ => ?_)
  cases c.display? k with
  | none => exact .pure rfl
  | some d =>
    refine (setSize_keeps d size inside).andThen fun d' => ?_
    exact .bind (.changeRegion (fun _ => ⟨rfl, rfl⟩) (.pure rfl))

theorem resizeRegion_keeps (size : Size) (inside : k < count) :
    (resizeRegion crew k size).Keeps crew none count := by
  refine .withLock (.bind (.changeRegion (fun _ => ⟨rfl, rfl⟩) ?_)) inside
  refine (tellDisplay_keeps size inside).andThen fun told => ?_
  exact .bind (.callUnder rfl inside (.say rfl))

/-- An input is queued whatever lock is held: nothing is asked of anybody. -/
theorem report_input_keeps (k : Nat) (event : InputEvent) :
    (report crew k (.input event)).Keeps crew holder count :=
  .bind (.reported (.modifyCompositor (fun _ => rfl) rfl))

theorem report_keeps (k : Nat) (event : WindowEvent) :
    (report crew k event).Keeps crew none count := by
  cases event with
  | input event => exact report_input_keeps k event
  | resized size =>
    refine .bind (.reported (.bind (.compositor fun c length => ?_)))
    split
    · rename_i inside
      exact resizeRegion_keeps size (length ▸ inside)
    · exact .say rfl

theorem reportAll_keeps (reports : List (Nat × WindowEvent)) :
    (reportAll crew reports).Keeps crew none count := by
  induction reports with
  | nil => exact .pure rfl
  | cons head rest ih => exact (report_keeps head.1 head.2).andThen fun _ => ih

theorem reportInputs_keeps (k : Nat) (events : List InputEvent) :
    (reportInputs crew k events).Keeps crew holder count := by
  induction events with
  | nil => exact .pure rfl
  | cons event rest ih => exact (report_input_keeps k event).andThen fun _ => ih

theorem reportShowing_keeps (stage : FrameStage) (k : Nat) :
    (reportShowing crew stage k).Keeps crew holder count :=
  .bind (.env fun _ => reportInputs_keeps k _)

theorem forward_keeps (event : InputEvent) :
    (forward event : Act σ ι A W D Unit).Keeps crew none count := by
  refine .bind (.compositor fun c _ => ?_)
  cases c.parent with
  | none => exact .say rfl
  | some p =>
    refine .bind (.call rfl ?_)
    split
    · exact .modifyCompositor (fun _ => rfl) rfl
    · exact .say rfl

theorem handle_keeps (input : RegionInput) : (handle crew input).Keeps crew none count := by
  obtain ⟨k, event⟩ := input
  cases event with
  | mouse event =>
    refine .bind (.compositor fun c _ => ?_)
    cases c.algorithm with
    | none => exact .pure rfl
    | some a =>
      refine .bind (.ask rfl (.locate _ _ _) fun answer => ?_)
      obtain ⟨located, a'⟩ := answer
      refine .bind (.modifyCompositor (fun _ => rfl) (.bind (.answered ?_)))
      cases located with
      | none => exact .say rfl
      | some moved => exact .bind (.modifyCompositor (fun _ => rfl) (forward_keeps _))
  | key | closeRequested => exact .bind (.say (forward_keeps _))

theorem handleAll_keeps (inputs : List RegionInput) :
    (handleAll crew inputs).Keeps crew none count := by
  induction inputs with
  | nil => exact .pure rfl
  | cons input rest ih =>
    exact .bind (.modifyCompositor (fun _ => rfl) ((handle_keeps input).andThen fun _ => ih))

theorem drain_keeps : (drain crew).Keeps crew none count :=
  .bind (.compositor fun _ _ => (handleAll_keeps _).andThen fun _ => .pure rfl)

/-! ## Pictures and control queries -/

theorem putPicture_keeps (k : Nat) (picture : Option Picture) :
    (putPicture k picture : Act σ ι A W D Unit).Keeps crew holder count :=
  .bind (.compositor fun _ _ => .bind (.modifyCompositor (fun _ => rfl) (.release rfl)))

theorem prepareRegion_keeps (overlay : Option Overlay) (date : Tick) (picture : Picture)
    (inside : k < count) :
    (prepareRegion crew overlay date k picture).Keeps crew none count := by
  refine .withLock (.bind (.compositor fun c _ => ?_)) inside
  cases c.display? k with
  | none => exact .pure rfl
  | some d =>
    -- The inputs that come in meanwhile are queued under the lock.
    refine .bind (.ledger fun l => .bind (.askWhileUnder rfl inside (.prepare _ _ _ _)
      (reportShowing_keeps .prepare k) fun d' => ?_))
    exact .bind (.changeRegion (fun _ => ⟨rfl, rfl⟩) (.pure rfl))

theorem fillSlot_keeps (overlay : Option Overlay) (date : Tick) (picture : Option Picture)
    (inside : k < count) : (fillSlot crew overlay date k picture).Keeps crew none count := by
  refine (putPicture_keeps k picture).andThen fun _ => ?_
  cases picture with
  | none => exact .pure rfl
  | some picture =>
    refine (prepareRegion_keeps overlay date picture inside).andThen fun prepared => ?_
    cases prepared with
    | true => exact .pure rfl
    | false => exact putPicture_keeps k none

theorem fillSlots_keeps (overlay : Option Overlay) (date : Tick) {left : Nat} (slots : Slots)
    (inside : k + left ≤ count) :
    (fillSlots crew overlay date left k slots).Keeps crew none count := by
  induction left generalizing k slots with
  | zero => exact .pure rfl
  | succ left ih =>
    have fill : (guarding (releaseSlots slots.tail)
        (fillSlot crew overlay date k slots.head?.join)).Keeps crew none count :=
      .guarding (fillSlot_keeps overlay date _ (by omega)) fun _ => .releaseSlots trivial
    exact fill.andThen fun _ => ih slots.tail (by omega)

theorem split_keeps (a : A) (picture : Picture) (date : Tick) :
    (split crew a picture date).Keeps crew none count := by
  refine .bind (.modifyLedger (.bind (.ledger fun l => .bind (.ask rfl (.filter _ _) ?_))))
  rintro ⟨result, a'⟩
  refine .bind (.modifyCompositor (fun _ => rfl) (.bind (.answered ?_)))
  cases result with
  | ok slots => exact .pure rfl
  | error cause => exact .bind (.say (.pure rfl))

theorem prepare_keeps (picture : Picture) (overlay : Option Overlay) (date : Tick) :
    (prepare crew picture overlay date).Keeps crew none count := by
  refine drain_keeps.andThen fun _ => .bind (.compositor fun c _ => ?_)
  cases c.algorithm with
  | none => exact .pure rfl
  | some a =>
    refine (split_keeps a picture date).andThen fun slots => ?_
    refine .bind (.compositor fun c length => ?_)
    have fill : (fillSlots crew overlay date c.regions.length 0 slots >>=
        releaseSlots).Keeps crew none count :=
      (fillSlots_keeps overlay date slots (by omega)).andThen fun left => .releaseSlots rfl
    dsimp only
    split
    · exact .bind (.say fill)
    · exact fill

theorem displayRegion_keeps (inside : k < count) :
    (displayRegion crew k).Keeps crew none count := by
  refine .bind (.compositor fun c _ => .bind (.modifyCompositor (fun _ => rfl) ?_))
  refine .withLock (.bind (.compositor fun c' _ => ?_)) inside
  split
  · refine .bind (.ledger fun l => .bind (.askWhileUnder rfl inside (.display _ _)
      (reportShowing_keeps .display k) fun d' => ?_))
    exact .bind (.changeRegion (fun _ => ⟨rfl, rfl⟩) (.release rfl))
  · exact .release rfl

theorem displayFrom_keeps {left : Nat} (inside : k + left ≤ count) :
    (displayFrom crew left k).Keeps crew none count := by
  induction left generalizing k with
  | zero => exact .pure rfl
  | succ left ih => exact (displayRegion_keeps (by omega)).andThen fun _ => ih (by omega)

theorem display_keeps : (display crew).Keeps crew none count :=
  .bind (.compositor fun _ _ => displayFrom_keeps (by omega))

theorem resizeFrom_keeps (a : A) (placement : Placement) (k : Nat) (outputs : List Output) :
    (resizeFrom crew a placement k outputs).Keeps crew none count := by
  induction outputs generalizing k with
  | nil => exact .pure rfl
  | cons output rest ih =>
    refine .bind (.compositor fun c length => ?_)
    split
    · rename_i inside
      refine .bind (.consult rfl ?_)
      exact (resizeRegion_keeps _ (length ▸ inside)).andThen fun _ => ih (k + 1)
    · exact .pure rfl

theorem control_keeps (query : ControlQuery) : (control crew query).Keeps crew none count := by
  cases query with
  | displaySize size =>
    refine .bind (.say (.bind (.modifyCompositor (fun _ => rfl) ?_)))
    refine .bind (.compositor fun c _ => ?_)
    cases c.algorithm with
    | none => exact .pure rfl
    | some a => exact (resizeFrom_keeps a _ 0 _).andThen fun _ => .pure rfl
  | unknown code => exact .bind (.say (.pure rfl))
  | sourceAspect | sourceCrop | sourcePlace => exact .bind (.say (.pure rfl))

/-! ## Closing -/

theorem dropWindow_keeps (k : Nat) (window : W) :
    (dropWindow crew k window).Keeps crew none count :=
  .ask rfl (.dropWindow _) fun _ => rfl

theorem destroyWindow_keeps (k : Nat) (window : W) :
    (destroyWindow crew k window).Keeps crew none count :=
  .bind (.ask rfl (.disable _) fun window' => dropWindow_keeps k window')

theorem destroyDisplay_keeps (d : D) (inside : k < count) :
    (destroyDisplay crew k d).Keeps crew (some k) count := by
  refine .bind (.askUnder rfl inside (.close _) fun d' => ?_)
  exact .askUnder rfl inside (.dropDisplay _) fun _ => rfl

/-- The display goes under the lock, the window once it was given back. -/
theorem teardown_keeps (inside : k < count) : (teardown crew k).Keeps crew none count := by
  have take : Keeps crew (some k) count (do
      let window := (← compositor).window? k
      changeRegion k fun r => { r with window := none }
      return window) :=
    .bind (.compositor fun c _ => .bind (.changeRegion (fun _ => ⟨rfl, rfl⟩) (.pure rfl)))
  refine Keeps.andThen (.withLock (.bind (.compositor fun c _ => ?_)) inside) fun window => ?_
  · cases c.display? k with
    | none => exact take
    | some d =>
      refine .bind (.changeRegion (fun _ => ⟨rfl, rfl⟩) ?_)
      exact (destroyDisplay_keeps d inside).andThen fun _ => .bind (.say take)
  · cases window with
    | none => exact .pure rfl
    | some window => exact (destroyWindow_keeps k window).andThen fun _ => .say rfl

/-- So many regions are torn down and removed, which leaves none. -/
theorem teardownLast_guards (crew : Crew σ ι A W D) (count : Nat) :
    (teardownLast crew count).Guards crew none count fun _ n => n = 0 := by
  induction count with
  | zero => exact .pure rfl
  | succ count ih =>
    have remove : (modifyCompositor fun c => { c with regions := c.regions.take count } :
        Act σ ι A W D Unit).Guards crew none (count + 1) fun _ n => n = count := by
      intro s orderly length
      refine ⟨⟨?_, orderly.calls⟩, by simp [length]⟩
      exact under_none_iff.mpr ((under_none_iff.mp orderly.under).take count)
    refine (teardown_keeps count.lt_succ_self).andThen fun _ => ?_
    exact .bind (remove.mono fun _ n same => by subst same; exact ih)

theorem releaseAlgorithm_keeps : (releaseAlgorithm crew).Keeps crew none count := by
  refine .bind (.compositor fun c _ => ?_)
  cases c.algorithm with
  | none => exact .pure rfl
  | some a =>
    exact .bind (.modifyCompositor (fun _ => rfl) (.bind (.ask rfl (.drop a) fun _ => .say rfl)))

theorem close_guards (crew : Crew σ ι A W D) (count : Nat) :
    (close crew).Guards crew none count fun _ _ => True := by
  refine .bind (.compositor fun c length => ?_)
  split
  · exact .pure trivial
  · refine .bind (.modifyCompositor (fun _ => rfl) (.bind (.releaseSlots ?_)))
    rw [length]
    refine .bind ((teardownLast_guards crew count).mono fun _ n _ => ?_)
    refine .bind (.modifyCompositor (fun _ => rfl) ?_)
    exact releaseAlgorithm_keeps.andThen fun _ => .modifyCompositor (fun _ => rfl) trivial

/-- Every operation keeps the discipline. -/
theorem perform_guards (crew : Crew σ ι A W D) (operation : Operation) :
    (operation.perform crew).Guards crew none count fun _ _ => True := by
  cases operation with
  | prepare picture overlay date =>
    exact (prepare_keeps picture overlay date).mono fun _ _ _ => trivial
  | display => exact display_keeps.mono fun _ _ _ => trivial
  | control query => exact (control_keeps query).andThen fun _ => .pure trivial
  | drain => exact drain_keeps.andThen fun _ => .pure trivial
  | report k event => exact (report_keeps k event).mono fun _ _ _ => trivial
  | close => exact close_guards crew count

/-! ## Opening -/

theorem stepFailed_keeps (policy : FailurePolicy) (k : Nat) (stage : RegionStage)
    (cause : Cause) :
    (stepFailed policy k stage cause : Act σ ι A W D _).Keeps crew none count := by
  cases policy with
  | tolerate => exact .bind (.say (.pure rfl))
  | abort => exact .pure rfl

theorem reportOpening_keeps (stage : RegionStage) (k : Nat) :
    (reportOpening crew stage k).Keeps crew none count :=
  .bind (.env fun _ => reportAll_keeps _)

/-- While a region is set up, the others are asked outside of all locks. -/
theorem attempt_keeps {α : Type} {task : Run σ ι α} {asked : Call} (takes : asked.guards = [])
    (stage : RegionStage) (k : Nat) (does : crew.Does task) :
    (askWhile asked (reportOpening crew stage k) task).Keeps crew none count :=
  .askWhile takes does (reportOpening_keeps stage k) fun _ => rfl

theorem adopt_keeps (output : Output) (requested : Size) (window : W) (d : D)
    (inside : k < count) : (adopt crew output k requested window d).Keeps crew none count := by
  refine .withLock (.bind (.compositor fun c _ => ?_)) inside
  dsimp only
  have put (display : D) (size : Size) : Keeps crew (some k) count (do
      changeRegion k fun r => { r with display := some display, window := some window }
      say (.regionReady k output.module size) : Act σ ι A W D Unit) :=
    .bind (.changeRegion (fun _ => ⟨rfl, rfl⟩) (.say rfl))
  split
  · exact .bind (.pure (put _ _))
  · exact (setSize_keeps d _ inside).andThen fun d' => put d' _

theorem openDisplay_keeps (policy : FailurePolicy) (output : Output) (settings : WindowSettings)
    (window : W) (inside : k < count) :
    (openDisplay crew policy output k settings window).Keeps crew none count := by
  have attempt : Keeps crew none count (guarding (dropWindow crew k window)
      (askWhile (.newDisplay k ⟨k, output.module, output.format, settings⟩)
        (reportOpening crew .display k)
        (crew.backend.newDisplay k ⟨k, output.module, output.format, settings⟩))) :=
    .guarding (attempt_keeps rfl .display k (.newDisplay _ _)) fun _ =>
      (dropWindow_keeps k window).mono fun _ _ _ => trivial
  refine attempt.andThen fun result => .bind (.answered ?_)
  cases result with
  | ok display => exact (adopt_keeps output _ window display inside).andThen fun _ => .pure rfl
  | error cause =>
    cases policy with
    | tolerate =>
      refine .bind (.withLock (.changeRegion (fun _ => ⟨rfl, rfl⟩) ?_) inside)
      exact stepFailed_keeps _ _ _ _
    | abort => exact (destroyWindow_keeps k window).andThen fun _ => stepFailed_keeps _ _ _ _

theorem openWindow_keeps (policy : FailurePolicy) (output : Output) (settings : WindowSettings)
    (inside : k < count) :
    (openWindow crew policy output k settings).Keeps crew none count := by
  refine (attempt_keeps rfl .window k (.newWindow _ _)).andThen fun result => .bind (.answered ?_)
  cases result with
  | error cause => exact stepFailed_keeps _ _ _ _
  | ok window =>
    have attempt : Keeps crew none count (guarding (dropWindow crew k window)
        (askWhile (.enable k settings) (reportOpening crew .enable k)
          (crew.backend.enable window settings))) :=
      .guarding (attempt_keeps rfl .enable k (.enable _ _)) fun _ =>
        (dropWindow_keeps k window).mono fun _ _ _ => trivial
    refine attempt.andThen fun answer => .bind (.answered ?_)
    obtain ⟨result, window'⟩ := answer
    cases result with
    | error cause => exact (dropWindow_keeps k _).andThen fun _ => stepFailed_keeps _ _ _ _
    | ok _ => exact openDisplay_keeps policy output settings window' inside

/-- A region is added, and its lock is free before and after it is set up. -/
theorem openRegion_guards (settings : SplitSettings) (a : A) (output : Output) :
    (openRegion crew settings a k output).Guards crew none k fun _ n => n = k + 1 := by
  refine .bind (.compositor fun c _ => .bind (.consult rfl ?_))
  have add (size : Size) : (modifyCompositor fun c =>
      { c with regions := c.regions ++ [.bare k size] } : Act σ ι A W D Unit).Guards crew none k
        fun _ n => n = k + 1 := by
    rintro s orderly rfl
    refine ⟨⟨under_none_iff.mpr ?_, orderly.calls⟩, by simp⟩
    exact (under_none_iff.mp orderly.under).addBare size
  refine .bind ((add _).mono fun _ n more => ?_)
  subst more
  split
  · exact openWindow_keeps _ output _ k.lt_succ_self
  · exact .bind (.say (.pure rfl))

theorem openRegions_guards (settings : SplitSettings) (a : A) (outputs : List Output) :
    (openRegions crew settings a k outputs).Guards crew none k fun _ _ => True := by
  induction outputs generalizing k with
  | nil => exact .pure trivial
  | cons output rest ih =>
    refine .bind ((openRegion_guards settings a output).mono fun result n more => ?_)
    subst more
    cases result with
    | error e => exact .pure trivial
    | ok _ => exact ih

theorem populate_guards (crew : Crew σ ι A W D) (settings : SplitSettings) (a : A) :
    (populate crew settings a).Guards crew none 0 fun _ _ => True := by
  refine .bind (.compositor fun c _ => ?_)
  refine .bind ((Guards.guarding (openRegions_guards settings a c.outputs)
    (close_guards crew)).mono fun result n _ => ?_)
  cases result with
  | ok _ => exact .bind (.compositor fun _ _ => .bind (.say (.pure trivial)))
  | error e =>
    refine .bind (.say (.bind ((close_guards crew n).mono fun _ _ _ => .pure trivial)))

/-! ## Whole lives -/

/-- What an operation leaves behind, whether it comes to an end or a fault breaks it off. -/
def Operation.over (crew : Crew σ ι A W D) (s : Running σ ι A W D) (operation : Operation) :
    Running σ ι A W D :=
  match operation.perform crew s with
  | .ok _ t | .error _ t => t

/-- What operations in their order leave behind, each whatever came of those before it. -/
def overAll (crew : Crew σ ι A W D) (operations : List Operation) (s : Running σ ι A W D) :
    Running σ ι A W D :=
  operations.foldl (Operation.over crew) s

/-- The law of locks between operations. As nobody waits for a lock that is held, a fault that
breaks off the next operation is one that the others raise. -/
structure LockLaw (crew : Crew σ ι A W D) (s : Running σ ι A W D) : Prop where
  free : s.compositor.lockedRegions = []
  calls : Disciplined s.world.signs
  faults : ∀ (operation : Operation) (fault : Fault) (t : Running σ ι A W D),
    operation.perform crew s = .error fault t → crew.Raises fault

variable {s : Running σ ι A W D}

theorem over_orderly (crew : Crew σ ι A W D) (operation : Operation) (orderly : s.Orderly none) :
    (operation.over crew s).Orderly none := by
  have guards := perform_guards crew operation s orderly rfl
  rw [Operation.over]
  cases run : operation.perform crew s with
  | ok _ t =>
    rw [run] at guards
    exact guards.1
  | error _ t =>
    rw [run] at guards
    exact guards.1

theorem overAll_orderly (crew : Crew σ ι A W D) (operations : List Operation)
    (orderly : s.Orderly none) : (overAll crew operations s).Orderly none := by
  induction operations generalizing s with
  | nil => exact orderly
  | cons operation rest ih => exact ih (over_orderly crew operation orderly)

theorem lockLaw_of_orderly (orderly : s.Orderly none) : LockLaw crew s where
  free := (under_none_iff.mp orderly.under).lockedRegions_eq_nil
  calls := orderly.calls
  faults := by
    intro operation fault t run
    have guards := perform_guards crew operation s orderly rfl
    rw [run] at guards
    exact guards.2

section Start

variable (crew : Crew σ ι A W D) (settings : SplitSettings) (source : VideoFormat)
variable (parent : Option ParentWindow)

/-- Giving the outputs of an algorithm their regions keeps the law, also where it is given up. -/
theorem openWith_orderly (algorithm : A) {w : World σ (Happening ι)} (silent : w.signs = []) :
    match openWith crew settings source parent algorithm w with
    | .ok (.ok c) w' => (⟨c, w'⟩ : Running σ ι A W D).Orderly none
    | .ok (.error _) w' => Disciplined w'.signs
    | .error fault w' => Disciplined w'.signs ∧ crew.Raises fault := by
  have orderly : (⟨unpopulated crew settings source.upright algorithm parent, w⟩ :
      Running σ ι A W D).Orderly none :=
    ⟨under_none_iff.mpr unpopulated_tidy, .of_silent silent⟩
  have guards := populate_guards crew settings algorithm _ orderly rfl
  simp only [openWith, bind, EStateM.bind, runIn]
  cases run : populate crew settings algorithm
      ⟨unpopulated crew settings source.upright algorithm parent, w⟩ with
  | error fault t =>
    rw [run] at guards
    exact ⟨guards.1.calls, guards.2⟩
  | ok result t =>
    rw [run] at guards
    cases result with
    | ok _ => exact guards.1
    | error _ => exact guards.1.calls

/-- Locks are taken and given back by law in every opening, under either policy and whatever the
others answer or report, and from then on in every sequence of operations. -/
theorem open_keeps_lock_law (registry : Registry (Constructor σ ι A)) (env : σ)
    (ledger : Ledger) :
    match «open» crew registry settings source parent ⟨env, ledger, []⟩ with
    | .ok (.ok c) w => ∀ operations, LockLaw crew (overAll crew operations ⟨c, w⟩)
    | .ok (.error _) w => Disciplined w.signs
    | .error fault w => Disciplined w.signs ∧
        (crew.Raises fault ∨ MakingRaises registry settings source fault) := by
  cases known : registry.resolve? settings.algorithmName with
  | none =>
    simp only [«open», known, bind, EStateM.bind, announce_eq]
    exact .of_silent (World.signs_record _ _)
  | some construct =>
    cases ran : construct source.upright settings ⟨env, ledger, []⟩ with
    | error fault w =>
      obtain ⟨w', faulted, silent⟩ := open_of_unmade crew parent known ran
      rw [faulted]
      exact ⟨.of_silent silent, .inr ⟨construct, known, _, _, ran⟩⟩
    | ok made w =>
      cases made with
      | error cause =>
        obtain ⟨w', failed, silent⟩ := open_of_failed crew parent known ran
        rw [failed]
        exact .of_silent silent
      | ok algorithm =>
        rw [open_of_made crew parent known ran]
        have keeps := openWith_orderly crew settings source parent algorithm
          (signs_founded crew settings algorithm w)
        cases opened : openWith crew settings source parent algorithm
            (founded crew settings algorithm w) with
        | error fault w' =>
          rw [opened] at keeps
          exact ⟨keeps.1, .inl keeps.2⟩
        | ok result w' =>
          rw [opened] at keeps
          cases result with
          | error e => exact keeps
          | ok c =>
            exact fun operations => lockLaw_of_orderly (overAll_orderly crew operations keeps)

end Start

end Compositor

end Mosaic
