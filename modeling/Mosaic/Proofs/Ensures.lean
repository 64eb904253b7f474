import Mosaic.Proofs.Regions

/-!
# Actions that come to an end

`Act.Yields` leaves it open whether one of the others raises a fault. Where those that an
action works with are known not to, the action comes to an end in every world, and
`Act.Ensures` says so. It also says what happens inside the calls meanwhile, which gives no
sign of the compositor itself.

There is one rule for each way in which actions are put together, as for `Act.Yields`.

## Main definitions

* `World.inner` — what happened inside calls
* `Run.Ends` — what one of the others comes to
* `Act.Ensures` — what an action comes to

## Main results

* `Ensures.bind`, `Ensures.ask`, `Ensures.withLock` and their like — the rules
-/

set_option autoImplicit false

namespace Mosaic

/-- What happened inside a call, if an entry tells of that. -/
def Happening.inside? {ι : Type} : Happening ι → Option ι
  | .inside item => some item
  | .said _ | .called _ _ | .answered _ | .reported _ _ => none

section Inside

variable {ι : Type}

/-- What happened inside calls, of several things that happened. -/
def insideOf (items : List (Happening ι)) : List ι := items.filterMap Happening.inside?

@[simp] theorem insideOf_nil : insideOf ([] : List (Happening ι)) = [] := rfl

@[simp] theorem insideOf_append (items more : List (Happening ι)) :
    insideOf (items ++ more) = insideOf items ++ insideOf more :=
  List.filterMap_append

@[simp] theorem insideOf_map_inside (items : List ι) : insideOf (items.map .inside) = items := by
  rw [insideOf, List.filterMap_map]
  exact List.filterMap_some

theorem insideOf_singleton {item : Happening ι} (outside : item.inside? = none) :
    insideOf [item] = [] := by
  rw [insideOf, List.filterMap_cons_none outside, List.filterMap_nil]

end Inside

namespace World

variable {σ ι : Type}

theorem history_record (w : World σ ι) (item : ι) : (w.record item).history = w.history ++ [item] :=
  List.reverse_cons

/-- What happened inside calls, in order of time. -/
def inner (w : World σ (Happening ι)) : List ι := insideOf w.history

theorem history_inside (w : World σ (Happening ι)) (env : σ) (ledger : Ledger)
    (items : List ι) :
    (⟨env, ledger, items.map .inside ++ w.trace⟩ : World σ (Happening ι)).history =
      w.history ++ items.reverse.map .inside := by
  rw [history, List.reverse_append, ← List.map_reverse, history]

end World

/-- In every world one of the others comes to a result and an end, and notes some items. -/
def Run.Ends {σ ι α : Type} (act : Run σ ι α) (post : α → List ι → Prop) : Prop :=
  ∀ w : World σ ι, ∃ a items w', act w = .ok a w' ∧ w'.history = w.history ++ items ∧ post a items

namespace Run.Ends

variable {σ ι α β : Type} {act : Run σ ι α} {post post' : α → List ι → Prop}

theorem mono (h : act.Ends post) (weaker : ∀ a items, post a items → post' a items) :
    act.Ends post' := by
  intro w
  obtain ⟨a, items, w', ran, noted, holds⟩ := h w
  exact ⟨a, items, w', ran, noted, weaker _ _ holds⟩

theorem pure {a : α} (h : post a []) : (Pure.pure a : Run σ ι α).Ends post :=
  fun w => ⟨a, [], w, rfl, (List.append_nil _).symm, h⟩

theorem bind {next : α → Run σ ι β} {post : β → List ι → Prop}
    (h : act.Ends fun a items => (next a).Ends fun b more => post b (items ++ more)) :
    (act >>= next).Ends post := by
  intro w
  obtain ⟨a, items, w', ran, noted, rest⟩ := h w
  obtain ⟨b, more, w'', ran', noted', holds⟩ := rest w'
  refine ⟨b, items ++ more, w'', ?_, by rw [noted', noted, List.append_assoc], holds⟩
  simp only [Bind.bind, EStateM.bind, ran, ran']

theorem record {item : ι} {post : Unit → List ι → Prop} (h : post () [item]) :
    (Run.record item : Run σ ι Unit).Ends post :=
  fun w => ⟨(), [item], w.record item, rfl, w.history_record item, h⟩

end Run.Ends

namespace Act

variable {σ ι A W D α β : Type}

/-- Started with a compositor, an action comes to an end in every world. `post` holds of its
result, of what happens inside calls meanwhile, and of the compositor it ends with. -/
def Ensures (act : Act σ ι A W D α) (c : Compositor A W D)
    (post : α → List ι → Compositor A W D → Prop) : Prop :=
  ∀ w : World σ (Happening ι), ∃ a new c' w', act ⟨c, w⟩ = .ok a ⟨c', w'⟩ ∧
    w'.history = w.history ++ new ∧ post a (insideOf new) c'

namespace Ensures

variable {act : Act σ ι A W D α} {c : Compositor A W D}
variable {post post' : α → List ι → Compositor A W D → Prop}

theorem mono (h : act.Ensures c post) (weaker : ∀ a inner c', post a inner c' → post' a inner c') :
    act.Ensures c post' := by
  intro w
  obtain ⟨a, new, c', w', ran, noted, holds⟩ := h w
  exact ⟨a, new, c', w', ran, noted, weaker _ _ _ holds⟩

/-- What an action comes to in one world. -/
theorem run (h : act.Ensures c post) (w : World σ (Happening ι)) :
    ∃ a items c' w', act ⟨c, w⟩ = .ok a ⟨c', w'⟩ ∧ w'.inner = w.inner ++ items ∧
      post a items c' := by
  obtain ⟨a, new, c', w', ran, noted, holds⟩ := h w
  refine ⟨a, insideOf new, c', w', ran, ?_, holds⟩
  rw [World.inner, noted, insideOf_append, World.inner]

theorem pure {a : α} (h : post a [] c) : (Pure.pure a : Act σ ι A W D α).Ensures c post :=
  fun w => ⟨a, [], c, w, rfl, (List.append_nil _).symm, h⟩

theorem bind {next : α → Act σ ι A W D β} {post : β → List ι → Compositor A W D → Prop}
    (h : act.Ensures c fun a inner c' =>
      (next a).Ensures c' fun b more => post b (inner ++ more)) :
    (act >>= next).Ensures c post := by
  intro w
  obtain ⟨a, new, c', w', ran, noted, rest⟩ := h w
  obtain ⟨b, more, c'', w'', ran', noted', holds⟩ := rest w'
  refine ⟨b, new ++ more, c'', w'', ?_, by rw [noted', noted, List.append_assoc], ?_⟩
  · simp only [Bind.bind, EStateM.bind, ran, ran']
  · rwa [insideOf_append]

theorem andThen {next : α → Act σ ι A W D β} {post' : β → List ι → Compositor A W D → Prop}
    (h : act.Ensures c post)
    (rest : ∀ a inner c', post a inner c' →
      (next a).Ensures c' fun b more => post' b (inner ++ more)) :
    (act >>= next).Ensures c post' :=
  bind (h.mono rest)

theorem compositor {post : Compositor A W D → List ι → Compositor A W D → Prop}
    (h : post c [] c) : (Act.compositor : Act σ ι A W D _).Ensures c post :=
  fun w => ⟨c, [], c, w, rfl, (List.append_nil _).symm, h⟩

theorem ledger {post : Ledger → List ι → Compositor A W D → Prop} (h : ∀ l, post l [] c) :
    (Act.ledger : Act σ ι A W D _).Ensures c post :=
  fun w => ⟨w.ledger, [], c, w, rfl, (List.append_nil _).symm, h _⟩

theorem env {post : σ → List ι → Compositor A W D → Prop} (h : ∀ e, post e [] c) :
    (Act.env : Act σ ι A W D _).Ensures c post :=
  fun w => ⟨w.env, [], c, w, rfl, (List.append_nil _).symm, h _⟩

section Units

variable {post : Unit → List ι → Compositor A W D → Prop}

theorem modifyCompositor {f : Compositor A W D → Compositor A W D} (h : post () [] (f c)) :
    (Act.modifyCompositor f : Act σ ι A W D Unit).Ensures c post :=
  fun w => ⟨(), [], f c, w, rfl, (List.append_nil _).symm, h⟩

theorem changeRegion {k : Nat} {f : Region W D → Region W D}
    (h : post () [] (c.modifyRegion k f)) :
    (Act.changeRegion k f : Act σ ι A W D Unit).Ensures c post :=
  modifyCompositor h

theorem modifyLedger {f : Ledger → Ledger} (h : post () [] c) :
    (Act.onWorld (Run.modifyLedger f) : Act σ ι A W D Unit).Ensures c post :=
  fun w => ⟨(), [], c, { w with ledger := f w.ledger }, rfl, (List.append_nil _).symm, h⟩

theorem record {item : Happening ι} (outside : item.inside? = none) (h : post () [] c) :
    (Act.onWorld (Run.record item) : Act σ ι A W D Unit).Ensures c post := by
  intro w
  refine ⟨(), [item], c, w.record item, rfl, w.history_record item, ?_⟩
  rwa [insideOf_singleton outside]

theorem say {notice : Notice} (h : post () [] c) :
    (Act.say notice : Act σ ι A W D Unit).Ensures c post :=
  record rfl h

theorem answered {answer : Answer} (h : post () [] c) :
    (Act.answered answer : Act σ ι A W D Unit).Ensures c post :=
  record rfl h

theorem reported {k : Nat} {event : WindowEvent} (h : post () [] c) :
    (Act.reported k event : Act σ ι A W D Unit).Ensures c post :=
  record rfl h

theorem call {asked : Call} (h : post () [] c) :
    (Act.call asked : Act σ ι A W D Unit).Ensures c post :=
  bind (compositor (record rfl h))

/-- To let a picture go never fails. -/
theorem release {picture : Option Picture} (h : post () [] c) :
    (Act.release picture : Act σ ι A W D Unit).Ensures c post := by
  cases picture with
  | none => exact pure h
  | some picture => exact modifyLedger (f := fun l => l.release picture) h

theorem releaseSlots {slots : Slots} (h : post () [] c) :
    (Act.releaseSlots slots : Act σ ι A W D Unit).Ensures c post := by
  induction slots with
  | nil => exact pure h
  | cons slot rest ih => exact bind (release ih)

end Units

/-- What one of the others notes happens inside, and the compositor stays as it is. -/
theorem collaborate {task : Run σ ι α} {post' : α → List ι → Prop} (ends : task.Ends post')
    (h : ∀ a items, post' a items → post a items c) : (Act.collaborate task).Ensures c post := by
  intro w
  obtain ⟨a, items, w', ran, history, holds⟩ := ends ⟨w.env, w.ledger, []⟩
  refine ⟨a, items.map .inside, c, ⟨w'.env, w'.ledger, w'.trace.map .inside ++ w.trace⟩,
    ?_, ?_, ?_⟩
  · simp only [Act.collaborate, Act.onWorld, Run.within, ran]
  · have all : w'.trace.reverse = items := history
    rw [World.history_inside, all]
  · rw [insideOf_map_inside]
    exact h a items holds

/-- The call itself happens outside, so only what is done by who is asked is left. -/
theorem ask {asked : Call} {task : Run σ ι α} {post' : α → List ι → Prop} (ends : task.Ends post')
    (h : ∀ a items, post' a items → post a items c) : (Act.ask asked task).Ensures c post :=
  bind (call (collaborate ends h))

theorem askWhile {asked : Call} {meanwhile : Act σ ι A W D Unit} {task : Run σ ι α}
    {post' : α → List ι → Prop} (ends : task.Ends post')
    (h : meanwhile.Ensures c fun _ inner c' =>
      ∀ a items, post' a items → post a (inner ++ items) c') :
    (Act.askWhile asked meanwhile task).Ensures c post :=
  bind (call (bind (h.mono fun _ _ _ => collaborate ends)))

theorem consult {asked : Call} {answer : α} (h : post answer [] c) :
    (Act.consult asked answer : Act σ ι A W D α).Ensures c post :=
  bind (call (pure h))

/-- A lock that is free is held for the length of the action and then given back. -/
theorem withLock {k : Nat} {region : Region W D} (here : c.regions[k]? = some region)
    (free : region.locked = false)
    (h : act.Ensures (c.modifyRegion k fun r => { r with locked := true }) fun a inner c' =>
      post a inner (c'.modifyRegion k fun r => { r with locked := false })) :
    (Act.withLock k act).Ensures c post := by
  intro w
  obtain ⟨a, new, c', w', ran, noted, holds⟩ := h w
  refine ⟨a, new, _, w', ?_, noted, holds⟩
  simp only [Act.withLock, here, free, Bool.false_eq_true, if_false, ran]

/-- The lock of a region of a tidy compositor is free. -/
theorem underLock {k : Nat} {r : Region W D} (tidy : c.Tidy) (here : c.regions[k]? = some r)
    (h : act.Ensures (c.setRegion k { r with locked := true }) fun a inner c' =>
      post a inner (c'.modifyRegion k fun r => { r with locked := false })) :
    (Act.withLock k act).Ensures c post := by
  refine withLock here (tidy k r here).2 ?_
  rwa [Compositor.modifyRegion_eq_setRegion here]

/-- Where no fault comes up, what would be put in order before one passes on is not needed. -/
theorem guarding {cleanup : Act σ ι A W D Unit} (h : act.Ensures c post) :
    (Act.guarding cleanup act).Ensures c post := by
  intro w
  obtain ⟨a, new, c', w', ran, noted, holds⟩ := h w
  refine ⟨a, new, c', w', ?_, noted, holds⟩
  simp only [Act.guarding, ran]

end Ensures

end Act

end Mosaic
