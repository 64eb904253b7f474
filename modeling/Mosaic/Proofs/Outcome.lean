import Mosaic.Proofs.Sign

/-!
# Outcomes of actions

What an action of a compositor comes to depends on the compositor, the environment and the
ledger of holds, and not on what was noted before: on the `View` of a running compositor.
`Act.Yields` says what an action started on a view comes to: its result, the signs it adds
and the view it ends with. Algorithms, windows and displays are free to raise faults; an
action that yields something raises none of its own.

There is one rule for each way in which actions are put together.

## Main definitions

* `View` — a running compositor without its trace
* `Crew.Does`, `Crew.Raises` — what the others do for a compositor, and the faults they raise
* `Act.Yields` — what an action comes to

## Main results

* `Yields.bind`, `Yields.ask`, `Yields.withLock` and their like — the rules
* `Yields.mono` — an action yields all that follows from what it yields
-/

set_option autoImplicit false

namespace Mosaic

/-- A running compositor without its trace. -/
structure View (σ A W D : Type) where
  compositor : Compositor A W D
  env : σ
  ledger : Ledger

/-- What is seen of a running compositor. -/
def Running.view {σ ι A W D : Type} (s : Running σ ι A W D) : View σ A W D :=
  ⟨s.compositor, s.world.env, s.world.ledger⟩

namespace View

variable {σ ι A W D : Type}

/-- The world in which one of the others acts. -/
def outside (v : View σ A W D) : World σ ι := ⟨v.env, v.ledger, []⟩

/-- The view once one of the others left the world as it is now. -/
def after (v : View σ A W D) (w : World σ ι) : View σ A W D := ⟨v.compositor, w.env, w.ledger⟩

/-- The view with another compositor. -/
def become (v : View σ A W D) (c : Compositor A W D) : View σ A W D := { v with compositor := c }

@[simp] theorem compositor_after (v : View σ A W D) (w : World σ ι) :
    (v.after w).compositor = v.compositor := rfl

@[simp] theorem compositor_become (v : View σ A W D) (c : Compositor A W D) :
    (v.become c).compositor = c := rfl

@[simp] theorem become_become (v : View σ A W D) (c c' : Compositor A W D) :
    (v.become c).become c' = v.become c' := rfl

@[simp] theorem become_compositor (v : View σ A W D) : v.become v.compositor = v := rfl

@[simp] theorem after_become (v : View σ A W D) (c : Compositor A W D) (w : World σ ι) :
    (v.become c).after w = (v.after w).become c := rfl

@[simp] theorem outside_become (v : View σ A W D) (c : Compositor A W D) :
    ((v.become c).outside : World σ ι) = v.outside := rfl

@[simp] theorem env_become (v : View σ A W D) (c : Compositor A W D) :
    (v.become c).env = v.env := rfl

@[simp] theorem ledger_become (v : View σ A W D) (c : Compositor A W D) :
    (v.become c).ledger = v.ledger := rfl

end View

/-- An action raises a fault in some world. -/
def Run.Faults {σ ι α : Type} (act : Run σ ι α) (fault : Fault) : Prop :=
  ∃ w w', act w = .error fault w'

namespace Crew

variable {σ ι A W D : Type}

/-- What an algorithm and a backend do for a compositor. -/
inductive Does (crew : Crew σ ι A W D) : {α : Type} → Run σ ι α → Prop
  | filter (a : A) (picture : Picture) : Does crew (crew.algorithm.filter a picture)
  | locate (a : A) (index : Nat) (event : MouseEvent) :
      Does crew (crew.algorithm.locate a index event)
  | drop (a : A) : Does crew (crew.algorithm.drop a)
  | newWindow (index : Nat) (settings : WindowSettings) :
      Does crew (crew.backend.newWindow index settings)
  | enable (window : W) (settings : WindowSettings) :
      Does crew (crew.backend.enable window settings)
  | disable (window : W) : Does crew (crew.backend.disable window)
  | dropWindow (window : W) : Does crew (crew.backend.dropWindow window)
  | newDisplay (index : Nat) (request : DisplayRequest) :
      Does crew (crew.backend.newDisplay index request)
  | prepare (display : D) (picture : Picture) (overlay : Option Overlay) (date : Tick) :
      Does crew (crew.backend.prepare display picture overlay date)
  | display (display : D) (picture : Picture) : Does crew (crew.backend.display display picture)
  | control (display : D) (query : ControlQuery) : Does crew (crew.backend.control display query)
  | close (display : D) : Does crew (crew.backend.close display)
  | dropDisplay (display : D) : Does crew (crew.backend.dropDisplay display)

/-- A fault that the algorithm, a window or a display raises. -/
def Raises (crew : Crew σ ι A W D) (fault : Fault) : Prop :=
  ∃ (α : Type) (act : Run σ ι α), crew.Does act ∧ act.Faults fault

end Crew

namespace Act

variable {σ ι A W D α β : Type} {crew : Crew σ ι A W D}

/-- Started on a view, an action comes to a result, adds signs and ends with a view for which
`post` holds, unless it breaks off with a fault that one of the others raises. -/
def Yields (crew : Crew σ ι A W D) (act : Act σ ι A W D α) (v : View σ A W D)
    (post : α → List Sign → View σ A W D → Prop) : Prop :=
  ∀ s : Running σ ι A W D, s.view = v →
    match act s with
    | .ok a t => ∃ new, t.world.signs = s.world.signs ++ new ∧ post a new t.view
    | .error fault _ => crew.Raises fault

namespace Yields

variable {act : Act σ ι A W D α} {v : View σ A W D}
variable {post post' : α → List Sign → View σ A W D → Prop}

/-- An action yields all that follows from what it yields. -/
theorem mono (h : act.Yields crew v post) (weaker : ∀ a new v', post a new v' → post' a new v') :
    act.Yields crew v post' := by
  intro s seen
  have yield := h s seen
  cases run : act s with
  | ok a t =>
    rw [run] at yield
    obtain ⟨new, signs, holds⟩ := yield
    exact ⟨new, signs, weaker _ _ _ holds⟩
  | error fault t =>
    rw [run] at yield
    exact yield

/-- What an action yields in two ways it yields at once: its signs are the same in both. -/
theorem both (h : act.Yields crew v post) (h' : act.Yields crew v post') :
    act.Yields crew v fun a new v' => post a new v' ∧ post' a new v' := by
  intro s seen
  have yield := h s seen
  have yield' := h' s seen
  cases run : act s with
  | ok a t =>
    rw [run] at yield yield'
    obtain ⟨new, signs, holds⟩ := yield
    obtain ⟨new', signs', holds'⟩ := yield'
    obtain rfl : new = new' := List.append_cancel_left (signs.symm.trans signs')
    exact ⟨new, signs, holds, holds'⟩
  | error fault t =>
    rw [run] at yield
    exact yield

/-- What an action yields together with what is known of the end of each of its runs. -/
theorem ended {last : View σ A W D → Prop} (h : act.Yields crew v post)
    (runs : ∀ s a t, s.view = v → act s = .ok a t → last t.view) :
    act.Yields crew v fun a new v' => post a new v' ∧ last v' := by
  intro s seen
  have yield := h s seen
  cases run : act s with
  | ok a t =>
    rw [run] at yield
    obtain ⟨new, signs, holds⟩ := yield
    exact ⟨new, signs, holds, runs s a t seen run⟩
  | error fault t =>
    rw [run] at yield
    exact yield

theorem pure {a : α} (h : post a [] v) : (Pure.pure a : Act σ ι A W D α).Yields crew v post := by
  intro s seen
  exact ⟨[], (List.append_nil _).symm, seen ▸ h⟩

/-- One action after another: the second starts where the first ends, and their signs come one
after the other. -/
theorem bind {next : α → Act σ ι A W D β} {post : β → List Sign → View σ A W D → Prop}
    (h : act.Yields crew v fun a new v' =>
      (next a).Yields crew v' fun b more => post b (new ++ more)) :
    (act >>= next).Yields crew v post := by
  intro s seen
  have first := h s seen
  simp only [Bind.bind, EStateM.bind]
  cases run : act s with
  | ok a t =>
    rw [run] at first
    obtain ⟨new, signs, rest⟩ := first
    -- The second action is only known on the view that the first one ends with.
    have second := rest t rfl
    cases run' : next a t with
    | ok b u =>
      rw [run'] at second
      obtain ⟨more, signs', holds⟩ := second
      simp only [run']
      exact ⟨new ++ more, by rw [signs', signs, List.append_assoc], holds⟩
    | error fault u =>
      rw [run'] at second
      simpa only [run'] using second
  | error fault t =>
    rw [run] at first
    exact first

/-- An action put after another that yields something. -/
theorem andThen {next : α → Act σ ι A W D β} {post' : β → List Sign → View σ A W D → Prop}
    (h : act.Yields crew v post)
    (rest : ∀ a new v', post a new v' →
      (next a).Yields crew v' fun b more => post' b (new ++ more)) :
    (act >>= next).Yields crew v post' :=
  bind (h.mono rest)

theorem compositor {post : Compositor A W D → List Sign → View σ A W D → Prop}
    (h : post v.compositor [] v) : Act.compositor.Yields crew v post := by
  intro s seen
  subst seen
  exact ⟨[], (List.append_nil _).symm, h⟩

theorem ledger {post : Ledger → List Sign → View σ A W D → Prop}
    (h : post v.ledger [] v) : Act.ledger.Yields crew v post := by
  intro s seen
  subst seen
  exact ⟨[], (List.append_nil _).symm, h⟩

theorem env {post : σ → List Sign → View σ A W D → Prop}
    (h : post v.env [] v) : Act.env.Yields crew v post := by
  intro s seen
  subst seen
  exact ⟨[], (List.append_nil _).symm, h⟩

section Units

variable {post : Unit → List Sign → View σ A W D → Prop}

theorem modifyCompositor {f : Compositor A W D → Compositor A W D}
    (h : post () [] (v.become (f v.compositor))) :
    (Act.modifyCompositor f).Yields crew v post := by
  intro s seen
  subst seen
  exact ⟨[], (List.append_nil _).symm, h⟩

theorem changeRegion {k : Nat} {f : Region W D → Region W D}
    (h : post () [] (v.become (v.compositor.modifyRegion k f))) :
    (Act.changeRegion k f).Yields crew v post :=
  modifyCompositor h

theorem modifyLedger {f : Ledger → Ledger} (h : post () [] { v with ledger := f v.ledger }) :
    (Act.onWorld (Run.modifyLedger f)).Yields crew v post := by
  intro s seen
  subst seen
  exact ⟨[], (List.append_nil _).symm, h⟩

/-- Noting something adds the sign it gives. -/
theorem record {item : Happening ι} (h : post () item.sign?.toList v) :
    (Act.onWorld (Run.record item)).Yields crew v post := by
  intro s seen
  subst seen
  exact ⟨_, s.world.signs_record item, h⟩

theorem say {notice : Notice} (h : post () [] v) : (Act.say notice).Yields crew v post :=
  record h

theorem answered {answer : Answer} (h : post () [.answered answer] v) :
    (Act.answered answer).Yields crew v post :=
  record h

theorem reported {k : Nat} {event : WindowEvent} (h : post () [.reported k event] v) :
    (Act.reported k event).Yields crew v post :=
  record h

theorem call {c : Call} (h : post () [.called c v.compositor.lockedRegions] v) :
    (Act.call c).Yields crew v post :=
  bind (compositor (record h))

end Units

/-- What one of the others does gives no sign of the compositor, and leaves it as it is. -/
theorem collaborate {task : Run σ ι α} (does : crew.Does task)
    (h : ∀ a w, task v.outside = .ok a w → post a [] (v.after w)) :
    (Act.collaborate task).Yields crew v post := by
  intro s seen
  subst seen
  -- The others see an empty trace, so what they do depends on the view alone.
  have seen : task ⟨s.world.env, s.world.ledger, []⟩ = task s.view.outside := rfl
  simp only [Act.collaborate, Act.onWorld, Run.within, seen]
  cases run : task s.view.outside with
  | ok a w =>
    exact ⟨[], (s.world.signs_inside w.env w.ledger w.trace).trans (List.append_nil _).symm,
      h a w run⟩
  | error fault w => exact ⟨α, task, does, _, _, run⟩

/-- Who is asked leaves the sign of the call, and what it does gives no other sign. -/
theorem ask {c : Call} {task : Run σ ι α} (does : crew.Does task)
    (h : ∀ a w, task v.outside = .ok a w →
      post a [.called c v.compositor.lockedRegions] (v.after w)) :
    (Act.ask c task).Yields crew v post :=
  bind (call (collaborate does h))

/-- What is reported before a call is answered comes after the sign of the call. -/
theorem askWhile {c : Call} {meanwhile : Act σ ι A W D Unit} {task : Run σ ι α}
    (does : crew.Does task)
    (h : meanwhile.Yields crew v fun _ new v' => ∀ a w, task v'.outside = .ok a w →
      post a (.called c v.compositor.lockedRegions :: new) (v'.after w)) :
    (Act.askWhile c meanwhile task).Yields crew v post := by
  refine bind (call (bind (h.mono fun _ new v' rest => collaborate does fun a w ran => ?_)))
  simpa using rest a w ran

theorem consult {c : Call} {answer : α}
    (h : post answer [.called c v.compositor.lockedRegions] v) :
    (Act.consult c answer).Yields crew v post :=
  bind (call (pure h))

/-- A lock that is free is held for the length of the action and then given back. -/
theorem withLock {k : Nat} {region : Region W D} (here : v.compositor.regions[k]? = some region)
    (free : region.locked = false)
    (h : act.Yields crew
      (v.become (v.compositor.modifyRegion k fun r => { r with locked := true }))
      fun a new v' =>
        post a new (v'.become (v'.compositor.modifyRegion k fun r => { r with locked := false }))) :
    (Act.withLock k act).Yields crew v post := by
  intro s seen
  subst seen
  -- The action runs with the lock marked as held, and the mark is taken off its result.
  have marked := h
    { s with compositor := s.compositor.modifyRegion k fun r => { r with locked := true } } rfl
  have here : s.compositor.regions[k]? = some region := here
  simp only [Act.withLock, here, free, Bool.false_eq_true, if_false]
  cases run : act
      { s with compositor := s.compositor.modifyRegion k fun r => { r with locked := true } } with
  | ok a t =>
    rw [run] at marked
    exact marked
  | error fault t =>
    rw [run] at marked
    exact marked

/-- What is no region has no lock. -/
theorem withLock_of_absent {k : Nat} (absent : v.compositor.regions[k]? = none)
    (h : act.Yields crew v post) : (Act.withLock k act).Yields crew v post := by
  intro s seen
  subst seen
  have absent : s.compositor.regions[k]? = none := absent
  simp only [Act.withLock, absent]
  exact h s rfl

/-- What is put in order before a fault passes on changes nothing for a run without a fault. -/
theorem guarding {cleanup : Act σ ι A W D Unit} (h : act.Yields crew v post) :
    (Act.guarding cleanup act).Yields crew v post := by
  intro s seen
  have yield := h s seen
  rw [Act.guarding]
  cases run : act s with
  | ok a t =>
    rw [run] at yield
    exact yield
  | error fault t =>
    rw [run] at yield
    -- Whether or not the cleanup raises another fault, the first one passes on.
    cases last : cleanup t <;> simpa only [last] using yield

end Yields

end Act

end Mosaic
