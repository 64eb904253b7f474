import Mosaic.Proofs.Regions

/-!
# Steps of a compositor

What can happen to a compositor between its opening and its closing comes down to a few
steps: an input is queued or handled, a region takes a new size, a picture is split, a slot
is filled or shown. This file says once what each step does to the view and which signs it
gives. Every operation is a path of such steps, so a law of all runs is checked step by step.

Steps that touch no picture are *quiet*.

## Main definitions

* `Resizes`, `Handles`, `Splits`, `Fills`, `Shows` — the steps that involve the others
* `Reports`, `Adjusts`, `Quiet`, `Step` — all steps, each with the signs it gives
* `Path` — several steps, their signs one after the other

## Main results

* `Path.keeps` — what every step keeps, a path keeps
* `Quiet.tidy`, `Step.tidy` — steps leave a compositor tidy
-/

set_option autoImplicit false

namespace Mosaic

/-- The ledger once the hold on a picture is dropped, if there is a picture. -/
def Ledger.letGo (l : Ledger) : Option Picture → Ledger
  | none => l
  | some picture => l.release picture

@[simp] theorem Ledger.letGo_none (l : Ledger) : l.letGo none = l := rfl

@[simp] theorem Ledger.letGo_some (l : Ledger) (picture : Picture) :
    l.letGo (some picture) = l.release picture := rfl

namespace Compositor

variable {A W D : Type}

/-- The compositor with inputs of one window added to its queue. -/
def withQueued (c : Compositor A W D) (k : Nat) (events : List InputEvent) :
    Compositor A W D :=
  { c with queue := c.queue ++ events.map fun event => ⟨k, event⟩ }

/-- The compositor with another picture in the slot of a region. -/
def withSlot (c : Compositor A W D) (k : Nat) (picture : Option Picture) : Compositor A W D :=
  { c with pictures := c.pictures.set k picture }

/-- The compositor once its parent was told of an input. -/
def forwarded (c : Compositor A W D) (event : InputEvent) : Compositor A W D :=
  { c with parent := c.parent.map fun p => if p.listening then receive event p else p }

/-- What shows when the parent is told of an input. -/
def forwardSigns (c : Compositor A W D) (event : InputEvent) : List Sign :=
  match c.parent with
  | none => []
  | some _ => [.called (.report event) []]

@[simp] theorem withQueued_nil (c : Compositor A W D) (k : Nat) : c.withQueued k [] = c := by
  cases c
  simp [withQueued]

theorem withQueued_withQueued (c : Compositor A W D) (k : Nat) (events later : List InputEvent) :
    (c.withQueued k events).withQueued k later = c.withQueued k (events ++ later) := by
  simp [withQueued]

@[simp] theorem withQueued_setRegion (c : Compositor A W D) (k i : Nat) (r : Region W D)
    (events : List InputEvent) :
    (c.setRegion k r).withQueued i events = (c.withQueued i events).setRegion k r := rfl

@[simp] theorem withSlot_setRegion (c : Compositor A W D) (k i : Nat) (r : Region W D)
    (picture : Option Picture) :
    (c.setRegion k r).withSlot i picture = (c.withSlot i picture).setRegion k r := rfl

theorem display?_withSlot (c : Compositor A W D) (k i : Nat) (picture : Option Picture) :
    (c.withSlot k picture).display? i = c.display? i := rfl

theorem forwarded_of_parent_eq_none {c : Compositor A W D} (h : c.parent = none)
    (event : InputEvent) : c.forwarded event = c := by
  cases c
  cases h
  rfl

theorem forwarded_of_parent_eq_some {c : Compositor A W D} {p : ParentWindow}
    (h : c.parent = some p) (event : InputEvent) :
    c.forwarded event = { c with parent := some (if p.listening then receive event p else p) } := by
  rw [forwarded, h, Option.map_some]

end Compositor

namespace View

variable {σ A W D : Type}

/-- Puts a picture into the slot of a region; what was there is let go. -/
def put (v : View σ A W D) (k : Nat) (picture : Option Picture) : View σ A W D where
  compositor := v.compositor.withSlot k picture
  env := v.env
  ledger := v.ledger.letGo (v.compositor.picture? k)

/-- Takes one more hold on a picture. -/
def hold (v : View σ A W D) (picture : Picture) : View σ A W D :=
  { v with ledger := v.ledger.retain picture }

/-- Drops the holds on the pictures of some slots. -/
def letGoAll (v : View σ A W D) (slots : Slots) : View σ A W D :=
  { v with ledger := slots.foldl Ledger.letGo v.ledger }

end View

namespace Compositor

variable {σ ι A W D : Type}

variable (crew : Crew σ ι A W D)

/-- A region takes a new size, and its display is told. -/
inductive Resizes (k : Nat) (size : Size) : View σ A W D → List Sign → View σ A W D → Prop
  | unshown {v : View σ A W D} {r : Region W D} (here : v.compositor.regions[k]? = some r)
      (blank : r.display = none) :
      Resizes k size v [.called (.acknowledge k size) [k]]
        (v.become (v.compositor.setRegion k { r with size := size }))
  | shown {v : View σ A W D} {r : Region W D} {d d' : D} {result : Except DisplayError Unit}
      {w : World σ ι} (here : v.compositor.regions[k]? = some r) (display : r.display = some d)
      (ran : crew.backend.control d (.displaySize size) v.outside = .ok (result, d') w) :
      Resizes k size v
        [.called (.control k (.displaySize size)) [k], .called (.acknowledge k size) [k]]
        ((v.after w).become
          (v.compositor.setRegion k { r with size := size, display := some d' }))

/-- An input that was taken off the queue is handled. -/
inductive Handles : RegionInput → View σ A W D → List Sign → View σ A W D → Prop
  /-- Nobody can place a pointer event once the algorithm is gone. -/
  | late {v : View σ A W D} {k : Nat} {event : MouseEvent}
      (gone : v.compositor.algorithm = none) : Handles ⟨k, .mouse event⟩ v [] v
  | dropped {v : View σ A W D} {k : Nat} {event : MouseEvent} {a a' : A} {w : World σ ι}
      (alive : v.compositor.algorithm = some a)
      (ran : crew.algorithm.locate a k event v.outside = .ok (none, a') w) :
      Handles ⟨k, .mouse event⟩ v [.called (.mouseMap k event) [], .answered (.located none)]
        ((v.after w).become { v.compositor with algorithm := some a' })
  | placed {v : View σ A W D} {k : Nat} {event moved : MouseEvent} {a a' : A} {w : World σ ι}
      (alive : v.compositor.algorithm = some a)
      (ran : crew.algorithm.locate a k event v.outside = .ok (some moved, a') w) :
      Handles ⟨k, .mouse event⟩ v
        (.called (.mouseMap k event) [] :: .answered (.located (some moved)) ::
          v.compositor.forwardSigns (.mouse moved))
        ((v.after w).become (Compositor.forwarded { v.compositor with
          algorithm := some a'
          held := v.compositor.held.track moved } (.mouse moved)))
  | plain {v : View σ A W D} {input : RegionInput} (plain : ∀ event, input.event ≠ .mouse event) :
      Handles input v (v.compositor.forwardSigns input.event)
        (v.become (v.compositor.forwarded input.event))

/-- A picture is split; a failure leaves no parts. -/
inductive Splits (picture : Picture) : View σ A W D → List Sign → Slots → View σ A W D → Prop
  | mk {v : View σ A W D} {a a' : A} {result : Except Cause Slots} {w : World σ ι}
      (alive : v.compositor.algorithm = some a)
      (ran : crew.algorithm.filter a picture (v.hold picture).outside = .ok (result, a') w) :
      Splits picture v
        [.called (.filter ((v.ledger.retain picture).sight picture)) [],
          .answered (.parts result.toOption)]
        (result.toOption.getD []) ((v.after w).become { v.compositor with algorithm := some a' })

/-- The slot of a region is filled. Its display prepares the picture; without a display the slot
is left empty. -/
inductive Fills (overlay : Option Overlay) (date : Tick) (k : Nat) :
    Option Picture → View σ A W D → List Sign → View σ A W D → Prop
  | empty {v : View σ A W D} : Fills overlay date k none v [] (v.put k none)
  | unshown {v : View σ A W D} {picture : Picture} (blank : v.compositor.display? k = none) :
      Fills overlay date k (some picture) v [] ((v.put k (some picture)).put k none)
  | prepared {v : View σ A W D} {picture : Picture} {r : Region W D} {d d' : D} {w : World σ ι}
      (here : v.compositor.regions[k]? = some r) (display : r.display = some d)
      (ran : crew.backend.prepare d picture overlay date (v.put k (some picture)).outside =
        .ok d' w) :
      Fills overlay date k (some picture) v
        (.called (.prepare k ((v.put k (some picture)).ledger.sight picture)
            (overlay.map (v.put k (some picture)).ledger.sightOverlay) date) [k] ::
          (crew.backend.showing .prepare k v.env).map fun event => .reported k (.input event))
        ⟨((v.compositor.withSlot k (some picture)).withQueued k
            (crew.backend.showing .prepare k v.env)).setRegion k { r with display := some d' },
          w.env, w.ledger⟩

/-- What is in the slot of a region is shown, if there is a display, and let go. -/
inductive Shows (k : Nat) : View σ A W D → List Sign → View σ A W D → Prop
  | blank {v : View σ A W D}
      (blank : v.compositor.display? k = none ∨ v.compositor.picture? k = none) :
      Shows k v [] (v.put k none)
  | shown {v : View σ A W D} {picture : Picture} {r : Region W D} {d d' : D} {w : World σ ι}
      (here : v.compositor.regions[k]? = some r) (display : r.display = some d)
      (filled : v.compositor.picture? k = some picture)
      (ran : crew.backend.display d picture v.outside = .ok d' w) :
      Shows k v
        (.called (.display k (v.ledger.sight picture)) [k] ::
          (crew.backend.showing .display k v.env).map fun event => .reported k (.input event))
        ⟨((v.compositor.withSlot k none).withQueued k
            (crew.backend.showing .display k v.env)).setRegion k { r with display := some d' },
          w.env, w.ledger.release picture⟩

/-- What comes of a report of a window: an input is queued, a new size is taken or ignored. -/
inductive Reports : View σ A W D → List Sign → View σ A W D → Prop
  | input {v : View σ A W D} (k : Nat) (event : InputEvent) :
      Reports v [.reported k (.input event)] (v.become (v.compositor.withQueued k [event]))
  /-- A report of a new size, before it is handled or ignored. -/
  | resized {v : View σ A W D} (k : Nat) (size : Size) : Reports v [.reported k (.resized size)] v
  | resize {v v' : View σ A W D} {k : Nat} {size : Size} {new : List Sign}
      (resizes : Resizes crew k size v new v') : Reports v new v'

/-- A step that touches no picture. -/
inductive Quiet : View σ A W D → List Sign → View σ A W D → Prop
  | report {v v' : View σ A W D} {new : List Sign} (reports : Reports crew v new v') :
      Quiet v new v'
  | handle {v v' : View σ A W D} {input : RegionInput} {rest : List RegionInput}
      {new : List Sign} (queue : v.compositor.queue = input :: rest)
      (handles : Handles crew input (v.become { v.compositor with queue := rest }) new v') :
      Quiet v new v'
  | place {v : View σ A W D} (size : Size) :
      Quiet v [] (v.become { v.compositor with placement := v.compositor.placement.resize size })
  /-- The algorithm is asked for the size of a region. -/
  | hint {v : View σ A W D} (k : Nat) (alive : v.compositor.algorithm.isSome) :
      Quiet v [.called (.sizeHint k) []] v

/-- A quiet step that handles no input. -/
inductive Adjusts : View σ A W D → List Sign → View σ A W D → Prop
  | report {v v' : View σ A W D} {new : List Sign} (reports : Reports crew v new v') :
      Adjusts v new v'
  | place {v : View σ A W D} (size : Size) :
      Adjusts v [] (v.become { v.compositor with placement := v.compositor.placement.resize size })
  | hint {v : View σ A W D} (k : Nat) (alive : v.compositor.algorithm.isSome) :
      Adjusts v [.called (.sizeHint k) []] v

/-- A step of a compositor. -/
inductive Step : View σ A W D → List Sign → View σ A W D → Prop
  | quiet {v v' : View σ A W D} {new : List Sign} (quiet : Quiet crew v new v') : Step v new v'
  | split {v v' : View σ A W D} {picture : Picture} {new : List Sign} {slots : Slots}
      (splits : Splits crew picture v new slots v') : Step v new v'
  | fill {v v' : View σ A W D} {overlay : Option Overlay} {date : Tick} {k : Nat}
      {picture : Option Picture} {new : List Sign}
      (fills : Fills crew overlay date k picture v new v') : Step v new v'
  | «show» {v v' : View σ A W D} {k : Nat} {new : List Sign} (shows : Shows crew k v new v') :
      Step v new v'
  | release {v : View σ A W D} (slots : Slots) : Step v [] (v.letGoAll slots)

end Compositor

/-- Several steps, one after the other, and so are their signs. -/
inductive Path {V : Type} (step : V → List Sign → V → Prop) : V → List Sign → V → Prop
  | nil (v : V) : Path step v [] v
  | cons {v v' v'' : V} {new more : List Sign} (head : step v new v')
      (tail : Path step v' more v'') : Path step v (new ++ more) v''

namespace Path

variable {V : Type} {step step' : V → List Sign → V → Prop} {v v' v'' : V}
variable {new more : List Sign}

theorem single (h : step v new v') : Path step v new v' := by
  simpa using Path.cons h (.nil v')

theorem trans (h : Path step v new v') (h' : Path step v' more v'') :
    Path step v (new ++ more) v'' := by
  induction h with
  | nil => exact h'
  | cons head _ ih =>
    rw [List.append_assoc]
    exact .cons head (ih h')

theorem mono (weaker : ∀ v new v', step v new v' → step' v new v') (h : Path step v new v') :
    Path step' v new v' := by
  induction h with
  | nil => exact .nil _
  | cons head _ ih => exact .cons (weaker _ _ _ head) ih

/-- What every step keeps, of the signs so far and the view, a path keeps. -/
theorem keeps {P : List Sign → V → Prop}
    (kept : ∀ past v new v', P past v → step v new v' → P (past ++ new) v')
    (h : Path step v new v') {past : List Sign} (start : P past v) : P (past ++ new) v' := by
  induction h generalizing past with
  | nil => simpa using start
  | cons head _ ih =>
    rw [← List.append_assoc]
    exact ih (kept _ _ _ _ start head)

/-- What every step keeps of the view alone, a path keeps. -/
theorem keepsView {P : V → Prop} (kept : ∀ v new v', P v → step v new v' → P v')
    (h : Path step v new v') (start : P v) : P v' := by
  induction h with
  | nil => exact start
  | cons head _ ih => exact ih (kept _ _ _ start head)

/-- What no step changes, a path does not change. -/
theorem keepsEq {β : Type} {f : V → β} (kept : ∀ v new v', step v new v' → f v' = f v)
    (h : Path step v new v') : f v' = f v := by
  induction h with
  | nil => rfl
  | cons head _ ih => rw [ih, kept _ _ _ head]

end Path

namespace Compositor

variable {σ ι A W D : Type} {crew : Crew σ ι A W D} {v v' : View σ A W D} {new : List Sign}

/-- Several steps that leave a compositor tidy. -/
abbrev TidyPath (step : View σ A W D → List Sign → View σ A W D → Prop) (v : View σ A W D)
    (new : List Sign) (v' : View σ A W D) : Prop :=
  Path step v new v' ∧ v'.compositor.Tidy

namespace TidyPath

variable {step step' : View σ A W D → List Sign → View σ A W D → Prop}
variable {v'' : View σ A W D} {more : List Sign}

theorem nil (tidy : v.compositor.Tidy) : TidyPath step v [] v := ⟨.nil v, tidy⟩

theorem single (h : step v new v') (tidy : v'.compositor.Tidy) :
    TidyPath step v new v' :=
  ⟨.single h, tidy⟩

theorem trans (h : TidyPath step v new v') (h' : TidyPath step v' more v'') :
    TidyPath step v (new ++ more) v'' :=
  ⟨h.1.trans h'.1, h'.2⟩

theorem mono (weaker : ∀ v new v', step v new v' → step' v new v')
    (h : TidyPath step v new v') : TidyPath step' v new v' :=
  ⟨h.1.mono weaker, h.2⟩

end TidyPath

theorem Resizes.tidy {k : Nat} {size : Size} (h : Resizes crew k size v new v')
    (tidy : v.compositor.Tidy) : v'.compositor.Tidy := by
  cases h with
  | unshown here => exact tidy.setRegion (tidy _ _ here).1 (tidy _ _ here).2
  | shown here => exact tidy.setRegion (tidy _ _ here).1 (tidy _ _ here).2

theorem Resizes.algorithm_eq {k : Nat} {size : Size} (h : Resizes crew k size v new v') :
    v'.compositor.algorithm = v.compositor.algorithm := by
  cases h <;> rfl

theorem Handles.queue_eq {input : RegionInput} (h : Handles crew input v new v') :
    v'.compositor.queue = v.compositor.queue := by
  cases h <;> rfl

theorem Reports.tidy (h : Reports crew v new v') (tidy : v.compositor.Tidy) :
    v'.compositor.Tidy := by
  cases h with
  | resize resizes => exact resizes.tidy tidy
  | input | resized => exact tidy

theorem Adjusts.quiet (h : Adjusts crew v new v') : Quiet crew v new v' := by
  cases h with
  | report reports => exact .report reports
  | place size => exact .place size
  | hint k alive => exact .hint k alive

/-- Quiet steps leave a compositor tidy. -/
theorem Quiet.tidy (h : Quiet crew v new v') (tidy : v.compositor.Tidy) :
    v'.compositor.Tidy := by
  cases h with
  | report reports => exact reports.tidy tidy
  | handle _ handles => cases handles <;> exact tidy
  | place | hint => exact tidy

/-- Steps leave a compositor tidy. -/
theorem Step.tidy (h : Step crew v new v') (tidy : v.compositor.Tidy) : v'.compositor.Tidy := by
  cases h with
  | quiet quiet => exact quiet.tidy tidy
  | split splits => cases splits; exact tidy
  | fill fills =>
    cases fills with
    | empty | unshown => exact tidy
    | prepared here => exact Tidy.setRegion tidy (tidy _ _ here).1 (tidy _ _ here).2
  | «show» shows =>
    cases shows with
    | blank => exact tidy
    | shown here => exact Tidy.setRegion tidy (tidy _ _ here).1 (tidy _ _ here).2
  | release => exact tidy

/-- A path of steps is a tidy one where it starts tidy. -/
theorem Step.tidyPath (path : Path (Step crew) v new v') (tidy : v.compositor.Tidy) :
    TidyPath (Step crew) v new v' :=
  ⟨path, path.keepsView (P := fun u => u.compositor.Tidy)
    (fun _ _ _ kept step => step.tidy kept) tidy⟩

end Compositor

end Mosaic
