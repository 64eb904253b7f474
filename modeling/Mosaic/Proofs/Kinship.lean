import Mosaic.Proofs.Mural
import Mosaic.Proofs.Retouch

/-!
# Compositors that differ elsewhere

Two compositors are kin for a region where they differ in other regions alone: they have the same
outputs and the same placement, algorithms that are alike, and pictures that are alike in the slot
of the region. Where the algorithm is deterministic, the same operation keeps them kin, and does
the same to the portrait of the region. What the other regions have plays no part.

## Main definitions

* `Partitioner.Deterministic` — what an algorithm gives depends on nothing but its state
* `Locates`, `Parts` — what becomes of an algorithm during a run
* `Kin` — two compositors that differ in other regions than one alone

## Main results

* `builtin_deterministic` — clones and walls are deterministic
* `Kin.divide`, `Kin.show`, `Kin.control`, `Kin.drain`, `Kin.close` — operations keep
  compositors kin
-/

set_option autoImplicit false

namespace Mosaic

/-! ## Deterministic algorithms -/

/-- The likenesses of the pictures in some slots. -/
def likenesses (slots : Slots) : List (Option Picture.Likeness) :=
  slots.map (Option.map Picture.likeness)

/-- What an algorithm gives depends on its state and on what it is asked, and on nothing else in
the world. States that are alike give the same, up to what tells equal pictures apart, and go on
alike. -/
structure Partitioner.Deterministic {σ ι A : Type} (p : Partitioner σ ι A)
    (alike : A → A → Prop) : Prop where
  outputs : ∀ {a b}, alike a b → p.outputs a = p.outputs b
  sizeFor : ∀ {a b}, alike a b → ∀ format placement,
    p.sizeFor a format placement = p.sizeFor b format placement
  filter : ∀ {a b picture w u result result' a' b' w' u'}, alike a b →
    p.filter a picture w = .ok (result, a') w' → p.filter b picture u = .ok (result', b') u' →
    result.toOption.map likenesses = result'.toOption.map likenesses ∧ alike a' b'
  locate : ∀ {a b index event w u place place' a' b' w' u'}, alike a b →
    p.locate a index event w = .ok (place, a') w' →
    p.locate b index event u = .ok (place', b') u' → place = place' ∧ alike a' b'

theorem likenesses_getD (result : Option Slots) :
    likenesses (result.getD []) = (result.map likenesses).getD [] := by
  cases result <;> rfl

theorem likeness_slot (slots : Slots) (k : Nat) :
    (slots[k]?.join).map Picture.likeness = (likenesses slots)[k]?.join := by
  rw [likenesses, List.getElem?_map]
  rcases slots[k]? with _ | slot <;> rfl

/-- What depends on the likeness alone is the same for pictures that are alike. -/
theorem map_eq_of_likeness {β : Type} {part part' : Option Picture}
    (same : part.map Picture.likeness = part'.map Picture.likeness)
    (f : Picture.Likeness → β) :
    (part.map fun part => f part.likeness) = part'.map fun part => f part.likeness := by
  simpa [Function.comp_def] using congrArg (Option.map f) same

/-- Views that are fitted to the same are alike. -/
theorem likenesses_of_fitted {base : Picture} {wanted : List (Option (VideoFormat × Origin))}
    {slots slots' : Slots} (fitted : List.Forall₂ (Fitted base) wanted slots)
    (fitted' : List.Forall₂ (Fitted base) wanted slots') :
    likenesses slots = likenesses slots' := by
  have one {want : Option (VideoFormat × Origin)} {slot slot' : Option Picture}
      (h : Fitted base want slot) (h' : Fitted base want slot') :
      slot.map Picture.likeness = slot'.map Picture.likeness := by
    cases h with
    | empty =>
      cases h'
      rfl
    | view shifted sized same =>
      cases h' with
      | view shifted' sized' same' =>
        have place := Except.ok.inj (shifted.symm.trans shifted')
        simp [Picture.likeness, place, sized, sized', same.pixels, same'.pixels, same.date,
          same'.date]
  induction fitted generalizing slots' with
  | nil =>
    cases fitted'
    rfl
  | cons head _ ih =>
    cases fitted' with
    | cons head' tail' => exact congrArg₂ List.cons (one head head') (ih tail')

/-- Clones and walls are deterministic. -/
theorem builtin_deterministic {σ ι : Type} :
    (Builtin.partitioner : Partitioner σ ι Builtin).Deterministic Eq where
  outputs := congrArg _
  sizeFor _ _ _ := rfl
  filter := by
    rintro b _ picture w u result result' a' b' w' u' rfl ran ran'
    obtain ⟨slots, l, asked, rfl, same, -⟩ := Builtin.of_filter ran
    obtain ⟨slots', l', asked', rfl, same', -⟩ := Builtin.of_filter ran'
    have fitted := Ledger.views_spec picture (b.cells.map Cell.view?) w.ledger
    have fitted' := Ledger.views_spec picture (b.cells.map Cell.view?) u.ledger
    rw [asked] at fitted
    rw [asked'] at fitted'
    exact ⟨congrArg some (likenesses_of_fitted fitted fitted'), same.trans same'.symm⟩
  locate := by
    rintro b _ index event w u place place' a' b' w' u' rfl ⟨⟩ ⟨⟩
    exact ⟨rfl, rfl⟩

namespace Compositor

open Act

/-! ## What an algorithm is asked during a run -/

section Asked

variable {σ ι A : Type}

section Relations

variable (p : Partitioner σ ι A)

/-- What becomes of the algorithm, if there is one, while an input is handled. -/
inductive Locates : RegionInput → Option A → Option A → Prop
  | late {input : RegionInput} : Locates input none none
  | plain {input : RegionInput} {a : A} (plain : ∀ event, input.event ≠ .mouse event) :
      Locates input (some a) (some a)
  | asked {k : Nat} {event : MouseEvent} {a a' : A} {place : Option MouseEvent} {w w' : World σ ι}
      (ran : p.locate a k event w = .ok (place, a') w') :
      Locates ⟨k, .mouse event⟩ (some a) (some a')

/-- What becomes of the algorithm, if there is one, while a picture is split, and into which parts
the picture is split. -/
inductive Parts (picture : Picture) : Option A → Slots → Option A → Prop
  | late : Parts picture none [] none
  | asked {a a' : A} {result : Except Cause Slots} {w w' : World σ ι}
      (ran : p.filter a picture w = .ok (result, a') w') :
      Parts picture (some a) (result.toOption.getD []) (some a')

end Relations

variable {p : Partitioner σ ι A} {alike : A → A → Prop}

/-- Algorithms that are alike stay so when both handle an input. -/
theorem Locates.keeps_alike {input : RegionInput} {x x' y y' : Option A}
    (deterministic : p.Deterministic alike) (h : Locates p input x x') (h' : Locates p input y y')
    (same : Option.Rel alike x y) : Option.Rel alike x' y' := by
  cases same with
  | none =>
    cases h
    cases h'
    exact .none
  | some same =>
    cases h with
    | plain plain =>
      cases h' with
      | plain => exact .some same
      | asked => exact (plain _ rfl).elim
    | asked ran =>
      cases h' with
      | plain plain => exact (plain _ rfl).elim
      | asked ran' => exact .some (deterministic.locate same ran ran').2

/-- Algorithms that are alike split a picture into parts that are alike, and stay so. -/
theorem Parts.keeps_alike {picture : Picture} {slots slots' : Slots} {x x' y y' : Option A}
    (deterministic : p.Deterministic alike) (h : Parts p picture x slots x')
    (h' : Parts p picture y slots' y') (same : Option.Rel alike x y) :
    likenesses slots = likenesses slots' ∧ Option.Rel alike x' y' := by
  cases same with
  | none =>
    cases h
    cases h'
    exact ⟨rfl, .none⟩
  | some same =>
    cases h with
    | asked ran =>
      cases h' with
      | asked ran' =>
        obtain ⟨parts, alike'⟩ := deterministic.filter same ran ran'
        exact ⟨by rw [likenesses_getD, parts, likenesses_getD], .some alike'⟩

variable {W D : Type} {crew : Crew σ ι A W D} {v v' : View σ A W D} {new : List Sign}

theorem Handles.locates {input : RegionInput} (h : Handles crew input v new v') :
    Locates crew.algorithm input v.compositor.algorithm v'.compositor.algorithm := by
  cases h with
  | late gone =>
    rw [gone]
    exact .late
  | dropped alive ran | placed alive ran =>
    rw [alive]
    exact .asked ran
  | plain plain =>
    change Locates crew.algorithm input v.compositor.algorithm v.compositor.algorithm
    cases v.compositor.algorithm with
    | none => exact .late
    | some a => exact .plain plain

theorem Splits.parts {picture : Picture} {slots : Slots}
    (h : Splits crew picture v new slots v') :
    Parts crew.algorithm picture v.compositor.algorithm slots v'.compositor.algorithm := by
  cases h with
  | mk alive ran =>
    rw [alive]
    exact .asked ran

/-- The parts of a picture that is prepared are what the algorithm gave for it. -/
theorem Divides.parts {picture : Picture} {overlay : Option Overlay} {date : Tick}
    {inputs : List RegionInput} {drained divided : List Sign} {v₁ : View σ A W D}
    (handles : HandlesAll crew inputs v drained v₁) (tidy : v.compositor.Tidy)
    (divides : Divides crew picture overlay date v₁ divided v') :
    Parts crew.algorithm picture v₁.compositor.algorithm (slotsOf (drained ++ divided))
      v'.compositor.algorithm := by
  have quiet := (handles.tidyPath tidy).1
  cases divides with
  | late gone =>
    have none : slotsOf (drained ++ []) = [] := by
      rw [List.append_nil, slotsOf, Quiet.parts_eq quiet]
      rfl
    rw [none, gone]
    exact .late
  | mk splits fills =>
    -- To fill the slots leaves the algorithm as it is after the picture was split.
    have parts := splits.parts
    rw [← (fills.rests 0).algorithm] at parts
    rw [slotsOf_prepared quiet splits fills]
    exact parts

end Asked

/-! ## Two compositors -/

section Kin

variable {A W D W' D' : Type}

/-- Two compositors that differ in other regions than one alone. -/
structure Kin (alike : A → A → Prop) (k : Nat) (c : Compositor A W D) (c' : Compositor A W' D') :
    Prop where
  settled : c.Settled ∧ c'.Settled
  algorithm : Option.Rel alike c.algorithm c'.algorithm
  placement : c.placement = c'.placement
  outputs : c.outputs = c'.outputs
  slot : (c.picture? k).map Picture.likeness = (c'.picture? k).map Picture.likeness

variable {alike : A → A → Prop} {k : Nat} {c c₁ : Compositor A W D} {c' c₁' : Compositor A W' D'}

/-- Both compositors were closed, or neither. -/
theorem Kin.gone_iff (kin : Kin alike k c c') : c.Gone ↔ c'.Gone := by
  have none_iff {x y : Option A} (same : Option.Rel alike x y) : x = none ↔ y = none := by
    cases same <;> simp
  have ended := none_iff kin.algorithm
  constructor
  · rintro ⟨gone, -⟩
    exact ⟨ended.mp gone, kin.settled.2.gone (ended.mp gone)⟩
  · rintro ⟨gone, -⟩
    exact ⟨ended.mpr gone, kin.settled.1.gone (ended.mpr gone)⟩

/-- Where only regions, queues and placements change, and the placements to the same, the
compositors remain kin. -/
theorem Kin.refit {placement : Placement} (kin : Kin alike k c c')
    (settled : c₁.Settled ∧ c₁'.Settled)
    (left : c₁.fixture = ({ c with placement := placement } : Compositor A W D).fixture)
    (right : c₁'.fixture = ({ c' with placement := placement } : Compositor A W' D').fixture) :
    Kin alike k c₁ c₁' where
  settled := settled
  algorithm := by
    rw [algorithm_of_fixture_eq left, algorithm_of_fixture_eq right]
    exact kin.algorithm
  placement := (placement_of_fixture_eq left).trans (placement_of_fixture_eq right).symm
  outputs := by
    have outputs : c₁.outputs = c.outputs := (congrArg Compositor.outputs left :)
    have outputs' : c₁'.outputs = c'.outputs := (congrArg Compositor.outputs right :)
    rw [outputs, outputs', kin.outputs]
  slot := by
    rw [picture?, pictures_of_fixture_eq left, picture?, pictures_of_fixture_eq right]
    exact kin.slot

/-- The outputs are part of the shape. -/
theorem Kin.outputs_eq (kin : Kin alike k c c') (left : c₁.shape = c.shape)
    (right : c₁'.shape = c'.shape) : c₁.outputs = c₁'.outputs :=
  (congrArg Shape.outputs left).trans (kin.outputs.trans (congrArg Shape.outputs right).symm)

/-- A display is there in both or in neither where the portraits are the same. -/
theorem mem_shown_iff {past past' : List Sign} (same : c.portrait k past = c'.portrait k past') :
    k ∈ c.shown ↔ k ∈ c'.shown := by
  have shown : (c.display? k).isSome = (c'.display? k).isSome := congrArg Portrait.shown same
  rw [mem_shown, mem_shown, shown]

end Kin

section Calls

variable {σ ι A W D W' D' : Type} {p : Partitioner σ ι A} {b : Backend σ ι W D}
variable {b' : Backend σ ι W' D'} {alike : A → A → Prop} {k : Nat}
variable {v v₁ v₂ : View σ A W D} {u u₁ u₂ : View σ A W' D'} {past past' new new' : List Sign}

theorem HandlesAll.keeps_alike {inputs : List RegionInput} (deterministic : p.Deterministic alike)
    (h : HandlesAll ⟨p, b⟩ inputs v new v₁) (h' : HandlesAll ⟨p, b'⟩ inputs u new' u₁)
    (same : Option.Rel alike v.compositor.algorithm u.compositor.algorithm) :
    Option.Rel alike v₁.compositor.algorithm u₁.compositor.algorithm := by
  induction h generalizing u new' with
  | done =>
    cases h'
    exact same
  | next _ handles _ ih =>
    cases h' with
    | next _ handles' later' =>
      exact ih later' (handles.locates.keeps_alike deterministic handles'.locates same)

/-- To handle the same inputs keeps compositors kin. -/
theorem Kin.drain {inputs : List RegionInput} (deterministic : p.Deterministic alike)
    (kin : Kin alike k v.compositor u.compositor) (handles : HandlesAll ⟨p, b⟩ inputs v new v₁)
    (handles' : HandlesAll ⟨p, b'⟩ inputs u new' u₁) :
    Kin alike k v₁.compositor u₁.compositor := by
  obtain ⟨path, tidy⟩ := handles.tidyPath kin.settled.1.tidy
  obtain ⟨path', tidy'⟩ := handles'.tidyPath kin.settled.2.tidy
  obtain ⟨settled, pictures⟩ := Quiet.settled path tidy kin.settled.1
  obtain ⟨settled', pictures'⟩ := Quiet.settled path' tidy' kin.settled.2
  have shape := Quiet.path_shape_eq path
  have shape' := Quiet.path_shape_eq path'
  exact {
    settled := ⟨settled, settled'⟩
    algorithm := handles.keeps_alike deterministic handles' kin.algorithm
    placement := by rw [handles.still.2, handles'.still.2, kin.placement]
    outputs := kin.outputs_eq shape shape'
    slot := by
      rw [picture?, pictures, picture?, pictures']
      exact kin.slot }

/-- To prepare a picture keeps compositors kin: the part of the region is the same in both. -/
theorem Kin.divide {inputs : List RegionInput} {drained divided drained' divided' : List Sign}
    {picture : Picture} {overlay : Option Overlay} {date : Tick}
    (deterministic : p.Deterministic alike) (kin : Kin alike k v.compositor u.compositor)
    (queue : v.compositor.queue = inputs) (queue' : u.compositor.queue = inputs)
    (same : v.compositor.portrait k past = u.compositor.portrait k past')
    (handles : HandlesAll ⟨p, b⟩ inputs v drained v₁)
    (divides : Divides ⟨p, b⟩ picture overlay date v₁ divided v₂)
    (handles' : HandlesAll ⟨p, b'⟩ inputs u drained' u₁)
    (divides' : Divides ⟨p, b'⟩ picture overlay date u₁ divided' u₂) :
    Kin alike k v₂.compositor u₂.compositor ∧
      v₂.compositor.portrait k (past ++ (drained ++ divided)) =
        u₂.compositor.portrait k (past' ++ (drained' ++ divided')) := by
  have settled := kin.settled
  -- The inputs come first, and both algorithms are asked the same about them.
  have located := handles.keeps_alike deterministic handles' kin.algorithm
  obtain ⟨parts, algorithm⟩ := (divides.parts handles settled.1.tidy).keeps_alike deterministic
    (divides'.parts handles' settled.2.tidy) located
  have slot : ((slotsOf (drained ++ divided))[k]?.join).map Picture.likeness =
      ((slotsOf (drained' ++ divided'))[k]?.join).map Picture.likeness := by
    rw [likeness_slot, parts, likeness_slot]
  subst queue
  rw [← queue'] at handles'
  have prepares := handles.prepares settled.1.tidy divides
  have prepares' := handles'.prepares settled.2.tidy divides'
  have shape := Step.path_shape_eq prepares.path
  have shape' := Step.path_shape_eq prepares'.path
  have placed : v₂.compositor.placement = v.compositor.placement :=
    (divides.rests k).1.trans handles.still.2
  have placed' : u₂.compositor.placement = u.compositor.placement :=
    (divides'.rests k).1.trans handles'.still.2
  refine ⟨?_, ?_⟩
  · exact {
      settled := ⟨Step.settled prepares.path settled.1, Step.settled prepares'.path settled.2⟩
      algorithm := algorithm
      placement := by rw [placed, placed', kin.placement]
      outputs := kin.outputs_eq shape shape'
      slot := by
        rw [prepares.picture?_eq settled.1, prepares'.picture?_eq settled.2]
        -- The part stays in the slot just if there is a display for it.
        simp only [mem_shown_iff same]
        split
        · exact slot
        · rfl }
  · rw [divides.portrait_eq handles settled.1, divides'.portrait_eq handles' settled.2, same]
    exact congrArg _ (map_eq_of_likeness slot fun part => Order.prepare part overlay date)

/-- To show what the slots hold keeps compositors kin. -/
theorem Kin.show (kin : Kin alike k v.compositor u.compositor)
    (same : v.compositor.portrait k past = u.compositor.portrait k past')
    (shows : ShowsFrom ⟨p, b⟩ v.compositor.regions.length 0 v new v₁)
    (shows' : ShowsFrom ⟨p, b'⟩ u.compositor.regions.length 0 u new' u₁) :
    Kin alike k v₁.compositor u₁.compositor ∧
      v₁.compositor.portrait k (past ++ new) = u₁.compositor.portrait k (past' ++ new') := by
  have settled := kin.settled
  have shape := Step.path_shape_eq shows.path
  have shape' := Step.path_shape_eq shows'.path
  refine ⟨?_, ?_⟩
  · exact {
      settled := ⟨Step.settled shows.path settled.1, Step.settled shows'.path settled.2⟩
      algorithm := by
        rw [(shows.rests k).algorithm, (shows'.rests k).algorithm]
        exact kin.algorithm
      placement := by rw [(shows.rests k).placement, (shows'.rests k).placement, kin.placement]
      outputs := kin.outputs_eq shape shape'
      slot := by rw [shows.picture?_eq_none settled.1, shows'.picture?_eq_none settled.2] }
  · rw [shows.portrait_eq settled.1, shows'.portrait_eq settled.2, same]
    exact congrArg _ (map_eq_of_likeness kin.slot Order.display)

/-- A control query brings a region the same size in both compositors. -/
theorem Kin.hinted_eq (deterministic : p.Deterministic alike)
    (kin : Kin alike k v.compositor u.compositor) (query : ControlQuery) :
    hinted p v.compositor query k = hinted p u.compositor query k := by
  have algorithm := kin.algorithm
  rw [hinted, hinted, kin.outputs, kin.placement]
  -- What is left to compare are the algorithms, which are only alike.
  generalize v.compositor.algorithm = x at algorithm
  generalize u.compositor.algorithm = y at algorithm
  cases algorithm with
  | none => rfl
  | some same =>
    cases query.size? with
    | none => rfl
    | some size => simp only [deterministic.sizeFor same]

theorem Kin.control {query : ControlQuery} (deterministic : p.Deterministic alike)
    (kin : Kin alike k v.compositor u.compositor)
    (settled : v₁.compositor.Settled ∧ u₁.compositor.Settled)
    (same : v.compositor.portrait k past = u.compositor.portrait k past')
    (controls : Controls ⟨p, b⟩ query v new v₁) (controls' : Controls ⟨p, b'⟩ query u new' u₁) :
    Kin alike k v₁.compositor u₁.compositor ∧
      v₁.compositor.portrait k (past ++ new) = u₁.compositor.portrait k (past' ++ new') := by
  refine ⟨kin.refit settled controls.kept (kin.placement ▸ controls'.kept), ?_⟩
  rw [controls.portrait_eq ⟨0, 0⟩, controls'.portrait_eq ⟨0, 0⟩, same,
    kin.hinted_eq deterministic query]

/-- Closing makes no report. -/
theorem Closes.reports_eq (h : Closes v new v₁) : reportsOf new = [] := by
  cases h with
  | again => rfl
  | first =>
    have farewells : reportsOf (v.compositor.farewells v.compositor.regions.length) = [] := by
      rw [reportsOf, List.filterMap_eq_nil_iff]
      intro sign member
      obtain ⟨call, locked, rfl, -⟩ := isParting_of_mem_farewells member
      rfl
    rw [reportsOf_append, farewells]
    split <;> rfl

/-- Closing leaves the same waiting in compositors that are kin. -/
theorem Kin.queue_closed (kin : Kin alike k v.compositor u.compositor)
    (queue : v.compositor.queue = u.compositor.queue) (closes : Closes v new v₁)
    (closes' : Closes u new' u₁) : v₁.compositor.queue = u₁.compositor.queue := by
  have both := kin.gone_iff
  cases closes with
  | again gone =>
    cases closes' with
    | again => exact queue
    | first left => exact (left (both.mp gone)).elim
  | first left last =>
    cases closes' with
    | again gone => exact (left (both.mpr gone)).elim
    | first _ last' => rw [last, last']; rfl

/-- Closing keeps compositors kin: nothing is left of either. -/
theorem Kin.close (kin : Kin alike k v.compositor u.compositor)
    (same : v.compositor.portrait k past = u.compositor.portrait k past')
    (closes : Closes v new v₁) (closes' : Closes u new' u₁) :
    Kin alike k v₁.compositor u₁.compositor ∧
      v₁.compositor.portrait k (past ++ new) = u₁.compositor.portrait k (past' ++ new') := by
  refine ⟨?_, by rw [closes.portrait_eq, closes'.portrait_eq, same]⟩
  -- A closing that finds nothing left in one of them finds nothing left in the other.
  have both := kin.gone_iff
  have settled := And.intro (closes.settled kin.settled.1) (closes'.settled kin.settled.2)
  cases closes with
  | again gone =>
    cases closes' with
    | again => exact kin
    | first left => exact (left (both.mp gone)).elim
  | first left last =>
    cases closes' with
    | again gone => exact (left (both.mpr gone)).elim
    | first _ last' =>
      rw [last, last'] at settled ⊢
      exact ⟨settled, .none, kin.placement, rfl, rfl⟩

end Calls

end Compositor

end Mosaic
