import Mosaic.Headless
import Mosaic.Proofs.Pairing

/-!
# Inputs on their way to the parent

The windows of all regions report into one queue, which is emptied in two places. Whatever the
order of reports and operations, an open compositor loses no input, makes none up and keeps
their order: the inputs that were handled, followed by the queue, are the inputs that were
reported, and what the parent heard are the inputs that were handled, with each pointer event
where the algorithm placed it.

## Main definitions

* `reportsOf`, `mappingsOf`, `placesOf` — the inputs that were reported, the pointer events that
  the algorithm was asked to place, and where it placed them
* `routed` — what is passed on of some inputs
* `Routes` — what becomes of inputs while something happens
* `route` — handles inputs with an algorithm alone
* `RoutingLaw`, `DrainLaw`, `PrepareLaw` — the law of a run, of a drain and of preparing

## Main results

* `perform_routed` — an operation handles all inputs that wait, or none
* `open_keeps_routing_law` — the law for opening and any operations but closing
-/

set_option autoImplicit false

namespace Mosaic

/-! ## Inputs among signs -/

/-- The input that a sign reports, if it reports one. -/
def Sign.input? : Sign → Option RegionInput
  | reported index (.input event) => some ⟨index, event⟩
  | reported _ (.resized _) | called _ _ | answered _ => none

/-- The region and the pointer event that the algorithm is asked to place. -/
def Sign.mapped? : Sign → Option (Nat × MouseEvent)
  | called (.mouseMap index event) _ => some (index, event)
  | _ => none

/-- Where the algorithm placed a pointer event, if a sign tells that. -/
def Sign.located? : Sign → Option (Option MouseEvent)
  | answered (.located event) => some event
  | _ => none

/-- The inputs that were reported, in order. -/
def reportsOf (signs : List Sign) : List RegionInput := signs.filterMap Sign.input?

/-- The pointer events that the algorithm was asked to place, each with its region. -/
def mappingsOf (signs : List Sign) : List (Nat × MouseEvent) := signs.filterMap Sign.mapped?

/-- Where the algorithm placed pointer events; nothing where it dropped one. -/
def placesOf (signs : List Sign) : List (Option MouseEvent) := signs.filterMap Sign.located?

section Lists

variable {sign : Sign} {signs more : List Sign}

@[simp] theorem reportsOf_nil : reportsOf [] = [] := rfl

@[simp] theorem mappingsOf_nil : mappingsOf [] = [] := rfl

@[simp] theorem placesOf_nil : placesOf [] = [] := rfl

@[simp] theorem reportsOf_cons :
    reportsOf (sign :: signs) = sign.input?.toList ++ reportsOf signs := by
  cases h : sign.input? <;> simp [reportsOf, h]

@[simp] theorem mappingsOf_cons :
    mappingsOf (sign :: signs) = sign.mapped?.toList ++ mappingsOf signs := by
  cases h : sign.mapped? <;> simp [mappingsOf, h]

@[simp] theorem placesOf_cons :
    placesOf (sign :: signs) = sign.located?.toList ++ placesOf signs := by
  cases h : sign.located? <;> simp [placesOf, h]

@[simp] theorem reportsOf_append : reportsOf (signs ++ more) = reportsOf signs ++ reportsOf more :=
  List.filterMap_append

@[simp] theorem mappingsOf_append :
    mappingsOf (signs ++ more) = mappingsOf signs ++ mappingsOf more :=
  List.filterMap_append

@[simp] theorem placesOf_append : placesOf (signs ++ more) = placesOf signs ++ placesOf more :=
  List.filterMap_append

/-- The inputs that one window reports are queued as they come. -/
theorem reportsOf_inputs (k : Nat) (events : List InputEvent) :
    reportsOf (events.map fun event => .reported k (.input event)) =
      events.map fun event => ⟨k, event⟩ := by
  induction events with
  | nil => rfl
  | cons event rest ih => rw [List.map_cons, reportsOf_cons, ih]; rfl

end Lists

/-- The region and the pointer event of an input, if it is one. -/
def RegionInput.pointer? (input : RegionInput) : Option (Nat × MouseEvent) :=
  match input.event with
  | .mouse event => some (input.index, event)
  | .key _ | .closeRequested => none

/-- The pointer events among some inputs, each with its region. -/
def pointersOf (inputs : List RegionInput) : List (Nat × MouseEvent) :=
  inputs.filterMap RegionInput.pointer?

@[simp] theorem pointersOf_nil : pointersOf [] = [] := rfl

@[simp] theorem pointersOf_cons (input : RegionInput) (inputs : List RegionInput) :
    pointersOf (input :: inputs) = input.pointer?.toList ++ pointersOf inputs := by
  cases h : input.pointer? <;> simp [pointersOf, h]

@[simp] theorem pointersOf_append (inputs more : List RegionInput) :
    pointersOf (inputs ++ more) = pointersOf inputs ++ pointersOf more :=
  List.filterMap_append

/-- What is passed on of some inputs, by where the algorithm placed the pointer events among
them, in order. A pointer event that was dropped or not placed at all is left out; all else is
passed on as it is. -/
def routed : List RegionInput → List (Option MouseEvent) → List InputEvent
  | [], _ => []
  | ⟨_, .mouse _⟩ :: rest, [] => routed rest []
  | ⟨_, .mouse _⟩ :: rest, place :: places => (place.map .mouse).toList ++ routed rest places
  | ⟨_, .key code⟩ :: rest, places => .key code :: routed rest places
  | ⟨_, .closeRequested⟩ :: rest, places => .closeRequested :: routed rest places

/-- Where each pointer event has its place, what is passed on comes piece by piece. -/
theorem routed_append {inputs : List RegionInput} {places : List (Option MouseEvent)}
    (all : places.length = (pointersOf inputs).length) (more : List RegionInput)
    (later : List (Option MouseEvent)) :
    routed (inputs ++ more) (places ++ later) = routed inputs places ++ routed more later := by
  induction inputs generalizing places with
  | nil =>
    obtain rfl : places = [] := List.length_eq_zero_iff.mp all
    rfl
  | cons input rest ih =>
    obtain ⟨k, event⟩ := input
    cases event with
    | mouse event =>
      cases places with
      | nil => simp [RegionInput.pointer?] at all
      | cons place places =>
        simp only [List.cons_append, routed, List.append_assoc]
        rw [ih (by simpa [RegionInput.pointer?] using all)]
    | key code =>
      simp only [List.cons_append, routed]
      rw [ih (by simpa [RegionInput.pointer?] using all)]
    | closeRequested =>
      simp only [List.cons_append, routed]
      rw [ih (by simpa [RegionInput.pointer?] using all)]

/-- Where no pointer event is placed, what is passed on comes piece by piece as well. -/
theorem routed_append_unplaced (inputs more : List RegionInput) :
    routed (inputs ++ more) [] = routed inputs [] ++ routed more [] := by
  induction inputs with
  | nil => rfl
  | cons input rest ih =>
    obtain ⟨k, event⟩ := input
    cases event <;> simp [routed, ih]

/-- A parent window that was told of some inputs; one that does not listen hears nothing. -/
def ParentWindow.hear (events : List InputEvent) (p : ParentWindow) : ParentWindow :=
  if p.listening then { p with received := p.received ++ events } else p

@[simp] theorem ParentWindow.hear_nil : ParentWindow.hear [] = id := by
  funext p
  simp [hear]

theorem ParentWindow.hear_comp_hear (events later : List InputEvent) :
    ParentWindow.hear later ∘ ParentWindow.hear events = ParentWindow.hear (events ++ later) := by
  funext p
  by_cases listens : p.listening = true <;> simp [hear, listens]

namespace Compositor

variable {σ ι A W D : Type}

theorem forwarded_eq (c : Compositor A W D) (event : InputEvent) :
    c.forwarded event = { c with parent := c.parent.map (.hear [event]) } :=
  rfl

/-! ## What becomes of inputs -/

/-- While something happens, some inputs are handled: they leave the front of the queue while new
ones are added to its end, and the parent hears what is passed on of them. As long as there is
an algorithm, it is asked to place exactly the pointer events among them. -/
structure Routes (handled : List RegionInput) (v : View σ A W D) (new : List Sign)
    (v' : View σ A W D) : Prop where
  queue : handled ++ v'.compositor.queue = v.compositor.queue ++ reportsOf new
  heard : v'.compositor.parent = v.compositor.parent.map (.hear (routed handled (placesOf new)))
  mapped : mappingsOf new = if v.compositor.isOpen then pointersOf handled else []
  placed : (placesOf new).length = (mappingsOf new).length
  isOpen_eq : v'.compositor.isOpen = v.compositor.isOpen

namespace Routes

variable {handled later : List RegionInput} {v v' v'' : View σ A W D} {new more : List Sign}

/-- Where nothing is placed and the parent stays as it is, no input is handled. -/
theorem idle (queue : v'.compositor.queue = v.compositor.queue ++ reportsOf new)
    (parent : v'.compositor.parent = v.compositor.parent) (mapped : mappingsOf new = [])
    (placed : placesOf new = []) (isOpen_eq : v'.compositor.isOpen = v.compositor.isOpen) :
    Routes [] v new v' where
  queue := queue
  heard := by simp [routed, parent]
  mapped := by simp [mapped]
  placed := by simp [mapped, placed]
  isOpen_eq := isOpen_eq

/-- Where nothing shows of inputs, none is handled. -/
theorem aside (kinds : ∀ sign ∈ new, sign.kind ≠ .report ∧ sign.kind ≠ .input)
    (queue : v'.compositor.queue = v.compositor.queue)
    (parent : v'.compositor.parent = v.compositor.parent)
    (isOpen_eq : v'.compositor.isOpen = v.compositor.isOpen) : Routes [] v new v' := by
  have silent : ∀ sign ∈ new, sign.input? = none ∧ sign.mapped? = none ∧ sign.located? = none := by
    intro sign member
    have kind := kinds sign member
    cases sign with
    | reported => exact (kind.1 rfl).elim
    | answered answer =>
      cases answer with
      | located => exact (kind.2 rfl).elim
      | step | parts => exact ⟨rfl, rfl, rfl⟩
    | called call =>
      cases call with
      | mouseMap => exact (kind.2 rfl).elim
      | _ => exact ⟨rfl, rfl, rfl⟩
  refine .idle ?_ parent ?_ ?_ isOpen_eq
  · rw [queue, reportsOf, List.filterMap_eq_nil_iff.mpr fun sign member => (silent sign member).1,
      List.append_nil]
  · exact List.filterMap_eq_nil_iff.mpr fun sign member => (silent sign member).2.1
  · exact List.filterMap_eq_nil_iff.mpr fun sign member => (silent sign member).2.2

theorem nil (v : View σ A W D) : Routes [] v [] v :=
  .aside (by simp) rfl rfl rfl

/-- Nothing of what becomes of inputs depends on the world. -/
theorem congr {v'' : View σ A W D} (h : Routes handled v new v')
    (same : v''.compositor = v'.compositor) : Routes handled v new v'' := by
  obtain ⟨queue, heard, mapped, placed, isOpen_eq⟩ := h
  exact ⟨same ▸ queue, same ▸ heard, mapped, placed, same ▸ isOpen_eq⟩

/-- One thing after another: what is handled comes one after the other. -/
theorem trans (h : Routes handled v new v') (h' : Routes later v' more v'') :
    Routes (handled ++ later) v (new ++ more) v'' where
  queue := by rw [List.append_assoc, h'.queue, ← List.append_assoc, h.queue, reportsOf_append,
    List.append_assoc]
  heard := by
    have pieces : routed (handled ++ later) (placesOf new ++ placesOf more) =
        routed handled (placesOf new) ++ routed later (placesOf more) := by
      cases alive : v.compositor.isOpen with
      | true => exact routed_append (by rw [h.placed, h.mapped, alive, if_pos rfl]) _ _
      | false =>
        -- Once the algorithm is gone nothing is placed any more.
        have none : placesOf new = [] := List.length_eq_zero_iff.mp (by
          rw [h.placed, h.mapped, alive]; rfl)
        have none' : placesOf more = [] := List.length_eq_zero_iff.mp (by
          rw [h'.placed, h'.mapped, h.isOpen_eq, alive]; rfl)
        rw [none, none', List.append_nil, routed_append_unplaced]
    rw [h'.heard, h.heard, Option.map_map, ParentWindow.hear_comp_hear, placesOf_append, pieces]
  mapped := by
    rw [mappingsOf_append, h.mapped, h'.mapped, h.isOpen_eq]
    cases v.compositor.isOpen <;> simp
  placed := by simp [h.placed, h'.placed]
  isOpen_eq := h'.isOpen_eq.trans h.isOpen_eq

end Routes

section Steps

variable {crew : Crew σ ι A W D} {v v' : View σ A W D} {new : List Sign}

theorem mail_forwardSigns (c : Compositor A W D) (event : InputEvent) :
    reportsOf (c.forwardSigns event) = [] ∧ mappingsOf (c.forwardSigns event) = [] ∧
      placesOf (c.forwardSigns event) = [] := by
  rw [forwardSigns]
  cases c.parent <;> exact ⟨rfl, rfl, rfl⟩

theorem Resizes.routes {k : Nat} {size : Size} (h : Resizes crew k size v new v') :
    Routes [] v new v' := by
  have kept := isOpen_of_shape_eq h.shape_eq
  cases h <;> exact .idle (List.append_nil _).symm rfl rfl rfl kept

theorem Reports.routes (h : Reports crew v new v') : Routes [] v new v' := by
  cases h with
  | input | resized => exact .idle (by simp [Sign.input?, withQueued]) rfl rfl rfl rfl
  | resize resizes => exact resizes.routes

theorem Adjusts.routes (h : Adjusts crew v new v') : Routes [] v new v' := by
  cases h with
  | report reports => exact reports.routes
  | place | hint => exact .idle (by simp [Sign.input?]) rfl rfl rfl rfl

/-- What is placed and passed on when an input is handled. -/
theorem Handles.delivers {input : RegionInput} (h : Handles crew input v new v') :
    reportsOf new = [] ∧
      v'.compositor.parent = v.compositor.parent.map (.hear (routed [input] (placesOf new))) ∧
      mappingsOf new = (if v.compositor.isOpen then pointersOf [input] else []) ∧
      (placesOf new).length = (mappingsOf new).length := by
  cases h with
  | late gone => simp [isOpen, gone, routed]
  | dropped alive =>
    simp [isOpen, alive, routed, RegionInput.pointer?, Sign.input?, Sign.mapped?, Sign.located?]
  | @placed _ k event moved a a' w alive ran =>
    obtain ⟨reports, mappings, places⟩ := mail_forwardSigns v.compositor (.mouse moved)
    simp [isOpen, alive, routed, RegionInput.pointer?, Sign.input?, Sign.mapped?, Sign.located?,
      forwarded_eq, reports, mappings, places]
  | plain plain =>
    obtain ⟨reports, mappings, places⟩ := mail_forwardSigns v.compositor input.event
    obtain ⟨k, event⟩ := input
    cases event with
    | mouse event => exact (plain event rfl).elim
    | key | closeRequested =>
      simp [routed, RegionInput.pointer?, forwarded_eq, reports, mappings, places]

/-- An input that is handled was the first in the queue, and no other one is handled. -/
theorem Handles.routes {input : RegionInput} {rest : List RegionInput}
    (queue : v.compositor.queue = input :: rest)
    (h : Handles crew input (v.become { v.compositor with queue := rest }) new v') :
    Routes [input] v new v' := by
  obtain ⟨silent, heard, mapped, placed⟩ := h.delivers
  exact ⟨by rw [silent, queue, h.queue_eq]; simp, heard, mapped, placed,
    isOpen_of_shape_eq h.shape_eq⟩

theorem Splits.routes {picture : Picture} {slots : Slots}
    (h : Splits crew picture v new slots v') : Routes [] v new v' := by
  have kept := isOpen_of_shape_eq h.shape_eq
  cases h
  exact .idle (List.append_nil _).symm rfl rfl rfl kept

/-- While a display works on a picture its window reports inputs, and nothing else shows. -/
theorem Routes.working {k : Nat} {events : List InputEvent} {call : Call} {locked : List Nat}
    (unmapped : (Sign.called call locked).mapped? = none)
    (queue : v'.compositor.queue = v.compositor.queue ++ events.map fun event => ⟨k, event⟩)
    (parent : v'.compositor.parent = v.compositor.parent)
    (isOpen_eq : v'.compositor.isOpen = v.compositor.isOpen) :
    Routes [] v (.called call locked :: events.map fun event => .reported k (.input event)) v' := by
  have silent : ∀ sign ∈ events.map fun event => Sign.reported k (.input event),
      sign.mapped? = none ∧ sign.located? = none := by
    intro sign member
    obtain ⟨_, _, rfl⟩ := List.mem_map.mp member
    exact ⟨rfl, rfl⟩
  refine .idle ?_ parent ?_ ?_ isOpen_eq
  · rw [reportsOf_cons, reportsOf_inputs, queue]
    rfl
  · rw [mappingsOf_cons, unmapped]
    exact List.filterMap_eq_nil_iff.mpr fun sign member => (silent sign member).1
  · rw [placesOf_cons]
    exact List.filterMap_eq_nil_iff.mpr fun sign member => (silent sign member).2

theorem Fills.routes {overlay : Option Overlay} {date : Tick} {k : Nat}
    {picture : Option Picture} (h : Fills crew overlay date k picture v new v') :
    Routes [] v new v' := by
  have kept := isOpen_of_shape_eq h.shape_eq
  cases h with
  | empty | unshown => exact .idle (List.append_nil _).symm rfl rfl rfl kept
  | prepared => exact .working rfl rfl rfl kept

theorem Shows.routes {k : Nat} (h : Shows crew k v new v') : Routes [] v new v' := by
  have kept := isOpen_of_shape_eq h.shape_eq
  cases h with
  | blank => exact .idle (List.append_nil _).symm rfl rfl rfl kept
  | shown => exact .working rfl rfl rfl kept

/-- Steps that handle no input, one after the other. -/
theorem Path.routes {step : View σ A W D → List Sign → View σ A W D → Prop}
    (each : ∀ v new v', step v new v' → Routes [] v new v') (h : Path step v new v') :
    Routes [] v new v' := by
  induction h with
  | nil => exact .nil _
  | cons head _ ih => exact (each _ _ _ head).trans ih

/-! ## Operations -/

/-- To handle what waits is to handle all of it, and nothing is reported meanwhile. -/
theorem HandlesAll.routes {inputs : List RegionInput} (h : HandlesAll crew inputs v new v') :
    Routes inputs v new v' ∧ reportsOf new = [] ∧ v'.compositor.queue = [] := by
  induction h with
  | done empty => exact ⟨.nil _, rfl, empty⟩
  | next queue handles _ ih =>
    obtain ⟨later, silent, empty⟩ := ih
    refine ⟨(handles.routes queue).trans later, ?_, empty⟩
    rw [reportsOf_append, silent, handles.delivers.1]
    rfl

theorem FillsFrom.routes {overlay : Option Overlay} {date : Tick} {count k : Nat}
    {slots left : Slots} (h : FillsFrom crew overlay date count k slots v new left v') :
    Routes [] v new v' := by
  induction h with
  | done => exact .nil _
  | next fills _ ih => exact fills.routes.trans ih

theorem ShowsFrom.routes {count k : Nat} (h : ShowsFrom crew count k v new v') :
    Routes [] v new v' := by
  induction h with
  | done => exact .nil _
  | next shows _ ih => exact shows.routes.trans ih

theorem Divides.routes {picture : Picture} {overlay : Option Overlay} {date : Tick}
    (h : Divides crew picture overlay date v new v') : Routes [] v new v' := by
  cases h with
  | late => exact .nil _
  | mk splits fills =>
    have released (v : View σ A W D) (slots : Slots) : Routes [] v [] (v.letGoAll slots) :=
      .idle (List.append_nil _).symm rfl rfl rfl rfl
    simpa using (splits.routes.trans fills.routes).trans (released _ _)

/-! ## Opening -/

section Opening

variable {settings : SplitSettings} {algorithm : A} {policy : FailurePolicy}
variable {asked : DisplayRequest} {fate : Fate} {k : Nat}

theorem Attempts.routes {α : Type} {call : Call} {task : Run σ ι α} {a : α}
    (setup : call.kind = .setup) (h : Attempts crew call task v new a v') : Routes [] v new v' := by
  cases h with
  | mk reports ran =>
    have asked : Routes [] v [.called call []] v := .aside (by simp [Sign.kind, setup]) rfl rfl rfl
    exact (asked.trans (Path.routes (fun _ _ _ => Reports.routes) reports.1)).congr rfl

theorem Adopts.routes {window : W} {d : D} (h : Adopts crew asked window d v new v') :
    Routes [] v new v' := by
  cases h <;> exact .aside (by simp [Sign.kind, Call.kind]) rfl rfl rfl

theorem Mounts.routes {window : W} (h : Mounts crew policy asked window v new fate v') :
    Routes [] v new v' := by
  cases h with
  | tolerated _ attempt =>
    exact (attempt.routes rfl).trans (.aside (by simp [Sign.kind]) rfl rfl rfl)
  | aborted _ attempt same =>
    refine ((attempt.routes rfl).trans (.aside ?_ rfl rfl rfl)).congr same
    simp [Sign.kind, Call.kind]
  | ready attempt adopts =>
    have told (v : View σ A W D) : Routes [] v [.answered (.step .display asked.index true)] v :=
      .aside (by simp [Sign.kind]) rfl rfl rfl
    exact (attempt.routes rfl).trans ((told _).trans adopts.routes)

theorem Equips.routes (h : Equips crew policy asked v new fate v') : Routes [] v new v' := by
  have told (v : View σ A W D) (stage : RegionStage) (done : Bool) :
      Routes [] v [.answered (.step stage asked.index done)] v :=
    .aside (by simp [Sign.kind]) rfl rfl rfl
  cases h with
  | windowRefused window => exact (window.routes rfl).trans (told _ _ _)
  | enableRefused window enable same =>
    have undone (v : View σ A W D) : Routes [] v [.answered (.step .enable asked.index false),
        .called (.dropWindow asked.index) []] v :=
      .aside (by simp [Sign.kind, Call.kind]) rfl rfl rfl
    exact ((window.routes rfl).trans ((told _ _ _).trans
      ((enable.routes rfl).trans (undone _)))).congr same
  | mounted window enable mounts =>
    exact (window.routes rfl).trans ((told _ _ _).trans
      ((enable.routes rfl).trans ((told _ _ _).trans mounts.routes)))

theorem Opens.routes {output : Output} (h : Opens crew settings algorithm k output v new fate v') :
    Routes [] v new v' := by
  have asks (c : Compositor A W D) (same : c.queue = v.compositor.queue)
      (parent : c.parent = v.compositor.parent) (isOpen_eq : c.isOpen = v.compositor.isOpen) :
      Routes [] v [.called (.sizeHint k) []] (v.become c) :=
    .aside (by simp [Sign.kind, Call.kind]) same parent isOpen_eq
  cases h with
  | inactive => exact asks _ rfl rfl rfl
  | active _ _ equips => exact (asks (v.compositor.withBare _) rfl rfl rfl).trans equips.routes

theorem OpensFrom.routes {outputs : List Output} {fates : List Fate}
    {result : Except OpenError Unit}
    (h : OpensFrom crew settings algorithm k outputs v new fates result v') :
    Routes [] v new v' := by
  induction h with
  | done => exact .nil _
  | failed opens => exact opens.routes
  | next opens _ _ ih => exact opens.routes.trans ih

end Opening

end Steps

/-! ## The law -/

/-- Whether an operation handles the inputs that wait. -/
def Operation.drains : Operation → Bool
  | prepare _ _ _ | drain => true
  | display | control _ | report _ _ | close => false

/-- What becomes of inputs during one operation: all that wait are handled, or none. -/
def Deed.Routed (v : View σ A W D) (deed : Deed) (v' : View σ A W D) : Prop :=
  Routes (if deed.operation.drains then v.compositor.queue else []) v deed.signs v'

/-- How inputs reach the parent while deeds follow an opening. -/
structure RoutingLaw (parent : Option ParentWindow) (opening : List Sign) (deeds : List Deed)
    (c : Compositor A W D) : Prop where
  /-- Before the first handling of inputs the parent hears nothing, and all wait. -/
  undrained : (∀ deed ∈ deeds, deed.operation.drains = false) →
    c.parent = parent ∧ mappingsOf (deeds.flatMap Deed.signs) = [] ∧
      c.queue = reportsOf (opening ++ deeds.flatMap Deed.signs)
  /-- After it, the parent has heard what is passed on of the inputs reported before the last
  handling began, and those reported since then wait. The algorithm was asked to place exactly
  the pointer events among the former, in order, and gave each its place. -/
  drained : ∀ before deed after, deeds = before ++ deed :: after → deed.operation.drains = true →
    (∀ later ∈ after, later.operation.drains = false) →
    let handled := reportsOf (opening ++ before.flatMap Deed.signs)
    let places := placesOf (deeds.flatMap Deed.signs)
    c.parent = parent.map (.hear (routed handled places)) ∧
      mappingsOf (deeds.flatMap Deed.signs) = pointersOf handled ∧
      places.length = (pointersOf handled).length ∧
      c.queue = reportsOf (deed.signs ++ after.flatMap Deed.signs)

section Deeds

variable {v v' : View σ A W D} {deeds : List Deed}

theorem Deeds.routes (h : Deeds Deed.Routed v deeds v') :
    ∃ handled, Routes handled v (deeds.flatMap Deed.signs) v' := by
  induction h with
  | nil => exact ⟨[], .nil _⟩
  | cons head _ ih =>
    obtain ⟨handled, later⟩ := ih
    exact ⟨_, head.trans later⟩

/-- Deeds that handle no inputs leave all of them waiting. -/
theorem Deeds.routes_of_undrained (h : Deeds Deed.Routed v deeds v')
    (undrained : ∀ deed ∈ deeds, deed.operation.drains = false) :
    Routes [] v (deeds.flatMap Deed.signs) v' := by
  induction h with
  | nil => exact .nil _
  | cons head _ ih =>
    have idle := undrained _ List.mem_cons_self
    rw [Deed.Routed, idle] at head
    exact head.trans (ih fun deed member => undrained deed (List.mem_cons_of_mem _ member))

/-- The law holds where the queue starts with what was reported during the opening. -/
theorem Deeds.routingLaw {opening : List Sign} (h : Deeds Deed.Routed v deeds v')
    (isOpen : v.compositor.isOpen = true) (queue : v.compositor.queue = reportsOf opening) :
    RoutingLaw v.compositor.parent opening deeds v'.compositor where
  undrained := by
    intro undrained
    have idle := h.routes_of_undrained undrained
    refine ⟨by simpa [routed] using idle.heard, by simpa [isOpen] using idle.mapped, ?_⟩
    rw [reportsOf_append, ← queue]
    exact idle.queue
  drained := by
    rintro before deed after rfl drains idle
    obtain ⟨u, first, rest⟩ := append_iff.mp h
    cases rest with
    | @cons _ u' _ _ _ head tail =>
    obtain ⟨handled, routes⟩ := first.routes
    rw [Deed.Routed, drains, if_pos rfl] at head
    have later := tail.routes_of_undrained idle
    have all := (routes.trans head).trans later
    have flat : before.flatMap Deed.signs ++ deed.signs ++ after.flatMap Deed.signs =
        (before ++ deed :: after).flatMap Deed.signs := by simp
    -- What was handled before, and the queue at the last handling, are all inputs until then.
    rw [List.append_nil, routes.queue, queue, ← reportsOf_append, flat] at all
    have placed := all.placed
    rw [all.mapped, isOpen, if_pos rfl] at placed
    refine ⟨all.heard, by simpa [isOpen] using all.mapped, placed, ?_⟩
    have since : u'.compositor.queue = reportsOf deed.signs := List.append_cancel_left head.queue
    rw [reportsOf_append, ← since]
    exact later.queue

end Deeds

/-! ## Handling inputs with an algorithm -/

/-- Handles an input with an algorithm alone, and gives what is to be passed on: a pointer event
where the algorithm places it, all else as it is. -/
def routeOne (crew : Crew σ ι A W D) (a : A) (input : RegionInput) :
    Run σ (Happening ι) (List InputEvent × A) :=
  match input.event with
  | .mouse event => do
    let (place, a) ← Run.within (crew.algorithm.locate a input.index event)
    return ((place.map .mouse).toList, a)
  | event => return ([event], a)

/-- Handles inputs one after the other, each with the algorithm as the one before left it. -/
def route (crew : Crew σ ι A W D) : A → List RegionInput →
    Run σ (Happening ι) (List InputEvent × A)
  | a, [] => return ([], a)
  | a, input :: rest => do
    let (heard, a) ← routeOne crew a input
    let (later, a) ← route crew a rest
    return (heard ++ later, a)

/-- To drain is to handle all inputs that wait with the algorithm. Their number is given back,
none of them is left, and the parent hears what the algorithm makes of them. -/
def DrainLaw (crew : Crew σ ι A W D) (s : Running σ ι A W D) : Prop :=
  match drain crew s with
  | .ok count t => count = s.compositor.queue.length ∧ t.compositor.queue = [] ∧
      ∃ a heard a' w, s.compositor.algorithm = some a ∧
        route crew a s.compositor.queue ⟨s.world.env, s.world.ledger, []⟩ = .ok (heard, a') w ∧
        t.compositor.algorithm = some a' ∧
        t.compositor.parent = s.compositor.parent.map (.hear heard) ∧
        t.world.env = w.env ∧ t.world.ledger = w.ledger
  | .error fault _ => crew.Raises fault

/-- To prepare a picture is to drain first. Only then is the algorithm asked for the parts of the
picture, and no input is handled any more. -/
def PrepareLaw (crew : Crew σ ι A W D) (s : Running σ ι A W D) (picture : Picture)
    (overlay : Option Overlay) (date : Tick) : Prop :=
  match prepare crew picture overlay date s with
  | .ok _ u => ∃ count t drained sighting later, drain crew s = .ok count t ∧
      t.world.signs = s.world.signs ++ drained ∧ (∀ sign ∈ drained, sign.kind = .input) ∧
      u.world.signs = t.world.signs ++ .called (.filter sighting) [] :: later ∧
      mappingsOf later = [] ∧ u.compositor.queue = reportsOf later ∧
      u.compositor.parent = t.compositor.parent
  | .error fault _ => crew.Raises fault

section Laws

variable {crew : Crew σ ι A W D} {v v' : View σ A W D} {new : List Sign}

theorem HandlesAll.kind_eq {inputs : List RegionInput} (h : HandlesAll crew inputs v new v') :
    ∀ sign ∈ new, sign.kind = .input := by
  induction h with
  | done => simp
  | next _ handles _ ih =>
    intro sign member
    rcases List.mem_append.mp member with first | later
    · exact handles.kind_eq sign first
    · exact ih sign later

/-- What becomes of an input that is handled is what the algorithm alone makes of it. -/
theorem Handles.routeOne_eq {input : RegionInput} (h : Handles crew input v new v')
    {a : A} (alive : v.compositor.algorithm = some a) (trace : List (Happening ι)) :
    ∃ heard a' w, routeOne crew a input ⟨v.env, v.ledger, trace⟩ = .ok (heard, a') w ∧
      v'.compositor.algorithm = some a' ∧
      v'.compositor.parent = v.compositor.parent.map (.hear heard) ∧
      v'.env = w.env ∧ v'.ledger = w.ledger := by
  cases h with
  | late gone =>
    rw [gone] at alive
    cases alive
  | dropped alive' ran =>
    cases alive.symm.trans alive'
    simp only [routeOne, bind, EStateM.bind, Run.within]
    rw [show crew.algorithm.locate a _ _ ⟨v.env, v.ledger, []⟩ = _ from ran]
    exact ⟨[], _, _, rfl, rfl, by simp, rfl, rfl⟩
  | placed alive' ran =>
    cases alive.symm.trans alive'
    simp only [routeOne, bind, EStateM.bind, Run.within]
    rw [show crew.algorithm.locate a _ _ ⟨v.env, v.ledger, []⟩ = _ from ran]
    exact ⟨_, _, _, rfl, rfl, rfl, rfl, rfl⟩
  | plain plain =>
    obtain ⟨k, event⟩ := input
    cases event with
    | mouse event => exact (plain event rfl).elim
    | key | closeRequested => exact ⟨_, _, _, rfl, alive, rfl, rfl, rfl⟩

theorem HandlesAll.route_eq {inputs : List RegionInput} (h : HandlesAll crew inputs v new v')
    {a : A} (alive : v.compositor.algorithm = some a) (trace : List (Happening ι)) :
    ∃ heard a' w, route crew a inputs ⟨v.env, v.ledger, trace⟩ = .ok (heard, a') w ∧
      v'.compositor.algorithm = some a' ∧
      v'.compositor.parent = v.compositor.parent.map (.hear heard) ∧
      v'.env = w.env ∧ v'.ledger = w.ledger := by
  induction h generalizing a trace with
  | done => exact ⟨[], a, _, rfl, alive, by simp, rfl, rfl⟩
  | @next v v₁ v₂ input rest new more queue handles _ ih =>
    obtain ⟨heard, a₁, w₁, ran, alive₁, parent, env, ledger⟩ := handles.routeOne_eq alive trace
    obtain ⟨later, a₂, w₂, ran', alive₂, parent', env', ledger'⟩ := ih alive₁ w₁.trace
    have ran : routeOne crew a input ⟨v.env, v.ledger, trace⟩ = .ok (heard, a₁) w₁ := ran
    rw [env, ledger] at ran'
    refine ⟨heard ++ later, a₂, w₂, ?_, alive₂, ?_, env', ledger'⟩
    · simp only [route, bind, EStateM.bind, ran]
      rw [show route crew a₁ rest w₁ = _ from ran']
      rfl
    · rw [parent', parent, Option.map_map, ParentWindow.hear_comp_hear]
      rfl

theorem drain_lawful (s : Running σ ι A W D) (tidy : s.compositor.Tidy)
    (isOpen : s.compositor.isOpen = true) : DrainLaw crew s := by
  have drains : (drain crew).Yields crew s.view _ := drain_yields tidy
  have yields := drains s rfl
  unfold DrainLaw
  cases ran : drain crew s with
  | error fault t =>
    rw [ran] at yields
    exact yields
  | ok count t =>
    rw [ran] at yields
    obtain ⟨drained, signs, counted, handles⟩ := yields
    obtain ⟨a, alive⟩ := Option.isSome_iff_exists.mp isOpen
    obtain ⟨heard, a', w, routed, alive', parent, env, ledger⟩ := handles.route_eq alive []
    exact ⟨counted, handles.routes.2.2, a, heard, a', w, alive, routed, alive', parent, env,
      ledger⟩

theorem Divides.filter_first {picture : Picture} {overlay : Option Overlay} {date : Tick}
    (h : Divides crew picture overlay date v new v') (isOpen : v.compositor.isOpen = true) :
    ∃ sighting later, new = .called (.filter sighting) [] :: later := by
  cases h with
  | late gone => simp [Compositor.isOpen, gone] at isOpen
  | mk splits fills =>
    cases splits
    exact ⟨_, _, rfl⟩

theorem prepare_lawful (s : Running σ ι A W D) (tidy : s.compositor.Tidy)
    (isOpen : s.compositor.isOpen = true) (picture : Picture) (overlay : Option Overlay)
    (date : Tick) : PrepareLaw crew s picture overlay date := by
  have prepared := prepare_ran crew picture overlay date s tidy
  unfold PrepareLaw
  cases ran : prepare crew picture overlay date s with
  | error fault u =>
    rw [ran] at prepared
    exact prepared
  | ok done u =>
    rw [ran] at prepared
    obtain ⟨count, t, drained, divided, drains, signs, handles, signs', divides⟩ := prepared
    have isOpen' : t.compositor.isOpen = true := handles.routes.1.isOpen_eq.trans isOpen
    obtain ⟨sighting, later, rfl⟩ := divides.filter_first isOpen'
    have routes := divides.routes
    refine ⟨count, t, drained, sighting, later, drains, signs, handles.kind_eq, signs', ?_, ?_, ?_⟩
    · simpa [isOpen', Sign.mapped?] using routes.mapped
    · have empty : t.compositor.queue = [] := handles.routes.2.2
      have queue : u.compositor.queue = t.compositor.queue ++ _ := routes.queue
      rw [queue, empty]
      rfl
    · have parent : u.compositor.parent = t.compositor.parent.map (.hear []) := routes.heard
      simpa using parent

/-- Every operation but closing handles all inputs that wait, or none. -/
theorem perform_routed (operation : Operation) (live : operation ≠ .close)
    (tidy : v.compositor.Tidy) :
    (operation.perform crew).Yields crew v fun _ new v' =>
      Deed.Routed v ⟨operation, v.compositor.shown, new⟩ v' ∧ v'.compositor.Tidy := by
  cases operation with
  | close => exact (live rfl).elim
  | prepare picture overlay date =>
    refine (prepare_yields picture overlay date tidy).mono ?_
    rintro _ _ v' ⟨drained, divided, v₁, handles, divides, rfl⟩
    have routes := handles.routes.1.trans divides.routes
    rw [List.append_nil] at routes
    exact ⟨routes, (Step.tidyPath (handles.prepares tidy divides).path tidy).2⟩
  | display =>
    exact (display_yields tidy).mono fun _ _ _ shows =>
      ⟨shows.routes, (Step.tidyPath shows.path tidy).2⟩
  | control query =>
    refine (control_yields query tidy).andThen fun _ new v' path => .pure ?_
    rw [List.append_nil]
    exact ⟨Path.routes (fun _ _ _ => Adjusts.routes) path.1, path.2⟩
  | drain =>
    refine (drain_yields tidy).andThen fun _ new v' drains => .pure ?_
    rw [List.append_nil]
    exact ⟨drains.2.routes.1, (drains.2.tidyPath tidy).2⟩
  | report k event =>
    exact (report_yields tidy k event).mono fun _ _ _ path =>
      ⟨Path.routes (fun _ _ _ => Reports.routes) path.1, path.2⟩

/-- The law of a run that starts with an open compositor whose queue holds what was reported while
it was opened. -/
theorem performNoted_routes (crew : Crew σ ι A W D) {operations : List Operation}
    (unclosed : .close ∉ operations)
    {opening : List Sign} (s : Running σ ι A W D) (tidy : s.compositor.Tidy)
    (isOpen : s.compositor.isOpen = true) (queue : s.compositor.queue = reportsOf opening) :
    match performNoted crew operations s with
    | .ok deeds t => deeds.map Deed.operation = operations ∧
        t.world.signs = s.world.signs ++ deeds.flatMap Deed.signs ∧
        RoutingLaw s.compositor.parent opening deeds t.compositor ∧ t.compositor.Tidy ∧
        t.compositor.isOpen = true
    | .error fault _ => crew.Raises fault := by
  have noted := performNoted_deeds crew Deed.Routed (fun v => v.compositor.Tidy) operations
    (fun operation member v tidy =>
      perform_routed operation (fun close => unclosed (close ▸ member)) tidy) s tidy
  cases ran : performNoted crew operations s with
  | error fault t =>
    rw [ran] at noted
    exact noted
  | ok deeds t =>
    rw [ran] at noted
    obtain ⟨all, signs, done, tidy'⟩ := noted
    obtain ⟨handled, routes⟩ := done.routes
    exact ⟨all, signs, done.routingLaw isOpen queue, tidy', routes.isOpen_eq.trans isOpen⟩

end Laws

/-- A compositor that was just opened is tidy, and what was reported meanwhile waits. -/
theorem Starts.fresh {registry : Registry (Constructor σ ι A)} {settings : SplitSettings}
    {source : VideoFormat} {parent : Option ParentWindow} {env : σ} {ledger : Ledger}
    {crew : Crew σ ι A W D} {c : Compositor A W D} {w : World σ (Happening ι)}
    (h : Starts crew registry settings source parent env ledger (.ok c) w) :
    c.Tidy ∧ c.isOpen = true ∧ c.queue = reportsOf w.signs ∧ c.parent = parent := by
  generalize came : Except.ok c = result at h
  cases h with
  | unknown | unmade => cases came
  | populated known ran populates seen =>
    generalize w.signs = opening at populates ⊢
    cases populates with
    | failed => cases came
    | opened opens =>
      cases came
      have routes := opens.routes
      exact ⟨opens.tidy unpopulated_tidy, routes.isOpen_eq, routes.queue, by
        simpa [routed, unpopulated] using routes.heard⟩

/-- Whatever is done with a compositor that was opened, short of closing it, inputs reach the
parent by the law; and however far it has come, to drain and to prepare would keep theirs. -/
theorem open_keeps_routing_law (crew : Crew σ ι A W D) (registry : Registry (Constructor σ ι A))
    (settings : SplitSettings) (source : VideoFormat) (parent : Option ParentWindow)
    {operations : List Operation} (unclosed : .close ∉ operations) (env : σ) (ledger : Ledger) :
    match «open» crew registry settings source parent ⟨env, ledger, []⟩ with
    | .error fault _ => crew.Raises fault ∨ MakingRaises registry settings source fault
    | .ok (.error _) _ => True
    | .ok (.ok c) w =>
      match performNoted crew operations ⟨c, w⟩ with
      | .ok deeds t => performAll crew operations ⟨c, w⟩ = .ok () t ∧
          deeds.map Deed.operation = operations ∧
          t.world.signs = w.signs ++ deeds.flatMap Deed.signs ∧
          RoutingLaw parent w.signs deeds t.compositor ∧ DrainLaw crew t ∧
          ∀ picture overlay date, PrepareLaw crew t picture overlay date
      | .error fault _ => crew.Raises fault := by
  have starts := open_starts crew registry settings source parent env ledger
  cases opened : «open» crew registry settings source parent ⟨env, ledger, []⟩ with
  | error fault w =>
    rw [opened] at starts
    exact starts
  | ok result w =>
    rw [opened] at starts
    cases result with
    | error e => trivial
    | ok c =>
      obtain ⟨tidy, isOpen, queue, same⟩ := starts.fresh
      have noted := performNoted_routes crew unclosed ⟨c, w⟩ tidy isOpen queue
      dsimp only
      cases ran : performNoted crew operations ⟨c, w⟩ with
      | error fault t =>
        rw [ran] at noted
        exact noted
      | ok deeds t =>
        rw [ran] at noted
        obtain ⟨all, signs, law, tidy', isOpen'⟩ := noted
        exact ⟨performAll_of_noted ran, all, signs, same ▸ law, drain_lawful t tidy' isOpen',
          prepare_lawful t tidy' isOpen'⟩

/-! ## A turnstile -/

/-- What the parent heard once operations were performed on a compositor that was opened. -/
def heard? (crew : Crew σ ι A W D) (operations : List Operation) :
    EStateM.Result Fault (World σ (Happening ι)) (Except OpenError (Compositor A W D)) →
      Option (List InputEvent)
  | .ok (.ok c) w =>
    match performNoted crew operations ⟨c, w⟩ with
    | .ok _ t => t.compositor.parent.map ParentWindow.received
    | .error _ _ => none
  | .ok (.error _) _ | .error _ _ => none

theorem of_heard?_eq_some {crew : Crew σ ι A W D} {operations : List Operation}
    {came : EStateM.Result Fault (World σ (Happening ι)) (Except OpenError (Compositor A W D))}
    {events : List InputEvent} (h : heard? crew operations came = some events) :
    ∃ c w deeds t, came = .ok (.ok c) w ∧ performNoted crew operations ⟨c, w⟩ = .ok deeds t ∧
      t.compositor.parent.map ParentWindow.received = some events := by
  unfold heard? at h
  split at h
  · rename_i c w
    split at h
    · rename_i deeds t ran
      exact ⟨c, w, deeds, t, rfl, ran, h⟩
    · cases h
  · cases h
  · cases h

/-- An algorithm with two outputs that lets every other pointer event pass. -/
def turnstile : Partitioner Unit Notice Bool where
  outputs _ := List.replicate 2 (.shown "" (.whole .i420 64 48))
  filter passes picture := Run.consuming picture fun ledger => .ok ((.ok [], passes), ledger)
  locate passes _ event := return (if passes then some event else none, !passes)
  sizeFor _ format placement := placement.sizeFor format
  drop _ := return

/-- Those who let inputs through a turnstile. -/
def keepers : Crew Unit Notice Bool HeadlessWindow HeadlessDisplay := ⟨turnstile, headless⟩

/-- Makes turnstiles that let the first pointer event pass. -/
def makeTurnstile : Constructor Unit Notice Bool := fun _ _ => return .ok true

/-- A registry that knows nothing but turnstiles, under the name that is asked for. -/
def turnstiles : Registry (Constructor Unit Notice Bool) :=
  Registry.empty.register SplitSettings.standard.algorithmName makeTurnstile

/-- Reports of both windows before and after the inputs are handled. -/
def visitors : List Operation := [
  .report 0 (.input (.mouse (.moved 1 2))), .report 1 (.input (.key 7)),
  .report 0 (.resized ⟨32, 24⟩), .report 1 (.input (.mouse (.moved 3 4))), .drain,
  .report 0 (.input .closeRequested)]

theorem turnstiles_resolve :
    turnstiles.resolve? SplitSettings.standard.algorithmName = some makeTurnstile :=
  Registry.resolve?_register_self _ _ _

/-- Of two pointer events the second is dropped, and the wish to close still waits. -/
theorem turnstile_routes :
    .close ∉ visitors ∧ ∃ c w deeds t,
      «open» keepers turnstiles .standard (.whole .i420 64 48) (some .fresh)
        ⟨(), .empty, []⟩ = .ok (.ok c) w ∧
      performNoted keepers visitors ⟨c, w⟩ = .ok deeds t ∧
      t.compositor.parent.map ParentWindow.received = some [.mouse (.moved 1 2), .key 7] ∧
      RoutingLaw (some .fresh) w.signs deeds t.compositor ∧ DrainLaw keepers t := by
  have unclosed : .close ∉ visitors := by decide
  have known := turnstiles_resolve
  have made : makeTurnstile (VideoFormat.whole .i420 64 48).upright .standard ⟨(), .empty, []⟩ =
      .ok (.ok true) ⟨(), .empty, []⟩ := rfl
  -- The registry is used only through what it finds.
  generalize turnstiles = registry at known ⊢
  have law := open_keeps_routing_law keepers registry .standard (.whole .i420 64 48)
    (some .fresh) unclosed () .empty
  rw [open_of_made keepers (some .fresh) known made] at law ⊢
  have heard : heard? keepers visitors (openWith keepers .standard (.whole .i420 64 48)
      (some .fresh) true (founded keepers .standard true ⟨(), .empty, []⟩)) =
      some [.mouse (.moved 1 2), .key 7] := by
    decide +kernel
  obtain ⟨c, w, deeds, t, came, ran, received⟩ := of_heard?_eq_some heard
  rw [came] at law
  dsimp only at law
  rw [ran] at law
  obtain ⟨-, -, -, routing, drains, -⟩ := law
  exact ⟨unclosed, c, w, deeds, t, came, ran, received, routing, drains⟩

end Compositor

end Mosaic
