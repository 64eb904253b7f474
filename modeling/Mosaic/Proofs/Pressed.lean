import Mathlib.Data.List.Induction
import Mathlib.Data.List.ReduceOption
import Mosaic.Proofs.Routing
import Mosaic.Proofs.Run

/-!
# Which buttons are held

One set of buttons is kept for all regions. A press adds a button and a release takes it away, once
the algorithm has placed them, and nothing else touches the set: not the pointer, not a key, not a
new size, not what the algorithm drops, and not whether anybody listens. Presses and releases of one
button may come from different regions, or twice in a row. Hence the last of them that was placed
decides, and what is held can be told from the trace alone.

## Main definitions

* `MouseEvent.turned?`, `lastTurn` — presses and releases of a button, and the last of them
* `Compositor.Tracks` — the buttons held follow what is placed
* `placeAll` — places pointer events with an algorithm alone
* `ButtonLaw`, `TrackLaw` — the law of a run and of one operation

## Main results

* `ButtonMask.contains_foldl_track` — after some events the last turn of a button decides
* `Step.tracks`, `perform_tracked` — a step and an operation follow what is placed
* `open_keeps_button_law` — the law for opening and any operations but closing
-/

set_option autoImplicit false

namespace Mosaic

/-! ## Sets of buttons -/

/-- The button that a pointer event presses or releases. -/
def MouseEvent.turned? : MouseEvent → Option MouseButton
  | pressed button | released button => some button
  | moved _ _ | doubleClick _ => none

/-- The last press or release of a button among some events. -/
def lastTurn (b : MouseButton) (events : List MouseEvent) : Option MouseEvent :=
  (events.filter fun event => event.turned? = some b).getLast?

theorem lastTurn_append_singleton (b : MouseButton) (events : List MouseEvent)
    (event : MouseEvent) :
    lastTurn b (events ++ [event]) =
      if event.turned? = some b then some event else lastTurn b events := by
  unfold lastTurn
  rw [List.filter_append]
  by_cases turns : event.turned? = some b <;> simp [turns]

namespace MouseButton

/-- The place of the bit that stands for a button. -/
def place : MouseButton → Nat
  | left => 0
  | middle => 1
  | right => 2
  | wheelUp => 3
  | wheelDown => 4

theorem place_lt (b : MouseButton) : b.place < 8 := by cases b <;> decide

theorem place_inj {b b' : MouseButton} : b.place = b'.place ↔ b = b' := by
  cases b <;> cases b' <;> decide

theorem mask_bits (b : MouseButton) : b.mask.bits.toBitVec = BitVec.twoPow 8 b.place := by
  cases b <;> decide

end MouseButton

namespace ButtonMask

variable (m : ButtonMask) (b b' : MouseButton)

/-- A button is in a set if its bit is. -/
theorem contains_eq : m.contains b = m.bits.toBitVec.getLsbD b.place := by
  have unit : BitVec.twoPow 8 b.place ≠ 0#8 := by cases b <;> decide
  rw [Bool.eq_iff_iff, contains, includes, beq_iff_eq, ← UInt8.toBitVec_inj, UInt8.toBitVec_and,
    b.mask_bits, BitVec.and_twoPow]
  split
  · rename_i bit
    simp [bit]
  · rename_i bit
    simp [bit, unit.symm]

theorem contains_union : (m.union b'.mask).contains b = (m.contains b || b' = b) := by
  rw [contains_eq, contains_eq, union, UInt8.toBitVec_or, BitVec.getLsbD_or, b'.mask_bits,
    BitVec.getLsbD_twoPow]
  simp [MouseButton.place_inj, b'.place_lt]

theorem contains_difference :
    (m.difference b'.mask).contains b = (m.contains b && b' ≠ b) := by
  rw [contains_eq, contains_eq, difference, UInt8.toBitVec_and, UInt8.toBitVec_not,
    BitVec.getLsbD_and, BitVec.getLsbD_not, b'.mask_bits, BitVec.getLsbD_twoPow]
  simp [MouseButton.place_inj, b'.place_lt, b.place_lt]

theorem contains_empty : empty.contains b = false := by cases b <;> decide

/-- A press or a release of a button decides whether it is held. -/
theorem contains_track (event : MouseEvent) :
    (m.track event).contains b =
      if event.turned? = some b then decide (event = .pressed b) else m.contains b := by
  cases event with
  | moved | doubleClick => rfl
  | pressed button =>
    rw [track, contains_union]
    by_cases same : button = b <;> simp [MouseEvent.turned?, same]
  | released button =>
    rw [track, contains_difference]
    by_cases same : button = b <;> simp [MouseEvent.turned?, same]

/-- After some events the last turn of a button decides; without one nothing has changed. -/
theorem contains_foldl_track (events : List MouseEvent) :
    (events.foldl track m).contains b =
      match lastTurn b events with
      | some event => decide (event = .pressed b)
      | none => m.contains b := by
  induction events using List.reverseRecOn with
  | nil => rfl
  | append_singleton events event ih =>
    rw [List.foldl_append, lastTurn_append_singleton]
    change ((events.foldl track m).track event).contains b = _
    rw [contains_track, ih]
    by_cases turns : event.turned? = some b <;> simp [turns]

/-- What was not held at first is held if it was pressed last. -/
theorem contains_foldl_track_empty (events : List MouseEvent) :
    (events.foldl track empty).contains b = true ↔ lastTurn b events = some (.pressed b) := by
  rw [contains_foldl_track]
  cases lastTurn b events with
  | none => simp [contains_empty]
  | some event => simp

/-- No event touches the bits without a button. -/
theorem rest_track (event : MouseEvent) : (m.track event).rest = m.rest := by
  have added (b : MouseButton) : (m.union b.mask).rest = m.rest := by
    have none : b.mask.bits.toBitVec &&& ~~~all.bits.toBitVec = 0#8 := by cases b <;> decide
    refine congrArg mk (UInt8.toBitVec_inj.mp ?_)
    rw [UInt8.toBitVec_and, UInt8.toBitVec_and, union, UInt8.toBitVec_or, UInt8.toBitVec_not,
      BitVec.and_or_distrib_right, none, BitVec.or_zero]
  have removed (b : MouseButton) : (m.difference b.mask).rest = m.rest := by
    have none : ~~~b.mask.bits &&& ~~~all.bits = ~~~all.bits := by cases b <;> decide
    exact congrArg mk (by rw [difference, UInt8.and_assoc, none])
  cases event with
  | moved | doubleClick => rfl
  | pressed button => exact added button
  | released button => exact removed button

theorem rest_foldl_track (events : List MouseEvent) : (events.foldl track m).rest = m.rest := by
  induction events generalizing m with
  | nil => rfl
  | cons event events ih => rw [List.foldl_cons, ih, rest_track]

/-- Events that turn no button change nothing. -/
theorem foldl_track_of_unturned {events : List MouseEvent}
    (unturned : ∀ event ∈ events, event.turned? = none) : events.foldl track m = m := by
  induction events with
  | nil => rfl
  | cons event events ih =>
    rw [List.forall_mem_cons] at unturned
    have same : m.track event = m := by
      cases event with
      | moved | doubleClick => rfl
      | pressed | released => cases unturned.1
    rw [List.foldl_cons, same]
    exact ih unturned.2

end ButtonMask

namespace Compositor

variable {σ ι A W D : Type}

/-! ## The buttons held follow what is placed -/

/-- While something happens, the buttons held follow the pointer events that are placed. -/
def Tracks (v : View σ A W D) (new : List Sign) (v' : View σ A W D) : Prop :=
  v'.compositor.held = (placesOf new).reduceOption.foldl ButtonMask.track v.compositor.held

theorem Tracks.nil (v : View σ A W D) : Tracks v [] v := rfl

theorem Tracks.trans {v v' v'' : View σ A W D} {new more : List Sign} (h : Tracks v new v')
    (h' : Tracks v' more v'') : Tracks v (new ++ more) v'' := by
  rw [Tracks, placesOf_append, List.reduceOption_append, List.foldl_append, ← h]
  exact h'

/-- Where no input is handled, nothing is placed. -/
theorem Routes.placesOf_eq_nil {v v' : View σ A W D} {new : List Sign} (h : Routes [] v new v') :
    placesOf new = [] := by
  refine List.length_eq_zero_iff.mp ?_
  rw [h.placed, h.mapped]
  split <;> rfl

/-- Where no input is handled, the buttons held follow if they stay as they are. -/
theorem Tracks.idle {v v' : View σ A W D} {new : List Sign} (routes : Routes [] v new v')
    (held : v'.compositor.held = v.compositor.held) : Tracks v new v' := by
  rw [Tracks, routes.placesOf_eq_nil]
  exact held

section Steps

variable {crew : Crew σ ι A W D} {v v' : View σ A W D} {new : List Sign}

theorem held_of_fixture_eq {c c' : Compositor A W D} (h : c.fixture = c'.fixture) :
    c.held = c'.held :=
  (congrArg Compositor.held h :)

theorem Handles.tracks {input : RegionInput} (h : Handles crew input v new v') :
    Tracks v new v' := by
  cases h with
  | late | dropped => rfl
  | @placed _ k event moved =>
    obtain ⟨-, -, places⟩ := mail_forwardSigns v.compositor (.mouse moved)
    simp [Tracks, Sign.located?, places, forwarded, List.reduceOption]
  | plain =>
    obtain ⟨-, -, places⟩ := mail_forwardSigns v.compositor input.event
    rw [Tracks, places]
    rfl

/-- Every step follows what is placed. -/
theorem Step.tracks (h : Step crew v new v') : Tracks v new v' := by
  cases h with
  | quiet quiet =>
    cases quiet with
    | report reports => exact .idle reports.routes (held_of_fixture_eq reports.fixture_eq)
    | handle _ handles => exact handles.tracks
    | place | hint => rfl
  | split splits =>
    have routes := splits.routes
    cases splits
    exact .idle routes rfl
  | fill fills =>
    have routes := fills.routes
    cases fills <;> exact .idle routes rfl
  | «show» shows =>
    have routes := shows.routes
    cases shows <;> exact .idle routes rfl
  | release => rfl

theorem Path.tracks (h : Path (Step crew) v new v') : Tracks v new v' := by
  induction h with
  | nil => exact .nil _
  | cons head _ ih => exact head.tracks.trans ih

end Steps

/-! ## Placing with an algorithm -/

/-- Places pointer events one after the other, each with the algorithm as the one before left it. -/
def placeAll (crew : Crew σ ι A W D) : A → List (Nat × MouseEvent) →
    Run σ (Happening ι) (List (Option MouseEvent) × A)
  | a, [] => return ([], a)
  | a, (k, event) :: rest => do
    let (place, a) ← Run.within (crew.algorithm.locate a k event)
    let (later, a) ← placeAll crew a rest
    return (place :: later, a)

section Places

variable {crew : Crew σ ι A W D} {v v' : View σ A W D} {new : List Sign}

/-- Where the pointer events among some inputs are placed with an algorithm alone as they were while
something happened, and the algorithm ends as it did then. -/
def Places (crew : Crew σ ι A W D) (inputs : List RegionInput) (v : View σ A W D)
    (new : List Sign) (v' : View σ A W D) : Prop :=
  ∀ a, v.compositor.algorithm = some a → ∀ trace, ∃ a' w,
    placeAll crew a (pointersOf inputs) ⟨v.env, v.ledger, trace⟩ = .ok (placesOf new, a') w ∧
      v'.compositor.algorithm = some a' ∧ v'.env = w.env ∧ v'.ledger = w.ledger

theorem Handles.places {input : RegionInput} (h : Handles crew input v new v') :
    Places crew [input] v new v' := by
  intro a alive trace
  cases h with
  | late gone =>
    rw [gone] at alive
    cases alive
  | dropped alive' ran =>
    cases alive.symm.trans alive'
    simp only [pointersOf_cons, RegionInput.pointer?, pointersOf_nil, Option.toList,
      List.append_nil, placeAll, bind, EStateM.bind, Run.within]
    rw [show crew.algorithm.locate a _ _ ⟨v.env, v.ledger, []⟩ = _ from ran]
    exact ⟨_, _, rfl, rfl, rfl, rfl⟩
  | @placed _ k event moved _ _ _ alive' ran =>
    cases alive.symm.trans alive'
    obtain ⟨-, -, silent⟩ := mail_forwardSigns v.compositor (.mouse moved)
    simp only [pointersOf_cons, RegionInput.pointer?, pointersOf_nil, Option.toList,
      List.append_nil, placeAll, bind, EStateM.bind, Run.within]
    rw [show crew.algorithm.locate a _ _ ⟨v.env, v.ledger, []⟩ = _ from ran, placesOf_cons,
      placesOf_cons, silent]
    exact ⟨_, _, rfl, rfl, rfl, rfl⟩
  | plain plain =>
    obtain ⟨-, -, places⟩ := mail_forwardSigns v.compositor input.event
    obtain ⟨k, event⟩ := input
    rw [places]
    cases event with
    | mouse event => exact (plain event rfl).elim
    | key | closeRequested => exact ⟨_, _, rfl, alive, rfl, rfl⟩

theorem placeAll_append (a : A) (events more : List (Nat × MouseEvent)) :
    placeAll crew a (events ++ more) = do
      let (places, a) ← placeAll crew a events
      let (later, a) ← placeAll crew a more
      return (places ++ later, a) := by
  induction events generalizing a with
  | nil => simp [placeAll]
  | cons event events ih => simp [placeAll, ih]

theorem HandlesAll.places {inputs : List RegionInput} (h : HandlesAll crew inputs v new v') :
    Places crew inputs v new v' := by
  induction h with
  | done => exact fun a alive _ => ⟨a, _, rfl, alive, rfl, rfl⟩
  | @next v v₁ v₂ input rest new more queue handles _ ih =>
    intro a alive trace
    obtain ⟨a₁, w₁, ran, alive₁, env, ledger⟩ := handles.places a alive trace
    obtain ⟨a₂, w₂, ran', alive₂, env', ledger'⟩ := ih a₁ alive₁ w₁.trace
    rw [env, ledger] at ran'
    refine ⟨a₂, w₂, ?_, alive₂, env', ledger'⟩
    rw [← List.singleton_append, pointersOf_append, placeAll_append, placesOf_append]
    simp only [bind, EStateM.bind]
    rw [show placeAll crew a (pointersOf [input]) ⟨v.env, v.ledger, trace⟩ = _ from ran]
    simp only []
    rw [show placeAll crew a₁ (pointersOf rest) w₁ = _ from ran']
    rfl

end Places

/-! ## The law -/

/-- How the buttons held come about while deeds follow an opening. -/
structure ButtonLaw (opening : List Sign) (deeds : List Deed) (c : Compositor A W D) : Prop where
  /-- Before the first handling of inputs no button is held. -/
  undrained : (∀ deed ∈ deeds, deed.operation.drains = false) → c.held = .empty
  /-- After it, each pointer event that was reported before the last handling began has its place,
  and a button is held if the last event that turns it, among those that were not dropped, presses
  it. -/
  drained : ∀ before deed after, deeds = before ++ deed :: after → deed.operation.drains = true →
    (∀ later ∈ after, later.operation.drains = false) →
    let events := pointersOf (reportsOf (opening ++ before.flatMap Deed.signs))
    let places := placesOf (deeds.flatMap Deed.signs)
    mappingsOf (deeds.flatMap Deed.signs) = events ∧ places.length = events.length ∧
      ∀ b, c.held.contains b = true ↔ lastTurn b places.reduceOption = some (.pressed b)
  /-- There is no bit without a button. -/
  known : c.held.rest = .empty

/-- How the buttons held follow what an operation shows. -/
structure KeepsStep (crew : Crew σ ι A W D) (operation : Operation) (s : Running σ ι A W D)
    (new : List Sign) (t : Running σ ι A W D) : Prop where
  /-- Where inputs are handled, those that wait are placed by the algorithm. -/
  drains : operation.drains = true → ∃ a a' w, s.compositor.algorithm = some a ∧
    placeAll crew a (pointersOf s.compositor.queue) ⟨s.world.env, s.world.ledger, []⟩ =
      .ok (placesOf new, a') w
  idle : operation.drains = false → placesOf new = []
  /-- The last turn of a button decides, and without one it is held if it was held. -/
  turned : ∀ b, t.compositor.held.contains b =
    match lastTurn b (placesOf new).reduceOption with
    | some event => decide (event = .pressed b)
    | none => s.compositor.held.contains b
  /-- What is dropped and what turns no button changes nothing. -/
  steady : (∀ event ∈ (placesOf new).reduceOption, event.turned? = none) →
    t.compositor.held = s.compositor.held

/-- To perform an operation keeps the buttons held in step with what is placed. -/
def TrackLaw (crew : Crew σ ι A W D) (s : Running σ ι A W D) (operation : Operation) : Prop :=
  match operation.perform crew s with
  | .ok _ t => ∃ new, t.world.signs = s.world.signs ++ new ∧ KeepsStep crew operation s new t
  | .error fault _ => crew.Raises fault

/-- What becomes of inputs and of the buttons held during one operation. -/
structure Deed.Tracked (v : View σ A W D) (deed : Deed) (v' : View σ A W D) : Prop where
  routed : deed.Routed v v'
  tracks : Tracks v deed.signs v'

section Laws

variable {crew : Crew σ ι A W D} {v v' : View σ A W D}

theorem perform_tracked (crew : Crew σ ι A W D) (operation : Operation) (live : operation ≠ .close)
    (tidy : v.compositor.Tidy) :
    (operation.perform crew).Yields crew v fun _ new v' =>
      Deed.Tracked v ⟨operation, v.compositor.shown, new⟩ v' ∧ v'.compositor.Tidy :=
  ((perform_routed operation live tidy).both (perform_steps operation live tidy)).mono
    fun _ _ _ ⟨⟨routed, tidy'⟩, path, _⟩ => ⟨⟨routed, Path.tracks path⟩, tidy'⟩

/-- To handle what waits is to place the pointer events among it. -/
theorem perform_places (crew : Crew σ ι A W D) (operation : Operation)
    (drains : operation.drains = true) (tidy : v.compositor.Tidy) :
    (operation.perform crew).Yields crew v fun _ new _ =>
      ∀ a, v.compositor.algorithm = some a → ∃ a' w,
        placeAll crew a (pointersOf v.compositor.queue) ⟨v.env, v.ledger, []⟩ =
          .ok (placesOf new, a') w := by
  cases operation with
  | display | control | report | close => cases drains
  | prepare picture overlay date =>
    refine (prepare_yields picture overlay date tidy).mono ?_
    rintro _ _ v' ⟨drained, divided, v₁, handles, divides, rfl⟩ a alive
    obtain ⟨a', w, placed, -⟩ := handles.places a alive []
    rw [placesOf_append, divides.routes.placesOf_eq_nil, List.append_nil]
    exact ⟨a', w, placed⟩
  | drain =>
    refine (drain_yields tidy).andThen fun _ new v' drains => .pure ?_
    intro a alive
    obtain ⟨a', w, placed, -⟩ := drains.2.places a alive []
    rw [List.append_nil]
    exact ⟨a', w, placed⟩

/-- Deeds one after the other follow what is placed. -/
theorem Deeds.tracks {deeds : List Deed} (h : Deeds Deed.Tracked v deeds v') :
    Tracks v (deeds.flatMap Deed.signs) v' := by
  induction h with
  | nil => exact .nil _
  | cons head _ ih => exact head.tracks.trans ih

theorem Deeds.routed {deeds : List Deed} (h : Deeds Deed.Tracked v deeds v') :
    Deeds Deed.Routed v deeds v' :=
  h.mono fun _ _ _ => Deed.Tracked.routed

/-- The law holds where no button is held at first. -/
theorem Deeds.buttonLaw {opening : List Sign} {deeds : List Deed}
    (h : Deeds Deed.Tracked v deeds v') (isOpen : v.compositor.isOpen = true)
    (queue : v.compositor.queue = reportsOf opening) (released : v.compositor.held = .empty) :
    ButtonLaw opening deeds v'.compositor := by
  have routing := h.routed.routingLaw isOpen queue
  have tracks : v'.compositor.held = _ := h.tracks
  rw [released] at tracks
  refine ⟨?_, ?_, ?_⟩
  · intro undrained
    rw [tracks, (h.routed.routes_of_undrained undrained).placesOf_eq_nil]
    rfl
  · intro before deed after split drains idle
    obtain ⟨-, mapped, placed, -⟩ := routing.drained before deed after split drains idle
    refine ⟨mapped, placed, fun b => ?_⟩
    rw [tracks]
    exact ButtonMask.contains_foldl_track_empty b _
  · rw [tracks, ButtonMask.rest_foldl_track]
    rfl

/-- Every operation but closing keeps the buttons held in step. -/
theorem perform_keeps_track (s : Running σ ι A W D) (tidy : s.compositor.Tidy)
    (isOpen : s.compositor.isOpen = true) (operation : Operation) (live : operation ≠ .close) :
    TrackLaw crew s operation := by
  unfold TrackLaw
  have tracked := perform_tracked crew operation live (v := s.view) tidy s rfl
  cases ran : operation.perform crew s with
  | error fault t =>
    rw [ran] at tracked
    exact tracked
  | ok done t =>
    rw [ran] at tracked
    obtain ⟨new, signs, ⟨routed, tracks⟩, -⟩ := tracked
    have tracks : t.compositor.held = _ := tracks
    refine ⟨new, signs, ?_, ?_, ?_, ?_⟩
    · intro drains
      have places := perform_places crew operation drains (v := s.view) tidy s rfl
      rw [ran] at places
      obtain ⟨new', signs', placed⟩ := places
      obtain rfl := List.append_cancel_left (signs.symm.trans signs')
      obtain ⟨a, alive⟩ := Option.isSome_iff_exists.mp isOpen
      obtain ⟨a', w, placed⟩ := placed a alive
      exact ⟨a, a', w, alive, placed⟩
    · intro idle
      rw [Deed.Routed, idle] at routed
      exact routed.placesOf_eq_nil
    · intro b
      rw [tracks]
      exact ButtonMask.contains_foldl_track _ b _
    · intro unturned
      rw [tracks]
      exact ButtonMask.foldl_track_of_unturned _ unturned

end Laws

/-- No button is held in a compositor that was just opened. -/
theorem Starts.released {registry : Registry (Constructor σ ι A)} {settings : SplitSettings}
    {source : VideoFormat} {parent : Option ParentWindow} {env : σ} {ledger : Ledger}
    {crew : Crew σ ι A W D} {c : Compositor A W D} {w : World σ (Happening ι)}
    (h : Starts crew registry settings source parent env ledger (.ok c) w) : c.held = .empty := by
  generalize came : Except.ok c = result at h
  cases h with
  | unknown | unmade => cases came
  | populated known ran populates seen =>
    generalize w.signs = opening at populates
    cases populates with
    | failed => cases came
    | opened opens =>
      cases came
      exact held_of_fixture_eq opens.fixture_eq

/-- Whatever is done with a compositor that was opened, short of closing it, a button is held if it
was pressed last, in whatever region; and however far it has come, every operation would keep the
buttons held in step with what the algorithm places. -/
theorem open_keeps_button_law (crew : Crew σ ι A W D) (registry : Registry (Constructor σ ι A))
    (settings : SplitSettings) (source : VideoFormat) (parent : Option ParentWindow)
    {operations : List Operation} (unclosed : .close ∉ operations) (env : σ) (ledger : Ledger) :
    match «open» crew registry settings source parent ⟨env, ledger, []⟩ with
    | .error fault _ => crew.Raises fault ∨ MakingRaises registry settings source fault
    | .ok (.error _) _ => True
    | .ok (.ok c) w =>
      match performNoted crew operations ⟨c, w⟩ with
      | .ok deeds t => performAll crew operations ⟨c, w⟩ = .ok () t ∧
          deeds.map Deed.operation = operations ∧
          t.world.signs = w.signs ++ deeds.flatMap Deed.signs ∧
          ButtonLaw w.signs deeds t.compositor ∧
          ∀ operation, operation ≠ .close → TrackLaw crew t operation
      | .error fault _ => crew.Raises fault := by
  have starts := open_starts crew registry settings source parent env ledger
  cases opened : «open» crew registry settings source parent ⟨env, ledger, []⟩ with
  | error fault w =>
    rw [opened] at starts
    exact starts
  | ok result w =>
    rw [opened] at starts
    cases result with
    | error e => trivial
    | ok c =>
      obtain ⟨tidy, isOpen, queue, -⟩ := starts.fresh
      have noted := performNoted_deeds crew Deed.Tracked (fun v => v.compositor.Tidy) operations
        (fun operation member v tidy =>
          perform_tracked crew operation (fun close => unclosed (close ▸ member)) tidy) ⟨c, w⟩ tidy
      dsimp only
      cases ran : performNoted crew operations ⟨c, w⟩ with
      | error fault t =>
        rw [ran] at noted
        exact noted
      | ok deeds t =>
        rw [ran] at noted
        obtain ⟨all, signs, done, tidy'⟩ := noted
        obtain ⟨handled, routes⟩ := done.routed.routes
        exact ⟨performAll_of_noted ran, all, signs, done.buttonLaw isOpen queue starts.released,
          perform_keeps_track t tidy' (routes.isOpen_eq.trans isOpen)⟩

/-! ## Two hands -/

/-- The buttons held once operations were performed on a compositor that was opened. -/
def held? (crew : Crew σ ι A W D) (operations : List Operation) :
    EStateM.Result Fault (World σ (Happening ι)) (Except OpenError (Compositor A W D)) →
      Option ButtonMask
  | .ok (.ok c) w =>
    match performNoted crew operations ⟨c, w⟩ with
    | .ok _ t => some t.compositor.held
    | .error _ _ => none
  | .ok (.error _) _ | .error _ _ => none

theorem of_held?_eq_some {crew : Crew σ ι A W D} {operations : List Operation}
    {came : EStateM.Result Fault (World σ (Happening ι)) (Except OpenError (Compositor A W D))}
    {held : ButtonMask} (h : held? crew operations came = some held) :
    ∃ c w deeds t, came = .ok (.ok c) w ∧ performNoted crew operations ⟨c, w⟩ = .ok deeds t ∧
      t.compositor.held = held := by
  unfold held? at h
  split at h
  · rename_i c w
    split at h
    · rename_i deeds t ran
      exact ⟨c, w, deeds, t, rfl, ran, Option.some.inj h⟩
    · cases h
  · cases h
  · cases h

/-- Two buttons are pressed in the first window; the second window lets go of one of them, and what
it says of the other is dropped by the turnstile. -/
def twoHands : List Operation := [
  .report 0 (.input (.mouse (.pressed .left))), .report 1 (.input (.mouse (.pressed .middle))),
  .report 0 (.input (.mouse (.pressed .right))), .drain, .report 1 (.resized ⟨32, 24⟩),
  .report 1 (.input (.mouse (.released .right))), .report 1 (.input (.mouse (.released .left))),
  .drain, .report 0 (.input (.mouse (.pressed .wheelUp)))]

/-- Only the right button is held in the end: of what the second window says of it nothing comes,
and the last press still waits. -/
theorem twoHands_keep_button_law :
    .close ∉ twoHands ∧ ∃ c w deeds t,
      «open» keepers turnstiles .standard (.whole .i420 64 48) none ⟨(), .empty, []⟩ =
        .ok (.ok c) w ∧
      performNoted keepers twoHands ⟨c, w⟩ = .ok deeds t ∧
      t.compositor.held = MouseButton.right.mask ∧ ButtonLaw w.signs deeds t.compositor ∧
      ∀ operation, operation ≠ .close → TrackLaw keepers t operation := by
  have unclosed : .close ∉ twoHands := by decide
  have known := turnstiles_resolve
  have made : makeTurnstile (VideoFormat.whole .i420 64 48).upright .standard ⟨(), .empty, []⟩ =
      .ok (.ok true) ⟨(), .empty, []⟩ := rfl
  -- The registry is used only through what it finds.
  generalize turnstiles = registry at known ⊢
  have law := open_keeps_button_law keepers registry .standard (.whole .i420 64 48) none unclosed
    () .empty
  rw [open_of_made keepers none known made] at law ⊢
  have held : held? keepers twoHands (openWith keepers .standard (.whole .i420 64 48)
      none true (founded keepers .standard true ⟨(), .empty, []⟩)) =
      some MouseButton.right.mask := by
    decide +kernel
  obtain ⟨c, w, deeds, t, came, ran, kept⟩ := of_held?_eq_some held
  rw [came] at law
  dsimp only at law
  rw [ran] at law
  obtain ⟨-, -, -, buttons, track⟩ := law
  exact ⟨unclosed, c, w, deeds, t, came, ran, kept, buttons, track⟩

end Compositor

end Mosaic
