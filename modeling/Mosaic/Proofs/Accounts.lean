import Mosaic.Proofs.Pending
import Mosaic.Proofs.Run

/-!
# Who holds the pictures

Every hold on a picture belongs to somebody. A compositor has one for each slot that is filled,
and all others belong to those around it. Where the others drop no hold that is not theirs and
leave none behind, every operation keeps the accounts: whatever a slot holds is let go once when
it is replaced, shown or closed, and what never comes into a slot is let go before the operation
ends. That holds however many of the others hold the same pictures.

## Main definitions

* `holding` — how many slots hold a picture
* `Ledger.Balanced`, `Run.Balances` — as many holds after as before
* `Careful` — the others keep no hold, and the parts of a picture are new
* `Compositor.Accounts` — every hold is in a slot or belongs to the others

## Main results

* `FillsFrom.accounts`, `ShowsFrom.accounts`, `close_accounts` — the operations on slots
* `perform_accounts` — every operation keeps the accounts
-/

set_option autoImplicit false

namespace Mosaic

/-! ## Slots that hold a picture -/

/-- Whether a slot holds a picture with a serial, as a number of holds. -/
def inSlot (slot : Option Picture) (serial : Nat) : Nat :=
  if slot.any fun picture => picture.serial == serial then 1 else 0

/-- How many slots hold a picture with a serial. -/
def holding (slots : Slots) (serial : Nat) : Nat :=
  slots.countP fun slot => slot.any fun picture => picture.serial == serial

section Holding

variable {slots : Slots} {serial : Nat}

@[simp] theorem inSlot_none (serial : Nat) : inSlot none serial = 0 := rfl

theorem inSlot_some (picture : Picture) (serial : Nat) :
    inSlot (some picture) serial = if picture.serial = serial then 1 else 0 := by
  simp [inSlot]

@[simp] theorem holding_nil (serial : Nat) : holding [] serial = 0 := rfl

theorem holding_cons (slot : Option Picture) (slots : Slots) (serial : Nat) :
    holding (slot :: slots) serial = inSlot slot serial + holding slots serial := by
  rw [holding, List.countP_cons, Nat.add_comm]
  rfl

/-- The first slot and the others, where there may be none. -/
theorem holding_head (slots : Slots) (serial : Nat) :
    holding slots serial = inSlot slots.head?.join serial + holding slots.tail serial := by
  cases slots with
  | nil => rfl
  | cons slot slots => exact holding_cons slot slots serial

/-- What is put into a slot takes the place of what was there. -/
theorem holding_set {k : Nat} (inside : k < slots.length) (slot : Option Picture) (serial : Nat) :
    holding (slots.set k slot) serial + inSlot slots[k]?.join serial =
      holding slots serial + inSlot slot serial := by
  induction slots generalizing k with
  | nil => cases inside
  | cons first slots ih =>
    cases k with
    | zero =>
      rw [List.set_cons_zero, List.getElem?_cons_zero, Option.join_some, holding_cons,
        holding_cons]
      omega
    | succ k =>
      have := ih (Nat.lt_of_succ_lt_succ inside)
      rw [List.set_cons_succ, List.getElem?_cons_succ, holding_cons, holding_cons]
      omega

end Holding

/-! ## Ledgers -/

/-- As many holds on every picture as before, however many pictures were made and let go
meanwhile. -/
structure Ledger.Balanced (l l' : Ledger) : Prop where
  holds : ∀ serial, l'.live.count serial = l.live.count serial
  issued : l.next ≤ l'.next

namespace Ledger.Balanced

variable {l l' l'' : Ledger}

theorem refl (l : Ledger) : l.Balanced l := ⟨fun _ => rfl, Nat.le_refl _⟩

theorem trans (h : l.Balanced l') (h' : l'.Balanced l'') : l.Balanced l'' :=
  ⟨fun serial => (h'.holds serial).trans (h.holds serial), Nat.le_trans h.issued h'.issued⟩

end Ledger.Balanced

theorem Ledger.count_letGo (l : Ledger) (slot : Option Picture) (serial : Nat) :
    (l.letGo slot).live.count serial = l.live.count serial - inSlot slot serial := by
  cases slot with
  | none => rfl
  | some picture =>
    rw [inSlot_some]
    change (l.live.erase picture.serial).count serial = _
    rw [List.count_erase]
    simp only [beq_iff_eq]

theorem Ledger.next_letGo (l : Ledger) (slot : Option Picture) : (l.letGo slot).next = l.next := by
  cases slot <;> rfl

theorem Ledger.count_letGoAll (l : Ledger) (slots : Slots) (serial : Nat) :
    (slots.foldl Ledger.letGo l).live.count serial =
      l.live.count serial - holding slots serial := by
  induction slots generalizing l with
  | nil => rfl
  | cons slot slots ih =>
    rw [List.foldl_cons, ih, count_letGo, holding_cons]
    omega

theorem Ledger.next_letGoAll (l : Ledger) (slots : Slots) :
    (slots.foldl Ledger.letGo l).next = l.next := by
  induction slots generalizing l with
  | nil => rfl
  | cons slot slots ih => rw [List.foldl_cons, ih, next_letGo]

/-- An action leaves as many holds as there were. -/
def Run.Balances {σ ι α : Type} (act : Run σ ι α) : Prop :=
  ∀ w a w', act w = .ok a w' → w.ledger.Balanced w'.ledger

/-- A picture is split: the hold on it is gone, and instead there is one hold on each part, which
is a new picture. -/
structure Ledger.Divided (l : Ledger) (picture : Picture) (parts : Slots) (l' : Ledger) :
    Prop where
  holds : ∀ serial, l'.live.count serial + (if picture.serial = serial then 1 else 0) =
    l.live.count serial + holding parts serial
  fresh : ∀ serial, 0 < holding parts serial → l.next ≤ serial ∧ serial < l'.next
  once : ∀ serial, holding parts serial ≤ 1
  issued : l.next ≤ l'.next

/-- Those around a compositor keep no hold on a picture and drop none that is not theirs. What an
algorithm puts into the slots is made by it. -/
structure Careful {σ ι A W D : Type} (crew : Crew σ ι A W D) : Prop where
  /-- There may be fewer or more parts than regions, or none after a failure. -/
  filter : ∀ {a picture w result a' w'},
    crew.algorithm.filter a picture w = .ok (result, a') w' →
      picture.serial ∈ w.ledger.live →
        w.ledger.Divided picture (result.toOption.getD []) w'.ledger
  locate : ∀ a k event, (crew.algorithm.locate a k event).Balances
  drop : ∀ a, (crew.algorithm.drop a).Balances
  disable : ∀ window, (crew.backend.disable window).Balances
  dropWindow : ∀ window, (crew.backend.dropWindow window).Balances
  prepare : ∀ d picture overlay date, (crew.backend.prepare d picture overlay date).Balances
  display : ∀ d picture, (crew.backend.display d picture).Balances
  control : ∀ d query, (crew.backend.control d query).Balances
  close : ∀ d, (crew.backend.close d).Balances
  dropDisplay : ∀ d, (crew.backend.dropDisplay d).Balances

namespace Compositor

open Act

variable {σ ι A W D : Type} {crew : Crew σ ι A W D} {v v' : View σ A W D} {new : List Sign}
variable {others : List Nat} {limbo : Slots}

/-- Every hold belongs to the others, is in a slot, or is on one of the pictures that are on their
way into a slot. The others have an entry for each of their holds. -/
def Accounts (others : List Nat) (limbo : Slots) (v : View σ A W D) : Prop :=
  ∀ serial, v.ledger.live.count serial =
    others.count serial + holding v.compositor.pictures serial + holding limbo serial

theorem Accounts.balanced (accounts : Accounts others limbo v)
    (balanced : v.ledger.Balanced v'.ledger)
    (same : v'.compositor.pictures = v.compositor.pictures) : Accounts others limbo v' := by
  intro serial
  rw [balanced.holds, same]
  exact accounts serial

/-! ## Steps -/

theorem Resizes.balanced {k : Nat} {size : Size} (careful : Careful crew)
    (h : Resizes crew k size v new v') : v.ledger.Balanced v'.ledger := by
  cases h with
  | unshown => exact .refl _
  | shown here display ran => exact careful.control _ _ _ _ _ ran

/-- A step that touches no picture takes and drops no hold. -/
theorem Quiet.balanced (careful : Careful crew) (h : Quiet crew v new v') :
    v.ledger.Balanced v'.ledger := by
  cases h with
  | report reports =>
    cases reports with
    | input | resized => exact .refl _
    | resize resizes => exact resizes.balanced careful
  | handle queue handles =>
    cases handles with
    | late | plain => exact .refl _
    | dropped alive ran | placed alive ran => exact careful.locate _ _ _ _ _ _ ran
  | place | hint => exact .refl _

theorem Quiet.path_balanced (careful : Careful crew) (path : Path (Quiet crew) v new v') :
    v.ledger.Balanced v'.ledger ∧ v'.compositor.pictures = v.compositor.pictures :=
  ⟨path.keepsView (P := fun u => v.ledger.Balanced u.ledger)
      (fun _ _ _ kept quiet => kept.trans (quiet.balanced careful)) (.refl _),
    path.keepsEq (f := fun u => u.compositor.pictures) fun _ _ _ => Quiet.pictures_eq⟩

theorem Splits.divided {picture : Picture} {slots : Slots} (careful : Careful crew)
    (h : Splits crew picture v new slots v') :
    (v.ledger.retain picture).Divided picture slots v'.ledger := by
  cases h with
  | mk alive ran => exact careful.filter ran List.mem_cons_self

/-- A picture that is split leaves its parts on their way. -/
theorem Splits.accounts {picture : Picture} {slots : Slots} (careful : Careful crew)
    (h : Splits crew picture v new slots v') (accounts : Accounts others [] v) :
    Accounts others slots v' := by
  have pictures : v'.compositor.pictures = v.compositor.pictures := by cases h; rfl
  intro serial
  have holds := (h.divided careful).holds serial
  have before := accounts serial
  -- The hold that was taken for the algorithm is the one that it drops.
  have taken : (v.ledger.retain picture).live.count serial =
      v.ledger.live.count serial + if picture.serial = serial then 1 else 0 := by
    simp [Ledger.retain, List.count_cons]
  rw [pictures]
  rw [holding_nil] at before
  omega

/-- A picture that is on its way goes into its slot, and what was there is let go. -/
theorem Accounts.put {k : Nat} {picture : Option Picture} {rest : Slots}
    (inside : k < v.compositor.pictures.length)
    (accounts : Accounts others (picture :: rest) v) :
    Accounts others rest (v.put k picture) := by
  intro serial
  have before := accounts serial
  have replaced := holding_set inside picture serial
  have slot : (v.compositor.picture? k) = v.compositor.pictures[k]?.join := rfl
  rw [holding_cons] at before
  simp only [View.put, withSlot, Ledger.count_letGo, slot]
  omega

theorem Fills.accounts {overlay : Option Overlay} {date : Tick} {k : Nat}
    {picture : Option Picture} {rest : Slots} (careful : Careful crew)
    (h : Fills crew overlay date k picture v new v')
    (inside : k < v.compositor.pictures.length)
    (accounts : Accounts others (picture :: rest) v) : Accounts others rest v' := by
  cases h with
  | empty => exact accounts.put inside
  | unshown blank =>
    -- The slot is filled for a moment; an empty slot takes the place of the picture.
    have filled := accounts.put inside
    have next : Accounts others (none :: rest) (v.put k (some _)) := fun serial => by
      rw [filled serial, holding_cons, inSlot_none, Nat.zero_add]
    exact next.put (by simpa [View.put, withSlot] using inside)
  | prepared here display ran =>
    exact (accounts.put inside).balanced (careful.prepare _ _ _ _ _ _ _ ran) rfl

/-- The pictures that are left after filling slots are still on their way. -/
theorem FillsFrom.accounts {overlay : Option Overlay} {date : Tick} {count k : Nat}
    {slots left : Slots} (careful : Careful crew)
    (h : FillsFrom crew overlay date count k slots v new left v')
    (inside : k + count ≤ v.compositor.pictures.length) (accounts : Accounts others slots v) :
    Accounts others left v' := by
  induction h with
  | done => exact accounts
  | @next count k slots left v v₁ v' new more fills rest ih =>
    have slots₁ : v₁.compositor.pictures.length = v.compositor.pictures.length :=
      congrArg Shape.slots fills.shape_eq
    refine ih (by omega) (fills.accounts careful (by omega) fun serial => ?_)
    rw [accounts serial, holding_head slots, holding_cons]

theorem Shows.accounts {k : Nat} (careful : Careful crew) (h : Shows crew k v new v')
    (inside : k < v.compositor.pictures.length) (accounts : Accounts others [] v) :
    Accounts others [] v' := by
  have emptied : Accounts others [none] v := accounts
  cases h with
  | blank => exact emptied.put inside
  | @shown picture _ _ _ w here display filled ran =>
    -- The picture is let go only after its display has shown it, which is no matter for the sums.
    have holds := (careful.display _ _ _ _ _ ran).holds
    intro serial
    calc (w.ledger.letGo (some picture)).live.count serial
        _ = v.ledger.live.count serial - inSlot (some picture) serial := by
          rw [Ledger.count_letGo, holds]
          rfl
        _ = (v.put k none).ledger.live.count serial := by
          rw [View.put, Ledger.count_letGo, filled]
        _ = _ := emptied.put inside serial

theorem ShowsFrom.accounts {count k : Nat} (careful : Careful crew)
    (h : ShowsFrom crew count k v new v') (inside : k + count ≤ v.compositor.pictures.length)
    (accounts : Accounts others [] v) : Accounts others [] v' := by
  induction h with
  | done => exact accounts
  | @next count k v v₁ v' new more shows rest ih =>
    have slots₁ : v₁.compositor.pictures.length = v.compositor.pictures.length :=
      congrArg Shape.slots shows.shape_eq
    exact ih (by omega) (shows.accounts careful (by omega) accounts)

/-- Once a picture is prepared nothing is on its way any more. -/
theorem Prepares.accounts {picture : Picture} {overlay : Option Overlay} {date : Tick}
    (careful : Careful crew) (h : Prepares crew picture overlay date v new v')
    (settled : v.compositor.Settled) (accounts : Accounts others [] v) :
    Accounts others [] v' := by
  cases h with
  | late drains =>
    obtain ⟨balanced, pictures⟩ := Quiet.path_balanced careful drains.1
    exact accounts.balanced balanced pictures
  | mk drains splits fills =>
    obtain ⟨balanced, pictures⟩ := Quiet.path_balanced careful drains.1
    have kept := (Quiet.settled drains.1 drains.2 settled).1
    have slots := (kept.of_shape_eq splits.shape_eq (splits.tidy drains.2)).slots
    have filled := fills.accounts careful (by omega)
      (splits.accounts careful (accounts.balanced balanced pictures))
    intro serial
    have sum := filled serial
    simp only [View.letGoAll, Ledger.count_letGoAll, holding_nil]
    omega

/-! ## Closing -/

/-- An action of a compositor that ends leaves as many holds as there were. -/
def Balances {α : Type} (act : Act σ ι A W D α) : Prop :=
  ∀ s a t, act s = .ok a t → s.world.ledger.Balanced t.world.ledger

theorem bind_eq_ok {α β : Type} {act : Act σ ι A W D α} {next : α → Act σ ι A W D β}
    {s u : Running σ ι A W D} {b : β} (ran : (act >>= next) s = .ok b u) :
    ∃ a t, act s = .ok a t ∧ next a t = .ok b u := by
  simp only [Bind.bind, EStateM.bind] at ran
  cases first : act s with
  | ok a t =>
    rw [first] at ran
    exact ⟨a, t, rfl, ran⟩
  | error fault t =>
    rw [first] at ran
    cases ran

namespace Balances

variable {α β : Type} {act : Act σ ι A W D α}

theorem pure (a : α) : Balances (Pure.pure a : Act σ ι A W D α) := by
  rintro s _ _ ⟨⟩
  exact .refl _

theorem bind {next : α → Act σ ι A W D β} (h : Balances act) (rest : ∀ a, Balances (next a)) :
    Balances (act >>= next) := by
  intro s b u ran
  obtain ⟨a, t, first, second⟩ := bind_eq_ok ran
  exact (h s a t first).trans (rest a t b u second)

theorem compositor : Balances (Act.compositor : Act σ ι A W D _) := by
  rintro s _ _ ⟨⟩
  exact .refl _

theorem modifyCompositor (f : Compositor A W D → Compositor A W D) :
    Balances (Act.modifyCompositor f : Act σ ι A W D _) := by
  rintro s _ _ ⟨⟩
  exact .refl _

theorem changeRegion (k : Nat) (f : Region W D → Region W D) :
    Balances (Act.changeRegion k f : Act σ ι A W D _) :=
  modifyCompositor _

theorem say (notice : Notice) : Balances (Act.say notice : Act σ ι A W D _) := by
  rintro s _ _ ⟨⟩
  exact .refl _

theorem call (c : Call) : Balances (Act.call c : Act σ ι A W D _) := by
  rintro s _ _ ⟨⟩
  exact .refl _

theorem collaborate {task : Run σ ι α} (h : task.Balances) :
    Balances (Act.collaborate task : Act σ ι A W D α) := by
  intro s a t ran
  simp only [Act.collaborate, Act.onWorld, Run.within] at ran
  cases done : task ⟨s.world.env, s.world.ledger, []⟩ with
  | ok a' w =>
    rw [done] at ran
    cases ran
    exact h _ _ _ done
  | error fault w =>
    rw [done] at ran
    cases ran

theorem ask (c : Call) {task : Run σ ι α} (h : task.Balances) :
    Balances (Act.ask c task : Act σ ι A W D α) :=
  bind (call c) fun _ => collaborate h

theorem withLock (k : Nat) (h : Balances act) : Balances (Act.withLock k act) := by
  intro s a t ran
  simp only [Act.withLock] at ran
  split at ran
  · exact h s a t ran
  · split at ran
    · cases ran
    · split at ran
      · rename_i done
        have marked := h _ _ _ done
        cases ran
        exact marked
      · cases ran

end Balances

theorem destroyWindow_balances (careful : Careful crew) (k : Nat) (window : W) :
    Balances (destroyWindow crew k window) :=
  .bind (.ask _ (careful.disable _)) fun _ => .ask _ (careful.dropWindow _)

theorem destroyDisplay_balances (careful : Careful crew) (k : Nat) (d : D) :
    Balances (destroyDisplay crew k d) :=
  .bind (.ask _ (careful.close _)) fun _ => .ask _ (careful.dropDisplay _)

theorem teardown_balances (careful : Careful crew) (k : Nat) : Balances (teardown crew k) := by
  have taken : Balances (do
      let window := (← compositor).window? k
      changeRegion k fun r => { r with window := none }
      return window : Act σ ι A W D _) :=
    .bind .compositor fun _ => .bind (.changeRegion _ _) fun _ => .pure _
  refine .bind (.withLock k (.bind .compositor fun c => ?_)) fun window => ?_
  · cases c.display? k with
    | none => exact taken
    | some d =>
      exact .bind (.changeRegion _ _) fun _ => .bind (destroyDisplay_balances careful k d)
        fun _ => .bind (.say _) fun _ => taken
  · cases window with
    | none => exact .pure _
    | some window => exact .bind (destroyWindow_balances careful k window) fun _ => .say _

theorem teardownLast_balances (careful : Careful crew) (count : Nat) :
    Balances (teardownLast crew count) := by
  induction count with
  | zero => exact .pure _
  | succ count ih =>
    exact .bind (teardown_balances careful count) fun _ =>
      .bind (.modifyCompositor _) fun _ => ih

theorem releaseAlgorithm_balances (careful : Careful crew) :
    Balances (releaseAlgorithm crew) := by
  refine .bind .compositor fun c => ?_
  cases c.algorithm with
  | none => exact .pure _
  | some a =>
    exact .bind (.modifyCompositor _) fun _ => .bind (.ask _ (careful.drop a)) fun _ => .say _

/-- Where there is something to close, closing lets go of what the slots hold. -/
theorem close_balances (careful : Careful crew) {s t : Running σ ι A W D}
    (ran : close crew s = .ok () t) :
    t = s ∨ (s.view.letGoAll s.compositor.pictures).ledger.Balanced t.world.ledger := by
  obtain ⟨_, _, ⟨⟩, ran⟩ := bind_eq_ok ran
  split at ran
  · cases ran
    exact .inl rfl
  · obtain ⟨_, s₁, ⟨⟩, ran⟩ := bind_eq_ok ran
    obtain ⟨_, s₂, released, ran⟩ := bind_eq_ok ran
    -- The pictures are let go first, and what follows takes and drops no hold.
    have rest : Balances (do
        teardownLast crew s.compositor.regions.length
        modifyCompositor fun c => { c with queue := [] }
        releaseAlgorithm crew
        modifyCompositor fun c => { c with outputs := [] }) :=
      .bind (teardownLast_balances careful _) fun _ => .bind (.modifyCompositor _) fun _ =>
        .bind (releaseAlgorithm_balances careful) fun _ => .modifyCompositor _
    have balanced := rest _ _ _ ran
    have yields := (releaseSlots_yields s.compositor.pictures :
      Yields crew _ (s.view.become { s.compositor with pictures := [] }) _)
      ⟨{ s.compositor with pictures := [] }, s.world⟩ rfl
    rw [released] at yields
    obtain ⟨-, -, -, seen⟩ := yields
    have ledger : s₂.world.ledger = (s.view.letGoAll s.compositor.pictures).ledger :=
      congrArg View.ledger seen
    exact .inr (ledger ▸ balanced)

theorem close_accounts (careful : Careful crew) (tidy : v.compositor.Tidy)
    (accounts : Accounts others [] v) :
    (close crew).Yields crew v fun _ new v' =>
      Closes v new v' ∧ Accounts others [] v' ∧ v.ledger.next ≤ v'.ledger.next := by
  have ledger : (close crew).Yields crew v fun _ new v' => Closes v new v' ∧
      (v' = v ∨ (v.letGoAll v.compositor.pictures).ledger.Balanced v'.ledger) := by
    refine (close_yields tidy).ended fun s _ t seen ran => ?_
    subst seen
    exact (close_balances careful ran).imp (congrArg Running.view) id
  refine ledger.mono fun _ new v' ⟨closes, after⟩ => ⟨closes, ?_⟩
  rcases after with rfl | balanced
  · exact ⟨accounts, Nat.le_refl _⟩
  · have issued := balanced.issued
    rw [View.letGoAll, Ledger.next_letGoAll] at issued
    refine ⟨?_, issued⟩
    cases closes with
    | again => exact accounts
    | first left last =>
      have empty : v'.compositor.pictures = [] := by rw [last]; rfl
      intro serial
      have sum := accounts serial
      rw [balanced.holds, View.letGoAll, Ledger.count_letGoAll, empty]
      rw [holding_nil] at sum ⊢
      omega

/-- Every operation keeps the accounts. -/
theorem perform_accounts (careful : Careful crew) (operation : Operation)
    (settled : v.compositor.Settled) (accounts : Accounts others [] v) :
    (operation.perform crew).Yields crew v fun _ _ v' =>
      v'.compositor.Settled ∧ Accounts others [] v' := by
  have tidy := settled.tidy
  have quiet {new : List Sign} {v' : View σ A W D} (path : TidyPath (Quiet crew) v new v') :
      v'.compositor.Settled ∧ Accounts others [] v' := by
    obtain ⟨balanced, pictures⟩ := Quiet.path_balanced careful path.1
    exact ⟨(Quiet.settled path.1 path.2 settled).1, accounts.balanced balanced pictures⟩
  cases operation with
  | prepare picture overlay date =>
    refine (prepare_yields picture overlay date tidy).mono ?_
    rintro _ new v' ⟨drained, divided, v₁, handles, divides, rfl⟩
    have prepares := handles.prepares tidy divides
    exact ⟨Step.settled prepares.path settled, prepares.accounts careful settled accounts⟩
  | display =>
    refine (display_yields tidy).mono fun _ new v' shows => ?_
    have slots := settled.slots
    exact ⟨Step.settled shows.path settled, shows.accounts careful (by omega) accounts⟩
  | control query =>
    refine (control_yields query tidy).andThen fun _ new v' path => .pure ?_
    exact quiet (path.mono fun _ _ _ => Adjusts.quiet)
  | drain =>
    refine (drain_yields tidy).andThen fun _ new v' drains => .pure ?_
    exact quiet (drains.2.tidyPath tidy)
  | report k event =>
    exact (report_yields tidy k event).mono fun _ new v' path =>
      quiet (path.mono fun _ _ _ => Quiet.report)
  | close =>
    exact (close_accounts careful tidy accounts).mono fun _ new v' ⟨closes, accounts', _⟩ =>
      ⟨closes.settled settled, accounts'⟩

end Compositor

end Mosaic
