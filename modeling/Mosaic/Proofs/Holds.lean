import Mosaic.Headless
import Mosaic.Proofs.Accounts
import Mosaic.Proofs.Pairing
import Mosaic.Proofs.Policy
import Mosaic.Proofs.Tiling

/-!
# Holds between operations

The user of a compositor records pictures, makes views of them, shares and drops them, and feeds
them to the compositor. An algorithm makes new views for the slots, so nobody else ever holds
those: between two operations a picture that waits to be shown is held once, by its slot, and
what was shown, replaced or never came into a slot is held by nobody. Whatever the user feeds to
the compositor is held as often afterwards as before.

## Main definitions

* `Compositor.Sole` — nobody else holds what the slots hold
* `Compositor.Deals` — what the user of a compositor does with pictures
* `Compositor.Used` — the states of a compositor that is used
* `Compositor.HoldLaw`, `Compositor.Upkeep` — the law of a state, and of an operation

## Main results

* `perform_upkeep` — what an operation does to holds
* `holds_always_add_up` — the laws for every run
* `builtin_careful` — clones, walls and headless displays keep no hold
-/

set_option autoImplicit false

namespace Mosaic

section Holding

variable {slots slots' : Slots} {serial k : Nat}

/-- A slot that is filled counts. -/
theorem holding_pos {picture : Picture} (filled : slots[k]?.join = some picture) :
    0 < holding slots picture.serial := by
  refine List.countP_pos_iff.mpr ⟨some picture, ?_, by simp⟩
  rw [Option.join_eq_some_iff] at filled
  exact List.mem_of_getElem? filled

/-- Slots that hold no more than others, place by place, hold no more at all. -/
theorem holding_le (h : ∀ (i : Nat) (picture : Picture), slots[i]?.join = some picture →
    slots'[i]?.join = some picture) (serial : Nat) :
    holding slots serial ≤ holding slots' serial := by
  induction slots generalizing slots' with
  | nil => exact Nat.zero_le _
  | cons slot slots ih =>
    have rest : holding slots serial ≤ holding slots'.tail serial := ih fun i picture filled => by
      rw [List.getElem?_tail]
      exact h (i + 1) picture filled
    have first : inSlot slot serial ≤ inSlot slots'.head?.join serial := by
      cases slot with
      | none => exact Nat.zero_le _
      | some picture => exact Nat.le_of_eq (by rw [List.head?_eq_getElem?, h 0 picture rfl])
    rw [holding_cons, holding_head slots']
    omega

theorem holding_eq_zero (h : ∀ i : Nat, slots[i]?.join = none) (serial : Nat) :
    holding slots serial = 0 := by
  have le : holding slots serial ≤ holding [] serial := holding_le (fun i picture filled => by
    rw [h i] at filled
    cases filled) serial
  exact Nat.le_zero.mp le

end Holding

namespace Compositor

open Act

variable {σ ι A W D : Type} {crew : Crew σ ι A W D} {v v' : View σ A W D} {new : List Sign}
variable {others : List Nat}

/-- What the user of a compositor does with pictures, by the holds that are not the compositor's
before and after. -/
inductive Deals : List Nat → Ledger → List Nat → Ledger → Prop
  | record {others : List Nat} {l : Ledger} (format : VideoFormat) (date : Tick)
      (pixels : Pixels) :
      Deals others l (l.next :: others) (l.record format date pixels).2
  | view {others : List Nat} {l l' : Ledger} {base v : Picture} {format : VideoFormat}
      {offset : Origin} (held : base.serial ∈ others)
      (made : l.view base format offset = .ok (v, l')) : Deals others l (v.serial :: others) l'
  | retain {others : List Nat} {l : Ledger} {picture : Picture}
      (held : picture.serial ∈ others) :
      Deals others l (picture.serial :: others) (l.retain picture)
  | release {others : List Nat} {l : Ledger} {picture : Picture}
      (held : picture.serial ∈ others) :
      Deals others l (others.erase picture.serial) (l.release picture)

/-- A slot holds a picture that nobody else holds, and no other slot does. All that is held was
issued. -/
structure Sole (others : List Nat) (v : View σ A W D) : Prop where
  issued : ∀ serial ∈ others, serial < v.ledger.next
  own : ∀ serial, 0 < holding v.compositor.pictures serial →
    serial ∉ others ∧ serial < v.ledger.next
  once : ∀ serial, holding v.compositor.pictures serial ≤ 1

/-- The pictures with the given serial are held by the others and by the slots. -/
theorem Accounts.holds_eq (accounts : Accounts others [] v) (picture : Picture) :
    v.ledger.holds picture =
      others.count picture.serial + holding v.compositor.pictures picture.serial :=
  accounts picture.serial

/-- What a slot holds is held once. -/
theorem Sole.holds_eq_one (sole : Sole others v) (accounts : Accounts others [] v) {k : Nat}
    {picture : Picture} (filled : v.compositor.picture? k = some picture) :
    v.ledger.holds picture = 1 := by
  have some := holding_pos filled
  have once := sole.once picture.serial
  rw [accounts.holds_eq, List.count_eq_zero_of_not_mem (sole.own _ some).1]
  omega

/-- What no slot holds any more and others never held is held by nobody. -/
theorem Accounts.holds_eq_zero (accounts : Accounts others [] v) {picture : Picture}
    (strange : picture.serial ∉ others)
    (unfilled : holding v.compositor.pictures picture.serial = 0) :
    v.ledger.holds picture = 0 := by
  rw [accounts.holds_eq, List.count_eq_zero_of_not_mem strange, unfilled]

/-- Slots that hold no more than before still hold what nobody else does. -/
theorem Sole.less (sole : Sole others v) (issued : v.ledger.next ≤ v'.ledger.next)
    (less : ∀ serial, holding v'.compositor.pictures serial ≤
      holding v.compositor.pictures serial) : Sole others v' where
  issued serial member := Nat.lt_of_lt_of_le (sole.issued serial member) issued
  own serial some := by
    obtain ⟨strange, below⟩ := sole.own serial (Nat.lt_of_lt_of_le some (less serial))
    exact ⟨strange, Nat.lt_of_lt_of_le below issued⟩
  once serial := Nat.le_trans (less serial) (sole.once serial)

/-! ## Serials -/

theorem Fills.issued {overlay : Option Overlay} {date : Tick} {k : Nat} {picture : Option Picture}
    (careful : Careful crew) (h : Fills crew overlay date k picture v new v') :
    v.ledger.next ≤ v'.ledger.next := by
  have put (k : Nat) (picture : Option Picture) (v : View σ A W D) :
      (v.put k picture).ledger.next = v.ledger.next := Ledger.next_letGo _ _
  cases h with
  | empty => exact Nat.le_of_eq (put k none v).symm
  | @unshown _ picture => exact Nat.le_of_eq ((put k none _).trans (put k (some picture) v)).symm
  | @prepared _ picture _ _ _ _ here display ran =>
    refine Nat.le_trans (Nat.le_of_eq (put k (some picture) v).symm) ?_
    exact (careful.prepare _ _ _ _ _ _ _ ran).issued

theorem FillsFrom.issued {overlay : Option Overlay} {date : Tick} {count k : Nat}
    {slots left : Slots} (careful : Careful crew)
    (h : FillsFrom crew overlay date count k slots v new left v') :
    v.ledger.next ≤ v'.ledger.next := by
  induction h with
  | done => exact Nat.le_refl _
  | next fills _ ih => exact Nat.le_trans (fills.issued careful) ih

theorem ShowsFrom.issued {count k : Nat} (careful : Careful crew)
    (h : ShowsFrom crew count k v new v') : v.ledger.next ≤ v'.ledger.next := by
  induction h with
  | done => exact Nat.le_refl _
  | next shows _ ih =>
    refine Nat.le_trans ?_ ih
    cases shows with
    | blank => exact Nat.le_of_eq (Ledger.next_letGo _ _).symm
    | shown here display filled ran => exact (careful.display _ _ _ _ _ ran).issued

/-! ## Operations -/

/-- The parts of a picture that was prepared are new, and no two of them are the same. -/
theorem Prepares.parts {picture : Picture} {overlay : Option Overlay} {date : Tick}
    (careful : Careful crew) (h : Prepares crew picture overlay date v new v') :
    v.ledger.next ≤ v'.ledger.next ∧ ∀ serial, holding (slotsOf new) serial ≤ 1 ∧
      (0 < holding (slotsOf new) serial →
        v.ledger.next ≤ serial ∧ serial < v'.ledger.next) := by
  cases h with
  | late drains =>
    have none : slotsOf new = [] := by
      rw [slotsOf, Quiet.parts_eq drains.1]
      rfl
    rw [none]
    exact ⟨(Quiet.path_balanced careful drains.1).1.issued, fun serial => by simp⟩
  | @mk v₁ v₂ v₃ drained asked filled slots left drains splits fills =>
    rw [slotsOf_prepared drains.1 splits fills]
    have divided := splits.divided careful
    have before : v.ledger.next ≤ (v₁.ledger.retain picture).next :=
      (Quiet.path_balanced careful drains.1).1.issued
    have after : v₂.ledger.next ≤ (v₃.letGoAll left).ledger.next := by
      rw [View.letGoAll, Ledger.next_letGoAll]
      exact fills.issued careful
    refine ⟨Nat.le_trans before (Nat.le_trans divided.issued after), fun serial =>
      ⟨divided.once serial, fun some => ?_⟩⟩
    obtain ⟨lower, upper⟩ := divided.fresh serial some
    exact ⟨Nat.le_trans before lower, Nat.lt_of_lt_of_le upper after⟩

/-- Once a picture is prepared, slots hold nothing but its parts. -/
theorem Prepares.holding_le {picture : Picture} {overlay : Option Overlay} {date : Tick}
    (h : Prepares crew picture overlay date v new v') (settled : v.compositor.Settled)
    (serial : Nat) : holding v'.compositor.pictures serial ≤ holding (slotsOf new) serial := by
  refine Mosaic.holding_le (fun i part filled => ?_) serial
  have slot := (h.picture?_eq settled i).symm.trans filled
  split at slot
  · exact slot
  · cases slot

/-- What is prepared fills slots that nobody else holds. -/
theorem Prepares.sole {picture : Picture} {overlay : Option Overlay} {date : Tick}
    (careful : Careful crew) (h : Prepares crew picture overlay date v new v')
    (settled : v.compositor.Settled) (sole : Sole others v) : Sole others v' := by
  obtain ⟨issued, parts⟩ := h.parts careful
  have less := h.holding_le settled
  refine ⟨fun serial member => Nat.lt_of_lt_of_le (sole.issued serial member) issued,
    fun serial some => ?_, fun serial => Nat.le_trans (less serial) (parts serial).1⟩
  obtain ⟨lower, upper⟩ := (parts serial).2 (Nat.lt_of_lt_of_le some (less serial))
  exact ⟨fun member => Nat.not_lt.mpr lower (sole.issued serial member), upper⟩

/-- A part whose region has no display, or that has no region, is in no slot. -/
theorem Prepares.unfilled {picture part : Picture} {overlay : Option Overlay} {date : Tick}
    {k : Nat} (careful : Careful crew) (h : Prepares crew picture overlay date v new v')
    (settled : v.compositor.Settled) (here : (slotsOf new)[k]?.join = some part)
    (blank : k ∉ v.compositor.shown) : holding v'.compositor.pictures part.serial = 0 := by
  have less : holding v'.compositor.pictures part.serial ≤
      holding ((slotsOf new).set k none) part.serial := by
    refine Mosaic.holding_le (fun i other filled => ?_) part.serial
    have slot := (h.picture?_eq settled i).symm.trans filled
    split at slot
    · rename_i shown
      have apart : k ≠ i := fun same => blank (by rwa [same])
      rwa [List.getElem?_set_ne apart]
    · cases slot
  have inside : k < (slotsOf new).length := by
    obtain ⟨inside, -⟩ := List.getElem?_eq_some_iff.mp (Option.join_eq_some_iff.mp here)
    exact inside
  -- Without its place among the parts there is nothing left of the part.
  have without := holding_set inside none part.serial
  have once := ((h.parts careful).2 part.serial).1
  rw [here, inSlot_some, if_pos rfl, inSlot_none] at without
  omega

/-- Whether an operation lets go of all that waits to be shown. -/
def Operation.replaces : Operation → Bool
  | .prepare _ _ _ | .display | .close => true
  | .control _ | .drain | .report _ _ => false

/-- What an operation does to holds. -/
structure Upkeep (others : List Nat) (operation : Operation) (v : View σ A W D)
    (new : List Sign) (v' : View σ A W D) : Prop where
  /-- What is prepared is held as often as before. -/
  whole : ∀ picture overlay date, operation = .prepare picture overlay date →
    picture.serial ∈ others → v'.ledger.holds picture = v.ledger.holds picture
  /-- A part is held by its slot, or by nobody where there is no region with a display for it. -/
  parts : ∀ picture overlay date, operation = .prepare picture overlay date →
    ∀ (k : Nat) (part : Picture), (slotsOf new)[k]?.join = some part →
      v'.ledger.holds part = if k ∈ v.compositor.shown then 1 else 0
  /-- What waited is held by nobody any more. -/
  replaced : operation.replaces = true → ∀ k picture, v.compositor.picture? k = some picture →
    v'.ledger.holds picture = 0

theorem Prepares.upkeep {picture : Picture} {overlay : Option Overlay} {date : Tick}
    (careful : Careful crew) (h : Prepares crew picture overlay date v new v')
    (settled : v.compositor.Settled) (accounts : Accounts others [] v) (sole : Sole others v) :
    Upkeep others (.prepare picture overlay date) v new v' := by
  have accounts' := h.accounts careful settled accounts
  have sole' := h.sole careful settled sole
  obtain ⟨issued, parts⟩ := h.parts careful
  refine ⟨?_, ?_, ?_⟩
  · rintro _ _ _ ⟨⟩ member
    -- No slot holds what others hold, neither before nor after.
    have before : holding v.compositor.pictures picture.serial = 0 := by
      by_contra some
      exact (sole.own _ (Nat.pos_of_ne_zero some)).1 member
    have after : holding v'.compositor.pictures picture.serial = 0 := by
      by_contra some
      exact (sole'.own _ (Nat.pos_of_ne_zero some)).1 member
    rw [accounts.holds_eq, accounts'.holds_eq, before, after]
  · rintro _ _ _ ⟨⟩ k part here
    have filled := h.picture?_eq settled k
    split
    · rename_i shown
      rw [if_pos shown, here] at filled
      exact sole'.holds_eq_one accounts' filled
    · rename_i blank
      obtain ⟨lower, -⟩ := (parts part.serial).2 (holding_pos here)
      refine accounts'.holds_eq_zero (fun member => ?_) (h.unfilled careful settled here blank)
      exact Nat.not_lt.mpr lower (sole.issued _ member)
  · intro _ k old filled
    obtain ⟨strange, below⟩ := sole.own _ (holding_pos filled)
    refine accounts'.holds_eq_zero strange ?_
    -- Slots hold parts now, and those are younger than anything that waited before.
    have less := h.holding_le settled old.serial
    by_contra some
    have young := (parts old.serial).2 (Nat.lt_of_lt_of_le (Nat.pos_of_ne_zero some) less)
    omega

/-- Operations that empty all slots let go of what waited. -/
theorem Sole.upkeep_of_empty {operation : Operation} (sole : Sole others v)
    (accounts' : Accounts others [] v') (empty : ∀ k, v'.compositor.picture? k = none)
    (other : ∀ picture overlay date, operation ≠ .prepare picture overlay date) :
    Upkeep others operation v new v' where
  whole picture overlay date same := (other picture overlay date same).elim
  parts picture overlay date same := (other picture overlay date same).elim
  replaced _ _ _ filled :=
    accounts'.holds_eq_zero (sole.own _ (holding_pos filled)).1 (holding_eq_zero empty _)

/-- What an operation does to holds, and that slots go on holding what nobody else does. -/
theorem perform_upkeep (careful : Careful crew) (operation : Operation)
    (settled : v.compositor.Settled) (accounts : Accounts others [] v) (sole : Sole others v) :
    (operation.perform crew).Yields crew v fun _ new v' =>
      Sole others v' ∧ Upkeep others operation v new v' := by
  have tidy := settled.tidy
  have empty {v' : View σ A W D} (issued : v.ledger.next ≤ v'.ledger.next)
      (empty : ∀ k, v'.compositor.picture? k = none) : Sole others v' :=
    sole.less issued fun serial => by
      rw [holding_eq_zero empty]
      exact Nat.zero_le _
  have quiet {new : List Sign} {v' : View σ A W D} {operation : Operation}
      (path : TidyPath (Quiet crew) v new v') (idle : operation.replaces = false) :
      Sole others v' ∧ Upkeep others operation v new v' := by
    obtain ⟨balanced, pictures⟩ := Quiet.path_balanced careful path.1
    refine ⟨sole.less balanced.issued fun serial => Nat.le_of_eq (by rw [pictures]), ?_, ?_, ?_⟩
    · rintro _ _ _ rfl; cases idle
    · rintro _ _ _ rfl; cases idle
    · intro replaces; rw [idle] at replaces; cases replaces
  cases operation with
  | prepare picture overlay date =>
    refine (prepare_yields picture overlay date tidy).mono ?_
    rintro _ new v' ⟨drained, divided, v₁, handles, divides, rfl⟩
    have prepares := handles.prepares tidy divides
    exact ⟨prepares.sole careful settled sole, prepares.upkeep careful settled accounts sole⟩
  | display =>
    refine (display_yields tidy).mono fun _ new v' shows => ?_
    have slots := settled.slots
    have unfilled := shows.picture?_eq_none settled
    exact ⟨empty (shows.issued careful) unfilled, sole.upkeep_of_empty
      (shows.accounts careful (by omega) accounts) unfilled fun _ _ _ => Operation.noConfusion⟩
  | control query =>
    refine (control_yields query tidy).andThen fun _ new v' path => .pure ?_
    rw [List.append_nil]
    exact quiet (path.mono fun _ _ _ => Adjusts.quiet) rfl
  | drain =>
    refine (drain_yields tidy).andThen fun _ new v' drains => .pure ?_
    rw [List.append_nil]
    exact quiet (drains.2.tidyPath tidy) rfl
  | report k event =>
    exact (report_yields tidy k event).mono fun _ new v' path =>
      quiet (path.mono fun _ _ _ => Quiet.report) rfl
  | close =>
    refine (close_accounts careful tidy accounts).mono ?_
    rintro _ new v' ⟨closes, accounts', issued⟩
    have unfilled (k : Nat) : v'.compositor.picture? k = none :=
      (closes.settled settled).picture?_eq_none (by simp [closes.gone.2])
    exact ⟨empty issued unfilled,
      sole.upkeep_of_empty accounts' unfilled fun _ _ _ => Operation.noConfusion⟩

/-! ## The user -/

section Deals

variable {serial : Nat} (accounts : Accounts others [] v) (sole : Sole others v)

include accounts in
/-- One more hold that others take is one of theirs. -/
theorem Accounts.take (serial next : Nat) :
    Accounts (serial :: others) [] { v with ledger := ⟨next, serial :: v.ledger.live⟩ } := by
  intro i
  have sum := accounts i
  simp only [List.count_cons]
  omega

include accounts in
/-- A hold that others drop was one of theirs. -/
theorem Accounts.drop (held : serial ∈ others) :
    Accounts (others.erase serial) []
      { v with ledger := { v.ledger with live := v.ledger.live.erase serial } } := by
  intro i
  have sum := accounts i
  have some : 0 < others.count serial := List.count_pos_iff.mpr held
  simp only [List.count_erase, beq_iff_eq]
  split
  · rename_i same
    subst same
    omega
  · omega

include sole in
/-- A new picture is none of those in the slots. -/
theorem Sole.issue :
    Sole (v.ledger.next :: others)
      { v with ledger := ⟨v.ledger.next + 1, v.ledger.next :: v.ledger.live⟩ } where
  issued i member := by
    rcases List.mem_cons.mp member with rfl | member
    · exact Nat.lt_succ_self _
    · exact Nat.lt_succ_of_lt (sole.issued i member)
  own i some := by
    obtain ⟨strange, below⟩ := sole.own i some
    exact ⟨by simp [strange, Nat.ne_of_lt below], Nat.lt_succ_of_lt below⟩
  once := sole.once

include sole in
/-- What others hold already is not in the slots. -/
theorem Sole.retain (held : serial ∈ others) :
    Sole (serial :: others)
      { v with ledger := { v.ledger with live := serial :: v.ledger.live } } where
  issued i member := by
    rcases List.mem_cons.mp member with rfl | member
    · exact sole.issued _ held
    · exact sole.issued i member
  own i some := by
    obtain ⟨strange, below⟩ := sole.own i some
    refine ⟨fun member => ?_, below⟩
    rcases List.mem_cons.mp member with rfl | member
    · exact strange held
    · exact strange member
  once := sole.once

include sole in
theorem Sole.release (serial : Nat) :
    Sole (others.erase serial)
      { v with ledger := { v.ledger with live := v.ledger.live.erase serial } } where
  issued i member := sole.issued i (List.mem_of_mem_erase member)
  own i some := by
    obtain ⟨strange, below⟩ := sole.own i some
    exact ⟨fun member => strange (List.mem_of_mem_erase member), below⟩
  once := sole.once

include accounts sole in
/-- What the user does with pictures touches no slot. -/
theorem Deals.keeps {others' : List Nat} {l' : Ledger} (h : Deals others v.ledger others' l') :
    Accounts others' [] { v with ledger := l' } ∧ Sole others' { v with ledger := l' } := by
  cases h with
  | record => exact ⟨accounts.take _ _, sole.issue⟩
  | view held shown =>
    rename_i base part format offset
    unfold Ledger.view at shown
    cases shifted : base.origin.shift offset with
    | error fault =>
      rw [shifted] at shown
      cases shown
    | ok origin =>
      rw [shifted] at shown
      cases shown
      exact ⟨accounts.take _ _, sole.issue⟩
  | retain held => exact ⟨accounts.take _ _, sole.retain held⟩
  | release held => exact ⟨accounts.drop held, sole.release _⟩

end Deals

/-- The picture that an operation is given. -/
def Operation.picture? : Operation → Option Picture
  | .prepare picture _ _ => some picture
  | .display | .control _ | .drain | .report _ _ | .close => none

section Law

variable (crew : Crew σ ι A W D) (registry : Registry (Constructor σ ι A))
variable (settings : SplitSettings) (source : VideoFormat) (parent : Option ParentWindow)
variable (env : σ) (ledger : Ledger)

/-- A state of a compositor that is used, with the holds that are not the compositor's and what was
done with it so far. -/
inductive Used : List Nat → List Deed → Running σ ι A W D → Prop
  | opened {c : Compositor A W D} {w : World σ (Happening ι)}
      (opened : «open» crew registry settings source parent ⟨env, ledger, []⟩ = .ok (.ok c) w)
      (issued : ∀ serial ∈ w.ledger.live, serial < w.ledger.next) :
      Used w.ledger.live [] ⟨c, w⟩
  | performs {others : List Nat} {deeds : List Deed} {s t : Running σ ι A W D}
      {operation : Operation} (used : Used others deeds s)
      (held : ∀ picture, operation.picture? = some picture → picture.serial ∈ others)
      (ran : operation.perform crew s = .ok () t) :
      Used others (deeds ++ [⟨operation, s.compositor.shown,
        t.world.signs.drop s.world.signs.length⟩]) t
  | deals {others others' : List Nat} {deeds : List Deed} {s : Running σ ι A W D} {l' : Ledger}
      (used : Used others deeds s) (deals : Deals others s.world.ledger others' l') :
      Used others' deeds { s with world := { s.world with ledger := l' } }

/-- The law of a state between two operations. -/
structure HoldLaw (others : List Nat) (deeds : List Deed) (s : Running σ ι A W D) : Prop where
  /-- The compositor holds what is in its slots, once for each, and nothing else. -/
  accounts : ∀ serial, s.world.ledger.live.count serial =
    others.count serial + holding s.compositor.pictures serial
  /-- What is in the slots is what was prepared last and not displayed since. -/
  waiting : ∀ k, s.compositor.picture? k = awaiting deeds k
  /-- Nobody else holds that. -/
  once : ∀ k picture, awaiting deeds k = some picture → s.world.ledger.holds picture = 1

variable {crew registry settings source parent env ledger}

/-- What a compositor that is used keeps. -/
theorem Used.keeps {others : List Nat} {deeds : List Deed} {s : Running σ ι A W D}
    (careful : Careful crew)
    (h : Used crew registry settings source parent env ledger others deeds s) :
    Accounts others [] s.view ∧ Sole others s.view ∧ Waits (awaiting deeds) s.compositor := by
  induction h with
  | @opened c w opened issued =>
    have starts := open_starts crew registry settings source parent env ledger
    rw [opened] at starts
    generalize made : (Except.ok c : Except OpenError (Compositor A W D)) = result at starts
    cases starts with
    | unknown | unmade => cases made
    | populated known ran populates seen =>
      rename_i algorithm w₀ fates result v
      cases result with
      | error e => cases made
      | ok done =>
        cases made
        obtain ⟨settled, unfilled⟩ := populates.settled unpopulated_tidy rfl rfl rfl
        have none := holding_eq_zero unfilled
        refine ⟨fun serial => ?_, ⟨issued, fun serial some => ?_, fun serial => ?_⟩,
          settled, unfilled⟩
        · rw [holding_nil]
          exact (congrArg (List.count serial w.ledger.live + ·) (none serial)).symm
        · rw [show holding (Running.view ⟨v.compositor, w⟩).compositor.pictures serial = 0 from
            none serial] at some
          cases some
        · exact Nat.le_trans (Nat.le_of_eq (none serial)) (Nat.zero_le 1)
  | @performs others deeds s t operation used held ran ih =>
    obtain ⟨accounts, sole, waits⟩ := ih
    have all := ((perform_accounts careful operation waits.1 accounts).both
      (perform_upkeep careful operation waits.1 accounts sole)).both
      (perform_lawful crew operation waits)
    have yields := all s rfl
    rw [ran] at yields
    obtain ⟨new, signs, ⟨⟨-, accounts'⟩, sole', -⟩, -, waits'⟩ := yields
    have noted : t.world.signs.drop s.world.signs.length = new := by rw [signs, List.drop_left]
    refine ⟨accounts', sole', ?_⟩
    rw [noted, awaiting, List.foldl_append]
    exact waits'
  | deals used deals ih =>
    obtain ⟨accounts, sole, waits⟩ := ih
    obtain ⟨accounts', sole'⟩ := deals.keeps accounts sole
    exact ⟨accounts', sole', waits⟩

/-- Holds always add up: every operation keeps the accounts, whoever else holds what the slots
hold, and a compositor that is used holds what waits to be shown, once and alone, and lets go of
everything else. -/
theorem holds_always_add_up (crew : Crew σ ι A W D) (careful : Careful crew)
    (registry : Registry (Constructor σ ι A)) (settings : SplitSettings) (source : VideoFormat)
    (parent : Option ParentWindow) (env : σ) (ledger : Ledger) :
    (∀ (operation : Operation) (others : List Nat) (s : Running σ ι A W D),
      s.compositor.Settled → Accounts others [] s.view →
      match operation.perform crew s with
      | .ok _ t => t.compositor.Settled ∧ Accounts others [] t.view
      | .error fault _ => crew.Raises fault) ∧
    ∀ (others : List Nat) (deeds : List Deed) (s : Running σ ι A W D),
      Used crew registry settings source parent env ledger others deeds s →
      HoldLaw others deeds s ∧ ∀ operation : Operation,
        match operation.perform crew s with
        | .ok _ t => Upkeep others operation s.view
            (t.world.signs.drop s.world.signs.length) t.view
        | .error fault _ => crew.Raises fault := by
  refine ⟨fun operation others s settled accounts => ?_, fun others deeds s used => ?_⟩
  · have yields := perform_accounts careful operation settled accounts s rfl
    cases ran : operation.perform crew s with
    | error fault t =>
      rw [ran] at yields
      exact yields
    | ok done t =>
      rw [ran] at yields
      obtain ⟨new, -, kept⟩ := yields
      exact kept
  · obtain ⟨accounts, sole, waits⟩ := used.keeps careful
    refine ⟨⟨fun serial => accounts serial, waits.2, fun k picture filled => ?_⟩,
      fun operation => ?_⟩
    · exact sole.holds_eq_one accounts ((waits.2 k).trans filled)
    · have yields := perform_upkeep careful operation waits.1 accounts sole s rfl
      cases ran : operation.perform crew s with
      | error fault t =>
        rw [ran] at yields
        exact yields
      | ok done t =>
        rw [ran] at yields
        obtain ⟨new, signs, -, upkeep⟩ := yields
        have noted : t.world.signs.drop s.world.signs.length = new := by
          rw [signs, List.drop_left]
        dsimp only
        rwa [noted]

end Law

end Compositor

/-! ## The algorithms and displays at hand -/

/-- Views that are made come one after the other. -/
theorem Ledger.of_views_cons_some {base : Picture} {format : VideoFormat} {offset : Origin}
    {rest : List (Option (VideoFormat × Origin))} {l l' : Ledger} {slots : Slots}
    (made : l.views base (some (format, offset) :: rest) = .ok (slots, l')) :
    ∃ origin later, (l.place base format origin).2.views base rest = .ok (later, l') ∧
      slots = some (l.place base format origin).1 :: later := by
  cases shifted : base.origin.shift offset with
  | error fault =>
    rw [Ledger.views, Ledger.view, shifted] at made
    cases made
  | ok origin =>
    rw [views_cons_some shifted] at made
    cases asked : (l.place base format origin).2.views base rest with
    | error fault => rw [asked] at made; cases made
    | ok result =>
      rw [asked] at made
      cases made
      exact ⟨origin, result.1, asked, rfl⟩

theorem Ledger.of_views_cons_none {base : Picture} {rest : List (Option (VideoFormat × Origin))}
    {l l' : Ledger} {slots : Slots} (made : l.views base (none :: rest) = .ok (slots, l')) :
    ∃ later, l.views base rest = .ok (later, l') ∧ slots = none :: later := by
  rw [views_cons_none] at made
  cases asked : l.views base rest with
  | error fault => rw [asked] at made; cases made
  | ok result =>
    rw [asked] at made
    cases made
    exact ⟨result.1, rfl, rfl⟩

/-- Views are new pictures, each held once. -/
theorem Ledger.views_divided {base : Picture} (wanted : List (Option (VideoFormat × Origin)))
    {l l' : Ledger} {slots : Slots} (made : l.views base wanted = .ok (slots, l')) :
    (∀ serial, l'.live.count serial = l.live.count serial + holding slots serial) ∧
      (∀ serial, 0 < holding slots serial → l.next ≤ serial ∧ serial < l'.next) ∧
      (∀ serial, holding slots serial ≤ 1) ∧ l.next ≤ l'.next := by
  induction wanted generalizing l slots with
  | nil =>
    cases made
    simp
  | cons want rest ih =>
    cases want with
    | none =>
      obtain ⟨later, asked, rfl⟩ := of_views_cons_none made
      simpa only [holding_cons, inSlot_none, Nat.zero_add] using ih asked
    | some want =>
      obtain ⟨origin, later, asked, rfl⟩ := of_views_cons_some made
      obtain ⟨holds, fresh, once, issued⟩ := ih asked
      simp only [place] at holds fresh issued
      -- The views that are made later have later serials than the first one.
      have others {serial : Nat} (some : serial ≤ l.next) : holding later serial = 0 := by
        by_contra held
        have := fresh serial (Nat.pos_of_ne_zero held)
        omega
      have first (serial : Nat) : holding (Option.some (l.place base want.1 origin).1 :: later)
          serial = (if l.next = serial then 1 else 0) + holding later serial := by
        rw [holding_cons, inSlot_some]
        rfl
      refine ⟨fun serial => ?_, fun serial some => ?_, fun serial => ?_, by omega⟩
      · rw [holds, first, List.count_cons]
        simp only [beq_iff_eq]
        omega
      · rw [first] at some
        by_cases held : 0 < holding later serial
        · have := fresh serial held
          omega
        · split at some <;> omega
      · rw [first]
        split
        · rename_i same
          simp [others (Nat.le_of_eq same.symm)]
        · rw [Nat.zero_add]
          exact once serial

/-- Clones and walls keep no hold on what they split, and headless displays keep none at all. -/
theorem builtin_careful {σ : Type} : Careful (Crew.mk (Builtin.partitioner (σ := σ)) headless) where
  filter := by
    intro b picture w result b' w' ran held
    obtain ⟨slots, l, asked, rfl, rfl, rfl⟩ := Builtin.of_filter ran
    obtain ⟨holds, fresh, once, issued⟩ := Ledger.views_divided _ asked
    refine ⟨fun serial => ?_, fresh, once, issued⟩
    have some : 0 < w.ledger.live.count picture.serial := List.count_pos_iff.mpr held
    have sum := holds serial
    simp only [Ledger.release, List.count_erase, beq_iff_eq, Except.toOption, Option.getD_some]
    split
    · rename_i same
      subst same
      omega
    · omega
  locate := by rintro b k event w _ _ ⟨⟩; exact .refl _
  drop := by rintro b w _ _ ⟨⟩; exact .refl _
  disable := by rintro window w _ _ ⟨⟩; exact .refl _
  dropWindow := by rintro window w _ _ ⟨⟩; exact .refl _
  prepare := by rintro d picture overlay date w _ _ ⟨⟩; exact .refl _
  display := by rintro d picture w _ _ ⟨⟩; exact .refl _
  control := by
    intro d query w a w' ran
    cases query <;> cases ran <;> exact .refl _
  close := by rintro d w _ _ ⟨⟩; exact .refl _
  dropDisplay := by rintro d w _ _ ⟨⟩; exact .refl _

/-! ## A triptych -/

namespace Compositor

/-- Those who show a triptych and keep no hold on it. -/
def gallery : Crew Unit Notice Builtin HeadlessWindow HeadlessDisplay :=
  ⟨Builtin.partitioner, headless⟩

/-- The first frame that a user of the gallery records. -/
def firstFrame : Picture × Ledger := Ledger.empty.record (.whole .i420 64 48) 40 (.blank 0)

/-- Whether the second region waits to be shown once an opened compositor was given a frame. -/
def hangs : EStateM.Result Fault (World Unit (Happening Notice))
    (Except OpenError (Compositor Builtin HeadlessWindow HeadlessDisplay)) → Bool
  | .ok (.ok c) w => w.ledger == .empty &&
    match (Operation.prepare firstFrame.1 none 40).perform gallery
      ⟨c, { w with ledger := firstFrame.2 }⟩ with
    | .ok _ t => (t.compositor.picture? 1).isSome
    | .error _ _ => false
  | .ok (.error _) _ | .error _ _ => false

theorem of_hangs {came : EStateM.Result Fault (World Unit (Happening Notice))
      (Except OpenError (Compositor Builtin HeadlessWindow HeadlessDisplay))}
    (h : hangs came = true) :
    ∃ c w t part, came = .ok (.ok c) w ∧ w.ledger = .empty ∧
      (Operation.prepare firstFrame.1 none 40).perform gallery
        ⟨c, { w with ledger := firstFrame.2 }⟩ = .ok () t ∧
      t.compositor.picture? 1 = some part := by
  unfold hangs at h
  split at h
  · rename_i c w
    obtain ⟨empty, hung⟩ := Bool.and_eq_true_iff.mp h
    split at hung
    · rename_i t ran
      obtain ⟨part, filled⟩ := Option.isSome_iff_exists.mp hung
      exact ⟨c, w, t, part, rfl, eq_of_beq empty, ran, filled⟩
    · cases hung
  · cases h
  · cases h

/-- A clone that waits to be shown is held once, and the frame by its user alone. -/
theorem triptych_hangs :
    Careful gallery ∧ ∃ others deeds t part,
      Used gallery triptychs .standard (.whole .i420 64 48) none () .empty others deeds t ∧
      awaiting deeds 1 = some part ∧ t.world.ledger.holds part = 1 ∧
      t.world.ledger.holds firstFrame.1 = 1 := by
  refine ⟨builtin_careful, ?_⟩
  generalize format : VideoFormat.whole .i420 64 48 = source
  have known : triptychs.resolve? SplitSettings.standard.algorithmName = some makeTriptych :=
    Registry.resolve?_register_self _ _ _
  have made : makeTriptych source.upright .standard ⟨(), .empty, []⟩ =
      .ok (.ok (triptych source.upright)) ⟨(), .empty, []⟩ := rfl
  -- The registry is used only through what it finds.
  generalize triptychs = registry at known ⊢
  have hung : hangs (openWith gallery .standard source none (triptych source.upright)
      (founded gallery .standard (triptych source.upright) ⟨(), .empty, []⟩)) = true := by
    subst format
    decide +kernel
  obtain ⟨c, ⟨env, ledger, trace⟩, t, part, came, empty, ran, filled⟩ := of_hangs hung
  obtain rfl : ledger = .empty := empty
  rw [← open_of_made gallery none known made] at came
  -- The user records a frame, has it prepared and goes on holding it.
  have recorded : Used gallery registry .standard source none () .empty [firstFrame.1.serial] []
      ⟨c, ⟨env, firstFrame.2, trace⟩⟩ :=
    .deals (.opened came nofun) (.record (.whole .i420 64 48) 40 (.blank 0))
  have held : ∀ picture, (Operation.prepare firstFrame.1 none 40).picture? = some picture →
      picture.serial ∈ [firstFrame.1.serial] := by
    rintro _ ⟨⟩
    exact List.mem_singleton.mpr rfl
  have prepared := Used.performs recorded held ran
  obtain ⟨-, laws⟩ := holds_always_add_up gallery builtin_careful registry .standard source none
    () .empty
  obtain ⟨law, -⟩ := laws _ _ _ prepared
  have waits := (law.waiting 1).symm.trans filled
  have upkeep := (laws _ _ _ recorded).2 (.prepare firstFrame.1 none 40)
  rw [ran] at upkeep
  have whole := upkeep.whole _ _ _ rfl (held _ rfl)
  exact ⟨_, _, t, part, prepared, waits, law.once 1 part waits, whole.trans rfl⟩

end Compositor

end Mosaic
