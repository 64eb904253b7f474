import Mosaic.Proofs.Retouch

/-!
# Runs as one region sees them

A run consists of calls to the compositor, between which windows report. What matters to a region
are the calls, the inputs that were reported before each of them, since they wait for the next
handling, and the region's own cues. Two runs that have these in common are the same for the
region, however many other reports there are in between.

## Main definitions

* `Heard`, `Turn`, `turns` — the calls of a run, each with what was reported before it
* `SameFor` — two runs are the same for a region
* `Deed.Done` — what a deed comes to
* `performWatched`, `portraitsOf` — operations with the portrait of a region after each of them
* `Watches` — watched deeds, one after the other

## Main results

* `perform_done` — every operation is a deed that is done
* `performWatched_watches` — what operations do one by one they do in a row, and are watched
-/

set_option autoImplicit false

namespace Mosaic

/-- What is to be seen of a region of a running compositor. -/
def Running.portrait {σ ι A W D : Type} (s : Running σ ι A W D) (k : Nat) : Portrait :=
  s.compositor.portrait k s.world.signs

namespace Compositor

/-! ## What a region is given -/

/-- Whether an operation is a report of a window, and no call to the compositor. -/
def Operation.isReport : Operation → Bool
  | report _ _ => true
  | prepare _ _ _ | display | control _ | drain | close => false

/-- What was reported since the last call: the inputs of all windows, and the cues of one
region. -/
structure Heard where
  inputs : List RegionInput
  cues : List Cue
deriving DecidableEq

/-- What some signs add to what was reported. -/
def Heard.add (heard : Heard) (k : Nat) (signs : List Sign) : Heard :=
  ⟨heard.inputs ++ reportsOf signs, heard.cues ++ cuesOf k signs⟩

/-- What is reported while an opening goes on. -/
def Heard.of (k : Nat) (signs : List Sign) : Heard := ⟨reportsOf signs, cuesOf k signs⟩

/-- What is reported while a call goes on: windows report no new sizes then. -/
def Heard.during (signs : List Sign) : Heard := ⟨reportsOf signs, []⟩

/-- A call to a compositor with what was reported between it and the call before. -/
structure Turn where
  heard : Heard
  call : Operation
deriving DecidableEq

/-- The calls among some deeds, each with what was reported before it. -/
def turns (k : Nat) : Heard → List Deed → List Turn
  | _, [] => []
  | heard, deed :: later =>
    if deed.operation.isReport then turns k (heard.add k deed.signs) later
    else ⟨heard, deed.operation⟩ :: turns k (.during deed.signs) later

/-- What is reported after the last call among some deeds. -/
def lastHeard (k : Nat) : Heard → List Deed → Heard
  | heard, [] => heard
  | heard, deed :: later =>
    if deed.operation.isReport then lastHeard k (heard.add k deed.signs) later
    else lastHeard k (.during deed.signs) later

/-- Two runs are the same for a region: the same calls are made, the same inputs are reported
before each of them, and the region is given the same cues before each of them and at the end. -/
structure SameFor (k : Nat) (opening : List Sign) (deeds : List Deed) (opening' : List Sign)
    (deeds' : List Deed) : Prop where
  turns : turns k (.of k opening) deeds = Compositor.turns k (.of k opening') deeds'
  cues : (lastHeard k (.of k opening) deeds).cues = (lastHeard k (.of k opening') deeds').cues

/-! ## Deeds -/

section Deeds

variable {σ ι A W D : Type}

/-- What a deed comes to, by its operation. -/
def Deed.Comes (crew : Crew σ ι A W D) (k : Nat) (wanted : Size) (v : View σ A W D) (deed : Deed)
    (v' : View σ A W D) : Prop :=
  match deed.operation with
  | .prepare picture overlay date => ∃ drained divided v₁,
      HandlesAll crew v.compositor.queue v drained v₁ ∧
      Divides crew picture overlay date v₁ divided v' ∧ deed.signs = drained ++ divided
  | .display => ShowsFrom crew v.compositor.regions.length 0 v deed.signs v'
  | .control query => Controls crew query v deed.signs v'
  | .drain => HandlesAll crew v.compositor.queue v deed.signs v'
  | .report _ _ => Path (Reports crew) v deed.signs v' ∧ Minds k wanted v deed.signs v'
  | .close => Closes v deed.signs v'

/-- A deed that was done on a settled compositor. -/
structure Deed.Done (crew : Crew σ ι A W D) (k : Nat) (wanted : Size) (v : View σ A W D)
    (deed : Deed) (v' : View σ A W D) : Prop where
  comes : deed.Comes crew k wanted v v'
  settled : v'.compositor.Settled
  routed : deed.operation ≠ .close → deed.Routed v v'

variable {crew : Crew σ ι A W D} {v v' : View σ A W D}

theorem perform_comes (k : Nat) (wanted : Size) (operation : Operation)
    (tidy : v.compositor.Tidy) :
    (operation.perform crew).Yields crew v fun _ new v' =>
      Deed.Comes crew k wanted v ⟨operation, v.compositor.shown, new⟩ v' := by
  cases operation with
  | prepare picture overlay date => exact prepare_yields picture overlay date tidy
  | display => exact display_yields tidy
  | control query =>
    refine (control_controls query tidy).andThen fun _ new v' controls => .pure ?_
    rw [List.append_nil]
    exact controls
  | drain =>
    refine (drain_yields tidy).andThen fun _ new v' drains => .pure ?_
    rw [List.append_nil]
    exact drains.2
  | report j event =>
    exact ((report_yields tidy j event).both (report_minds k wanted tidy j event)).mono
      fun _ _ _ ⟨path, minds⟩ => ⟨path.1, minds⟩
  | close => exact close_yields tidy

/-- Every operation is a deed that is done, and leaves a compositor settled. -/
theorem perform_done (k : Nat) (wanted : Size) (operation : Operation)
    (settled : v.compositor.Settled) :
    (operation.perform crew).Yields crew v fun _ new v' =>
      Deed.Done crew k wanted v ⟨operation, v.compositor.shown, new⟩ v' ∧
      v'.compositor.Settled := by
  have tidy := settled.tidy
  have waits : Waits v.compositor.picture? v.compositor := ⟨settled, fun _ => rfl⟩
  have comes := (perform_comes k wanted operation tidy).both (perform_lawful crew operation waits)
  by_cases closing : operation = .close
  · refine comes.mono ?_
    rintro _ new v' ⟨comes, -, settled', -⟩
    exact ⟨⟨comes, settled', fun live => (live closing).elim⟩, settled'⟩
  · refine (comes.both (perform_routed operation closing tidy)).mono ?_
    rintro _ new v' ⟨⟨comes, -, settled', -⟩, routed, -⟩
    exact ⟨⟨comes, settled', fun _ => routed⟩, settled'⟩

end Deeds

/-! ## Watching a region -/

section Watch

variable {σ ι A W D : Type}

/-- Performs operations and notes what each of them shows, together with the portrait of a region
after it. -/
def performWatched (crew : Crew σ ι A W D) (k : Nat) :
    List Operation → Act σ ι A W D (List (Deed × Portrait))
  | [] => pure []
  | operation :: rest => do
    let deeds ← performNoted crew [operation]
    let after ← get
    let later ← performWatched crew k rest
    return deeds.map (·, after.portrait k) ++ later

/-- The portraits after the calls among some deeds. -/
def portraitsOf (notes : List (Deed × Portrait)) : List Portrait :=
  (notes.filter fun note => !note.1.operation.isReport).map Prod.snd

/-- Deeds one after the other, each of which does what `does` says, with the portrait of a region
after each of them. -/
inductive Watches (does : View σ A W D → Deed → View σ A W D → Prop) (k : Nat) :
    List Sign → View σ A W D → List (Deed × Portrait) → List Sign → View σ A W D → Prop
  | nil (past : List Sign) (v : View σ A W D) : Watches does k past v [] past v
  | cons {past past' : List Sign} {v v' v'' : View σ A W D} {deed : Deed}
      {later : List (Deed × Portrait)} (head : does v deed v')
      (tail : Watches does k (past ++ deed.signs) v' later past' v'') :
      Watches does k past v ((deed, v'.compositor.portrait k (past ++ deed.signs)) :: later)
        past' v''

/-- To watch a region changes nothing about what is done. -/
theorem performWatched_forget (crew : Crew σ ι A W D) (k : Nat) (operations : List Operation) :
    (do let _ ← performWatched crew k operations) = performAll crew operations := by
  induction operations with
  | nil => rfl
  | cons operation rest ih =>
    rw [performAll, ← ih]
    simp only [performWatched, performNoted, bind_assoc, pure_bind]
    rfl

theorem performAll_of_watched {crew : Crew σ ι A W D} {k : Nat} {operations : List Operation}
    {s t : Running σ ι A W D} {notes : List (Deed × Portrait)}
    (ran : performWatched crew k operations s = .ok notes t) :
    performAll crew operations s = .ok () t := by
  rw [← performWatched_forget crew k]
  simp only [bind, EStateM.bind, ran]
  rfl

theorem Deeds.single_iff {does : View σ A W D → Deed → View σ A W D → Prop} {deed : Deed}
    {v v' : View σ A W D} : Deeds does v [deed] v' ↔ does v deed v' := by
  constructor
  · rintro (_ | ⟨head, ⟨⟩⟩)
    exact head
  · exact fun head => .cons head (.nil _)

/-- Where each operation does what `does` says and keeps what it needs for that, so do they all,
and the region is watched meanwhile. -/
theorem performWatched_watches {crew : Crew σ ι A W D} {k : Nat}
    {does : View σ A W D → Deed → View σ A W D → Prop} {Ready : View σ A W D → Prop}
    (one : ∀ (operation : Operation) (v : View σ A W D), Ready v →
      (operation.perform crew).Yields crew v fun _ new v' =>
        does v ⟨operation, v.compositor.shown, new⟩ v' ∧ Ready v')
    {operations : List Operation} {s t : Running σ ι A W D} {notes : List (Deed × Portrait)}
    (ready : Ready s.view) (ran : performWatched crew k operations s = .ok notes t) :
    Watches does k s.world.signs s.view notes t.world.signs t.view := by
  induction operations generalizing s notes with
  | nil =>
    cases ran
    exact .nil _ _
  | cons operation rest ih =>
    have first := performNoted_deeds crew does Ready [operation] (fun operation _ => one operation)
      s ready
    have seen (u : Running σ ι A W D) : (get : Act σ ι A W D _) u = .ok u u := rfl
    simp only [performWatched, bind, EStateM.bind] at ran
    cases noted : performNoted crew [operation] s with
    | error fault u => simp [noted] at ran
    | ok deeds u =>
      rw [noted] at first ran
      obtain ⟨operations, signs, did, ready'⟩ := first
      simp only [seen] at ran
      cases later : performWatched crew k rest u with
      | error fault u' => simp [later] at ran
      | ok more u' =>
        rw [later] at ran
        cases ran
        -- One operation is one deed.
        obtain ⟨deed, rfl, -⟩ := List.map_eq_singleton_iff.mp operations
        have tail := ih ready' later
        rw [List.flatMap_singleton] at signs
        have watched : u.portrait k =
            u.view.compositor.portrait k (s.world.signs ++ deed.signs) := by
          rw [← signs]
          rfl
        rw [signs] at tail
        rw [List.map_singleton, watched]
        exact .cons (Deeds.single_iff.mp did) tail

theorem performWatched_done {crew : Crew σ ι A W D} {k : Nat} (wanted : Size)
    {operations : List Operation} {s t : Running σ ι A W D} {notes : List (Deed × Portrait)}
    (settled : s.compositor.Settled) (ran : performWatched crew k operations s = .ok notes t) :
    Watches (Deed.Done crew k wanted) k s.world.signs s.view notes t.world.signs t.view :=
  performWatched_watches (fun operation _ => perform_done k wanted operation) settled ran

end Watch

end Compositor

end Mosaic
