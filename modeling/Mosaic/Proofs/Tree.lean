import Mathlib.Data.List.Nodup
import Mosaic.Proofs.Nest

/-!
# Trees of compositors

The display of each region is a headless one or again a compositor, which has regions of its own,
and so on. A `Plan` says which of them it is, for every region of every compositor on the way
down, and with it the settings of the compositors and what their windows do. The types of the
displays and the backend that drives them follow from the plan by recursion.

Headless displays are lawful, compositors of lawful displays are lawful displays, so every plan
is lawful.

## Main definitions

* `Run.relabel`, `Backend.relabel`, `Backend.each` — regions that are served by different backends
* `Site`, `Plan` — the windows around a display, and what the displays are
* `Plan.backend`, `Plan.sights` — what drives the displays of a plan, and what is seen of them
* `Plan.hear` — a window somewhere below reports

## Main results

* `Plan.lawful` — every plan is lawful
* `Plan.hear_ends` — what windows below report leaves everything in order
* `Plan.apart` — leaves stand at the ends of different paths
-/

set_option autoImplicit false

namespace Mosaic

/-! ## Different backends -/

section Relabel

variable {σ ι κ α β : Type}

/-- Runs an action with what it notes in another form. -/
def Run.relabel (f : ι → κ) (act : Run σ ι α) : Run σ κ α := fun w =>
  match act ⟨w.env, w.ledger, []⟩ with
  | .ok a u => .ok a ⟨u.env, u.ledger, u.trace.map f ++ w.trace⟩
  | .error fault u => .error fault ⟨u.env, u.ledger, u.trace.map f ++ w.trace⟩

theorem Run.Ends.relabel {act : Run σ ι α} {post : α → List ι → Prop} (h : act.Ends post)
    (f : ι → κ) :
    (act.relabel f).Ends fun a items => ∃ noted, items = noted.map f ∧ post a noted := by
  intro w
  obtain ⟨a, items, w', ran, noted, holds⟩ := h ⟨w.env, w.ledger, []⟩
  refine ⟨a, items.map f, ⟨w'.env, w'.ledger, w'.trace.map f ++ w.trace⟩, ?_, ?_, items, rfl, holds⟩
  · simp only [Run.relabel, ran]
  · have all : w'.trace.reverse = items := noted
    rw [World.history, List.reverse_append, ← List.map_reverse, all, World.history]

/-- In an empty world the first thing that an action notes is what it notes there. -/
theorem Run.of_relabel {f : ι → κ} {act : Run σ ι α} {env : σ} {ledger : Ledger} {a : α}
    {w : World σ κ} (ran : act.relabel f ⟨env, ledger, []⟩ = .ok a w) :
    ∃ u, act ⟨env, ledger, []⟩ = .ok a u := by
  unfold Run.relabel at ran
  split at ran
  · rename_i ran'
    cases ran
    exact ⟨_, ran'⟩
  · cases ran

variable {W D : Type}

/-- A backend whose doings are noted in another form. -/
def Backend.relabel (f : ι → κ) (backend : Backend σ ι W D) : Backend σ κ W D where
  opening := backend.opening
  showing := backend.showing
  newWindow k settings := (backend.newWindow k settings).relabel f
  enable window settings := (backend.enable window settings).relabel f
  disable window := (backend.disable window).relabel f
  dropWindow window := (backend.dropWindow window).relabel f
  newDisplay k request := (backend.newDisplay k request).relabel f
  prepare d picture overlay date := (backend.prepare d picture overlay date).relabel f
  display d picture := (backend.display d picture).relabel f
  control d query := (backend.control d query).relabel f
  close d := (backend.close d).relabel f
  dropDisplay d := (backend.dropDisplay d).relabel f

end Relabel

section Each

variable {σ : Type} {ι W D : Nat → Type}

/-- Every region is served by a backend of its own: what is made for a region is known by it. -/
def Backend.each (backends : (k : Nat) → Backend σ (ι k) (W k) (D k)) :
    Backend σ (Σ k, ι k) (Σ k, W k) (Σ k, D k) :=
  let served (k : Nat) := (backends k).relabel (Sigma.mk k)
  { opening := fun stage k env => (backends k).opening stage k env
    showing := fun stage k env => (backends k).showing stage k env
    newWindow := fun k settings => do
      let result ← (served k).newWindow k settings
      return result.map (Sigma.mk k)
    enable := fun window settings => do
      let (result, shown) ← (served window.1).enable window.2 settings
      return (result, ⟨window.1, shown⟩)
    disable := fun window => do return ⟨window.1, ← (served window.1).disable window.2⟩
    dropWindow := fun window => (served window.1).dropWindow window.2
    newDisplay := fun k request => do
      let result ← (served k).newDisplay k request
      return result.map (Sigma.mk k)
    prepare := fun d picture overlay date => do
      return ⟨d.1, ← (served d.1).prepare d.2 picture overlay date⟩
    display := fun d picture => do return ⟨d.1, ← (served d.1).display d.2 picture⟩
    control := fun d query => do
      let (result, answered) ← (served d.1).control d.2 query
      return (result, ⟨d.1, answered⟩)
    close := fun d => do return ⟨d.1, ← (served d.1).close d.2⟩
    dropDisplay := fun d => (served d.1).dropDisplay d.2 }

/-- Does something with a display that is known by its region, whichever it is. -/
def Run.each (acts : (k : Nat) → D k → Run σ (ι k) (D k)) (d : Σ k, D k) :
    Run σ (Σ k, ι k) (Σ k, D k) := do
  return ⟨d.1, ← (acts d.1 d.2).relabel (Sigma.mk d.1)⟩

/-- What is seen of displays that are known by their regions: a display is in order in the region
it was made for. -/
def Sights.each (o : (k : Nat) → Sights (ι k) (D k)) : Sights (Σ k, ι k) (Σ k, D k) where
  leaves d := ((o d.1).leaves d.2).map (.under d.1)
  sizes d := (o d.1).sizes d.2
  Fits d := (o d.1).Fits d.2
  Sound k waiting d := d.1 = k ∧ (o d.1).Sound k waiting d.2
  closings item := ((o item.1).closings item.2).map (.under item.1)

instance decidableFitsEach {o : (k : Nat) → Sights (ι k) (D k)}
    [fits : ∀ k d origin, Decidable ((o k).Fits d origin)] (d : Σ k, D k) (origin : Origin) :
    Decidable ((Sights.each o).Fits d origin) :=
  fits d.1 d.2 origin

variable {o : (k : Nat) → Sights (ι k) (D k)} {backends : (k : Nat) → Backend σ (ι k) (W k) (D k)}

theorem Sights.closed_each (k : Nat) (items : List (ι k)) :
    (Sights.each o).closed (items.map (Sigma.mk k)) = ((o k).closed items).map (.under k) := by
  rw [closed, closed, List.flatMap_map, List.map_flatMap]
  rfl

theorem Sights.silent_each {k : Nat} {items : List (ι k)} (silent : (o k).closed items = []) :
    (Sights.each o).closed (items.map (Sigma.mk k)) = [] := by
  rw [closed_each, silent, List.map_nil]

/-- What every leaf does is the same from outside of a region. -/
theorem Sights.Becomes.each {k : Nat} {act : Leaf → Leaf} {d d' : D k}
    (h : (o k).Becomes act d d') (within : ∀ leaf, (act leaf).under k = act (leaf.under k)) :
    (Sights.each o).Becomes act ⟨k, d⟩ ⟨k, d'⟩ := by
  refine ⟨?_, h.length_sizes, h.fits_iff⟩
  show ((o k).leaves d').map (.under k) = (((o k).leaves d).map (.under k)).map act
  rw [h.leaves_eq, List.map_map, List.map_map]
  exact List.map_congr_left fun leaf _ => within leaf

/-- Lawful displays that are known by their regions are lawful. -/
theorem Lawful.each (lawful : ∀ k, Lawful (backends k) (o k)) :
    Lawful (Backend.each backends) (Sights.each o) where
  created := by
    intro k request env ledger d w ran
    simp only [Backend.each, Backend.relabel, bind, EStateM.bind] at ran
    -- What was made with its doings relabelled was made, so it came in order and fresh.
    cases made : ((backends k).newDisplay k request).relabel (Sigma.mk k) ⟨env, ledger, []⟩ with
    | error fault u =>
      rw [made] at ran
      cases ran
    | ok result u =>
      rw [made] at ran
      cases result with
      | error cause => cases ran
      | ok d' =>
        cases ran
        obtain ⟨u', ran⟩ := Run.of_relabel made
        obtain ⟨sound, fresh⟩ := (lawful k).created ran
        refine ⟨⟨rfl, sound⟩, fun leaf member => ?_⟩
        obtain ⟨inner, inside, rfl⟩ := List.mem_map.mp member
        exact fresh inner inside
  prepare picture overlay date := by
    rintro ⟨rfl, sound⟩ fits
    refine .bind ((((lawful _).prepare picture overlay date sound fits).relabel _).mono ?_)
    rintro d' _ ⟨items, rfl, sound', becomes, silent⟩
    refine .pure ⟨⟨rfl, sound'⟩, becomes.each fun _ => rfl, ?_⟩
    rw [List.append_nil, Sights.silent_each silent]
  display picture := by
    rintro ⟨rfl, sound⟩
    refine .bind ((((lawful _).display picture sound).relabel _).mono ?_)
    rintro d' _ ⟨items, rfl, sound', becomes, silent⟩
    refine .pure ⟨⟨rfl, sound'⟩, becomes.each fun _ => rfl, ?_⟩
    rw [List.append_nil, Sights.silent_each silent]
  control query := by
    rintro ⟨rfl, sound⟩
    refine .bind ((((lawful _).control query sound).relabel _).mono ?_)
    rintro answer _ ⟨items, rfl, sound', becomes, silent, sized⟩
    refine .pure ⟨⟨rfl, sound'⟩, becomes.each fun _ => rfl, ?_, sized⟩
    rw [List.append_nil, Sights.silent_each silent]
  close := by
    rintro _ _ _ ⟨rfl, sound⟩
    refine .bind ((((lawful _).close sound).relabel _).mono ?_)
    rintro d' _ ⟨items, rfl, closings, ends⟩
    refine .pure ⟨?_, (ends.relabel _).mono ?_⟩
    · rw [List.append_nil, Sights.closed_each, closings]
      simp [Sights.each, Function.comp_def, Leaf.closing, Leaf.under, Closing.under]
    · rintro _ _ ⟨more, rfl, silent⟩
      exact Sights.silent_each silent
  disable window := by
    refine .bind ((((lawful _).disable window.2).relabel _).mono ?_)
    rintro window' _ ⟨items, rfl, silent⟩
    exact .pure (by rw [List.append_nil, Sights.silent_each silent])
  dropWindow window := by
    refine (((lawful _).dropWindow window.2).relabel _).mono ?_
    rintro _ _ ⟨items, rfl, silent⟩
    exact Sights.silent_each silent

theorem Run.Ends.each {acts : (k : Nat) → D k → Run σ (ι k) (D k)} {waits : Bool}
    (h : ∀ {k d}, (o k).Sound k waits d → (acts k d).Ends fun d' items =>
      Compositor.Calm (o k) k waits d d' ∧ (o k).closed items = [])
    {k : Nat} {d : Σ k, D k} (sound : (Sights.each o).Sound k waits d) :
    (Run.each acts d).Ends fun d' items =>
      Compositor.Calm (Sights.each o) k waits d d' ∧ (Sights.each o).closed items = [] := by
  obtain ⟨rfl, sound⟩ := sound
  refine .bind (((h sound).relabel _).mono ?_)
  rintro d' _ ⟨items, rfl, calm, silent⟩
  refine .pure ⟨⟨⟨rfl, calm.sound⟩, calm.becomes.each fun _ => rfl⟩, ?_⟩
  rw [List.append_nil, Sights.silent_each silent]

variable {V : Type} {b : Builtin} {waiting : Nat → Bool} {c : Compositor Builtin V (Σ k, D k)}

/-- Where nothing of interest happens inside the display of a region, nothing changes. -/
theorem Compositor.Sound.stir_each {acts : (k : Nat) → D k → Run σ (ι k) (D k)}
    (sound : c.Sound (Sights.each o) b waiting) (i : Nat)
    (h : ∀ k waits d, (o k).Sound k waits d → (acts k d).Ends fun d' items =>
      Calm (o k) k waits d d' ∧ (o k).closed items = []) :
    (stir i (Run.each acts)).Ensures c fun _ inner c' =>
      (Sights.each o).closed inner = [] ∧ c'.Sound (Sights.each o) b waiting ∧
        Alters (Sights.each o) (fun _ => id) c c' :=
  stir_ensures sound fun d shows => .each (h _ _ _) (sound.displays i d shows)

/-- Leaves of different regions have different paths. -/
theorem Compositor.Sound.apart (sound : c.Sound (Sights.each o) b waiting)
    (within : ∀ k waits (d : D k), (o k).Sound k waits d →
      (((o k).leaves d).map Leaf.path).Nodup) :
    ((c.leaves (Sights.each o).leaves).map Leaf.path).Nodup := by
  have deeper (k : Nat) (leaves : List Leaf) : (leaves.map (Leaf.under k)).map Leaf.path =
      (leaves.map Leaf.path).map (k :: ·) := by
    rw [List.map_map, List.map_map]
    rfl
  have region (k : Nat) : ∃ paths : List (List Nat), paths.Nodup ∧
      ((c.display? k).elim [] (Sights.each o).leaves).map Leaf.path = paths.map (k :: ·) := by
    cases shows : c.display? k with
    | none => exact ⟨[], List.nodup_nil, rfl⟩
    | some d =>
      obtain ⟨rfl, inside⟩ := sound.displays k d shows
      exact ⟨_, within _ _ _ inside, deeper _ _⟩
  choose paths distinct each using region
  simp only [leaves, List.map_flatMap, each]
  refine List.nodup_flatMap.mpr ⟨fun k _ => (distinct k).map (List.cons_injective), ?_⟩
  refine List.nodup_range.imp fun {i j} other path first second => ?_
  -- A path in both would start with both regions.
  obtain ⟨_, -, rfl⟩ := List.mem_map.mp first
  obtain ⟨_, -, same⟩ := List.mem_map.mp second
  exact other (List.cons.inj same).1.symm

end Each

/-! ## Headless displays -/

/-- What is seen of a headless display: a leaf. -/
def HeadlessDisplay.sights : Sights Notice HeadlessDisplay where
  leaves d := [⟨[], d.name, d.prepared, d.displayed⟩]
  sizes d := [d.size]
  Fits _ _ := True
  Sound _ _ _ := True
  closings
    | .displayClosed name frames => [⟨[], name, frames⟩]
    | _ => []

/-- What is around a display: windows of any kind, which report what they like and refuse what
they like, but can be hidden and let go. Displays that are made there are headless ones. -/
structure Site (σ : Type) where
  Window : Type
  backend : Backend σ Notice Window HeadlessDisplay
  prepare_eq : backend.prepare = headless.prepare
  display_eq : backend.display = headless.display
  control_eq : backend.control = headless.control
  close_eq : backend.close = headless.close
  dropDisplay_eq : backend.dropDisplay = headless.dropDisplay
  /-- New displays have counted nothing. -/
  fresh : ∀ {k request env ledger d w},
    backend.newDisplay k request ⟨env, ledger, []⟩ = .ok (.ok d) w →
      d.prepared = 0 ∧ d.displayed = 0
  disable_ends : ∀ window, (backend.disable window).Ends fun _ items =>
    HeadlessDisplay.sights.closed items = []
  dropWindow_ends : ∀ window, (backend.dropWindow window).Ends fun _ items =>
    HeadlessDisplay.sights.closed items = []

namespace Site

variable {σ : Type}

/-- Headless displays are lawful. -/
theorem lawful (site : Site σ) : Lawful site.backend HeadlessDisplay.sights where
  created ran := ⟨trivial, fun leaf member => by
    cases List.mem_singleton.mp member
    exact site.fresh ran⟩
  prepare picture overlay date := by
    intro _ _
    rw [site.prepare_eq]
    exact .bind (.record (.pure ⟨trivial, ⟨rfl, rfl, fun _ => .rfl⟩, rfl⟩))
  display picture := by
    intro _
    rw [site.display_eq]
    exact .bind (.record (.pure ⟨trivial, ⟨rfl, rfl, fun _ => .rfl⟩, rfl⟩))
  control query := by
    intro _
    rw [site.control_eq]
    cases query with
    | displaySize size =>
      refine .bind (.record (.pure ⟨trivial, ⟨rfl, rfl, fun _ => .rfl⟩, rfl, ?_⟩))
      rintro _ ⟨⟩ _ _ taken member
      exact List.mem_singleton.mp member
    | unknown | sourceAspect | sourceCrop | sourcePlace =>
      exact .pure ⟨trivial, ⟨rfl, rfl, fun _ => .rfl⟩, rfl, nofun⟩
  close := by
    intro _ _ _ _
    rw [site.close_eq, site.dropDisplay_eq]
    exact .bind (.record (.pure ⟨rfl, .pure rfl⟩))
  disable := site.disable_ends
  dropWindow := site.dropWindow_ends

/-- Headless windows around headless displays. -/
def headless : Site σ where
  Window := HeadlessWindow
  backend := Mosaic.headless
  prepare_eq := rfl
  display_eq := rfl
  control_eq := rfl
  close_eq := rfl
  dropDisplay_eq := rfl
  fresh := by
    intro k request env ledger d w ran
    simp only [Mosaic.headless, HeadlessDisplay.request] at ran
    split at ran
    · cases ran
      exact ⟨rfl, rfl⟩
    · cases ran
  disable_ends window := .bind (.record (.pure rfl))
  dropWindow_ends window := .pure rfl

end Site

/-! ## Plans -/

/-- What a display is: a headless one, or a compositor with a display of some plan for each of
its regions. Only the regions that the compositor gets are of interest. -/
inductive Plan (σ : Type) : Type 1 where
  | headless (site : Site σ)
  | compositor (site : Site σ) (settings : SplitSettings) (inner : Nat → Plan σ)

namespace Plan

variable {σ : Type}

/-- The window around a display. -/
@[reducible]
def Window : Plan σ → Type
  | headless site | compositor site _ _ => site.Window

/-- What shows inside a display. -/
@[reducible]
def Item : Plan σ → Type
  | headless _ => Notice
  | compositor _ _ inner => Happening (Σ k, (inner k).Item)

/-- The display. -/
@[reducible]
def Display : Plan σ → Type
  | headless _ => HeadlessDisplay
  | compositor _ _ inner => Compositor Builtin (Σ k, (inner k).Window) (Σ k, (inner k).Display)

/-- Makes and drives a display and the window around it. -/
def backend : (plan : Plan σ) → Backend σ plan.Item plan.Window plan.Display
  | headless site => site.backend
  | compositor site settings inner =>
    let nest : Nest σ (Σ k, (inner k).Item) Builtin (Σ k, (inner k).Window)
        (Σ k, (inner k).Display) :=
      ⟨(Backend.each fun k => (inner k).backend).crew, Builtin.registry, settings⟩
    nest.backend (site.backend.relabel .said)

/-- What is seen of a display. -/
def sights : (plan : Plan σ) → Sights plan.Item plan.Display
  | headless _ => HeadlessDisplay.sights
  | compositor _ _ inner => Compositor.sights (.each fun k => (inner k).sights)

/-- Whether a picture fits a display can be computed. -/
instance decidableFits : (plan : Plan σ) → (d : plan.Display) → (origin : Origin) →
    Decidable (plan.sights.Fits d origin)
  | headless _, _, _ => isTrue trivial
  | compositor _ _ inner, c, origin =>
    have := fun k => decidableFits (inner k)
    inferInstanceAs (Decidable (c.Fits (Sights.each fun k => (inner k).sights).Fits origin))

/-- Every plan is lawful. -/
theorem lawful (plan : Plan σ) : Lawful plan.backend plan.sights := by
  induction plan with
  | headless site => exact site.lawful
  | compositor site settings inner ih =>
    -- What windows say is nothing that happens inside, so it closes nothing.
    have said (items : List Notice) : (Compositor.sights (W := Σ k, (inner k).Window)
        (.each fun k => (inner k).sights)).closed (items.map Happening.said) = [] := by
      rw [Compositor.closed_sights, insideOf, List.filterMap_map]
      simp [Function.comp_def, Happening.inside?]
    refine (Lawful.each ih).nest Builtin.registry settings _ (fun window => ?_) fun window => ?_
    · refine ((site.disable_ends window).relabel _).mono ?_
      rintro _ _ ⟨items, rfl, -⟩
      exact said items
    · refine ((site.dropWindow_ends window).relabel _).mono ?_
      rintro _ _ ⟨items, rfl, -⟩
      exact said items

/-! ## Windows further down -/

/-- The window of a region of a compositor somewhere in a display reports. The path names the
regions that lead to the compositor; where it leads to none, nobody hears of it. -/
def hear : (plan : Plan σ) → List Nat → Nat → WindowEvent → plan.Display →
    Run σ plan.Item plan.Display
  | headless _, _, _, _, d => pure d
  | compositor _ _ inner, [], k, event, c =>
    Nest.step c (Compositor.report (Backend.each fun k => (inner k).backend).crew k event)
  | compositor _ _ inner, i :: path, k, event, c =>
    Nest.step c (Compositor.stir i (Run.each fun k' => (inner k').hear path k event))

/-- What windows report somewhere in a display leaves it in order, and no leaf does anything. -/
theorem hear_ends (plan : Plan σ) {i : Nat} {waits : Bool} {d : plan.Display} (path : List Nat)
    (k : Nat) (event : WindowEvent) (sound : plan.sights.Sound i waits d) :
    (plan.hear path k event d).Ends fun d' items =>
      Compositor.Calm plan.sights i waits d d' ∧ plan.sights.closed items = [] := by
  induction plan generalizing i waits path with
  | headless site => exact .pure ⟨⟨trivial, .refl d⟩, rfl⟩
  | compositor site settings inner ih =>
    obtain ⟨b, sound⟩ := sound
    cases path with
    | nil =>
      have lawful := Lawful.each fun k => (inner k).lawful
      refine (Compositor.report_ensures lawful k event sound).step.mono ?_
      rintro c' items ⟨-, silent, sound', alters⟩
      exact ⟨⟨⟨b, sound'⟩, alters.becomes⟩, (Compositor.closed_sights items).trans silent⟩
    | cons i path =>
      refine (sound.stir_each i fun k' _ _ sound => ih k' path sound).step.mono ?_
      rintro c' items ⟨-, silent, sound', alters⟩
      exact ⟨⟨⟨b, sound'⟩, alters.becomes⟩, (Compositor.closed_sights items).trans silent⟩

/-! ## Paths -/

/-- No two leaves have the same path. -/
theorem apart (plan : Plan σ) {k : Nat} {waits : Bool} {d : plan.Display}
    (sound : plan.sights.Sound k waits d) : ((plan.sights.leaves d).map Leaf.path).Nodup := by
  induction plan generalizing k waits with
  | headless site => exact List.nodup_singleton _
  | compositor site settings inner ih =>
    obtain ⟨b, sound⟩ := sound
    exact sound.apart fun k waits d sound => ih k sound

end Plan

end Mosaic
