import Mosaic.Compositor.Nesting
import Mosaic.Proofs.Conduct

/-!
# Compositors as lawful displays

A compositor that was opened for one of the algorithms at hand is in order as soon as it is
there, whatever its windows reported meanwhile: every display in it is fresh, stands in its own
region and shows a cell that is to be shown. So a compositor of lawful displays is itself a
lawful display, and nests of compositors are lawful from the inside out.

## Main definitions

* `Compositor.Furnished` — every display is one that its region may have

## Main results

* `OpensFrom.furnished` — opening furnishes the regions
* `Starts.sound` — a compositor that was opened is in order
* `Lawful.nest` — compositors of lawful displays are lawful displays
-/

set_option autoImplicit false

namespace Mosaic

namespace Compositor

/-! ## Furnishing the regions -/

section Furnishing

variable {σ ι A W D : Type} {crew : Crew σ ι A W D} {v v' : View σ A W D} {new : List Sign}
variable {P : Nat → D → Prop} {c : Compositor A W D}

/-- Every display is one that its region may have. -/
def Furnished (P : Nat → D → Prop) (c : Compositor A W D) : Prop :=
  ∀ k d, c.display? k = some d → P k d

/-- A display that is told its size stays one that its region may have. -/
def Steady (crew : Crew σ ι A W D) (P : Nat → D → Prop) : Prop :=
  ∀ ⦃k d size w result d' w'⦄, P k d →
    crew.backend.control d (.displaySize size) w = .ok (result, d') w' → P k d'

theorem Furnished.setRegion {k : Nat} {r : Region W D} (furnished : c.Furnished P)
    (display : ∀ d, r.display = some d → P k d) : (c.setRegion k r).Furnished P := by
  intro i d shows
  cases found : (c.setRegion k r).regions[i]? with
  | none =>
    rw [display?_eq_none found] at shows
    cases shows
  | some there =>
    rw [display?_of_getElem? found] at shows
    rcases getElem?_setRegion_cases found with ⟨rfl, rfl⟩ | ⟨-, here⟩
    · exact display d shows
    · -- All other regions are as they were.
      exact furnished i d (by rw [display?_of_getElem? here, shows])

theorem Furnished.addBare (furnished : c.Furnished P) (size : Size) :
    (c.withBare size).Furnished P := by
  intro i d shows
  rw [display?, withBare] at shows
  by_cases inside : i < c.regions.length
  · rw [List.getElem?_append_left inside] at shows
    exact furnished i d shows
  · rw [List.getElem?_append_right (Nat.le_of_not_lt inside), List.getElem?_singleton] at shows
    split at shows <;> cases shows

theorem Resizes.furnished {k : Nat} {size : Size} (steady : Steady crew P)
    (h : Resizes crew k size v new v') (furnished : v.compositor.Furnished P) :
    v'.compositor.Furnished P := by
  cases h with
  | unshown here blank =>
    refine furnished.setRegion fun d shows => ?_
    rw [blank] at shows
    cases shows
  | shown here display ran =>
    refine furnished.setRegion fun d shows => ?_
    cases shows
    exact steady (furnished k _ (by rw [display?_of_getElem? here, display])) ran

theorem Reports.furnished (steady : Steady crew P) (h : Reports crew v new v')
    (furnished : v.compositor.Furnished P) : v'.compositor.Furnished P := by
  cases h with
  | input | resized => exact furnished
  | resize resizes => exact resizes.furnished steady furnished

theorem Attempts.furnished {α : Type} {call : Call} {task : Run σ ι α} {a : α}
    (steady : Steady crew P) (h : Attempts crew call task v new a v')
    (furnished : v.compositor.Furnished P) :
    v'.compositor.Furnished P ∧ ∃ env ledger w, task ⟨env, ledger, []⟩ = .ok a w := by
  cases h with
  | mk reports ran =>
    exact ⟨reports.1.keepsView (P := fun u => u.compositor.Furnished P)
      (fun _ _ _ kept step => step.furnished steady kept) furnished, _, _, _, ran⟩

variable {policy : FailurePolicy} {asked : DisplayRequest} {fate : Fate}

theorem Adopts.furnished {window : W} {d : D} (steady : Steady crew P)
    (h : Adopts crew asked window d v new v') (furnished : v.compositor.Furnished P)
    (fit : P asked.index d) : v'.compositor.Furnished P := by
  cases h with
  | fitting here =>
    refine furnished.setRegion fun d' shows => ?_
    cases shows
    exact fit
  | resized here changed ran =>
    refine furnished.setRegion fun d' shows => ?_
    cases shows
    exact steady fit ran

theorem Mounts.furnished {window : W} (steady : Steady crew P)
    (h : Mounts crew policy asked window v new fate v') (furnished : v.compositor.Furnished P)
    (made : ∀ env ledger d w, crew.backend.newDisplay asked.index asked ⟨env, ledger, []⟩ =
      .ok (.ok d) w → P asked.index d) : v'.compositor.Furnished P := by
  cases h with
  | tolerated tolerant attempt here =>
    obtain ⟨furnished₁, -⟩ := attempt.furnished steady furnished
    exact furnished₁.setRegion fun d shows =>
      furnished₁ _ d (by rw [display?_of_getElem? here]; exact shows)
  | aborted aborting attempt same =>
    rw [same]
    exact (attempt.furnished steady furnished).1
  | ready attempt adopts =>
    obtain ⟨furnished₁, env, ledger, w, ran⟩ := attempt.furnished steady furnished
    exact adopts.furnished steady furnished₁ (made env ledger _ w ran)

theorem Equips.furnished (steady : Steady crew P) (h : Equips crew policy asked v new fate v')
    (furnished : v.compositor.Furnished P)
    (made : ∀ env ledger d w, crew.backend.newDisplay asked.index asked ⟨env, ledger, []⟩ =
      .ok (.ok d) w → P asked.index d) : v'.compositor.Furnished P := by
  cases h with
  | windowRefused window => exact (window.furnished steady furnished).1
  | enableRefused window enable same =>
    have furnished₁ := (window.furnished steady furnished).1
    rw [same]
    exact (enable.furnished steady furnished₁).1
  | mounted window enable mounts =>
    have furnished₁ := (window.furnished steady furnished).1
    exact mounts.furnished steady (enable.furnished steady furnished₁).1 made

variable {settings : SplitSettings} {algorithm : A} {k : Nat}

/-- Setting up regions furnishes them, if every display that is made for an output that is shown
is one that its region may have. -/
theorem OpensFrom.furnished {outputs : List Output} {fates : List Fate}
    {result : Except OpenError Unit} (steady : Steady crew P)
    (h : OpensFrom crew settings algorithm k outputs v new fates result v')
    (made : ∀ i output asked env ledger d w, outputs[i]? = some output → output.active = true →
      crew.backend.newDisplay (k + i) asked ⟨env, ledger, []⟩ = .ok (.ok d) w → P (k + i) d)
    (furnished : v.compositor.Furnished P) : v'.compositor.Furnished P := by
  have one {k : Nat} {output : Output} {v v' : View σ A W D} {new : List Sign} {fate : Fate}
      (opens : Opens crew settings algorithm k output v new fate v')
      (made : ∀ asked env ledger d w, output.active = true →
        crew.backend.newDisplay k asked ⟨env, ledger, []⟩ = .ok (.ok d) w → P k d)
      (furnished : v.compositor.Furnished P) : v'.compositor.Furnished P := by
    cases opens with
    | inactive => exact furnished.addBare _
    | active shown wanted equips =>
      subst wanted
      exact equips.furnished steady (furnished.addBare _) fun env ledger d w =>
        made _ env ledger d w shown
  induction h with
  | done => exact furnished
  | failed opens =>
    exact one opens (fun asked env ledger d w shown => made 0 _ asked env ledger d w rfl shown)
      furnished
  | next opens _ _ ih =>
    -- The outputs behind this one count from the next region on.
    refine ih (fun i output asked env ledger d w there shown ran => ?_)
      (one opens (fun asked env ledger d w shown => made 0 _ asked env ledger d w rfl shown)
        furnished)
    rw [Nat.add_assoc, Nat.add_comm 1 i] at ran ⊢
    exact made (i + 1) output asked env ledger d w there shown ran

end Furnishing

section Opened

variable {σ ι W D : Type} {backend : Backend σ ι W D} {o : Sights ι D}
variable {registry : Registry (Constructor σ ι Builtin)} {settings : SplitSettings}
variable {source : VideoFormat} {parent : Option ParentWindow} {env : σ} {ledger : Ledger}

/-- A lawful display that came fresh for a cell that is shown stays that whatever its size is. -/
theorem steady_fresh (lawful : Lawful backend o) (b : Builtin) :
    Steady backend.crew fun k d => o.Sound k false d ∧ (∀ leaf ∈ o.leaves d, leaf.Fresh) ∧
      ∃ cell, b.cells[k]? = some cell ∧ cell.output.active = true := by
  rintro k d size w result d' w' ⟨sound, fresh, shown⟩ ran
  obtain ⟨answer, items, after, ran', -, sound', becomes, -⟩ :=
    lawful.control (.displaySize size) sound w
  obtain ⟨rfl, rfl⟩ := EStateM.Result.ok.inj (ran.symm.trans ran')
  refine ⟨sound', ?_, shown⟩
  rw [becomes.leaves_eq, List.map_id]
  exact fresh

/-- A compositor that was just opened is in order, waits for nothing, and its leaves have counted
nothing. -/
theorem Starts.sound (lawful : Lawful backend o) {c : Compositor Builtin W D}
    {w : World σ (Happening ι)}
    (h : Starts backend.crew registry settings source parent env ledger (.ok c) w) :
    (∃ b, c.Sound o b fun _ => false) ∧ ∀ leaf ∈ c.leaves o.leaves, leaf.Fresh := by
  generalize came : Except.ok c = result at h
  cases h with
  | unknown | unmade => cases came
  | @populated _ _ b _ _ _ v known ran populates seen =>
    generalize w.signs = opening at populates
    cases populates with
    | failed => cases came
    | opened opens =>
      cases came
      have fixture := opens.fixture_eq
      obtain ⟨settled, empty⟩ := (Populates.opened opens).settled unpopulated_tidy rfl rfl rfl
      have slots : v.compositor.pictures = b.outputs.map fun _ => none :=
        pictures_of_fixture_eq fixture
      have count : v.compositor.pictures.length = b.cells.length := by
        rw [slots, List.length_map, Builtin.outputs, List.length_map]
      have furnished := opens.furnished (steady_fresh lawful b)
        (fun i output asked env ledger d w there active ran => ?_) (fun k d shows => ?_)
      · refine ⟨⟨b, settled.tidy, algorithm_of_fixture_eq fixture,
          congrArg Compositor.outputs fixture, settled.slots.symm.trans count, count,
          fun k d shows => (furnished k d shows).1, fun k d shows => (furnished k d shows).2.2,
          fun k => by rw [empty k]; rfl⟩, fun leaf member => ?_⟩
        obtain ⟨k, -, found⟩ := List.mem_flatMap.mp member
        cases shows : v.compositor.display? k with
        | none => simp [shows] at found
        | some d => exact (furnished k d shows).2.1 leaf (by simpa [shows] using found)
      · obtain ⟨sound, fresh⟩ := lawful.created ran
        rw [Nat.zero_add] at sound ⊢
        obtain ⟨cell, here, rfl⟩ := Option.map_eq_some_iff.mp (List.getElem?_map ▸ there)
        exact ⟨sound, fresh, cell, here, active⟩
      · simp [unpopulated, display?] at shows

end Opened

end Compositor

/-! ## Nests -/

section Nests

open Compositor

variable {σ ι W D : Type} {backend : Backend σ ι W D} {o : Sights ι D}
variable {c : Compositor Builtin W D}

/-- An action of a compositor as one of the others sees it. -/
theorem Act.Ensures.runIn {α : Type} {act : Act σ ι Builtin W D α}
    {post : α → List ι → Compositor Builtin W D → Prop} (h : act.Ensures c post) :
    (Compositor.runIn c act).Ends fun answer items => post answer.1 (insideOf items) answer.2 := by
  intro w
  obtain ⟨a, new, c', w', ran, noted, holds⟩ := h w
  exact ⟨(a, c'), new, w', by simp only [Compositor.runIn, ran], noted, holds⟩

theorem Act.Ensures.step {α : Type} {act : Act σ ι Builtin W D α}
    {post : α → List ι → Compositor Builtin W D → Prop} (h : act.Ensures c post) :
    (Nest.step c act).Ends fun c' items => ∃ a, post a (insideOf items) c' :=
  .bind (h.runIn.mono fun answer items holds => .pure ⟨answer.1, by simpa using holds⟩)

/-- What is opened as a display was opened. -/
theorem Nest.starts_of_request {n : Nest σ ι Builtin W D} {request : DisplayRequest} {env : σ}
    {ledger : Ledger} {w : World σ (Happening ι)}
    (ran : n.request request ⟨env, ledger, []⟩ = .ok (.ok c) w) :
    Starts n.crew n.registry n.settings request.format none env ledger (.ok c) w := by
  have starts := open_starts n.crew n.registry n.settings request.format none env ledger
  simp only [Nest.request, bind, EStateM.bind] at ran
  cases opened : «open» n.crew n.registry n.settings request.format none ⟨env, ledger, []⟩ with
  | error fault w' =>
    rw [opened] at ran
    cases ran
  | ok result w' =>
    rw [opened] at ran starts
    cases result with
    | error e => cases ran
    | ok c' =>
      cases ran
      exact starts

/-- Something happens inside the display of a region, and the compositor has no part in it. -/
def Compositor.stir {A : Type} (k : Nat) (act : D → Run σ ι D) : Act σ ι A W D Unit := do
  match (← Act.compositor).display? k with
  | none => return
  | some display =>
    let display ← Act.collaborate (act display)
    Act.changeRegion k fun r => { r with display := some display }

/-- Where no leaf does anything inside a display and it stays in order, its compositor does. -/
theorem Compositor.stir_ensures {b : Builtin} {waiting : Nat → Bool} {k : Nat}
    {act : D → Run σ ι D} (sound : c.Sound o b waiting)
    (ends : ∀ d, c.display? k = some d → (act d).Ends fun d' items =>
      Calm o k (waiting k) d d' ∧ o.closed items = []) :
    (stir k act).Ensures c fun _ inner c' =>
      o.closed inner = [] ∧ c'.Sound o b waiting ∧ Alters o (fun _ => id) c c' := by
  refine .bind (.compositor ?_)
  cases shows : c.display? k with
  | none => exact .pure ⟨rfl, sound, .of_stays (.refl c)⟩
  | some d =>
    obtain ⟨r, here, shown⟩ := Option.bind_eq_some_iff.mp shows
    refine .bind (.collaborate (ends d shows) fun d' items holds => ?_)
    refine .changeRegion ⟨by simpa using holds.2, ?_⟩
    have calm : Option.Rel (Calm o k (waiting k)) r.display (some d') := shown ▸ .some holds.1
    rw [modifyRegion_eq_setRegion here]
    exact sound.calm here calm

/-- Compositors of lawful displays are lawful displays, in windows that close nothing. -/
theorem Lawful.nest (lawful : Lawful backend o) (registry : Registry (Constructor σ ι Builtin))
    (settings : SplitSettings) {W' D' : Type} (windows : Backend σ (Happening ι) W' D')
    (disable : ∀ window, (windows.disable window).Ends fun _ items =>
      (Compositor.sights (W := W) o).closed items = [])
    (dropWindow : ∀ window, (windows.dropWindow window).Ends fun _ items =>
      (Compositor.sights (W := W) o).closed items = []) :
    Lawful (Nest.backend ⟨backend.crew, registry, settings⟩ windows) (Compositor.sights o) where
  created ran := (Nest.starts_of_request ran).sound lawful
  prepare picture overlay date := by
    rintro ⟨b, sound⟩ fits
    refine (prepare_ensures lawful picture overlay date sound fits).step.mono ?_
    rintro c' items ⟨-, silent, sound', alters⟩
    exact ⟨⟨b, sound'⟩, alters.becomes, by rw [closed_sights, silent]⟩
  display picture := by
    rintro ⟨b, sound⟩
    refine (display_ensures lawful sound).step.mono ?_
    rintro c' items ⟨-, silent, sound', alters⟩
    exact ⟨⟨b, sound'⟩, alters.becomes, by rw [closed_sights, silent]⟩
  control query := by
    rintro ⟨b, sound⟩
    refine (control_ensures lawful query sound).runIn.mono ?_
    rintro answer items ⟨silent, sound', alters, sized⟩
    exact ⟨⟨b, sound'⟩, alters.becomes, by rw [closed_sights, silent], sized⟩
  close := by
    rintro _ _ _ ⟨b, sound⟩
    refine (close_ensures lawful sound).step.mono ?_
    rintro c' items ⟨-, closings, gone⟩
    refine ⟨by rw [closed_sights, closings]; rfl, ?_⟩
    -- What is closed already has nothing left to close.
    have again : (Compositor.close backend.crew).Ensures c' _ := perform_outlives .close gone
    refine .bind (again.step.mono ?_)
    rintro c'' more ⟨-, silent, -⟩
    exact .pure (by rw [List.append_nil, closed_sights, silent]; rfl)
  disable := disable
  dropWindow := dropWindow

end Nests

end Mosaic
