import Mathlib.Data.List.Flatten
import Mosaic.Proofs.Tiling

/-!
# Walls inside walls

The picture of a tile may be cut up by another wall, which was created for the format of the
tile, and so on. The format of a tile is stored whole: its place inside the source is no part of
it, and the views into a tile find that place in the picture that they are cut from. So a place
is counted once at each level, the first time as the offset of the source and from then on as
the origin of a picture, and what arrives at the ends covers the source as one wall would.

## Main definitions

* `Mural` — what becomes of a picture: it stays, or a wall cuts it and each tile goes further
* `Mural.BuiltOn` — each wall was created for the format of what it cuts and shows all its tiles
* `Mural.pictures` — the pictures at the ends
* `Cover` — pictures that show each pixel of a window once

## Main results

* `Cover.flatten` — covers of the tiles of a window are together a cover of the window
* `pictures_cover` — the pictures at the ends of a mural cover the window of its source
-/

set_option autoImplicit false

namespace Mosaic

/-- What becomes of a picture. -/
inductive Mural where
  | leaf
  /-- A partition cuts the picture, and the picture of each region goes further. -/
  | split (partition : Builtin) (below : Nat → Mural)

namespace Mural

/-- Whether all partitions are walls that were created for the format of what they cut, with all
tiles shown. -/
def BuiltOn : Mural → VideoFormat → Prop
  | .leaf, _ => True
  | .split b below, source =>
    (∃ settings, BuiltinName.wall.create source settings = .ok (.ok b)) ∧
      (∀ c ∈ b.cells, c.output.active = true) ∧
      ∀ index c, b.cells[index]? = some c → (below index).BuiltOn c.output.format

/-- The pictures at the ends of a mural. -/
def pictures {σ ι : Type} : Mural → Picture → Run σ ι (List Picture)
  | .leaf, picture => return [picture]
  | .split b below, picture => do
    let (result, _) ← Builtin.partitioner.filter b picture
    match result with
    | .error _ => return []
    | .ok slots =>
      let parts ← slots.zipIdx.mapM fun slot =>
        match slot.1 with
        | none => return []
        | some part => (below slot.2).pictures part
      return parts.flatten

end Mural

/-! ## Runs that may break off -/

/-- In every world a run gives what it should or breaks off for a reason. -/
def Run.Gives {σ ι α : Type} (act : Run σ ι α) (post : α → Prop) (breaks : Fault → Prop) : Prop :=
  ∀ w : World σ ι, match act w with
    | .ok a _ => post a
    | .error fault _ => breaks fault

namespace Run.Gives

variable {σ ι α β : Type} {act : Run σ ι α} {post post' : α → Prop} {breaks breaks' : Fault → Prop}

theorem pure {a : α} (h : post a) : Run.Gives (Pure.pure a : Run σ ι α) post breaks := fun _ => h

theorem mono (h : act.Gives post breaks) (weaker : ∀ a, post a → post' a)
    (excused : ∀ fault, breaks fault → breaks' fault) : act.Gives post' breaks' := fun w => by
  have h := h w
  cases ran : act w with
  | ok a w' => rw [ran] at h; exact weaker a h
  | error fault w' => rw [ran] at h; exact excused fault h

theorem bind {next : α → Run σ ι β} {goal : β → Prop} (h : act.Gives post breaks)
    (then_ : ∀ a, post a → (next a).Gives goal breaks) : (act >>= next).Gives goal breaks :=
  fun w => by
  have h := h w
  simp only [Bind.bind, EStateM.bind]
  cases ran : act w with
  | ok a w' => rw [ran] at h; exact then_ a h w'
  | error fault w' => rw [ran] at h; exact h

/-- A loop gives a list whose entries fit what was to be made of each. -/
theorem mapM {γ : Type} {make : γ → Run σ ι α} {P : β → α → Prop} {goals : List β}
    {items : List γ}
    (each : List.Forall₂ (fun goal item => (make item).Gives (P goal) breaks) goals items) :
    (items.mapM make).Gives (List.Forall₂ P goals) breaks := by
  induction each with
  | nil => exact .pure .nil
  | cons here _ ih =>
    rw [List.mapM_cons]
    exact .bind here fun a ha => .bind ih fun rest hrest => .pure (.cons ha hrest)

end Run.Gives

/-! ## Covers -/

/-- Whether the places behind the end of a rectangle are still words. -/
def Rect.Addressable (r : Rect) : Prop :=
  r.x + r.width ≤ 0x100000000 ∧ r.y + r.height ≤ 0x100000000

theorem Rect.Inside.addressable {r s : Rect} (h : r.Inside s) (addressable : s.Addressable) :
    r.Addressable :=
  ⟨Nat.le_trans h.1.2 addressable.1, Nat.le_trans h.2.2 addressable.2⟩

/-- Pictures that show each pixel of a window once, and are views of one picture. -/
structure Cover (window : Rect) (base : Picture) (leaves : List Picture) : Prop where
  inside : ∀ leaf ∈ leaves, leaf.area.Inside window
  /-- A pixel of the window lies in exactly one of the pictures, any other one in none. -/
  exact : ∀ x y, leaves.countP (fun leaf => leaf.area.Covers x y) =
    if window.Covers x y then 1 else 0
  /-- A picture is as large as its format says: all that is stored is visible. -/
  whole : ∀ leaf ∈ leaves, leaf.format.window = leaf.format.storage
  shared : ∀ leaf ∈ leaves, leaf.SharesPixels base ∧ leaf.pixels = base.pixels
  dated : ∀ leaf ∈ leaves, leaf.date = base.date

/-- A view shows the pixels of the picture that it was cut from. -/
structure Picture.ViewOf (v base : Picture) : Prop where
  buffer : v.SharesPixels base
  pixels : v.pixels = base.pixels
  date : v.date = base.date

namespace Cover

variable {window : Rect} {base : Picture}

theorem of_view {v : Picture} {leaves : List Picture} (cover : Cover window v leaves)
    (h : v.ViewOf base) : Cover window base leaves where
  inside := cover.inside
  exact := cover.exact
  whole := cover.whole
  shared leaf member :=
    ⟨(cover.shared leaf member).1.trans h.buffer, (cover.shared leaf member).2.trans h.pixels⟩
  dated leaf member := (cover.dated leaf member).trans h.date

/-- A picture that is stored whole covers its own area. -/
theorem self {p : Picture} (whole : p.format.window = p.format.storage) : Cover p.area p [p] where
  inside leaf member := by
    obtain rfl := List.mem_singleton.mp member
    exact ⟨⟨Nat.le_refl _, Nat.le_refl _⟩, Nat.le_refl _, Nat.le_refl _⟩
  exact x y := by simp [List.countP_cons]
  whole leaf member := by rwa [List.mem_singleton.mp member]
  shared leaf member := by
    obtain rfl := List.mem_singleton.mp member
    exact ⟨rfl, rfl⟩
  dated leaf member := by rw [List.mem_singleton.mp member]

/-- The pictures over several windows show a pixel as often as the windows do. -/
theorem countP_flatten {windows : List Rect} {parts : List (List Picture)}
    (covers : List.Forall₂ (fun window part => Cover window base part) windows parts) (x y : Nat) :
    parts.flatten.countP (fun leaf => leaf.area.Covers x y) =
      windows.countP fun window => window.Covers x y := by
  induction covers with
  | nil => rfl
  | @cons window _ _ _ here _ ih =>
    rw [List.flatten_cons, List.countP_append, here.exact, ih, List.countP_cons, Nat.add_comm]
    simp only [decide_eq_true_eq]

end Cover

/-- Exactly one entry of a list satisfies a condition. -/
theorem countP_eq_one_of_existsUnique {α : Type} {p : α → Bool} {xs : List α}
    (h : ∃! index : Nat, ∃ x, xs[index]? = some x ∧ p x = true) : xs.countP p = 1 := by
  obtain ⟨index, ⟨x, found, holds⟩, only⟩ := h
  obtain ⟨small, rfl⟩ := List.getElem?_eq_some_iff.mp found
  have parts : xs = xs.take index ++ xs[index] :: xs.drop (index + 1) := by
    rw [← List.drop_eq_getElem_cons small, List.take_append_drop]
  have before : (xs.take index).countP p = 0 := by
    refine List.countP_eq_zero.mpr fun y member holds' => ?_
    obtain ⟨k, hk, rfl⟩ := List.mem_iff_getElem.mp member
    rw [List.length_take] at hk
    rw [List.getElem_take] at holds'
    have := only k ⟨_, List.getElem?_eq_getElem (by omega), holds'⟩
    omega
  have after : (xs.drop (index + 1)).countP p = 0 := by
    refine List.countP_eq_zero.mpr fun y member holds' => ?_
    obtain ⟨k, hk, rfl⟩ := List.mem_iff_getElem.mp member
    rw [List.length_drop] at hk
    rw [List.getElem_drop] at holds'
    have := only _ ⟨_, List.getElem?_eq_getElem (by omega), holds'⟩
    omega
  rw [parts, List.countP_append, List.countP_cons, before, after, if_pos holds]

/-- A tiling shows each pixel of its window once and no other. -/
theorem Tiling.countP_covers {window : Rect} {cols rows : Nat} {tiles : List Rect}
    (tiling : Tiling window cols rows tiles) (x y : Nat) :
    tiles.countP (fun tile => tile.Covers x y) = if window.Covers x y then 1 else 0 := by
  split
  · rename_i covered
    exact countP_eq_one_of_existsUnique (by simpa using tiling.exact x y covered)
  · rename_i outside
    refine List.countP_eq_zero.mpr fun tile member covers => outside ?_
    obtain ⟨⟨left, right⟩, top, bottom⟩ := tiling.inside tile member
    obtain ⟨⟨_, _⟩, _, _⟩ := of_decide_eq_true covers
    exact ⟨⟨by omega, by omega⟩, by omega, by omega⟩

/-- Covers of the tiles of a window are together a cover of the window. -/
theorem Cover.flatten {window : Rect} {base : Picture} {cols rows : Nat} {tiles : List Rect}
    {parts : List (List Picture)} (tiling : Tiling window cols rows tiles)
    (covers : List.Forall₂ (fun tile part => Cover tile base part) tiles parts) :
    Cover window base parts.flatten := by
  have of_part : ∀ leaf ∈ parts.flatten, ∃ tile ∈ tiles, ∃ part,
      Cover tile base part ∧ leaf ∈ part := fun leaf member => by
    obtain ⟨part, here, inside⟩ := List.mem_flatten.mp member
    obtain ⟨k, hk, rfl⟩ := List.mem_iff_getElem.mp here
    have small : k < tiles.length := covers.length_eq ▸ hk
    exact ⟨_, List.getElem_mem small, _, covers.get small hk, inside⟩
  refine ⟨fun leaf member => ?_, fun x y => ?_, fun leaf member => ?_, fun leaf member => ?_,
    fun leaf member => ?_⟩
  · obtain ⟨tile, here, part, cover, inside⟩ := of_part leaf member
    exact (cover.inside leaf inside).trans (tiling.inside tile here)
  · rw [Cover.countP_flatten covers, tiling.countP_covers]
  · obtain ⟨tile, here, part, cover, inside⟩ := of_part leaf member
    exact cover.whole leaf inside
  · obtain ⟨tile, here, part, cover, inside⟩ := of_part leaf member
    exact cover.shared leaf inside
  · obtain ⟨tile, here, part, cover, inside⟩ := of_part leaf member
    exact cover.dated leaf inside

/-! ## One wall -/

/-- What is asked for in a slot and what stands in it. -/
inductive Fitted (base : Picture) : Option (VideoFormat × Origin) → Option Picture → Prop
  | empty : Fitted base none none
  | view {format : VideoFormat} {offset : Origin} {v : Picture}
      (shifted : base.origin.shift offset = .ok v.origin) (sized : v.format = format)
      (same : v.ViewOf base) : Fitted base (some (format, offset)) (some v)

/-- A sum of words can only overflow. -/
theorem Origin.shift_error {base offset : Origin} {fault : Fault}
    (h : base.shift offset = .error fault) :
    fault = .addOverflow ∧ ∀ origin, base.shift offset ≠ .ok origin := by
  refine ⟨?_, fun origin ok => by rw [h] at ok; cases ok⟩
  unfold Origin.shift addWords at h
  split at h
  · split at h
    · cases h
    · cases h; rfl
  · cases h; rfl

/-- Several views are each fitted, unless the place of one of them is no word. -/
theorem Ledger.views_spec (base : Picture) (wanted : List (Option (VideoFormat × Origin)))
    (l : Ledger) :
    match l.views base wanted with
    | .ok (slots, _) => List.Forall₂ (Fitted base) wanted slots
    | .error fault => fault = .addOverflow ∧
        ∃ want, some want ∈ wanted ∧ ∀ origin, base.origin.shift want.2 ≠ .ok origin := by
  induction wanted generalizing l with
  | nil => exact .nil
  | cons want rest ih =>
    cases want with
    | none =>
      rw [views_cons_none]
      have ih := ih l
      cases asked : l.views base rest with
      | ok result => rw [asked] at ih; exact .cons .empty ih
      | error fault =>
        rw [asked] at ih
        obtain ⟨overflow, want, member, nowhere⟩ := ih
        exact ⟨overflow, want, List.mem_cons_of_mem _ member, nowhere⟩
    | some want =>
      obtain ⟨format, offset⟩ := want
      cases shifted : base.origin.shift offset with
      | error fault =>
        have : l.views base (some (format, offset) :: rest) = .error fault := by
          rw [Ledger.views, Ledger.view, shifted]
          rfl
        rw [this]
        obtain ⟨overflow, nowhere⟩ := Origin.shift_error shifted
        exact ⟨overflow, _, List.mem_cons_self, nowhere⟩
      | ok origin =>
        rw [views_cons_some shifted]
        have ih := ih (l.place base format origin).2
        cases asked : (l.place base format origin).2.views base rest with
        | ok result => rw [asked] at ih; exact .cons (.view shifted rfl ⟨rfl, rfl, rfl⟩) ih
        | error fault =>
          rw [asked] at ih
          obtain ⟨overflow, want, member, nowhere⟩ := ih
          exact ⟨overflow, want, List.mem_cons_of_mem _ member, nowhere⟩

/-- What is asked of the walls at hand is asked of a wall. -/
theorem BuiltinName.exists_wall {source : VideoFormat} {settings : SplitSettings} {b : Builtin}
    (made : BuiltinName.wall.create source settings = .ok (.ok b)) :
    ∃ o w, settings.optionsAs WallOptions.record.decode = .ok o ∧
      Wall.create source o = .ok (.ok w) ∧ b = .wall w := by
  simp only [BuiltinName.create] at made
  cases asked : settings.optionsAs WallOptions.record.decode with
  | error cause => rw [asked] at made; cases made
  | ok o =>
    cases created : Wall.create source o with
    | error fault => simp only [asked, created] at made; cases made
    | ok result =>
      cases result with
      | error e => simp only [asked, created] at made; cases made
      | ok w =>
        simp only [asked, created] at made
        cases made
        exact ⟨o, w, rfl, created, rfl⟩

/-- The visible window of a format as it lies in a buffer, for a picture at an origin. -/
def VideoFormat.windowAt (f : VideoFormat) (origin : Origin) : Rect :=
  ⟨origin.x.toNat + f.xOffset.toNat, origin.y.toNat + f.yOffset.toNat, f.visibleWidth.toNat,
    f.visibleHeight.toNat⟩

namespace Wall

variable {source : VideoFormat} {o : WallOptions} {index : Nat} {c : Cell} {base : Picture}

/-- A cell, shown or not, has the format of its tile. -/
theorem format_cellAt (h : cellAt source o index = .ok c) :
    c.output.format = tileFormat source o index := by
  obtain ⟨origin, -, rfl⟩ := cellAt_eq_ok_iff.mp h
  cases o.shows index <;> rfl

/-- A tile is stored whole. -/
theorem whole_cellAt (h : cellAt source o index = .ok c) :
    c.output.format.window = c.output.format.storage := by
  rw [format_cellAt h]
  rfl

/-- Where the cell of a tile lies inside a source that lies somewhere itself. -/
theorem origin_cellAt (small : index < o.cols.toNat * o.rows.toNat)
    (h : cellAt source o index = .ok c) (origin : Origin) :
    tile (source.windowAt origin) o.cols.toNat o.rows.toNat index =
      ⟨origin.x.toNat + c.origin.x.toNat, origin.y.toNat + c.origin.y.toNat,
        c.output.format.visibleWidth.toNat, c.output.format.visibleHeight.toNat⟩ := by
  obtain ⟨place, placed, rfl⟩ := cellAt_eq_ok_iff.mp h
  have area := viewArea_tile small placed
  rw [format_cellAt h]
  simp only [viewArea, tile, VideoFormat.window, VideoFormat.windowAt, Rect.mk.injEq] at area ⊢
  omega

/-- A view that fits into a cell shows the tile, which lies where its source lies. -/
theorem area_fitted (small : index < o.cols.toNat * o.rows.toNat)
    (h : cellAt source o index = .ok c) {v : Picture}
    (fitted : Fitted base (some (c.output.format, c.origin)) (some v)) :
    v.area = tile (source.windowAt base.origin) o.cols.toNat o.rows.toNat index := by
  cases fitted with
  | view shifted sized _ =>
    obtain ⟨x, y⟩ := shift_eq_ok_iff.mp shifted
    rw [origin_cellAt small h, Picture.area, viewArea, sized, x, y]

/-- A cell whose place is no word lies in a window that reaches beyond the words. -/
theorem not_addressable (small : index < o.cols.toNat * o.rows.toNat)
    (h : cellAt source o index = .ok c) {origin : Origin}
    (tiling : Tiling (source.windowAt origin) o.cols.toNat o.rows.toNat
      (tiles (source.windowAt origin) o.cols.toNat o.rows.toNat))
    (nowhere : ∀ place, origin.shift c.origin ≠ .ok place) :
    ¬ (source.windowAt origin).Addressable := fun addressable => by
  have member : tile (source.windowAt origin) o.cols.toNat o.rows.toNat index ∈ _ :=
    mem_tiles.mpr ⟨index, small, rfl⟩
  obtain ⟨wide, high⟩ := (tiling.inside _ member).addressable addressable
  -- The tile has a pixel, so it starts before the window ends.
  obtain ⟨_, _⟩ := tiling.solid _ member
  simp only [origin_cellAt small h] at *
  refine nowhere ⟨origin.x + c.origin.x, origin.y + c.origin.y⟩ (shift_eq_ok_iff.mpr ?_)
  simp only [UInt32.toNat_add]
  omega

/-- The cells of a wall are those of its tiles. -/
theorem cells_of_create {w : Wall} (h : create source o = .ok (.ok w)) :
    w.cells.length = o.cols.toNat * o.rows.toNat ∧
      ∀ index c, w.cells[index]? = some c →
        index < o.cols.toNat * o.rows.toNat ∧ cellAt source o index = .ok c := by
  obtain ⟨-, laid⟩ := create_eq_ok_ok_iff.mp h
  have count : w.cells.length = o.cols.toNat * o.rows.toNat := by
    rw [← laid.length_eq, List.length_range, WallOptions.tiles]
  refine ⟨count, fun index c found => ?_⟩
  obtain ⟨here, rfl⟩ := List.getElem?_eq_some_iff.mp found
  have small : index < o.cols.toNat * o.rows.toNat := count ▸ here
  exact ⟨small, by simpa using laid.get (by simpa [WallOptions.tiles] using small) here⟩

end Wall

/-! ## All walls of a mural -/

section Murals

variable {σ ι : Type} {base : Picture}

/-- Why a mural may break off: a sum of offsets overflows, which needs a window that reaches beyond
the words. -/
def Overflows (window : Rect) (fault : Fault) : Prop :=
  fault = .addOverflow ∧ ¬ window.Addressable

/-- Filtering gives the views that are asked for. -/
theorem Builtin.filter_gives (b : Builtin) (base : Picture) :
    Run.Gives (Builtin.partitioner.filter b base : Run σ ι (Except Cause Slots × Builtin))
      (fun result => ∃ slots, result.1 = .ok slots ∧
        List.Forall₂ (Fitted base) (b.cells.map Cell.view?) slots)
      (fun fault => fault = .addOverflow ∧ ∃ want, some want ∈ b.cells.map Cell.view? ∧
        ∀ origin, base.origin.shift want.2 ≠ .ok origin) := by
  refine .bind (fun w => ?_ : Run.Gives _ (List.Forall₂ (Fitted base) (b.cells.map Cell.view?)) _)
    fun slots fitted => .pure ⟨slots, rfl, fitted⟩
  have views := Ledger.views_spec base (b.cells.map Cell.view?) w.ledger
  simp only [Run.consuming, Builtin.split]
  cases asked : w.ledger.views base (b.cells.map Cell.view?) with
  | ok result => rw [asked] at views; exact views
  | error fault => rw [asked] at views; exact views

/-- Where all tiles are shown, each slot holds a view that shows its tile. -/
theorem Wall.forall₂_fitted {source : VideoFormat} {o : WallOptions} {w : Wall} {slots : Slots}
    (created : create source o = .ok (.ok w)) (active : ∀ c ∈ w.cells, c.output.active = true)
    (fitted : List.Forall₂ (Fitted base) (w.cells.map Cell.view?) slots) :
    List.Forall₂
      (fun tile slot => ∃ v c, slot.1 = some v ∧ w.cells[slot.2]? = some c ∧
        v.format = c.output.format ∧ c.output.format.window = c.output.format.storage ∧
        v.area = tile ∧ v.ViewOf base)
      (tiles (source.windowAt base.origin) o.cols.toNat o.rows.toNat) slots.zipIdx := by
  obtain ⟨count, cell⟩ := cells_of_create created
  refine List.forall₂_iff_get.mpr ⟨?_, fun index h h' => ?_⟩
  · rw [List.length_zipIdx, ← fitted.length_eq, List.length_map, count]
    simp [tiles]
  · have there : index < slots.length := by simpa using h'
    have here : index < w.cells.length := by rwa [← fitted.length_eq, List.length_map] at there
    have found : w.cells[index]? = some w.cells[index] := List.getElem?_eq_getElem here
    obtain ⟨small, laid⟩ := cell index _ found
    have shown : w.cells[index].view? = _ := if_pos (active _ (List.getElem_mem here))
    have fit := fitted.get (by simpa using here) there
    simp only [List.get_eq_getElem, List.getElem_map, shown] at fit
    simp only [List.get_eq_getElem, List.getElem_zipIdx, Nat.zero_add, tiles, List.getElem_map,
      List.getElem_range]
    cases filled : slots[index] with
    | none => rw [filled] at fit; cases fit
    | some v =>
      rw [filled] at fit
      refine ⟨v, _, rfl, found, ?_, whole_cellAt laid, area_fitted small laid fit, ?_⟩ <;>
        cases fit <;> assumption

/-- A wall whose tiles are each covered covers the window that it was created for, as that window
lies in the buffer. -/
theorem Mural.split_gives {source : VideoFormat} {b : Builtin} {below : Nat → Mural}
    (built : (Mural.split b below).BuiltOn source)
    (each : ∀ index c, b.cells[index]? = some c → c.output.format.window = c.output.format.storage →
      ∀ v : Picture, v.format = c.output.format →
        Run.Gives ((below index).pictures v : Run σ ι (List Picture)) (Cover v.area v)
          (Overflows v.area)) :
    Run.Gives ((Mural.split b below).pictures base : Run σ ι (List Picture))
      (Cover (source.windowAt base.origin) base) (Overflows (source.windowAt base.origin)) := by
  obtain ⟨⟨settings, made⟩, active, -⟩ := built
  obtain ⟨o, wall, -, created, same⟩ := BuiltinName.exists_wall made
  have cells : b.cells = wall.cells := congrArg Builtin.cells same
  obtain ⟨accepted, -⟩ := Wall.create_eq_ok_ok_iff.mp created
  obtain ⟨⟨hcols, hrows⟩, wide, high⟩ := Wall.refusal?_eq_none accepted
  have tiling : Tiling (source.windowAt base.origin) o.cols.toNat o.rows.toNat _ :=
    Wall.tiling_tiles hcols hrows wide high
  rw [cells] at active each
  rw [Mural.pictures]
  refine .bind ((Builtin.filter_gives b base).mono (fun _ => id) ?_) ?_
  · rintro fault ⟨rfl, want, member, nowhere⟩
    rw [cells] at member
    obtain ⟨c, here, seen⟩ := List.mem_map.mp member
    obtain ⟨index, found⟩ := List.mem_iff_getElem?.mp here
    obtain ⟨small, laid⟩ := (Wall.cells_of_create created).2 index c found
    cases (if_pos (active c here) : c.view? = _).symm.trans seen
    exact ⟨rfl, Wall.not_addressable small laid tiling nowhere⟩
  · rintro ⟨_, _⟩ ⟨slots, rfl, fitted⟩
    rw [cells] at fitted
    have filled := (List.forall₂_and_left _ _).mpr
      ⟨tiling.inside, Wall.forall₂_fitted created active fitted⟩
    refine .bind (.mapM (P := fun tile part => Cover tile base part) (filled.imp ?_))
      fun parts covers => .pure (.flatten tiling covers)
    rintro _ ⟨slot, index⟩ ⟨inside, v, c, rfl, found, sized, whole, rfl, same⟩
    exact (each index c found whole v sized).mono (fun leaves cover => cover.of_view same)
      fun fault breaks => ⟨breaks.1, fun far => breaks.2 (inside.addressable far)⟩

/-- The picture of a tile, which is stored whole, is covered by what becomes of it. -/
theorem Mural.tile_gives (m : Mural) {f : VideoFormat} (built : m.BuiltOn f)
    (whole : f.window = f.storage) {v : Picture} (sized : v.format = f) :
    Run.Gives (m.pictures v : Run σ ι (List Picture)) (Cover v.area v) (Overflows v.area) := by
  induction m generalizing f v with
  | leaf => exact .pure (.self (sized ▸ whole))
  | split b below ih =>
    -- The offset of a whole format is zero: all of the place is in the origin of the picture.
    have here : f.windowAt v.origin = v.area := by
      obtain ⟨x, y, -, -⟩ := Rect.mk.injEq .. ▸ whole
      simp only [VideoFormat.windowAt, Picture.area, viewArea, sized, x, y, Nat.add_zero]
    rw [← here]
    exact split_gives built fun index c found whole v' sized' =>
      ih index (built.2.2 index c found) whole sized'

/-- The pictures at the ends of a mural show each pixel of the visible window of its source once
and no other, each picture as much as its format says. They are views of the one picture that was
cut. The only way to break off is a sum of offsets that overflows, and there is none unless the
window reaches beyond the words. -/
theorem pictures_cover {source : VideoFormat} {b : Builtin} {below : Nat → Mural}
    (built : (Mural.split b below).BuiltOn source) {picture : Picture}
    (start : picture.origin = .zero) :
    Run.Gives ((Mural.split b below).pictures picture : Run σ ι (List Picture))
      (Cover source.window picture) (Overflows source.window) := by
  have here : source.windowAt picture.origin = source.window := by
    simp only [start, VideoFormat.windowAt, VideoFormat.window, Origin.zero, UInt32.toNat_zero,
      Nat.zero_add]
  rw [← here]
  exact Mural.split_gives built fun index c found whole v sized =>
    (below index).tile_gives (built.2.2 index c found) whole sized

end Murals

/-- Settings of a wall with so many columns and rows, all tiles shown. -/
def gridOf (cols rows : Nat) : SplitSettings :=
  (SplitSettings.standard.setOption "cols" (.number (.ofNat cols))).setOption "rows"
    (.number (.ofNat rows))

/-- A source whose window of five by four pixels starts at column two and row one. -/
def framed : VideoFormat :=
  { VideoFormat.whole .i420 8 6 with
    xOffset := 2, yOffset := 1, visibleWidth := 5, visibleHeight := 4 }

/-- Two columns for a window of five pixels. -/
def halves : Builtin :=
  .wall ⟨[⟨.shown "" (.whole .i420 2 4), ⟨2, 1⟩⟩, ⟨.shown "" (.whole .i420 3 4), ⟨4, 1⟩⟩]⟩

/-- The wider of the two in two columns and two rows. -/
def quarters : Builtin :=
  .wall ⟨[⟨.shown "" (.whole .i420 1 2), ⟨0, 0⟩⟩, ⟨.shown "" (.whole .i420 2 2), ⟨1, 0⟩⟩,
    ⟨.shown "" (.whole .i420 1 2), ⟨0, 2⟩⟩, ⟨.shown "" (.whole .i420 2 2), ⟨1, 2⟩⟩]⟩

/-- The last of these four in two columns. -/
def slices : Builtin :=
  .wall ⟨[⟨.shown "" (.whole .i420 1 2), ⟨0, 0⟩⟩, ⟨.shown "" (.whole .i420 1 2), ⟨1, 0⟩⟩]⟩

/-- What lies below each wall of three: the last tile is always cut again. -/
def spiral : Nat → Mural
  | 1 => .split quarters fun
    | 3 => .split slices fun _ => .leaf
    | _ => .leaf
  | _ => .leaf

theorem spiral_built : (Mural.split halves spiral).BuiltOn framed := by
  refine ⟨⟨gridOf 2 1, by decide +kernel⟩, by decide, ?_⟩
  rintro (_ | _ | _) c found
  · trivial
  · cases found
    refine ⟨⟨gridOf 2 2, by decide +kernel⟩, by decide, ?_⟩
    rintro (_ | _ | _ | _ | _) c found
    · trivial
    · trivial
    · trivial
    · cases found
      exact ⟨⟨gridOf 2 1, by decide +kernel⟩, by decide, fun _ _ _ => trivial⟩
    · cases found
  · cases found

/-- A blank picture of the source. -/
def still : Picture := ⟨0, 0, .blank 192, framed, 40, .zero⟩

/-- The areas of the pictures that a run gives. -/
def areas? {σ : Type} : EStateM.Result Fault σ (List Picture) → Option (List Rect)
  | .ok leaves _ => some (leaves.map Picture.area)
  | .error _ _ => none

/-- Six pictures, the innermost two of them three walls deep. -/
theorem spiral_covers :
    Run.Gives ((Mural.split halves spiral).pictures still : Run Unit Unit (List Picture))
        (Cover ⟨2, 1, 5, 4⟩ still) (Overflows ⟨2, 1, 5, 4⟩) ∧
      areas? ((Mural.split halves spiral).pictures still ⟨(), ⟨1, [0]⟩, ([] : List Unit)⟩) =
        some [⟨2, 1, 2, 4⟩, ⟨4, 1, 1, 2⟩, ⟨5, 1, 2, 2⟩, ⟨4, 3, 1, 2⟩, ⟨5, 3, 1, 2⟩, ⟨6, 3, 1, 2⟩] :=
  ⟨pictures_cover spiral_built rfl, by decide +kernel⟩

end Mosaic
