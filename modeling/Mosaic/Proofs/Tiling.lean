import Mathlib.Data.List.Forall2
import Mosaic.Partition.Builtin

/-!
# What a wall cuts out of a source

Seen from a picture, a wall is a list of rectangles. `Wall.tile` gives them in plain
numbers, row by row, and `Tiling` is what makes them a tiling: the tiles of a column
start at one place and are equally wide, the tiles of a row likewise, the last column
and the last row take what the division leaves over, and each pixel of the window
lies in one tile and no other.

A wall that is created holds exactly these rectangles. The list of tiles that are
shown only decides which of them become views.

## Main definitions

* `Rect` — a rectangle of pixels; `VideoFormat.window`, `Picture.area`
* `Tiling` — a grid of rectangles that cover a window and do not overlap
* `Builtin.Cuts` — the views that a partition makes of every picture

## Main results

* `tiling_tiles` — the tiles of a window that is large enough are a tiling
* `create_wall_tiles` — the views of a wall that is created are the shown tiles of a tiling of
  its source
-/

set_option autoImplicit false

namespace Mosaic

/-- A rectangle of pixels. -/
structure Rect where
  x : Nat
  y : Nat
  width : Nat
  height : Nat
deriving DecidableEq, Repr

namespace Rect

/-- Whether a pixel lies in a rectangle. -/
def Covers (r : Rect) (x y : Nat) : Prop :=
  (r.x ≤ x ∧ x < r.x + r.width) ∧ r.y ≤ y ∧ y < r.y + r.height

/-- Whether a rectangle lies in another one. -/
def Inside (r s : Rect) : Prop :=
  (s.x ≤ r.x ∧ r.x + r.width ≤ s.x + s.width) ∧ s.y ≤ r.y ∧ r.y + r.height ≤ s.y + s.height

/-- The rectangle with its axes exchanged. -/
def transpose (r : Rect) : Rect := ⟨r.y, r.x, r.height, r.width⟩

instance (r : Rect) (x y : Nat) : Decidable (r.Covers x y) := inferInstanceAs (Decidable (_ ∧ _))

instance (r s : Rect) : Decidable (r.Inside s) := inferInstanceAs (Decidable (_ ∧ _))

theorem Inside.trans {r s t : Rect} (h : r.Inside s) (h' : s.Inside t) : r.Inside t := by
  obtain ⟨⟨_, _⟩, _, _⟩ := h
  obtain ⟨⟨_, _⟩, _, _⟩ := h'
  exact ⟨⟨by omega, by omega⟩, by omega, by omega⟩

theorem Inside.transpose {r s : Rect} (h : r.Inside s) : r.transpose.Inside s.transpose :=
  ⟨h.2, h.1⟩

end Rect

namespace VideoFormat

/-- The visible window inside the stored picture. -/
def window (f : VideoFormat) : Rect :=
  ⟨f.xOffset.toNat, f.yOffset.toNat, f.visibleWidth.toNat, f.visibleHeight.toNat⟩

/-- All that is stored. -/
def storage (f : VideoFormat) : Rect := ⟨0, 0, f.width.toNat, f.height.toNat⟩

theorem window_upright (f : VideoFormat) :
    f.upright.window = if f.orientation.transposes then f.window.transpose else f.window := by
  unfold upright; split <;> rfl

theorem storage_upright (f : VideoFormat) :
    f.upright.storage = if f.orientation.transposes then f.storage.transpose else f.storage := by
  unfold upright; split <;> rfl

/-- Turning a format keeps its window inside what is stored. -/
theorem window_inside_upright {f : VideoFormat} (h : f.window.Inside f.storage) :
    f.upright.window.Inside f.upright.storage := by
  rw [window_upright, storage_upright]
  split
  · exact h.transpose
  · exact h

end VideoFormat

/-- The pixels that a view into a buffer shows. -/
def viewArea (format : VideoFormat) (origin : Origin) : Rect :=
  ⟨origin.x.toNat, origin.y.toNat, format.visibleWidth.toNat, format.visibleHeight.toNat⟩

/-- The pixels of the buffer that a picture shows. -/
def Picture.area (p : Picture) : Rect := viewArea p.format p.origin

/-- Rectangles that divide a window into columns and rows, row by row. -/
structure Tiling (window : Rect) (cols rows : Nat) (tiles : List Rect) : Prop where
  count : tiles.length = cols * rows
  /-- Where a tile lies and how large it is: the column alone decides on the horizontal
  quantities and the row alone on the vertical ones. -/
  grid : ∀ row < rows, ∀ col < cols, tiles[row * cols + col]? = some
    { x := window.x + col * (window.width / cols)
      y := window.y + row * (window.height / rows)
      width := window.width / cols + if col + 1 = cols then window.width % cols else 0
      height := window.height / rows + if row + 1 = rows then window.height % rows else 0 }
  solid : ∀ tile ∈ tiles, 0 < tile.width ∧ 0 < tile.height
  inside : ∀ tile ∈ tiles, tile.Inside window
  /-- Each pixel of the window lies in exactly one tile. -/
  exact : ∀ x y, window.Covers x y →
    ∃! index : Nat, ∃ tile : Rect, tiles[index]? = some tile ∧ tile.Covers x y

section Lists

variable {α β γ : Type} {xs : List α} {ys : List β}

theorem mapM_eq_ok_iff {f : α → Except Fault β} :
    xs.mapM f = .ok ys ↔ List.Forall₂ (fun x y => f x = .ok y) xs ys := by
  induction xs generalizing ys with
  | nil => cases ys <;> simp [pure, Except.pure]
  | cons x xs ih =>
    rw [List.mapM_cons]
    cases hx : f x with
    | error fault => cases ys <;> simp [bind, Except.bind, hx]
    | ok y =>
      cases hxs : xs.mapM f with
      | error fault => cases ys <;> simp [bind, Except.bind, ← ih, hxs, hx]
      | ok rest => cases ys <;> simp [bind, Except.bind, pure, Except.pure, ← ih, hxs, hx]

/-- A list whose entries all have a partner has a list of partners. -/
theorem exists_forall₂ {R : α → β → Prop} {S : α → γ → Prop} (h : ∀ x y, R x y → ∃ z, S x z)
    (paired : List.Forall₂ R xs ys) : ∃ zs, List.Forall₂ S xs zs := by
  induction paired with
  | nil => exact ⟨[], .nil⟩
  | cons here _ ih =>
    obtain ⟨z, hz⟩ := h _ _ here
    obtain ⟨zs, hzs⟩ := ih
    exact ⟨z :: zs, .cons hz hzs⟩

end Lists

/-! ## The parts of a length -/

section Span

variable {total parts index : Nat}

/-- The last part takes what the division leaves over. -/
theorem span_length :
    (span total parts index).length =
      total / parts + if index + 1 = parts then total % parts else 0 := by
  by_cases last : index + 1 = parts
  · have whole : parts * (total / parts) + total % parts = total := Nat.div_add_mod total parts
    have split : parts * (total / parts) = index * (total / parts) + total / parts := by
      rw [← last, Nat.add_mul, Nat.one_mul]
    rw [split] at whole
    simp only [span, if_pos last]
    exact Nat.sub_eq_of_eq_add (whole.symm.trans (by rw [Nat.add_assoc, Nat.add_comm]))
  · simp only [span, if_neg last, Nat.add_zero]

theorem span_length_pos (enough : parts ≤ total) (h : index < parts) :
    0 < (span total parts index).length := by
  rw [span_length]
  have : 0 < total / parts := Nat.div_pos enough (by omega)
  omega

/-- A part ends where the next one starts. -/
theorem span_end (h : index + 1 < parts) :
    (span total parts index).start + (span total parts index).length =
      (span total parts (index + 1)).start := by
  rw [span_length, if_neg (by omega)]
  simp only [span, Nat.add_mul, Nat.one_mul, Nat.add_zero]

theorem span_last (total : Nat) (h : index + 1 = parts) :
    (span total parts index).start + (span total parts index).length = total := by
  have whole : parts * (total / parts) + total % parts = total := Nat.div_add_mod total parts
  have split : parts * (total / parts) = index * (total / parts) + total / parts := by
    rw [← h, Nat.add_mul, Nat.one_mul]
  rw [span_length, if_pos h]
  simp only [span]
  omega

theorem span_start_mono {i j : Nat} (h : i ≤ j) :
    (span total parts i).start ≤ (span total parts j).start :=
  Nat.mul_le_mul_right _ h

/-- An earlier part ends before a later one starts. -/
theorem span_end_le (total : Nat) {i j : Nat} (earlier : i < j) (h : j < parts) :
    (span total parts i).start + (span total parts i).length ≤ (span total parts j).start := by
  rw [span_end (by omega)]
  exact span_start_mono earlier

theorem span_end_le_total (total : Nat) (h : index < parts) :
    (span total parts index).start + (span total parts index).length ≤ total := by
  have last := span_last total (show parts - 1 + 1 = parts by omega)
  rcases Nat.lt_or_ge index (parts - 1) with earlier | later
  · have := span_end_le total earlier (show parts - 1 < parts by omega)
    omega
  · obtain rfl : index = parts - 1 := by omega
    omega

/-- Whatever lies before the end of a part lies in it or in one before it. -/
theorem exists_span_of_lt {x : Nat} (h : index < parts)
    (below : x < (span total parts index).start + (span total parts index).length) :
    ∃ i < parts, (span total parts i).start ≤ x ∧
      x < (span total parts i).start + (span total parts i).length := by
  induction index with
  | zero => exact ⟨0, h, by simp [span], below⟩
  | succ index ih =>
    by_cases reached : (span total parts (index + 1)).start ≤ x
    · exact ⟨index + 1, h, reached, below⟩
    · rw [← span_end h] at reached
      exact ih (by omega) (by omega)

/-- Each place of a length lies in exactly one of its parts. -/
theorem existsUnique_span (some_part : 0 < parts) {x : Nat} (h : x < total) :
    ∃! i, i < parts ∧ (span total parts i).start ≤ x ∧
      x < (span total parts i).start + (span total parts i).length := by
  have last := span_last total (show parts - 1 + 1 = parts by omega)
  obtain ⟨i, small, start, stop⟩ :=
    exists_span_of_lt (show parts - 1 < parts by omega) (last.symm ▸ h)
  refine ⟨i, ⟨small, start, stop⟩, ?_⟩
  rintro j ⟨small', start', stop'⟩
  rcases Nat.lt_trichotomy j i with before | same | after
  · have := span_end_le total before small
    omega
  · exact same
  · have := span_end_le total after small'
    omega

end Span

/-! ## The tiles of a window -/

namespace Wall

/-- The tile of a window with an index. -/
def tile (window : Rect) (cols rows index : Nat) : Rect :=
  let column := span window.width cols (index % cols)
  let row := span window.height rows (index / cols)
  ⟨window.x + column.start, window.y + row.start, column.length, row.length⟩

/-- The tiles of a window. -/
def tiles (window : Rect) (cols rows : Nat) : List Rect :=
  (List.range (cols * rows)).map (tile window cols rows)

section Tiles

variable {window : Rect} {cols rows : Nat}

theorem getElem?_tiles (index : Nat) :
    (tiles window cols rows)[index]? =
      if index < cols * rows then some (tile window cols rows index) else none := by
  rw [tiles, List.getElem?_map]
  split <;> rename_i h
  · rw [List.getElem?_range h]; rfl
  · rw [List.getElem?_eq_none (by simpa using h)]; rfl

theorem mem_tiles {r : Rect} :
    r ∈ tiles window cols rows ↔ ∃ index < cols * rows, tile window cols rows index = r := by
  simp [tiles]

/-- The index of a tile gives its column and row. -/
theorem split_index {index : Nat} (h : index < cols * rows) :
    index % cols < cols ∧ index / cols < rows :=
  ⟨Nat.mod_lt _ (Nat.pos_of_mul_pos_right (Nat.zero_lt_of_lt h)), Nat.div_lt_of_lt_mul h⟩

/-- The column and row of a tile give its index. -/
theorem join_index {row col : Nat} (hrow : row < rows) (hcol : col < cols) :
    row * cols + col < cols * rows ∧ (row * cols + col) % cols = col ∧
      (row * cols + col) / cols = row := by
  have below : (row + 1) * cols ≤ rows * cols := Nat.mul_le_mul_right cols hrow
  rw [Nat.add_mul, Nat.one_mul, Nat.mul_comm rows] at below
  refine ⟨by omega, ?_, ?_⟩
  · rw [Nat.add_comm, Nat.add_mul_mod_self_right, Nat.mod_eq_of_lt hcol]
  · rw [Nat.add_comm, Nat.add_mul_div_right _ _ (by omega), Nat.div_eq_of_lt hcol, Nat.zero_add]

/-- The tiles of a window with a pixel for each column and each row are a tiling. -/
theorem tiling_tiles (hcols : 0 < cols) (hrows : 0 < rows) (wide : cols ≤ window.width)
    (high : rows ≤ window.height) : Tiling window cols rows (tiles window cols rows) where
  count := by simp [tiles]
  grid := by
    intro row hrow col hcol
    obtain ⟨small, column, line⟩ := join_index hrow hcol
    rw [getElem?_tiles, if_pos small]
    simp only [tile, column, line, span_length]
    rfl
  solid := by
    intro r member
    obtain ⟨index, small, rfl⟩ := mem_tiles.mp member
    obtain ⟨hcol, hrow⟩ := split_index small
    exact ⟨span_length_pos wide hcol, span_length_pos high hrow⟩
  inside := by
    intro r member
    obtain ⟨index, small, rfl⟩ := mem_tiles.mp member
    obtain ⟨hcol, hrow⟩ := split_index small
    have right := span_end_le_total window.width hcol
    have bottom := span_end_le_total window.height hrow
    simp only [Rect.Inside, tile]
    omega
  exact := by
    rintro x y ⟨⟨left, right⟩, top, bottom⟩
    -- Columns and rows are found apart; together they are the index.
    obtain ⟨col, ⟨hcol, start, stop⟩, only_col⟩ :=
      existsUnique_span hcols (show x - window.x < window.width by omega)
    obtain ⟨row, ⟨hrow, start', stop'⟩, only_row⟩ :=
      existsUnique_span hrows (show y - window.y < window.height by omega)
    obtain ⟨small, column, line⟩ := join_index hrow hcol
    refine ⟨row * cols + col, ⟨tile window cols rows (row * cols + col), ?_, ?_⟩, ?_⟩
    · rw [getElem?_tiles, if_pos small]
    · simp only [Rect.Covers, tile, column, line]
      omega
    · rintro index ⟨r, found, ⟨left', right'⟩, top', bottom'⟩
      rw [getElem?_tiles] at found
      split at found
      · rename_i small'
        cases found
        obtain ⟨hcol', hrow'⟩ := split_index small'
        simp only [tile] at left' right' top' bottom'
        have same_col := only_col (index % cols) ⟨hcol', by omega, by omega⟩
        have same_row := only_row (index / cols) ⟨hrow', by omega, by omega⟩
        rw [← same_col, ← same_row, Nat.mul_comm]
        exact (Nat.div_add_mod index cols).symm
      · cases found

end Tiles

/-! ## The cells of a wall -/

section Cells

variable {source : VideoFormat} {o : WallOptions} {index : Nat} {c : Cell}

theorem toNat_wordOf {n : Nat} (bound : UInt32) (h : n ≤ bound.toNat) : (wordOf n).toNat = n :=
  UInt32.toNat_ofNat_of_lt' (Nat.lt_of_le_of_lt h bound.toNat_lt)

theorem shift_eq_ok_iff {base offset origin : Origin} :
    base.shift offset = .ok origin ↔
      origin.x.toNat = base.x.toNat + offset.x.toNat ∧
        origin.y.toNat = base.y.toNat + offset.y.toNat := by
  rw [← addWords_eq_ok_iff, ← addWords_eq_ok_iff]
  unfold Origin.shift
  cases hx : addWords base.x offset.x with
  | error fault => exact ⟨nofun, nofun⟩
  | ok x =>
    cases hy : addWords base.y offset.y with
    | error fault => exact ⟨nofun, nofun⟩
    | ok y =>
      constructor
      · rintro ⟨⟩
        exact ⟨rfl, rfl⟩
      · rintro ⟨⟨⟩, ⟨⟩⟩
        rfl

theorem shift_zero (offset : Origin) : Origin.zero.shift offset = .ok offset :=
  shift_eq_ok_iff.mpr ⟨(Nat.zero_add _).symm, (Nat.zero_add _).symm⟩

/-- Where the tile with an index starts inside the visible window. -/
def tileStart (source : VideoFormat) (o : WallOptions) (index : Nat) : Origin :=
  ⟨wordOf (span source.visibleWidth.toNat o.cols.toNat (index % o.cols.toNat)).start,
    wordOf (span source.visibleHeight.toNat o.rows.toNat (index / o.cols.toNat)).start⟩

/-- The format of the tile with an index. -/
def tileFormat (source : VideoFormat) (o : WallOptions) (index : Nat) : VideoFormat :=
  { VideoFormat.whole source.chroma
      (wordOf (span source.visibleWidth.toNat o.cols.toNat (index % o.cols.toNat)).length)
      (wordOf (span source.visibleHeight.toNat o.rows.toNat (index / o.cols.toNat)).length) with
    sar := source.sar }

/-- There is a cell if the tile starts at a place whose coordinates are words. -/
theorem cellAt_eq_ok_iff : cellAt source o index = .ok c ↔
    ∃ origin,
      Origin.shift ⟨source.xOffset, source.yOffset⟩ (tileStart source o index) = .ok origin ∧
      c = ⟨if o.shows index then .shown o.module (tileFormat source o index)
        else .inactive (tileFormat source o index), origin⟩ := by
  change (do
    let origin ← Origin.shift ⟨source.xOffset, source.yOffset⟩ (tileStart source o index)
    return (⟨if o.shows index then .shown o.module (tileFormat source o index)
      else .inactive (tileFormat source o index), origin⟩ : Cell)) = .ok c ↔ _
  cases Origin.shift ⟨source.xOffset, source.yOffset⟩ (tileStart source o index) with
  | error fault => exact ⟨nofun, nofun⟩
  | ok origin =>
    constructor
    · rintro ⟨⟩
      exact ⟨origin, rfl, rfl⟩
    · rintro ⟨_, ⟨⟩, rfl⟩
      rfl

/-- A view of the format of a tile at its place shows the tile. -/
theorem viewArea_tile {origin : Origin} (small : index < o.cols.toNat * o.rows.toNat)
    (h : Origin.shift ⟨source.xOffset, source.yOffset⟩ (tileStart source o index) = .ok origin) :
    viewArea (tileFormat source o index) origin =
      tile source.window o.cols.toNat o.rows.toNat index := by
  obtain ⟨hcol, hrow⟩ := split_index small
  have right := span_end_le_total source.visibleWidth.toNat hcol
  have bottom := span_end_le_total source.visibleHeight.toNat hrow
  obtain ⟨x, y⟩ := shift_eq_ok_iff.mp h
  simp only [viewArea, tile, tileFormat, tileStart, VideoFormat.whole, VideoFormat.window] at x y ⊢
  rw [x, y, toNat_wordOf source.visibleWidth (by omega),
    toNat_wordOf source.visibleHeight (by omega),
    toNat_wordOf source.visibleWidth (by omega),
    toNat_wordOf source.visibleHeight (by omega)]

/-- A cell shows the tile with its index, if it shows anything. -/
theorem view?_cellAt (small : index < o.cols.toNat * o.rows.toNat)
    (h : cellAt source o index = .ok c) :
    c.view?.map (fun v => viewArea v.1 v.2) =
      if o.shows index then some (tile source.window o.cols.toNat o.rows.toNat index)
      else none := by
  obtain ⟨origin, placed, rfl⟩ := cellAt_eq_ok_iff.mp h
  rw [← viewArea_tile small placed]
  cases o.shows index <;> rfl

/-- Where the tiles lie does not depend on which of them are shown. -/
theorem cellAt_showing_all (h : cellAt source o index = .ok c) :
    ∃ c', cellAt source { o with active := none } index = .ok c' := by
  obtain ⟨origin, placed, rfl⟩ := cellAt_eq_ok_iff.mp h
  exact ⟨_, cellAt_eq_ok_iff.mpr ⟨origin, placed, rfl⟩⟩

end Cells

/-! ## The walls that are created -/

section Create

variable {source : VideoFormat} {o : WallOptions} {w : Wall}

/-- What has to hold of a source and of what is asked for. -/
theorem refusal?_eq_none (h : refusal? source o = none) :
    (0 < o.cols.toNat ∧ 0 < o.rows.toNat) ∧
      o.cols.toNat ≤ source.window.width ∧ o.rows.toNat ≤ source.window.height := by
  unfold refusal? at h
  split at h
  · cases h
  · rename_i allowed
    split at h
    · cases h
    · rename_i large
      simp only [sideAllowed, Bool.not_and, Bool.or_eq_true, Bool.not_eq_true',
        decide_eq_false_iff_not, not_or] at allowed
      simp only [UInt32.lt_iff_toNat_lt, not_or] at large
      simp only [VideoFormat.window]
      omega

/-- A source with a wall also has the one that shows all tiles. -/
theorem refusal?_showing_all (h : refusal? source o = none) :
    refusal? source { o with active := none } = none := by
  unfold refusal? at h ⊢
  split at h
  · cases h
  · split at h
    · cases h
    · rename_i allowed large
      rw [if_neg allowed, if_neg large]
      rfl

theorem create_eq_ok_ok_iff : create source o = .ok (.ok w) ↔
    refusal? source o = none ∧
      List.Forall₂ (fun index c => cellAt source o index = .ok c) (List.range o.tiles) w.cells := by
  rw [← mapM_eq_ok_iff]
  unfold create
  cases refusal? source o with
  | some e => exact ⟨nofun, nofun⟩
  | none =>
    cases (List.range o.tiles).mapM (cellAt source o) with
    | error fault => exact ⟨nofun, nofun⟩
    | ok cells =>
      constructor
      · rintro ⟨⟩
        exact ⟨rfl, rfl⟩
      · rintro ⟨-, ⟨⟩⟩
        rfl

/-- A source with a wall also has the one that shows all tiles. -/
theorem create_showing_all (h : create source o = .ok (.ok w)) :
    ∃ full, create source { o with active := none } = .ok (.ok full) := by
  obtain ⟨accepted, laid⟩ := create_eq_ok_ok_iff.mp h
  obtain ⟨cells, laid'⟩ :=
    exists_forall₂ (S := fun index c => cellAt source { o with active := none } index = .ok c)
      (fun _ _ => cellAt_showing_all) laid
  exact ⟨⟨cells⟩, create_eq_ok_ok_iff.mpr ⟨refusal?_showing_all accepted, laid'⟩⟩

/-- The views that a wall asks for show its tiles, but for those that are not shown. -/
theorem views_of_create (h : create source o = .ok (.ok w)) :
    w.cells.map (fun c => c.view?.map fun v => viewArea v.1 v.2) =
      (tiles source.window o.cols.toNat o.rows.toNat).mapIdx fun index tile =>
        if o.shows index then some tile else none := by
  obtain ⟨-, laid⟩ := create_eq_ok_ok_iff.mp h
  obtain ⟨same_length, paired⟩ := List.forall₂_iff_get.mp laid
  rw [List.length_range, WallOptions.tiles] at same_length
  refine List.ext_getElem? fun index => ?_
  rw [List.getElem?_map, List.getElem?_mapIdx, getElem?_tiles]
  rcases Nat.lt_or_ge index (o.cols.toNat * o.rows.toNat) with small | large
  · have here : index < w.cells.length := same_length ▸ small
    have cell : cellAt source o index = .ok w.cells[index] := by
      simpa using paired index (by simpa [WallOptions.tiles] using small) here
    rw [List.getElem?_eq_getElem here, if_pos small]
    exact congrArg some (view?_cellAt small cell)
  · rw [List.getElem?_eq_none (same_length ▸ large), if_neg (Nat.not_lt.mpr large)]
    rfl

end Create

end Wall

/-! ## The views of a picture -/

/-- A view that has an origin comes before the views that are asked for next. -/
theorem Ledger.views_cons_some {l : Ledger} {base : Picture} {offset origin : Origin}
    (shifted : base.origin.shift offset = .ok origin) (format : VideoFormat)
    (rest : List (Option (VideoFormat × Origin))) :
    l.views base (some (format, offset) :: rest) =
      ((l.place base format origin).2.views base rest).map fun views =>
        (some (l.place base format origin).1 :: views.1, views.2) := by
  rw [Ledger.views, Ledger.view, shifted]
  rfl

theorem Ledger.views_cons_none {l : Ledger} {base : Picture}
    (rest : List (Option (VideoFormat × Origin))) :
    l.views base (none :: rest) =
      (l.views base rest).map fun views => (none :: views.1, views.2) := by
  rw [Ledger.views]
  rfl

/-- Views whose origins are words are as they are asked for, each at its origin. -/
theorem Ledger.views_of_shift {base : Picture} {origin : Origin → Origin}
    (wanted : List (Option (VideoFormat × Origin)))
    (shifted : ∀ want, some want ∈ wanted → base.origin.shift want.2 = .ok (origin want.2))
    (l : Ledger) :
    ∃ slots l', l.views base wanted = .ok (slots, l') ∧
      slots.map (Option.map fun v => (v.format, v.origin)) =
        wanted.map (Option.map fun want => (want.1, origin want.2)) ∧
      ∀ v, some v ∈ slots → v.SharesPixels base := by
  induction wanted generalizing l with
  | nil => exact ⟨[], l, rfl, rfl, nofun⟩
  | cons want rest ih =>
    have ih := ih fun want later => shifted want (List.mem_cons_of_mem _ later)
    cases want with
    | none =>
      obtain ⟨slots, l', done, shown, shared⟩ := ih l
      refine ⟨none :: slots, l', by rw [Ledger.views_cons_none, done]; rfl, congrArg _ shown, ?_⟩
      rintro v (_ | ⟨_, later⟩)
      exact shared v later
    | some want =>
      obtain ⟨format, offset⟩ := want
      have here : base.origin.shift offset = .ok (origin offset) := shifted _ List.mem_cons_self
      obtain ⟨slots, l', done, shown, shared⟩ := ih (l.place base format (origin offset)).2
      refine ⟨some (l.place base format (origin offset)).1 :: slots, l', ?_, congrArg _ shown, ?_⟩
      · rw [Ledger.views_cons_some here, done]
        rfl
      · rintro v (_ | ⟨_, later⟩)
        · rfl
        · exact shared v later

/-- A picture that was split became the views that are asked for, and was let go. -/
theorem Builtin.of_filter {σ ι : Type} {b b' : Builtin} {picture : Picture} {w w' : World σ ι}
    {result : Except Cause Slots}
    (ran : Builtin.partitioner.filter b picture w = .ok (result, b') w') :
    ∃ slots l, w.ledger.views picture (b.cells.map Cell.view?) = .ok (slots, l) ∧
      result = .ok slots ∧ b' = b ∧ w' = { w with ledger := l.release picture } := by
  change EStateM.bind (Run.consuming picture (b.split picture)) _ w = _ at ran
  simp only [EStateM.bind, Run.consuming, Builtin.split] at ran
  cases asked : w.ledger.views picture (b.cells.map Cell.view?) with
  | error fault => rw [asked] at ran; cases ran
  | ok made =>
    rw [asked] at ran
    cases ran
    exact ⟨_, _, rfl, rfl, rfl, rfl⟩

/-- What a partition makes of every picture that lies at the origin of its buffer: the slots,
as the areas of the views in them. -/
def Builtin.Cuts (b : Builtin) (areas : List (Option Rect)) : Prop :=
  ∀ (σ ι : Type) (picture : Picture) (world : World σ ι), picture.origin = .zero →
    ∃ slots after, Builtin.partitioner.filter b picture world = .ok (.ok slots, b) after ∧
      slots.map (Option.map Picture.area) = areas ∧
      ∀ view, some view ∈ slots → view.SharesPixels picture

theorem Builtin.cuts_cells (b : Builtin) :
    b.Cuts (b.cells.map fun c => c.view?.map fun v => viewArea v.1 v.2) := by
  intro σ ι picture world start
  -- At the origin of its buffer a picture moves no offset.
  have still : ∀ want, some want ∈ b.cells.map Cell.view? →
      picture.origin.shift want.2 = .ok (id want.2) := fun _ _ => by
    rw [start, Wall.shift_zero]
    rfl
  obtain ⟨slots, ledger, done, shown, shared⟩ :=
    Ledger.views_of_shift (b.cells.map Cell.view?) still world.ledger
  have shown : slots.map (Option.map fun v => (v.format, v.origin)) = b.cells.map Cell.view? := by
    simpa using shown
  refine ⟨slots, { world with ledger := ledger.release picture }, ?_, ?_, shared⟩
  · change EStateM.bind (Run.consuming picture (b.split picture)) _ world = _
    simp only [EStateM.bind, Run.consuming, Builtin.split, done]
    rfl
  · have areas := congrArg (List.map (Option.map fun v => viewArea v.1 v.2)) shown
    rw [List.map_map, List.map_map] at areas
    rw [← Function.comp_def, ← areas]
    exact List.map_congr_left fun slot _ => by cases slot <;> rfl

/-- A wall that is created for an upright source cuts every picture into the shown tiles of a
tiling of its visible window; the wall that shows all tiles has the same tiling. If the window
lay inside the stored picture before the source was turned, so do all the tiles after it. -/
theorem create_wall_tiles {source : VideoFormat} {settings : SplitSettings} {b : Builtin}
    (made : BuiltinName.wall.create source.upright settings = .ok (.ok b)) :
    ∃ o, settings.optionsAs WallOptions.record.decode = .ok o ∧
      ∃ tiles : List Rect,
        Tiling source.upright.window o.cols.toNat o.rows.toNat tiles ∧
        b.Cuts (tiles.mapIdx fun index tile => if o.shows index then some tile else none) ∧
        (∃ full, Wall.create source.upright { o with active := none } = .ok (.ok full) ∧
          (Builtin.wall full).Cuts (tiles.map some)) ∧
        (source.window.Inside source.storage →
          ∀ tile ∈ tiles, tile.Inside source.upright.storage) := by
  simp only [BuiltinName.create] at made
  cases asked : settings.optionsAs WallOptions.record.decode with
  | error cause => rw [asked] at made; cases made
  | ok o =>
    cases created : Wall.create source.upright o with
    | error fault => simp only [asked, created] at made; cases made
    | ok result =>
      cases result with
      | error e => simp only [asked, created] at made; cases made
      | ok w =>
        simp only [asked, created] at made
        cases made
        obtain ⟨accepted, -⟩ := Wall.create_eq_ok_ok_iff.mp created
        obtain ⟨⟨hcols, hrows⟩, wide, high⟩ := Wall.refusal?_eq_none accepted
        obtain ⟨full, created_full⟩ := Wall.create_showing_all created
        have tiling := Wall.tiling_tiles hcols hrows wide high
        refine ⟨o, rfl, _, tiling, ?_, ⟨full, created_full, ?_⟩, fun contained tile member =>
          (tiling.inside tile member).trans (VideoFormat.window_inside_upright contained)⟩
        · rw [← Wall.views_of_create created]
          exact Builtin.cuts_cells _
        · have all : (Wall.tiles source.upright.window o.cols.toNat o.rows.toNat).map some = _ :=
            (List.ext_getElem? fun index => by simp [WallOptions.shows]).trans
              (Wall.views_of_create created_full).symm
          rw [all]
          exact Builtin.cuts_cells _

/-- Three columns and two rows, of which the first and the last tile are shown. -/
def cornersOnly : SplitSettings :=
  ((SplitSettings.standard.setOption "cols" (.number (.ofNat 3))).setOption "rows"
    (.number (.ofNat 2))).setOption "active" (.array [.number (.ofNat 0), .number (.ofNat 5)])

/-- A source on its side whose upright window of five by seven pixels fits no grid evenly. -/
def sideways : VideoFormat :=
  { VideoFormat.whole .i420 10 8 with
    xOffset := 2, yOffset := 1, visibleWidth := 7, visibleHeight := 5, orientation := .rightTop }

/-- Whether something was made. -/
def isMade {α β : Type} : Except Fault (Except β α) → Bool
  | .ok (.ok _) => true
  | .ok (.error _) | .error _ => false

theorem exists_of_isMade {α β : Type} {result : Except Fault (Except β α)}
    (h : isMade result = true) : ∃ a, result = .ok (.ok a) :=
  match result, h with
  | .ok (.ok a), _ => ⟨a, rfl⟩

/-- The two corners as they lie in the upright window, which starts at column one and row two. -/
theorem cornersOnly_cuts_sideways :
    ∃ b, BuiltinName.wall.create sideways.upright cornersOnly = .ok (.ok b) ∧
      (∃ tiles, Tiling ⟨1, 2, 5, 7⟩ 3 2 tiles ∧ ∀ tile ∈ tiles, tile.Inside ⟨0, 0, 8, 10⟩) ∧
      b.Cuts [some ⟨1, 2, 1, 3⟩, none, none, none, none, some ⟨3, 5, 3, 4⟩] := by
  obtain ⟨b, built⟩ := exists_of_isMade
    (show isMade (BuiltinName.wall.create sideways.upright cornersOnly) = true by decide +kernel)
  obtain ⟨o, asked, tiles, tiling, cuts, -, inside⟩ := create_wall_tiles built
  have options : cornersOnly.optionsAs WallOptions.record.decode =
      .ok ⟨3, 2, some [0, 5], ""⟩ := by decide +kernel
  obtain rfl := Except.ok.inj (asked.symm.trans options)
  refine ⟨b, built, ⟨tiles, tiling, inside (by decide)⟩, ?_⟩
  match tiles, tiling.count with
  | [first, _, _, _, _, last], _ =>
    have at_first : first = ⟨1, 2, 1, 3⟩ :=
      Option.some.inj (tiling.grid 0 (by decide) 0 (by decide))
    have at_last : last = ⟨3, 5, 3, 4⟩ :=
      Option.some.inj (tiling.grid 1 (by decide) 2 (by decide))
    subst at_first at_last
    exact cuts

end Mosaic
