import Mosaic.Proofs.Pointer

/-!
# How far a position is moved

The position of the pointer in a tile is moved by where the tile starts. Positions are coordinates,
which are signed, and the start of a tile is a word, which is not; each is narrower than their sum.

The sum itself is clamped, so that nothing wraps and the order of positions is kept. The start is
not clamped but taken for a coordinate bit by bit, and one from the middle of all words on counts as
negative. Up to there a position is moved by where the tile starts, as far as a coordinate can tell;
from there on no position of the tile is.

## Main definitions

* `nearestCoordinate` — the sum as far as a coordinate can tell it
* `Wall.reading` — what the start of a tile is taken for
* `Wall.ShiftLaw` — the positions along one axis of a tile

## Main results

* `Wall.shiftCoordinate_keeps_shift_law` — the law for one axis
* `create_wall_keeps_shift_law` — the law for all tiles of a wall that are shown
-/

set_option autoImplicit false

namespace Mosaic

/-- The integer nearest to another one that a coordinate can tell. -/
def nearestCoordinate (i : Int) : Int := max (-0x80000000) (min i (0x80000000 - 1))

theorem nearestCoordinate_mono {i j : Int} (h : i ≤ j) :
    nearestCoordinate i ≤ nearestCoordinate j := by
  unfold nearestCoordinate
  omega

namespace Wall

/-- What the place where a tile starts is taken for: its bits, the first of them as a sign. -/
def reading (start : Nat) : Int := if start < 0x80000000 then start else start - 0x100000000

/-- How the positions along one axis of a tile are moved, and how that agrees with where the tile
starts. -/
structure ShiftLaw (start : Nat) (shift : Int32 → Int32) : Prop where
  /-- The sum is clamped and never wraps. -/
  clamped : ∀ c, (shift c).toInt = nearestCoordinate (c.toInt + reading start)
  monotone : ∀ c c', c ≤ c' → shift c ≤ shift c'
  /-- A position is moved by where the tile starts if that is in the lower half of all words, and
  otherwise never. -/
  exact : ∀ c, (shift c).toInt = nearestCoordinate (c.toInt + start) ↔ start < 0x80000000
  /-- Likewise positions inside a tile are not moved to before its start, unless they are
  clamped. -/
  onward : ∀ c, 0 ≤ c →
    ((start ≤ (shift c).toInt ∨ (shift c).toInt = 0x80000000 - 1) ↔ start < 0x80000000)

section Axis

variable {start : Nat} {i : Int}

theorem toInt_toInt32 (offset : UInt32) : offset.toInt32.toInt = reading offset.toNat := by
  have bits : offset.toInt32.toInt = offset.toBitVec.toInt := rfl
  have same : offset.toBitVec.toNat = offset.toNat := rfl
  rw [bits, BitVec.toInt_eq_toNat_cond, same, reading]
  split <;> split <;> omega

theorem toInt_clampCoordinate (i : Int) : (clampCoordinate i).toInt = nearestCoordinate i := by
  unfold clampCoordinate nearestCoordinate
  exact Int32.toInt_ofInt_of_le (by omega) (by omega)

theorem toInt_shiftCoordinate (c : Int32) (offset : UInt32) :
    (shiftCoordinate c offset).toInt = nearestCoordinate (c.toInt + reading offset.toNat) := by
  rw [shiftCoordinate, toInt_clampCoordinate, toInt_toInt32]

/-- A start in the upper half counts as so far before the origin that even clamped sums differ. -/
theorem nearest_reading_iff (word : start < 0x100000000) (low : -0x80000000 ≤ i)
    (high : i < 0x80000000) :
    nearestCoordinate (i + reading start) = nearestCoordinate (i + start) ↔ start < 0x80000000 := by
  unfold nearestCoordinate reading
  split <;> omega

theorem le_nearest_reading_iff (word : start < 0x100000000) (inside : 0 ≤ i)
    (high : i < 0x80000000) :
    (start ≤ nearestCoordinate (i + reading start) ∨
      nearestCoordinate (i + reading start) = 0x80000000 - 1) ↔ start < 0x80000000 := by
  unfold nearestCoordinate reading
  split <;> omega

theorem shiftCoordinate_keeps_shift_law (offset : UInt32) :
    ShiftLaw offset.toNat fun c => shiftCoordinate c offset where
  clamped c := toInt_shiftCoordinate c offset
  monotone c c' before := by
    rw [Int32.le_iff_toInt_le] at before ⊢
    rw [toInt_shiftCoordinate, toInt_shiftCoordinate]
    exact nearestCoordinate_mono (Int.add_le_add_right before _)
  exact c := by
    rw [toInt_shiftCoordinate]
    exact nearest_reading_iff offset.toNat_lt c.le_toInt c.toInt_lt
  onward c inside := by
    rw [toInt_shiftCoordinate]
    exact le_nearest_reading_iff offset.toNat_lt (Int32.le_iff_toInt_le.mp inside) c.toInt_lt

end Axis

/-- A tile that is shown starts where its cell was cut out, and there its positions are moved. -/
theorem locate_moved {w : Wall} {index : Nat} {cell : Cell} (there : w.cells[index]? = some cell)
    (active : cell.output.active = true) (x y : Int32) :
    w.locate index (.moved x y) =
      some (.moved (shiftCoordinate x cell.origin.x) (shiftCoordinate y cell.origin.y)) := by
  simp only [locate, there, active, if_true]

end Wall

/-- Whatever source a wall was created for, the positions in each tile that is shown are moved by
where the tile starts in the source, as far as that is in the lower half of all words. -/
theorem create_wall_keeps_shift_law {source : VideoFormat} {settings : SplitSettings} {b : Builtin}
    (made : BuiltinName.wall.create source settings = .ok (.ok b)) :
    ∃ o, settings.optionsAs WallOptions.record.decode = .ok o ∧
      ∀ index output, b.outputs[index]? = some output → output.active = true →
        ∃ tile shiftX shiftY,
          (Wall.tiles source.window o.cols.toNat o.rows.toNat)[index]? = some tile ∧
          (∀ x y, b.locate index (.moved x y) = some (.moved (shiftX x) (shiftY y))) ∧
          Wall.ShiftLaw tile.x shiftX ∧ Wall.ShiftLaw tile.y shiftY := by
  obtain ⟨o, w, options, created, rfl⟩ := BuiltinName.exists_wall made
  refine ⟨o, options, fun index output here active => ?_⟩
  rw [Builtin.outputs, List.getElem?_map] at here
  obtain ⟨cell, there, rfl⟩ := Option.map_eq_some_iff.mp here
  have shown := Builtin.getElem?_areas.mpr ⟨cell, there, active, rfl⟩
  rw [show (Builtin.wall w).areas = shownTiles o _ from Wall.views_of_create created,
    getElem?_shownTiles] at shown
  exact ⟨_, _, _, shown.1, Wall.locate_moved there active,
    Wall.shiftCoordinate_keeps_shift_law _, Wall.shiftCoordinate_keeps_shift_law _⟩

/-- Two columns. -/
def twoColumns : SplitSettings :=
  (SplitSettings.standard.setOption "cols" (.number (.ofNat 2))).setOption "rows"
    (.number (.ofNat 1))

/-- A source whose visible window lies across the middle of all words. -/
def acrossMiddle : VideoFormat :=
  { VideoFormat.whole .i420 2147483650 4 with xOffset := 2147483646, visibleWidth := 4 }

/-- The first of the two columns starts in the lower half, the second one in the upper half. -/
theorem twoColumns_keep_shift_law :
    ∃ b, BuiltinName.wall.create acrossMiddle twoColumns = .ok (.ok b) ∧
      ∀ index output, b.outputs[index]? = some output → output.active = true →
        ∃ tile shiftX shiftY,
          (Wall.tiles ⟨2147483646, 0, 4, 4⟩ 2 1)[index]? = some tile ∧
          (∀ x y, b.locate index (.moved x y) = some (.moved (shiftX x) (shiftY y))) ∧
          Wall.ShiftLaw tile.x shiftX ∧ Wall.ShiftLaw tile.y shiftY := by
  obtain ⟨b, built⟩ := exists_of_isMade
    (show isMade (BuiltinName.wall.create acrossMiddle twoColumns) = true by decide +kernel)
  obtain ⟨o, asked, law⟩ := create_wall_keeps_shift_law built
  have options : twoColumns.optionsAs WallOptions.record.decode = .ok ⟨2, 1, none, ""⟩ := by
    decide +kernel
  obtain rfl := Except.ok.inj (asked.symm.trans options)
  exact ⟨b, built, law⟩

/-- The same position in both columns: in the second one the coordinate is left of the whole
source, where the nearest coordinate would be the largest of all. -/
theorem second_column_wraps :
    ∃ b, BuiltinName.wall.create acrossMiddle twoColumns = .ok (.ok b) ∧
      b.outputs.map Output.active = [true, true] ∧
      b.areas = [some ⟨2147483646, 0, 2, 4⟩, some ⟨2147483648, 0, 2, 4⟩] ∧
      b.locate 0 (.moved 1 3) = some (.moved 2147483647 3) ∧
      nearestCoordinate (1 + 2147483646) = 2147483647 ∧
      b.locate 1 (.moved 1 3) = some (.moved (-2147483647) 3) ∧
      nearestCoordinate (1 + 2147483648) = 2147483647 := by
  exact ⟨.wall ⟨[⟨.shown "" (.whole .i420 2 4), ⟨2147483646, 0⟩⟩,
    ⟨.shown "" (.whole .i420 2 4), ⟨2147483648, 0⟩⟩]⟩, by decide +kernel, by decide, by decide,
    by decide, by decide, by decide, by decide⟩

end Mosaic
