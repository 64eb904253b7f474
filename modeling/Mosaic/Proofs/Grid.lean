import Mosaic.Proofs.Mural

/-!
# Which walls there are

A wall is computed in words: a product for the number of tiles, a quotient for each axis, the start
and the length of each part, and at last the place of each tile, which is a sum of two words. The
conditions under which a wall is refused are all that these steps need, but for the last one.
Nothing bounds the offset of the visible window. So a wall that is not refused may still break off,
and since the parts of an axis start one after the other, the last column and the last row decide.

To say that no other step can go wrong the computation is told once more, in numbers that are
checked at each step.

## Main definitions

* `Wall.Sound` — the conditions under which a wall is not refused
* `Wall.Fits` — whether the last column and the last row start at words
* `createByStep` — the computation step by step, in words
* `GridLaw` — what becomes of a source and of what is asked for

## Main results

* `Wall.refusal?_eq_none_iff` — a wall is refused unless the conditions hold
* `Wall.placed_iff` — all tiles have a place if the last column and the last row have one
* `createByStep_eq` — only the place of a tile can be out of range
* `create_wall_keeps_grid_law` — the law for all sources and all that can be asked for
-/

set_option autoImplicit false

namespace Mosaic

/-! ## Refusals -/

namespace Wall

/-- What a source and what is asked for have to satisfy. -/
structure Sound (source : VideoFormat) (o : WallOptions) : Prop where
  cols : 1 ≤ o.cols.toNat ∧ o.cols.toNat ≤ 16
  rows : 1 ≤ o.rows.toNat ∧ o.rows.toNat ≤ 16
  wide : o.cols.toNat ≤ source.visibleWidth.toNat
  high : o.rows.toNat ≤ source.visibleHeight.toNat
  /-- Every tile that is listed exists. -/
  listed : ∀ listed, o.active = some listed → ∀ index ∈ listed,
    index < o.cols.toNat * o.rows.toNat

/-- Whether the last column and the last row start at words. -/
structure Fits (source : VideoFormat) (o : WallOptions) : Prop where
  column : source.xOffset.toNat + (o.cols.toNat - 1) * (source.visibleWidth.toNat / o.cols.toNat) <
    0x100000000
  row : source.yOffset.toNat + (o.rows.toNat - 1) * (source.visibleHeight.toNat / o.rows.toNat) <
    0x100000000

section Conditions

variable {source : VideoFormat} {o : WallOptions}

theorem sideAllowed_iff (n : UInt32) : sideAllowed n = true ↔ 1 ≤ n.toNat ∧ n.toNat ≤ 16 := by
  rw [sideAllowed, Bool.and_eq_true, decide_eq_true_eq, decide_eq_true_eq]
  rfl

/-- No tile that does not exist is found in a list if every tile that is listed exists. -/
theorem find?_active_eq_none_iff :
    (o.active.getD []).find? (fun index => o.tiles ≤ index) = none ↔
      ∀ listed, o.active = some listed → ∀ index ∈ listed,
        index < o.cols.toNat * o.rows.toNat := by
  rw [List.find?_eq_none]
  cases o.active with
  | none => simp
  | some listed =>
    simp only [Option.getD_some, decide_eq_true_eq, Nat.not_le]
    simp only [WallOptions.tiles, Option.some.injEq, forall_eq']

/-- A wall is refused unless all conditions hold. -/
theorem refusal?_eq_none_iff : refusal? source o = none ↔ Sound source o := by
  unfold refusal?
  split
  · rename_i outside
    constructor
    · intro accepted
      cases accepted
    · intro sound
      simp [(sideAllowed_iff _).mpr sound.cols, (sideAllowed_iff _).mpr sound.rows] at outside
  · rename_i sides
    simp only [Bool.not_eq_true', Bool.not_eq_false, Bool.and_eq_true, sideAllowed_iff] at sides
    split
    · rename_i small
      constructor
      · intro accepted
        cases accepted
      · intro sound
        simp only [UInt32.lt_iff_toNat_lt] at small
        have := sound.wide
        have := sound.high
        omega
    · rename_i large
      simp only [UInt32.lt_iff_toNat_lt, not_or, Nat.not_lt] at large
      constructor
      · intro accepted
        refine ⟨sides.1, sides.2, large.1, large.2, find?_active_eq_none_iff.mp ?_⟩
        split at accepted
        · cases accepted
        · assumption
      · intro sound
        rw [find?_active_eq_none_iff.mpr sound.listed]

/-! ## Places -/

/-- A sum of words is a word or overflows. -/
theorem exists_shift_iff (base offset : Origin) :
    (∃ origin, base.shift offset = .ok origin) ↔
      base.x.toNat + offset.x.toNat < 0x100000000 ∧
        base.y.toNat + offset.y.toNat < 0x100000000 := by
  simp only [shift_eq_ok_iff]
  constructor
  · rintro ⟨origin, x, y⟩
    rw [← x, ← y]
    exact ⟨origin.x.toNat_lt, origin.y.toNat_lt⟩
  · rintro ⟨x, y⟩
    refine ⟨⟨base.x + offset.x, base.y + offset.y⟩, ?_⟩
    rw [UInt32.toNat_add, UInt32.toNat_add, Nat.mod_eq_of_lt x, Nat.mod_eq_of_lt y]
    exact ⟨rfl, rfl⟩

/-- Where a tile starts inside the window, in plain numbers. -/
theorem toNat_tileStart (source : VideoFormat) {index : Nat}
    (small : index < o.cols.toNat * o.rows.toNat) :
    (tileStart source o index).x.toNat =
        index % o.cols.toNat * (source.visibleWidth.toNat / o.cols.toNat) ∧
      (tileStart source o index).y.toNat =
        index / o.cols.toNat * (source.visibleHeight.toNat / o.rows.toNat) := by
  obtain ⟨column, row⟩ := split_index small
  have right := span_end_le_total source.visibleWidth.toNat column
  have bottom := span_end_le_total source.visibleHeight.toNat row
  exact ⟨toNat_wordOf source.visibleWidth (by omega), toNat_wordOf source.visibleHeight (by omega)⟩

/-- The cell of a tile, but for its place, is there in any case. -/
theorem cellAt_eq (source : VideoFormat) (o : WallOptions) (index : Nat) :
    cellAt source o index =
      (Origin.shift ⟨source.xOffset, source.yOffset⟩ (tileStart source o index)).map fun origin =>
        ⟨if o.shows index then .shown o.module (tileFormat source o index)
          else .inactive (tileFormat source o index), origin⟩ := rfl

/-- A tile has a cell if its place is one. -/
theorem exists_cellAt_iff {index : Nat} (small : index < o.cols.toNat * o.rows.toNat) :
    (∃ c, cellAt source o index = .ok c) ↔
      source.xOffset.toNat + index % o.cols.toNat * (source.visibleWidth.toNat / o.cols.toNat) <
          0x100000000 ∧
        source.yOffset.toNat + index / o.cols.toNat * (source.visibleHeight.toNat / o.rows.toNat) <
          0x100000000 := by
  obtain ⟨x, y⟩ := toNat_tileStart source small
  have sums := exists_shift_iff ⟨source.xOffset, source.yOffset⟩ (tileStart source o index)
  rw [x, y] at sums
  rw [← sums, cellAt_eq]
  cases Origin.shift ⟨source.xOffset, source.yOffset⟩ (tileStart source o index) <;>
    simp [Except.map]

/-- All tiles have a place if the last column and the last row have one. -/
theorem placed_iff (sound : Sound source o) :
    (∀ index < o.cols.toNat * o.rows.toNat, ∃ c, cellAt source o index = .ok c) ↔
      Fits source o := by
  have some_column := sound.cols.1
  have some_row := sound.rows.1
  constructor
  · intro placed
    obtain ⟨small, column, row⟩ :=
      join_index (show o.rows.toNat - 1 < o.rows.toNat by omega)
        (show o.cols.toNat - 1 < o.cols.toNat by omega)
    obtain ⟨x, y⟩ := (exists_cellAt_iff small).mp (placed _ small)
    rw [column] at x
    rw [row] at y
    exact ⟨x, y⟩
  · intro fits index small
    obtain ⟨column, row⟩ := split_index small
    -- No column starts after the last one, and no row does.
    have x := Nat.mul_le_mul_right (source.visibleWidth.toNat / o.cols.toNat)
      (Nat.le_sub_one_of_lt column)
    have y := Nat.mul_le_mul_right (source.visibleHeight.toNat / o.rows.toNat)
      (Nat.le_sub_one_of_lt row)
    have last_column := fits.column
    have last_row := fits.row
    exact (exists_cellAt_iff small).mpr ⟨by omega, by omega⟩

end Conditions

end Wall

/-! ## What is created -/

section Lists

variable {α β ε ε' : Type} {xs : List α} {f : α → Except ε β}

/-- A list that is made entry by entry is there if all its entries are. -/
theorem exists_mapM_iff (xs : List α) (f : α → Except ε β) :
    (∃ ys, xs.mapM f = .ok ys) ↔ ∀ x ∈ xs, ∃ y, f x = .ok y := by
  induction xs with
  | nil => simp [pure, Except.pure]
  | cons x xs ih =>
    rw [List.mapM_cons, List.forall_mem_cons, ← ih]
    cases f x <;> cases xs.mapM f <;> simp [bind, Except.bind, pure, Except.pure]

/-- What breaks off a list is what breaks off one of its entries. -/
theorem exists_of_mapM_error {e : ε} (h : xs.mapM f = .error e) : ∃ x ∈ xs, f x = .error e := by
  induction xs with
  | nil => cases h
  | cons x xs ih =>
    rw [List.mapM_cons] at h
    cases here : f x with
    | error e' =>
      rw [here] at h
      cases h
      exact ⟨x, List.mem_cons_self, here⟩
    | ok y =>
      cases later : xs.mapM f with
      | error e' =>
        rw [here, later] at h
        cases h
        obtain ⟨x', member, broken⟩ := ih later
        exact ⟨x', List.mem_cons_of_mem _ member, broken⟩
      | ok ys =>
        rw [here, later] at h
        cases h

end Lists

namespace Wall

variable {source : VideoFormat} {o : WallOptions}

theorem create_eq_refused {e : WallError} :
    create source o = .ok (.error e) ↔ refusal? source o = some e := by
  unfold create
  cases refusal? source o with
  | some e' => simp
  | none => cases (List.range o.tiles).mapM (cellAt source o) <;> simp [Except.map]

theorem create_of_sound (sound : Sound source o) :
    create source o =
      ((List.range o.tiles).mapM (cellAt source o)).map fun cells => .ok ⟨cells⟩ := by
  rw [create, refusal?_eq_none_iff.mpr sound]

/-- A wall that is not refused is there if its last column and its last row have a place. -/
theorem exists_create_iff (sound : Sound source o) :
    (∃ w, create source o = .ok (.ok w)) ↔ Fits source o := by
  rw [← placed_iff sound]
  have all := exists_mapM_iff (List.range o.tiles) (cellAt source o)
  simp only [List.mem_range, WallOptions.tiles] at all
  rw [← all, create_of_sound sound, WallOptions.tiles]
  cases (List.range (o.cols.toNat * o.rows.toNat)).mapM (cellAt source o) <;> simp [Except.map]

theorem exists_refused_iff : (∃ e, create source o = .ok (.error e)) ↔ ¬ Sound source o := by
  simp only [create_eq_refused, ← refusal?_eq_none_iff]
  exact Option.ne_none_iff_exists'.symm

/-- A wall that is not refused breaks off if its last column or its last row has no place. -/
theorem exists_fault_iff (sound : Sound source o) :
    (∃ fault, create source o = .error fault) ↔ ¬ Fits source o := by
  rw [← exists_create_iff sound]
  have admitted : ¬ ∃ e, create source o = .ok (.error e) :=
    fun refused => exists_refused_iff.mp refused sound
  cases made : create source o with
  | error fault => simp
  | ok result =>
    cases result with
    | error e => exact absurd ⟨e, made⟩ admitted
    | ok w => simp

/-- A wall can only break off at the place of a tile. -/
theorem create_error {fault : Fault} (h : create source o = .error fault) :
    fault = .addOverflow := by
  cases refused : refusal? source o with
  | some e =>
    rw [create_eq_refused.mpr refused] at h
    cases h
  | none =>
    rw [create_of_sound (refusal?_eq_none_iff.mp refused)] at h
    cases made : (List.range o.tiles).mapM (cellAt source o) with
    | ok cells =>
      rw [made] at h
      cases h
    | error fault' =>
      rw [made] at h
      cases h
      obtain ⟨index, -, broken⟩ := exists_of_mapM_error made
      rw [cellAt_eq] at broken
      cases placed :
          Origin.shift ⟨source.xOffset, source.yOffset⟩ (tileStart source o index) with
      | ok origin =>
        rw [placed] at broken
        cases broken
      | error fault' =>
        rw [placed] at broken
        cases broken
        exact (Origin.shift_error placed).1

end Wall

/-! ## In words -/

/-- A step of the computation that may have no result. -/
inductive Slip where
  /-- The number of tiles is no word. -/
  | count
  /-- A length is divided into no parts. -/
  | parts
  /-- The start of a part is no word. -/
  | start
  /-- The number of the next part is no word. -/
  | next
  /-- A part starts behind the end of its length. -/
  | rest
  /-- The index of a tile needs more than 64 bits. -/
  | index
  /-- The place of a tile is no word. -/
  | place
deriving DecidableEq, Repr

/-- A number below a limit. -/
def below (limit : Nat) (slip : Slip) (n : Nat) : Except Slip Nat :=
  if n < limit then .ok n else .error slip

/-- The equal part of a length, but for what is left over. -/
def equalPart (total parts : Nat) : Except Slip Nat :=
  if parts = 0 then .error .parts else .ok (total / parts)

/-- What is left of a length behind a place. -/
def leftOver (total start : Nat) : Except Slip Nat :=
  if start ≤ total then .ok (total - start) else .error .rest

/-- A place behind an offset, as a word. -/
def placeByStep (offset : UInt32) (start : Nat) : Except Slip UInt32 :=
  (below 0x100000000 .place (offset.toNat + start)).map Wall.wordOf

/-- The parts of a length, step by step. -/
def spansByStep (total parts : Nat) : Except Slip (List Span) := do
  let base ← equalPart total parts
  (List.range parts).mapM fun i => do
    let start ← below 0x100000000 .start (i * base)
    let next ← below 0x100000000 .next (i + 1)
    let length ← if next = parts then leftOver total start else .ok base
    return ⟨start, length⟩

/-- The tile of a row and a column, each with its number, step by step. -/
def cellByStep (source : VideoFormat) (o : WallOptions) (width : Nat) (row column : Span × Nat) :
    Except Slip Cell := do
  let before ← below 0x10000000000000000 .index (row.2 * width)
  let index ← below 0x10000000000000000 .index (before + column.2)
  let format :=
    { VideoFormat.whole source.chroma (Wall.wordOf column.1.length) (Wall.wordOf row.1.length) with
      sar := source.sar }
  let x ← placeByStep source.xOffset column.1.start
  let y ← placeByStep source.yOffset row.1.start
  return ⟨if o.shows index then .shown o.module format else .inactive format, ⟨x, y⟩⟩

/-- The cells of a wall step by step: the rows one after the other, and in each row the
columns. -/
def cellsByStep (source : VideoFormat) (o : WallOptions) : Except Slip (List Cell) := do
  let columns ← spansByStep source.visibleWidth.toNat o.cols.toNat
  let rows ← spansByStep source.visibleHeight.toNat o.rows.toNat
  let cells ← rows.zipIdx.mapM fun row =>
    columns.zipIdx.mapM fun column => cellByStep source o columns.length row column
  return cells.flatten

/-- The wall of a source step by step, or why there is none. -/
def createByStep (source : VideoFormat) (o : WallOptions) : Except Slip (Except WallError Wall) :=
  if !(Wall.sideAllowed o.cols && Wall.sideAllowed o.rows) then
    .ok (.error (.outOfRange o.cols o.rows))
  else if source.visibleWidth < o.cols ∨ source.visibleHeight < o.rows then
    .ok (.error (.tooSmall ⟨source.visibleWidth, source.visibleHeight⟩ o.cols o.rows))
  else do
    let count ← below 0x100000000 .count (o.cols.toNat * o.rows.toNat)
    match (o.active.getD []).find? fun index => count ≤ index with
    | some index => return .error (.noSuchTile index count)
    | none => return .ok ⟨← cellsByStep source o⟩

section Steps

variable {α β ε ε' : Type} {limit n total parts : Nat} {slip : Slip}

/-- A step that is possible hands its result on. -/
theorem ok_bind (a : α) (next : α → Except ε β) : (.ok a >>= next : Except ε β) = next a := rfl

theorem below_eq (h : n < limit) : below limit slip n = .ok n := if_pos h

theorem leftOver_eq {start : Nat} (h : start ≤ total) :
    leftOver total start = .ok (total - start) := if_pos h

theorem mapM_congr {xs : List α} {f g : α → Except ε β} (h : ∀ x ∈ xs, f x = g x) :
    xs.mapM f = xs.mapM g := by
  induction xs with
  | nil => rfl
  | cons x xs ih =>
    rw [List.forall_mem_cons] at h
    rw [List.mapM_cons, List.mapM_cons, h.1, ih h.2]

theorem mapM_ok (xs : List α) (f : α → β) :
    xs.mapM (fun x => (.ok (f x) : Except ε β)) = .ok (xs.map f) := by
  induction xs with
  | nil => rfl
  | cons x xs ih => rw [List.mapM_cons, ih]; rfl

theorem mapM_mapError (xs : List α) (f : α → Except ε β) (tell : ε → ε') :
    xs.mapM (fun x => (f x).mapError tell) = (xs.mapM f).mapError tell := by
  induction xs with
  | nil => rfl
  | cons x xs ih =>
    rw [List.mapM_cons, List.mapM_cons, ih]
    cases f x with
    | error e => rfl
    | ok y => cases xs.mapM f <;> rfl

/-- Row after row is one list, whose entries are counted through. -/
theorem mapM_rows (f : Nat → Except ε β) (rows cols : Nat) :
    ((List.range rows).mapM fun row =>
        (List.range cols).mapM fun col => f (row * cols + col)).map List.flatten =
      (List.range (rows * cols)).mapM f := by
  induction rows with
  | zero => simp [Except.map, pure, Except.pure]
  | succ rows ih =>
    rw [Nat.add_mul, Nat.one_mul, List.range_succ, List.range_add, List.mapM_append,
      List.mapM_append, ← ih, List.mapM_map]
    cases (List.range rows).mapM fun row =>
        (List.range cols).mapM fun col => f (row * cols + col) with
    | error e => rfl
    | ok grid =>
      rw [List.mapM_cons, List.mapM_nil]
      cases made : (List.range cols).mapM fun col => f (rows * cols + col) with
      | error e => simp [bind, Except.bind, Except.map, Function.comp_def, made]
      | ok last =>
        simp [bind, Except.bind, Except.map, pure, Except.pure, Function.comp_def, made]

/-- Every step for the parts of a length is possible if there is a part. -/
theorem spansByStep_eq (some_part : 0 < parts) (length : total < 0x100000000)
    (few : parts < 0x100000000) :
    spansByStep total parts = .ok ((List.range parts).map (span total parts)) := by
  rw [spansByStep, equalPart, if_neg (Nat.ne_of_gt some_part)]
  refine (mapM_congr fun i member => ?_).trans (mapM_ok _ _)
  have here := List.mem_range.mp member
  -- A part starts before its length ends, so its start is a word and leaves something over.
  have inside : i * (total / parts) ≤ total :=
    Nat.le_of_add_right_le (span_end_le_total total here)
  rw [below_eq (Nat.lt_of_le_of_lt inside length), ok_bind,
    below_eq (Nat.lt_of_le_of_lt here few), ok_bind, leftOver_eq inside, span]
  by_cases last : i + 1 = parts
  · rw [if_pos last, if_pos last]
    rfl
  · rw [if_neg last, if_neg last]
    rfl

namespace Wall

variable {source : VideoFormat} {o : WallOptions}

/-- The place of a tile is a sum of words. -/
theorem placeByStep_eq (offset bound : UInt32) {start : Nat} (word : start ≤ bound.toNat) :
    placeByStep offset start = (addWords offset (wordOf start)).mapError fun _ => .place := by
  have same := toNat_wordOf bound word
  unfold placeByStep below addWords
  rw [same]
  by_cases fits : offset.toNat + start < 0x100000000
  · rw [if_pos fits, if_pos fits]
    refine congrArg Except.ok (UInt32.toNat_inj.mp ?_)
    rw [UInt32.toNat_add, same, Nat.mod_eq_of_lt fits]
    exact UInt32.toNat_ofNat_of_lt' fits
  · rw [if_neg fits, if_neg fits]
    rfl

/-- Only the place of a tile can go wrong. -/
theorem cellByStep_eq (sound : Sound source o) {row col : Nat} (hrow : row < o.rows.toNat)
    (hcol : col < o.cols.toNat) :
    cellByStep source o o.cols.toNat (span source.visibleHeight.toNat o.rows.toNat row, row)
        (span source.visibleWidth.toNat o.cols.toNat col, col) =
      (cellAt source o (row * o.cols.toNat + col)).mapError fun _ => .place := by
  obtain ⟨small, column, line⟩ := join_index hrow hcol
  have few : o.cols.toNat * o.rows.toNat ≤ 16 * 16 := Nat.mul_le_mul sound.cols.2 sound.rows.2
  have before : row * o.cols.toNat < 0x10000000000000000 := by omega
  have index : row * o.cols.toNat + col < 0x10000000000000000 := by omega
  have right := span_end_le_total source.visibleWidth.toNat hcol
  have bottom := span_end_le_total source.visibleHeight.toNat hrow
  have x := placeByStep_eq source.xOffset source.visibleWidth (Nat.le_of_add_right_le right)
  have y := placeByStep_eq source.yOffset source.visibleHeight (Nat.le_of_add_right_le bottom)
  rw [cellAt_eq, tileStart, tileFormat, column, line, Origin.shift]
  rw [cellByStep, below_eq before, ok_bind, below_eq index, ok_bind, x, y]
  cases addWords source.xOffset
    (wordOf (span source.visibleWidth.toNat o.cols.toNat col).start) with
  | error fault => rfl
  | ok x =>
    cases addWords source.yOffset
      (wordOf (span source.visibleHeight.toNat o.rows.toNat row).start) <;> rfl

/-- The parts of a length with their numbers. -/
theorem zipIdx_spans (total parts : Nat) :
    ((List.range parts).map (span total parts)).zipIdx =
      (List.range parts).map fun i => (span total parts i, i) := by
  refine List.ext_getElem (by simp) fun i h h' => ?_
  simp

/-- Row after row the cells are those of the tiles. -/
theorem cellsByStep_eq (sound : Sound source o) :
    cellsByStep source o =
      ((List.range o.tiles).mapM (cellAt source o)).mapError fun _ => .place := by
  have columns := spansByStep_eq sound.cols.1 source.visibleWidth.toNat_lt o.cols.toNat_lt
  have rows := spansByStep_eq sound.rows.1 source.visibleHeight.toNat_lt o.rows.toNat_lt
  rw [cellsByStep, columns, ok_bind, rows, ok_bind, zipIdx_spans, zipIdx_spans, List.mapM_map,
    List.length_map, List.length_range, WallOptions.tiles, Nat.mul_comm, ← mapM_mapError,
    ← mapM_rows]
  have each : ∀ row ∈ List.range o.rows.toNat,
      ((List.range o.cols.toNat).map fun col =>
          (span source.visibleWidth.toNat o.cols.toNat col, col)).mapM
        (cellByStep source o o.cols.toNat (span source.visibleHeight.toNat o.rows.toNat row, row)) =
      (List.range o.cols.toNat).mapM fun col =>
        (cellAt source o (row * o.cols.toNat + col)).mapError fun _ => Slip.place := by
    intro row hrow
    rw [List.mapM_map]
    refine mapM_congr fun col hcol => ?_
    exact cellByStep_eq sound (List.mem_range.mp hrow) (List.mem_range.mp hcol)
  rw [← mapM_congr each]
  rfl

end Wall

/-- Of all steps only the place of a tile can be impossible, and it is where the computation in
words breaks off. -/
theorem createByStep_eq (source : VideoFormat) (o : WallOptions) :
    createByStep source o = (Wall.create source o).mapError fun _ => .place := by
  have accepted : Wall.refusal? source o = none ↔ Wall.Sound source o := Wall.refusal?_eq_none_iff
  unfold createByStep Wall.create Wall.refusal? at *
  split
  · rfl
  · rename_i sides
    split
    · rfl
    · rename_i large
      rw [if_neg sides, if_neg large] at accepted
      simp only [Bool.not_eq_true', Bool.not_eq_false, Bool.and_eq_true, Wall.sideAllowed_iff]
        at sides
      have few : o.cols.toNat * o.rows.toNat ≤ 16 * 16 :=
        Nat.mul_le_mul sides.1.2 sides.2.2
      rw [below_eq (by omega), ok_bind, show o.cols.toNat * o.rows.toNat = o.tiles from rfl]
      cases listed : (o.active.getD []).find? fun index => o.tiles ≤ index with
      | some index => rfl
      | none =>
        rw [listed] at accepted
        rw [Wall.cellsByStep_eq (accepted.mp rfl)]
        cases (List.range o.tiles).mapM (Wall.cellAt source o) <;> rfl

end Steps

/-! ## The law -/

/-- The regions of a wall. -/
structure Grid (source : VideoFormat) (o : WallOptions) (outputs : List Output) : Prop where
  count : outputs.length = o.cols.toNat * o.rows.toNat
  /-- A list of tiles is asked for its members, however often and in whatever order they come. -/
  shown : ∀ index output, outputs[index]? = some output →
    (output.active = true ↔ o.active = none ∨ ∃ listed, o.active = some listed ∧ index ∈ listed)
  module : ∀ output ∈ outputs, output.module = if output.active then o.module else ""
  upright : ∀ output ∈ outputs, output.format.orientation = .topLeft ∧
    output.format.xOffset = 0 ∧ output.format.yOffset = 0
  stored : ∀ output ∈ outputs, output.format.window = output.format.storage
  likeSource : ∀ output ∈ outputs, output.format.chroma = source.chroma ∧
    output.format.sar = source.sar

/-- What becomes of a source and of what is asked for: the wall is refused, it breaks off, or there
is a wall. -/
structure GridLaw (source : VideoFormat) (settings : SplitSettings) (o : WallOptions) : Prop where
  refused : (∃ cause, BuiltinName.wall.create source settings = .ok (.error cause)) ↔
    ¬ Wall.Sound source o
  broken : Wall.Sound source o →
    ((∃ fault, BuiltinName.wall.create source settings = .error fault) ↔
      0xffffffff < source.xOffset.toNat +
          (o.cols.toNat - 1) * (source.visibleWidth.toNat / o.cols.toNat) ∨
        0xffffffff < source.yOffset.toNat +
          (o.rows.toNat - 1) * (source.visibleHeight.toNat / o.rows.toNat))
  overflow : ∀ fault, BuiltinName.wall.create source settings = .error fault → fault = .addOverflow
  laid : Wall.Sound source o → Wall.Fits source o →
    ∃ b, BuiltinName.wall.create source settings = .ok (.ok b) ∧ Grid source o b.outputs
  /-- Step by step the same comes out, and of all steps only the place of a tile can be
  impossible. -/
  possible : (createByStep source o).map (fun made => (made.mapError WallError.cause).map .wall) =
    (BuiltinName.wall.create source settings).mapError fun _ => .place

section Law

variable {source : VideoFormat} {settings : SplitSettings} {o : WallOptions}

theorem Wall.fits_iff : Wall.Fits source o ↔
    ¬ (0xffffffff < source.xOffset.toNat +
          (o.cols.toNat - 1) * (source.visibleWidth.toNat / o.cols.toNat) ∨
        0xffffffff < source.yOffset.toNat +
          (o.rows.toNat - 1) * (source.visibleHeight.toNat / o.rows.toNat)) := by
  constructor
  · intro fits
    have := fits.column
    have := fits.row
    omega
  · intro short
    exact ⟨by omega, by omega⟩

/-- The walls at hand are those of the options that are asked for. -/
theorem BuiltinName.create_wall (options : settings.optionsAs WallOptions.record.decode = .ok o) :
    BuiltinName.wall.create source settings =
      (Wall.create source o).map fun made => (made.mapError WallError.cause).map .wall := by
  simp only [BuiltinName.create, options]
  cases Wall.create source o with
  | error fault => rfl
  | ok made => cases made <;> rfl

theorem WallOptions.shows_iff {index : Nat} : o.shows index = true ↔
    o.active = none ∨ ∃ listed, o.active = some listed ∧ index ∈ listed := by
  unfold WallOptions.shows
  cases o.active <;> simp

namespace Wall

/-- What is told of the tile with an index. -/
def tileOutput (source : VideoFormat) (o : WallOptions) (index : Nat) : Output :=
  if o.shows index then .shown o.module (tileFormat source o index)
  else .inactive (tileFormat source o index)

theorem output_of_create {w : Wall} (h : create source o = .ok (.ok w)) {index : Nat}
    {output : Output} (found : (w.cells.map Cell.output)[index]? = some output) :
    output = tileOutput source o index := by
  rw [List.getElem?_map] at found
  obtain ⟨c, there, rfl⟩ := Option.map_eq_some_iff.mp found
  obtain ⟨origin, -, rfl⟩ := cellAt_eq_ok_iff.mp ((cells_of_create h).2 index c there).2
  rfl

/-- The regions of a wall that is created are as asked for. -/
theorem grid_of_create {w : Wall} (h : create source o = .ok (.ok w)) :
    Grid source o (w.cells.map Cell.output) := by
  have each : ∀ output ∈ w.cells.map Cell.output, ∃ index, output = tileOutput source o index := by
    intro output member
    obtain ⟨index, found⟩ := List.mem_iff_getElem?.mp member
    exact ⟨index, output_of_create h found⟩
  refine ⟨by simpa using (cells_of_create h).1, ?_, ?_, ?_, ?_, ?_⟩
  · intro index output found
    rw [output_of_create h found, ← WallOptions.shows_iff, tileOutput]
    cases o.shows index <;> simp [Output.shown, Output.inactive]
  all_goals
    intro output member
    obtain ⟨index, rfl⟩ := each output member
    rw [tileOutput]
    cases o.shows index <;> simp [Output.shown, Output.inactive, tileFormat, VideoFormat.whole,
      VideoFormat.window, VideoFormat.storage]

end Wall

/-- A wall is refused unless its conditions hold, it breaks off if they hold but its last column or
its last row starts behind the last word, and otherwise it is laid out as asked for. -/
theorem create_wall_keeps_grid_law
    (options : settings.optionsAs WallOptions.record.decode = .ok o) :
    GridLaw source settings o where
  refused := by
    rw [← Wall.exists_refused_iff, BuiltinName.create_wall options]
    cases Wall.create source o with
    | error fault => simp [Except.map]
    | ok made => cases made <;> simp [Except.map, Except.mapError]
  broken := by
    intro sound
    rw [← not_not (a := _ ∨ _), ← Wall.fits_iff, ← Wall.exists_fault_iff sound,
      BuiltinName.create_wall options]
    cases Wall.create source o <;> simp [Except.map]
  overflow := by
    intro fault broken
    rw [BuiltinName.create_wall options] at broken
    cases made : Wall.create source o with
    | error fault' =>
      rw [made] at broken
      cases broken
      exact Wall.create_error made
    | ok result =>
      rw [made] at broken
      cases broken
  laid := by
    intro sound fits
    obtain ⟨w, made⟩ := (Wall.exists_create_iff sound).mpr fits
    refine ⟨.wall w, ?_, Wall.grid_of_create made⟩
    rw [BuiltinName.create_wall options, made]
    rfl
  possible := by
    rw [createByStep_eq, BuiltinName.create_wall options]
    cases Wall.create source o <;> rfl

end Law

/-- Two columns and two rows, the first and the last tile shown, the last one listed twice. -/
def repeated : SplitSettings :=
  (gridOf 2 2).setOption "active" (.array [.number (.ofNat 3), .number (.ofNat 0),
    .number (.ofNat 3)])

/-- A source whose window of five by four pixels starts at some column. -/
def shifted (column : UInt32) : VideoFormat := { framed with xOffset := column }

/-- The second column may start at the last word, but not behind it. -/
theorem repeated_keeps_grid_law :
    repeated.optionsAs WallOptions.record.decode = .ok ⟨2, 2, some [3, 0, 3], ""⟩ ∧
      GridLaw (shifted 4294967293) repeated ⟨2, 2, some [3, 0, 3], ""⟩ ∧
      GridLaw (shifted 4294967294) repeated ⟨2, 2, some [3, 0, 3], ""⟩ ∧
      (BuiltinName.wall.create (shifted 4294967293) repeated).map
          (fun made => made.toOption.map fun b => b.outputs.map Output.active) =
        .ok (some [true, false, false, true]) ∧
      BuiltinName.wall.create (shifted 4294967294) repeated = .error .addOverflow := by
  have options : repeated.optionsAs WallOptions.record.decode =
      .ok ⟨2, 2, some [3, 0, 3], ""⟩ := by decide +kernel
  exact ⟨options, create_wall_keeps_grid_law options, create_wall_keeps_grid_law options,
    by decide +kernel, by decide +kernel⟩

end Mosaic
