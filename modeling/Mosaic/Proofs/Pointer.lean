import Mathlib.Data.Set.Function
import Mosaic.Proofs.Conduct
import Mosaic.Proofs.Mural
import Mosaic.Proofs.Routing

/-!
# Where the pointer is

A wall is used in two directions. Pictures go out: each tile becomes a view that starts where the
tile lies. Pointer positions come back: what the window of a tile reports is moved by where the
tile lies, waits in the queue, and reaches the parent. Both ways go through different code, and
they fit together only if both mean the same place by a tile.

They do: the parent is told of exactly the pixel of the frame that is seen under the pointer, for
every pixel of every tile that is shown. So no two of them are told as one, and those that are told
are those of the tiles that are shown.

## Main definitions

* `Builtin.passes` — what the algorithms at hand make of an input
* `RegionPixel`, `Compositor.shownPixels` — the pixels of the regions that are shown
* `Compositor.pointed?` — where the parent is told the pointer is
* `Compositor.PointerLaw` — positions that come back against pictures that go out

## Main results

* `Staffed.told` — what the parent hears of one more input
* `bijOn_placeOf?` — the pixels of shown tiles and where they lie
* `open_wall_keeps_pointer_law` — the law for walls that are opened, whatever is done with them
-/

set_option autoImplicit false

namespace Mosaic

/-- What was attempted with success was there. -/
theorem Run.of_attempt_eq_ok {σ ι α : Type} {result : Except Fault α} {a : α} {w w' : World σ ι}
    (ran : Run.attempt result w = .ok a w') : result = .ok a := by
  cases result with
  | ok b =>
    obtain ⟨rfl, -⟩ := EStateM.Result.ok.inj ran
    rfl
  | error fault => cases ran

/-! ## Coordinates -/

/-- Where the sum is a coordinate, nothing is cut off. -/
theorem Wall.shiftCoordinate_ofNat {x : Nat} {offset : UInt32} (h : offset.toNat + x < 0x80000000) :
    shiftCoordinate (.ofNat x) offset = .ofNat (offset.toNat + x) := by
  have offset_eq : offset.toInt32.toInt = offset.toNat := by
    have bits : offset.toInt32.toBitVec = offset.toBitVec := rfl
    rw [Int32.toInt, bits, BitVec.toInt_eq_toNat_of_lt]
    · rfl
    · change 2 * offset.toNat < _
      omega
  rw [← Int32.toInt_inj, Int32.toInt_ofNat_of_lt h, shiftCoordinate, clampCoordinate, offset_eq,
    Int32.toInt_ofNat_of_lt (by omega), Int32.toInt_ofInt_of_le (by omega) (by omega)]
  omega

namespace Builtin

/-- What the algorithms at hand pass on of an input. -/
def passes (b : Builtin) (input : RegionInput) : List InputEvent :=
  match input.event with
  | .mouse event => ((b.locate input.index event).map .mouse).toList
  | event => [event]

/-- The algorithms at hand stay as they are when they place a pointer event. -/
theorem of_locate {σ ι : Type} {b b' : Builtin} {k : Nat} {event : MouseEvent}
    {place : Option MouseEvent} {w w' : World σ ι}
    (ran : Builtin.partitioner.locate b k event w = .ok (place, b') w') :
    place = b.locate k event ∧ b' = b := by
  obtain ⟨answer, -⟩ := EStateM.Result.ok.inj ran
  obtain ⟨located, same⟩ := Prod.mk.inj answer
  exact ⟨located.symm, same.symm⟩

theorem resolve?_wall {σ ι : Type} :
    (Builtin.registry : Registry (Constructor σ ι Builtin)).resolve? BuiltinName.wall.text =
      some fun source settings => Run.attempt (BuiltinName.wall.create source settings) :=
  Registry.resolve?_register_self _ _ _

end Builtin

namespace Compositor

variable {σ ι W D : Type} {backend : Backend σ ι W D} {b : Builtin}

/-- The algorithms at hand place one input after the other, each for itself. -/
theorem route_eq (b : Builtin) (inputs : List RegionInput) (w : World σ (Happening ι)) :
    route backend.crew b inputs w = .ok (inputs.flatMap b.passes, b) w := by
  have one (input : RegionInput) :
      routeOne backend.crew b input w = .ok (b.passes input, b) w := by
    obtain ⟨k, event⟩ := input
    cases event with
    | mouse event => rfl
    | key | closeRequested => rfl
  induction inputs with
  | nil => rfl
  | cons input rest ih =>
    simp only [route, bind, EStateM.bind, one, ih]
    rfl

/-! ## What the parent hears -/

theorem map_listening_hear (parent : Option ParentWindow) (events : List InputEvent) :
    (parent.map (.hear events)).map ParentWindow.listening =
      parent.map ParentWindow.listening := by
  rw [Option.map_map]
  refine congrArg (parent.map ·) (funext fun p => ?_)
  show (p.hear events).listening = p.listening
  unfold ParentWindow.hear
  split <;> rfl

/-- Who listens has received last what was told last. -/
theorem last_received {parent : Option ParentWindow}
    (listens : parent.map ParentWindow.listening = some true) (event : InputEvent) :
    ((parent.map (ParentWindow.hear [event])).bind fun p => p.received.getLast?) =
      some event := by
  obtain ⟨p, rfl, listening⟩ := Option.map_eq_some_iff.mp listens
  simp [ParentWindow.hear, listening]

/-! ## What stays until the closing -/

/-- A compositor with one of the algorithms at hand and with somebody who listens. -/
structure Staffed (b : Builtin) (c : Compositor Builtin W D) : Prop where
  algorithm : c.algorithm = some b
  outputs : c.outputs = b.outputs
  listens : (c.parent.map ParentWindow.listening) = some true

section Staffed

variable {v v' : View σ Builtin W D} {new : List Sign}

theorem Handles.staffed {input : RegionInput} (h : Handles backend.crew input v new v')
    (staffed : v.compositor.Staffed b) : v'.compositor.Staffed b := by
  cases h with
  | late => exact staffed
  | dropped alive ran =>
    obtain ⟨-, rfl⟩ := Builtin.of_locate ran
    exact ⟨alive.symm.trans staffed.algorithm, staffed.outputs, staffed.listens⟩
  | placed alive ran =>
    obtain ⟨-, rfl⟩ := Builtin.of_locate ran
    exact ⟨alive.symm.trans staffed.algorithm, staffed.outputs,
      (map_listening_hear _ _).trans staffed.listens⟩
  | plain =>
    exact ⟨staffed.algorithm, staffed.outputs, (map_listening_hear _ _).trans staffed.listens⟩

theorem Quiet.staffed (h : Quiet backend.crew v new v') (staffed : v.compositor.Staffed b) :
    v'.compositor.Staffed b := by
  cases h with
  | report reports =>
    cases reports with
    | resize resizes => cases resizes <;> exact ⟨staffed.1, staffed.2, staffed.3⟩
    | input | resized => exact ⟨staffed.1, staffed.2, staffed.3⟩
  | handle _ handles => exact handles.staffed ⟨staffed.1, staffed.2, staffed.3⟩
  | place | hint => exact ⟨staffed.1, staffed.2, staffed.3⟩

theorem Step.staffed (h : Step backend.crew v new v') (staffed : v.compositor.Staffed b) :
    v'.compositor.Staffed b := by
  cases h with
  | quiet quiet => exact quiet.staffed staffed
  | split splits =>
    cases splits with
    | mk alive ran =>
      obtain ⟨-, -, -, -, same, -⟩ := Builtin.of_filter ran
      exact ⟨(congrArg some same).trans (alive.symm.trans staffed.algorithm), staffed.outputs,
        staffed.listens⟩
  | fill fills => cases fills <;> exact ⟨staffed.1, staffed.2, staffed.3⟩
  | «show» shows => cases shows <;> exact ⟨staffed.1, staffed.2, staffed.3⟩
  | release => exact staffed

end Staffed

/-! ## One more input -/

section Told

variable {s : Running σ ι Builtin W D}

/-- To drain lets the parent hear what is passed on of the inputs that wait, in their order. -/
theorem Staffed.drained (backend : Backend σ ι W D) (staffed : s.compositor.Staffed b)
    (tidy : s.compositor.Tidy) :
    ∃ count t, drain backend.crew s = .ok count t ∧
      t.compositor.parent =
        s.compositor.parent.map (.hear (s.compositor.queue.flatMap b.passes)) := by
  obtain ⟨c, w⟩ := s
  have drains : (drain backend.crew).Ensures c _ := drain_ensures staffed.algorithm
  obtain ⟨count, -, c', w', ran, -⟩ := drains.run w
  have isOpen : c.isOpen = true := by rw [isOpen, staffed.algorithm]; rfl
  have law : DrainLaw backend.crew ⟨c, w⟩ := drain_lawful _ tidy isOpen
  rw [DrainLaw, ran] at law
  obtain ⟨-, -, a, heard, a', u, alive, routed, -, parent, -⟩ := law
  obtain rfl : a = b := Option.some.inj (alive.symm.trans staffed.algorithm)
  rw [route_eq] at routed
  obtain ⟨answer, -⟩ := EStateM.Result.ok.inj routed
  obtain ⟨rfl, -⟩ := Prod.mk.inj answer
  exact ⟨count, _, ran, parent⟩

/-- Of one more input the parent hears what is passed on, after all that it would have heard
anyway. -/
theorem Staffed.told (backend : Backend σ ι W D) (staffed : s.compositor.Staffed b)
    (tidy : s.compositor.Tidy) (k : Nat) (event : InputEvent) :
    ∃ count t t', drain backend.crew s = .ok count t ∧
      performAll backend.crew [.report k (.input event), .drain] s = .ok () t' ∧
      t.compositor.parent.map ParentWindow.listening = some true ∧
      t'.compositor.parent = t.compositor.parent.map (.hear (b.passes ⟨k, event⟩)) := by
  obtain ⟨count, t, ran, parent⟩ := staffed.drained backend tidy
  let queued : Running σ ι Builtin W D :=
    ⟨{ s.compositor with queue := s.compositor.queue ++ [⟨k, event⟩] },
      s.world.record (.reported k (.input event))⟩
  have staffed' : queued.compositor.Staffed b := ⟨staffed.1, staffed.2, staffed.3⟩
  obtain ⟨count', t', ran', parent'⟩ := staffed'.drained backend tidy
  refine ⟨count, t, t', ran, ?_, ?_, ?_⟩
  · show performAll backend.crew [.drain] queued = _
    simp only [performAll, Operation.perform, bind, EStateM.bind, ran']
    rfl
  · rw [parent, map_listening_hear]
    exact staffed.listens
  · rw [parent', parent, Option.map_map, ParentWindow.hear_comp_hear, List.flatMap_append,
      List.flatMap_singleton]

end Told

end Compositor

/-! ## Pixels and places -/

/-- A pixel of a region. -/
structure RegionPixel where
  region : Nat
  x : Nat
  y : Nat

/-- The place of a pixel in a source, in the coordinates of pointers. -/
abbrev Place := Int × Int

/-- The place that an input tells. -/
def InputEvent.place? : InputEvent → Option Place
  | .mouse (.moved x y) => some (x.toInt, y.toInt)
  | .mouse _ | .key _ | .closeRequested => none

/-- The places of the pixels of a rectangle. -/
def Rect.places (r : Rect) : Set Place :=
  {place | ∃ x y : Nat, r.Covers x y ∧ place = (↑x, ↑y)}

/-- The places of the pixels of all rectangles that are there. -/
def placesIn (tiles : List (Option Rect)) : Set Place :=
  {place | ∃ tile, some tile ∈ tiles ∧ place ∈ tile.places}

/-- The pixels of the regions whose rectangles are there. -/
def pixelsIn (tiles : List (Option Rect)) : Set RegionPixel :=
  {pixel | ∃ tile, tiles[pixel.region]? = some (some tile) ∧ pixel.x < tile.width ∧
    pixel.y < tile.height}

/-- Where a pixel of a region lies. -/
def placeOf? (tiles : List (Option Rect)) (pixel : RegionPixel) : Option Place :=
  (tiles[pixel.region]?.join).map fun tile => (↑(tile.x + pixel.x), ↑(tile.y + pixel.y))

/-- The tiles that are shown, and gaps in place of the others. -/
def shownTiles (o : WallOptions) (tiles : List Rect) : List (Option Rect) :=
  tiles.mapIdx fun index tile => if o.shows index then some tile else none

section Tiles

variable {window : Rect} {cols rows : Nat} {tiles : List Rect} {o : WallOptions}

theorem getElem?_shownTiles {index : Nat} {tile : Rect} :
    (shownTiles o tiles)[index]? = some (some tile) ↔
      tiles[index]? = some tile ∧ o.shows index = true := by
  rw [shownTiles, List.getElem?_mapIdx]
  cases tiles[index]? with
  | none => simp
  | some there => cases o.shows index <;> simp

theorem mem_shownTiles {tile : Rect} :
    some tile ∈ shownTiles o tiles ↔
      ∃ index, tiles[index]? = some tile ∧ o.shows index = true := by
  simp only [List.mem_iff_getElem?, getElem?_shownTiles]

theorem placeOf?_eq {areas : List (Option Rect)} {pixel : RegionPixel} {tile : Rect}
    (there : areas[pixel.region]? = some (some tile)) :
    placeOf? areas pixel = some (↑(tile.x + pixel.x), ↑(tile.y + pixel.y)) := by
  rw [placeOf?, there]
  rfl

theorem mapsTo_placeOf? (areas : List (Option Rect)) :
    Set.MapsTo (placeOf? areas) (pixelsIn areas) (some '' placesIn areas) := by
  rintro pixel ⟨tile, there, left, top⟩
  refine ⟨_, ⟨tile, List.mem_of_getElem? there, tile.x + pixel.x, tile.y + pixel.y, ?_, rfl⟩,
    (placeOf?_eq there).symm⟩
  exact ⟨⟨by omega, by omega⟩, by omega, by omega⟩

theorem surjOn_placeOf? (areas : List (Option Rect)) :
    Set.SurjOn (placeOf? areas) (pixelsIn areas) (some '' placesIn areas) := by
  rintro _ ⟨_, ⟨tile, member, x, y, ⟨⟨left, right⟩, top, bottom⟩, rfl⟩, rfl⟩
  obtain ⟨index, there⟩ := List.mem_iff_getElem?.mp member
  refine ⟨⟨index, x - tile.x, y - tile.y⟩, ⟨tile, there, Nat.sub_lt_left_of_lt_add left right,
    Nat.sub_lt_left_of_lt_add top bottom⟩, ?_⟩
  rw [placeOf?_eq there, Nat.add_sub_cancel' left, Nat.add_sub_cancel' top]

/-- A place is that of one pixel only, as it lies in one tile only. -/
theorem injOn_placeOf? (tiling : Tiling window cols rows tiles) :
    Set.InjOn (placeOf? (shownTiles o tiles)) (pixelsIn (shownTiles o tiles)) := by
  rintro ⟨i, x, y⟩ ⟨tile, there, left, top⟩ ⟨j, x', y'⟩ ⟨tile', there', left', top'⟩ same
  rw [placeOf?_eq there, placeOf?_eq there'] at same
  simp only [Option.some.injEq, Prod.mk.injEq, Int.natCast_inj] at same left top left' top'
  obtain ⟨columns, lines⟩ := same
  have here := (getElem?_shownTiles.mp there).1
  have here' := (getElem?_shownTiles.mp there').1
  have covers : tile.Covers (tile.x + x) (tile.y + y) := ⟨⟨by omega, by omega⟩, by omega, by omega⟩
  have covers' : tile'.Covers (tile.x + x) (tile.y + y) :=
    ⟨⟨by omega, by omega⟩, by omega, by omega⟩
  obtain ⟨⟨_, _⟩, _, _⟩ := tiling.inside tile (List.mem_of_getElem? here)
  obtain ⟨index, -, only⟩ := tiling.exact (tile.x + x) (tile.y + y)
    ⟨⟨by omega, by omega⟩, by omega, by omega⟩
  obtain rfl : i = j := (only i ⟨tile, here, covers⟩).trans (only j ⟨tile', here', covers'⟩).symm
  obtain rfl : tile = tile' := Option.some.inj (here.symm.trans here')
  rw [Nat.add_left_cancel columns, Nat.add_left_cancel lines]

/-- The pixels of the tiles that are shown lie at different places, and those are the places that
the tiles cover. -/
theorem bijOn_placeOf? (tiling : Tiling window cols rows tiles) :
    Set.BijOn (placeOf? (shownTiles o tiles)) (pixelsIn (shownTiles o tiles))
      (some '' placesIn (shownTiles o tiles)) :=
  ⟨mapsTo_placeOf? _, injOn_placeOf? tiling, surjOn_placeOf? _⟩

/-- Where all tiles are shown they cover the window. -/
theorem placesIn_of_all (tiling : Tiling window cols rows tiles)
    (all : ∀ index < cols * rows, o.shows index = true) :
    placesIn (shownTiles o tiles) = window.places := by
  ext place
  constructor
  · rintro ⟨tile, member, x, y, ⟨⟨left, right⟩, top, bottom⟩, rfl⟩
    obtain ⟨index, there, -⟩ := mem_shownTiles.mp member
    obtain ⟨⟨_, _⟩, _, _⟩ := tiling.inside tile (List.mem_of_getElem? there)
    exact ⟨x, y, ⟨⟨by omega, by omega⟩, by omega, by omega⟩, rfl⟩
  · rintro ⟨x, y, covers, rfl⟩
    obtain ⟨index, ⟨tile, there, covers'⟩, -⟩ := tiling.exact x y covers
    have small : index < cols * rows := by
      rw [← tiling.count]
      exact (List.getElem?_eq_some_iff.mp there).1
    exact ⟨tile, mem_shownTiles.mpr ⟨index, there, all index small⟩, x, y, covers', rfl⟩

end Tiles

/-- The rectangles that a partition makes into views. -/
def Builtin.areas (b : Builtin) : List (Option Rect) :=
  b.cells.map fun c => c.view?.map fun view => viewArea view.1 view.2

theorem Builtin.getElem?_areas {b : Builtin} {k : Nat} {tile : Rect} :
    b.areas[k]? = some (some tile) ↔ ∃ cell, b.cells[k]? = some cell ∧
      cell.output.active = true ∧ viewArea cell.output.format cell.origin = tile := by
  rw [areas, List.getElem?_map]
  cases b.cells[k]? with
  | none => simp
  | some cell => cases active : cell.output.active <;> simp [Cell.view?, active]

namespace Compositor

variable {σ ι W D : Type} {backend : Backend σ ι W D} {b : Builtin}

/-- The pixels of the regions that are shown, in the format of their outputs. -/
def shownPixels {A : Type} (c : Compositor A W D) : Set RegionPixel :=
  {pixel | ∃ output, c.outputs[pixel.region]? = some output ∧ output.active = true ∧
    pixel.x < output.format.visibleWidth.toNat ∧ pixel.y < output.format.visibleHeight.toNat}

theorem Staffed.shownPixels_eq {c : Compositor Builtin W D} (staffed : c.Staffed b) :
    c.shownPixels = pixelsIn b.areas := by
  ext pixel
  simp only [shownPixels, pixelsIn, staffed.outputs, Builtin.outputs, Set.mem_ofPred_eq,
    List.getElem?_map, Option.map_eq_some_iff, Builtin.getElem?_areas]
  constructor
  · rintro ⟨_, ⟨cell, there, rfl⟩, active, left, top⟩
    exact ⟨_, ⟨cell, there, active, rfl⟩, left, top⟩
  · rintro ⟨_, ⟨cell, there, active, rfl⟩, left, top⟩
    exact ⟨_, ⟨cell, there, rfl⟩, active, left, top⟩

/-! ## The law -/

/-- The window of a region reports that the pointer is at a pixel, and all inputs are handled. -/
def pointing (pixel : RegionPixel) : List Operation :=
  [.report pixel.region (.input (.mouse (.moved (.ofNat pixel.x) (.ofNat pixel.y)))), .drain]

section Definitions

variable (crew : Crew σ ι Builtin W D)

/-- Where the parent is told that the pointer is, once it is at a pixel of a region. -/
def pointed? (s : Running σ ι Builtin W D) (pixel : RegionPixel) : Option Place :=
  match performAll crew (pointing pixel) s with
  | .ok _ t => (t.compositor.parent.bind fun p => p.received.getLast?).bind InputEvent.place?
  | .error _ _ => none

/-- Positions of the pointer come back to where the pictures came from. -/
structure PointerLaw (tiles : List (Option Rect)) (s : Running σ ι Builtin W D) : Prop where
  /-- Of a pointer the parent hears one input, after all that it would have heard anyway. -/
  told : ∀ pixel ∈ s.compositor.shownPixels, ∃ count t t' x y, drain crew s = .ok count t ∧
    performAll crew (pointing pixel) s = .ok () t' ∧
    t'.compositor.parent = t.compositor.parent.map (.hear [.mouse (.moved x y)]) ∧
    pointed? crew s pixel = some (x.toInt, y.toInt)
  /-- Different pixels lie at different places, and those are the places that the tiles cover. -/
  bijective : Set.BijOn (pointed? crew s) s.compositor.shownPixels (some '' placesIn tiles)
  /-- It is the pixel of the frame that is seen there, in the part that the region gets of it. -/
  seen : ∀ (picture : Picture) (world : World σ ι), picture.origin = .zero →
    ∃ b slots after, s.compositor.algorithm = some b ∧
      crew.algorithm.filter b picture world = .ok (.ok slots, b) after ∧
      ∀ pixel ∈ s.compositor.shownPixels, ∃ part, slots[pixel.region]? = some (some part) ∧
        part.SharesPixels picture ∧
        pointed? crew s pixel =
          some (↑(part.origin.x.toNat + pixel.x), ↑(part.origin.y.toNat + pixel.y))

end Definitions

section Law

variable {s : Running σ ι Builtin W D} {w : Wall} {pixel : RegionPixel}

/-- A wall moves a position by the place of its tile. -/
theorem passes_moved {cell : Cell} {k x y : Nat} (there : w.cells[k]? = some cell)
    (active : cell.output.active = true) (right : cell.origin.x.toNat + x < 0x80000000)
    (bottom : cell.origin.y.toNat + y < 0x80000000) :
    (Builtin.wall w).passes ⟨k, .mouse (.moved (.ofNat x) (.ofNat y))⟩ =
      [.mouse (.moved (.ofNat (cell.origin.x.toNat + x)) (.ofNat (cell.origin.y.toNat + y)))] := by
  simp only [Builtin.passes, Builtin.locate, Wall.locate, there, active, if_true,
    Wall.shiftCoordinate_ofNat right, Wall.shiftCoordinate_ofNat bottom]
  rfl

/-- No tile reaches beyond what a coordinate can tell. -/
def Within (tiles : List (Option Rect)) : Prop :=
  ∀ tile, some tile ∈ tiles → tile.x + tile.width ≤ 0x80000000 ∧ tile.y + tile.height ≤ 0x80000000

theorem Staffed.pointed (backend : Backend σ ι W D) (staffed : s.compositor.Staffed (.wall w))
    (tidy : s.compositor.Tidy) (within : Within (Builtin.wall w).areas)
    (member : pixel ∈ s.compositor.shownPixels) :
    ∃ count t t' x y, drain backend.crew s = .ok count t ∧
      performAll backend.crew (pointing pixel) s = .ok () t' ∧
      t'.compositor.parent = t.compositor.parent.map (.hear [.mouse (.moved x y)]) ∧
      pointed? backend.crew s pixel = some (x.toInt, y.toInt) ∧
      placeOf? (Builtin.wall w).areas pixel = some (x.toInt, y.toInt) := by
  rw [staffed.shownPixels_eq] at member
  obtain ⟨tile, there, left, top⟩ := member
  obtain ⟨right, bottom⟩ := within tile (List.mem_of_getElem? there)
  obtain ⟨cell, cell_there, active, rfl⟩ := Builtin.getElem?_areas.mp there
  have right : cell.origin.x.toNat + pixel.x < 0x80000000 :=
    Nat.lt_of_lt_of_le (Nat.add_lt_add_left left _) right
  have bottom : cell.origin.y.toNat + pixel.y < 0x80000000 :=
    Nat.lt_of_lt_of_le (Nat.add_lt_add_left top _) bottom
  obtain ⟨count, t, t', drained, ran, listens, parent⟩ := staffed.told backend tidy pixel.region
    (.mouse (.moved (.ofNat pixel.x) (.ofNat pixel.y)))
  rw [passes_moved cell_there active right bottom] at parent
  refine ⟨count, t, t', _, _, drained, ran, parent, ?_, ?_⟩
  · rw [pointed?, pointing, ran]
    show (t'.compositor.parent.bind _).bind _ = _
    rw [parent, last_received listens]
    rfl
  · rw [placeOf?_eq there, Int32.toInt_ofNat_of_lt right, Int32.toInt_ofNat_of_lt bottom]
    rfl

/-- A wall whose tiles are the shown ones of a tiling keeps the law. -/
theorem Staffed.pointerLaw (backend : Backend σ ι W D) {window : Rect} {cols rows : Nat}
    {tiles : List Rect} {o : WallOptions} (staffed : s.compositor.Staffed (.wall w))
    (tidy : s.compositor.Tidy) (tiling : Tiling window cols rows tiles)
    (areas : (Builtin.wall w).areas = shownTiles o tiles)
    (right : window.x + window.width ≤ 0x80000000)
    (bottom : window.y + window.height ≤ 0x80000000) :
    PointerLaw backend.crew (shownTiles o tiles) s := by
  have within : Within (Builtin.wall w).areas := by
    intro tile member
    rw [areas] at member
    obtain ⟨index, there, -⟩ := mem_shownTiles.mp member
    obtain ⟨⟨_, _⟩, _, _⟩ := tiling.inside tile (List.mem_of_getElem? there)
    omega
  have placed : Set.EqOn (placeOf? (Builtin.wall w).areas) (pointed? backend.crew s)
      s.compositor.shownPixels := by
    intro pixel member
    obtain ⟨_, _, _, _, _, -, -, -, here, place⟩ := staffed.pointed backend tidy within member
    rw [here, place]
  refine ⟨fun pixel member => ?_, ?_, fun picture world start => ?_⟩
  · obtain ⟨count, t, t', x, y, drained, ran, parent, here, -⟩ :=
      staffed.pointed backend tidy within member
    exact ⟨count, t, t', x, y, drained, ran, parent, here⟩
  · refine Set.BijOn.congr ?_ placed
    rw [staffed.shownPixels_eq, areas]
    exact bijOn_placeOf? tiling
  · obtain ⟨slots, after, ran, shown, shared⟩ :=
      Builtin.cuts_cells (.wall w) σ ι picture world start
    refine ⟨_, slots, after, staffed.algorithm, ran, fun pixel member => ?_⟩
    have place := placed member
    rw [staffed.shownPixels_eq] at member
    obtain ⟨tile, there, -, -⟩ := member
    rw [placeOf?_eq there] at place
    change slots.map (Option.map Picture.area) = (Builtin.wall w).areas at shown
    rw [← shown, List.getElem?_map] at there
    obtain ⟨slot, here, filled⟩ := Option.map_eq_some_iff.mp there
    obtain ⟨part, rfl, rfl⟩ := Option.map_eq_some_iff.mp filled
    exact ⟨part, here, shared part (List.mem_of_getElem? here), place.symm⟩

end Law

/-! ## Walls that are opened -/

/-- A compositor that was just opened is staffed with the algorithm that was made, if its parent
listens. -/
theorem Starts.staffed {settings : SplitSettings} {source : VideoFormat} {parent : ParentWindow}
    {env : σ} {ledger : Ledger} {c : Compositor Builtin W D} {w : World σ (Happening ι)}
    (h : Starts backend.crew Builtin.registry settings source (some parent) env ledger (.ok c) w)
    (named : settings.algorithmName = BuiltinName.wall.text)
    (listens : parent.listening = true) :
    ∃ b, BuiltinName.wall.create source.upright settings = .ok (.ok b) ∧ c.Staffed b := by
  generalize came : Except.ok c = result at h
  cases h with
  | unknown | unmade => cases came
  | populated known ran populates seen =>
    rw [named, Builtin.resolve?_wall] at known
    cases known
    generalize w.signs = opening at populates
    cases populates with
    | failed => cases came
    | opened opens =>
      cases came
      have fixed := opens.fixture_eq
      refine ⟨_, Run.of_attempt_eq_ok ran, algorithm_of_fixture_eq fixed, ?_, ?_⟩
      · exact (congrArg Compositor.outputs fixed :)
      · rw [parent_of_fixture_eq fixed]
        exact congrArg some listens

theorem performAll_staffed {s t : Running σ ι Builtin W D} {operations : List Operation}
    (unclosed : .close ∉ operations) (staffed : s.compositor.Staffed b)
    (tidy : s.compositor.Tidy) (ran : performAll backend.crew operations s = .ok () t) :
    t.compositor.Staffed b ∧ t.compositor.Tidy := by
  have steps : (performAll backend.crew operations).Yields backend.crew s.view _ :=
    performAll_steps operations unclosed tidy
  have yields := steps s rfl
  rw [ran] at yields
  obtain ⟨new, -, path, tidy'⟩ := yields
  exact ⟨path.keepsView (P := fun v => v.compositor.Staffed b)
    (fun _ _ _ kept step => step.staffed kept) staffed, tidy'⟩

/-- Whatever is done with a wall that was opened for a parent who listens, short of closing it, the
positions of the pointer keep the law, if coordinates can tell all of the window. The tiles that
are shown are those of a tiling of the window, and where all are shown the places are the whole of
it. -/
theorem open_wall_keeps_pointer_law {settings : SplitSettings} {source : VideoFormat}
    {parent : ParentWindow} {env : σ} {ledger : Ledger} {c : Compositor Builtin W D}
    {w : World σ (Happening ι)} {operations : List Operation} {s : Running σ ι Builtin W D}
    (named : settings.algorithmName = BuiltinName.wall.text) (listens : parent.listening = true)
    (right : source.upright.window.x + source.upright.window.width ≤ 0x80000000)
    (bottom : source.upright.window.y + source.upright.window.height ≤ 0x80000000)
    (opened : «open» backend.crew Builtin.registry settings source (some parent)
      ⟨env, ledger, []⟩ = .ok (.ok c) w)
    (unclosed : .close ∉ operations)
    (ran : performAll backend.crew operations ⟨c, w⟩ = .ok () s) :
    ∃ o tiles, settings.optionsAs WallOptions.record.decode = .ok o ∧
      Tiling source.upright.window o.cols.toNat o.rows.toNat tiles ∧
      PointerLaw backend.crew (shownTiles o tiles) s ∧
      ((∀ index < o.tiles, o.shows index = true) →
        Set.BijOn (pointed? backend.crew s) s.compositor.shownPixels
          (some '' source.upright.window.places)) := by
  have starts := open_starts backend.crew Builtin.registry settings source (some parent) env ledger
  rw [opened] at starts
  obtain ⟨b, made, staffed⟩ := starts.staffed named listens
  obtain ⟨o, wall, options, created, rfl⟩ := BuiltinName.exists_wall made
  obtain ⟨accepted, -⟩ := Wall.create_eq_ok_ok_iff.mp created
  obtain ⟨⟨hcols, hrows⟩, wide, high⟩ := Wall.refusal?_eq_none accepted
  have tiling := Wall.tiling_tiles hcols hrows wide high
  obtain ⟨staffed', tidy⟩ := performAll_staffed unclosed staffed starts.fresh.1 ran
  have law := staffed'.pointerLaw backend tidy tiling (Wall.views_of_create created) right bottom
  refine ⟨o, _, options, tiling, law, fun all => ?_⟩
  rw [← placesIn_of_all tiling all]
  exact law.bijective

/-! ## Two corners of a wall -/

/-- The pointer is in the last corner, while a picture goes out and another corner is resized. -/
def lastCorner : List Operation :=
  [.report 0 (.resized ⟨9, 9⟩), .prepare ⟨0, 0, .blank 320, sideways, 40, .zero⟩ none 40,
    .display] ++ pointing ⟨5, 2, 3⟩

theorem corners_keep_pointer_law :
    (sideways.upright.window.x + sideways.upright.window.width ≤ 0x80000000 ∧
      sideways.upright.window.y + sideways.upright.window.height ≤ 0x80000000) ∧
    .close ∉ lastCorner ∧ ∃ c w s,
      «open» headless.crew Builtin.registry cornersOnly sideways (some .fresh)
        ⟨(), .empty, []⟩ = .ok (.ok c) w ∧
      performAll headless.crew lastCorner ⟨c, w⟩ = .ok () s ∧
      s.compositor.parent.map ParentWindow.received = some [.mouse (.moved 5 8)] ∧
      ∃ o tiles, Tiling sideways.upright.window 3 2 tiles ∧
        PointerLaw headless.crew (shownTiles o tiles) s := by
  have bounds : sideways.upright.window.x + sideways.upright.window.width ≤ 0x80000000 ∧
      sideways.upright.window.y + sideways.upright.window.height ≤ 0x80000000 := by decide
  have unclosed : .close ∉ lastCorner := by decide
  have heard : heard? headless.crew lastCorner («open» headless.crew Builtin.registry cornersOnly
      sideways (some .fresh) ⟨(), .empty, []⟩) = some [.mouse (.moved 5 8)] := by
    decide +kernel
  obtain ⟨c, w, deeds, s, opened, noted, received⟩ := of_heard?_eq_some heard
  have ran := performAll_of_noted noted
  obtain ⟨o, tiles, asked, tiling, law, -⟩ :=
    open_wall_keeps_pointer_law (by decide +kernel) rfl bounds.1 bounds.2 opened unclosed ran
  have options : cornersOnly.optionsAs WallOptions.record.decode =
      .ok ⟨3, 2, some [0, 5], ""⟩ := by decide +kernel
  obtain rfl := Except.ok.inj (asked.symm.trans options)
  exact ⟨bounds, unclosed, c, w, s, opened, ran, received, _, tiles, tiling, law⟩

end Compositor

end Mosaic
