import Mosaic.Proofs.Recovery
import Mosaic.Settings

/-!
# Partial configurations

A configuration document may leave out whatever it likes. What is given counts, and what is left
out has the value that it has in the record it is missing from. So a document that was written,
cut down, rearranged and added to is read as the settings that were written, laid over the standard
ones.

## Main definitions

* `Kept` — which keys of a document are kept
* `Settings.overlay` and its parts — what is kept of some settings, laid over others
* `Settings.edited` and its parts — the ways to cut down, rearrange and add to a document

## Main results

* `recovers_settings` — what the reader of a whole configuration gets back
* `written_settings` — the compact text of a configuration tells all of it
* `partial_settings_overlay_standard` — what that makes of texts
-/

set_option autoImplicit false

namespace Mosaic

open Json

/-- The keys that are kept, for each kind of object that a configuration consists of. -/
structure Kept where
  config : String → Bool
  splitter : String → Bool
  demo : String → Bool
  placement : String → Bool
  window : String → Bool

/-! ## Overlays -/

section Overlays

variable (k : Kept) (keep : String → Bool)

/-- Some terms of a ratio, laid over another. -/
def Ratio.overlay (r base : Ratio) : Ratio where
  num := if keep "num" then r.num else base.num
  den := if keep "den" then r.den else base.den

/-- Some fields of a placement, laid over another. -/
def Placement.overlay (p base : Placement) : Placement where
  width := if keep "width" then p.width else base.width
  height := if keep "height" then p.height else base.height
  zoom := if keep "zoom" then p.zoom else base.zoom

/-- Some window settings, laid over others. -/
def WindowSettings.overlay (w base : WindowSettings) : WindowSettings where
  x := if keep "x" then w.x else base.x
  y := if keep "y" then w.y else base.y
  width := if keep "width" then w.width else base.width
  height := if keep "height" then w.height else base.height
  decorated := if keep "decorated" then w.decorated else base.decorated
  fullscreen := if keep "fullscreen" then w.fullscreen else base.fullscreen

/-- Some demonstration settings, laid over others. -/
def DemoSettings.overlay (d base : DemoSettings) : DemoSettings where
  width := if keep "width" then d.width else base.width
  height := if keep "height" then d.height else base.height
  frames := if keep "frames" then d.frames else base.frames
  interval := if keep "frame_interval_us" then d.interval else base.interval

/-- Some split settings, laid over others. A placement or window that is kept is itself laid over
the standard one. -/
def SplitSettings.overlay (s base : SplitSettings) : SplitSettings where
  algorithm := if k.splitter "algorithm" then s.algorithm else base.algorithm
  defaultAlgorithm :=
    if k.splitter "default_algorithm" then s.defaultAlgorithm else base.defaultAlgorithm
  regionFailure := if k.splitter "region_failure" then s.regionFailure else base.regionFailure
  placement :=
    if k.splitter "placement" then s.placement.overlay k.placement .free else base.placement
  window := if k.splitter "window" then s.window.overlay k.window .plain else base.window
  options := if k.splitter "options" then s.options else base.options

/-- Some settings, laid over others. -/
def Settings.overlay (c base : Settings) : Settings where
  splitter := if k.config "splitter" then c.splitter.overlay k .standard else base.splitter
  demo := if k.config "demo" then c.demo.overlay k.demo .standard else base.demo

end Overlays

theorem Ratio.layered (r : Ratio) : Layered Ratio.record fun keep => r.overlay keep where
  nothing _ := rfl
  twice _ _ _ := by simp only [overlay, Bool.or_eq_true, ite_or]
  named same _ := by
    simp only [record, wordField, RecordField.of, List.forall_mem_cons] at same
    simp only [overlay, same]

theorem Placement.layered (p : Placement) :
    Layered Placement.record fun keep => p.overlay keep where
  nothing _ := rfl
  twice _ _ _ := by simp only [overlay, Bool.or_eq_true, ite_or]
  named same _ := by
    simp only [record, wordField, RecordField.of, List.forall_mem_cons] at same
    simp only [overlay, same]

theorem WindowSettings.layered (w : WindowSettings) :
    Layered WindowSettings.record fun keep => w.overlay keep where
  nothing _ := rfl
  twice _ _ _ := by simp only [overlay, Bool.or_eq_true, ite_or]
  named same _ := by
    simp only [record, wordField, RecordField.of, List.forall_mem_cons] at same
    simp only [overlay, same]

theorem DemoSettings.layered (d : DemoSettings) :
    Layered DemoSettings.record fun keep => d.overlay keep where
  nothing _ := rfl
  twice _ _ _ := by simp only [overlay, Bool.or_eq_true, ite_or]
  named same _ := by
    simp only [record, wordField, RecordField.of, List.forall_mem_cons] at same
    simp only [overlay, same]

theorem SplitSettings.layered (k : Kept) (s : SplitSettings) :
    Layered SplitSettings.record fun keep => s.overlay { k with splitter := keep } where
  nothing _ := rfl
  twice _ _ _ := by simp only [overlay, Bool.or_eq_true, ite_or]
  named same _ := by
    simp only [record, RecordField.of, List.forall_mem_cons] at same
    simp only [overlay, same]

theorem Settings.layered (k : Kept) (c : Settings) :
    Layered Settings.record fun keep => c.overlay { k with config := keep } where
  nothing _ := rfl
  twice _ _ _ := by
    simp only [overlay, Bool.or_eq_true, ite_or]
    rfl
  named same _ := by
    simp only [record, RecordField.of, List.forall_mem_cons] at same
    simp only [overlay, same]
    rfl

/-! ## Edited documents -/

/-- A ratio is told by all its terms. -/
def Ratio.edited : Telling := .edited (fun _ => true) fun _ => .whole

/-- A placement is told in part, but for its zoom. -/
def Placement.edited (keep : String → Bool) : Telling :=
  .edited keep fun name => if name = "zoom" then Ratio.edited else .whole

/-- Window settings are told in part. -/
def WindowSettings.edited (keep : String → Bool) : Telling := .edited keep fun _ => .whole

/-- Demonstration settings are told in part. -/
def DemoSettings.edited (keep : String → Bool) : Telling := .edited keep fun _ => .whole

/-- Split settings are told in part, and so are the placement and the window among them. -/
def SplitSettings.edited (k : Kept) : Telling :=
  .edited k.splitter fun name =>
    if name = "placement" then Placement.edited k.placement
    else if name = "window" then WindowSettings.edited k.window
    else .whole

/-- Settings are told in part, on every level. -/
def Settings.edited (k : Kept) : Telling :=
  .edited k.config fun name =>
    if name = "splitter" then SplitSettings.edited k
    else if name = "demo" then DemoSettings.edited k.demo
    else .whole

/-! ## Reading them -/

theorem recovers_ratio (r : Ratio) :
    Recovers Ratio.edited (Ratio.record.toValue r) Ratio.record.decode r := by
  refine recovers_record r.layered (by decide) (fun _ _ _ => rfl) ?_
  simp only [Ratio.record, List.forall_mem_cons, List.not_mem_nil, false_implies, implies_true,
    and_true]
  exact ⟨fun _ => recovers_field (recovers_word r.num) fun _ => rfl,
    fun _ => recovers_field (recovers_word r.den) fun _ => rfl⟩

theorem recovers_placement (keep : String → Bool) (p : Placement) :
    Recovers (Placement.edited keep) (Placement.record.toValue p) Placement.record.decode
      (p.overlay keep .free) := by
  refine recovers_record p.layered (by decide) nofun ?_
  simp only [Placement.record, List.forall_mem_cons, List.not_mem_nil, false_implies, implies_true,
    and_true]
  exact ⟨fun _ => recovers_field (recovers_word p.width) fun _ => rfl,
    fun _ => recovers_field (recovers_word p.height) fun _ => rfl,
    fun _ => recovers_field (recovers_ratio p.zoom) fun _ => rfl⟩

theorem recovers_window (keep : String → Bool) (w : WindowSettings) :
    Recovers (WindowSettings.edited keep) (WindowSettings.record.toValue w)
      WindowSettings.record.decode (w.overlay keep .plain) := by
  refine recovers_record w.layered (by decide) nofun ?_
  simp only [WindowSettings.record, List.forall_mem_cons, List.not_mem_nil, false_implies,
    implies_true, and_true]
  exact ⟨fun _ => recovers_field (recovers_coordinate w.x) fun _ => rfl,
    fun _ => recovers_field (recovers_coordinate w.y) fun _ => rfl,
    fun _ => recovers_field (recovers_word w.width) fun _ => rfl,
    fun _ => recovers_field (recovers_word w.height) fun _ => rfl,
    fun _ => recovers_field (recovers_flag w.decorated) fun _ => rfl,
    fun _ => recovers_field (recovers_flag w.fullscreen) fun _ => rfl⟩

theorem recovers_demo (keep : String → Bool) (d : DemoSettings) :
    Recovers (DemoSettings.edited keep) (DemoSettings.record.toValue d) DemoSettings.record.decode
      (d.overlay keep .standard) := by
  refine recovers_record d.layered (by decide) nofun ?_
  simp only [DemoSettings.record, List.forall_mem_cons, List.not_mem_nil, false_implies,
    implies_true, and_true]
  exact ⟨fun _ => recovers_field (recovers_word d.width) fun _ => rfl,
    fun _ => recovers_field (recovers_word d.height) fun _ => rfl,
    fun _ => recovers_field (recovers_word d.frames) fun _ => rfl,
    fun _ => recovers_field (recovers_duration d.interval) fun _ => rfl⟩

theorem recovers_policy (p : FailurePolicy) :
    Recovers .whole (.string p.name) (variant FailurePolicy.known) p :=
  recovers_variant (by cases p <;> rfl)

theorem recovers_splitter (k : Kept) {s : SplitSettings}
    (sorted : (Value.object s.options).Sorted) :
    Recovers (SplitSettings.edited k) (SplitSettings.record.toValue s) SplitSettings.record.decode
      (s.overlay k .standard) := by
  refine recovers_record (s.layered k) (by decide) nofun ?_
  simp only [SplitSettings.record, List.forall_mem_cons, List.not_mem_nil, false_implies,
    implies_true, and_true]
  exact ⟨fun _ => recovers_field (recovers_option_text s.algorithm) fun _ => rfl,
    fun _ => recovers_field (recovers_text s.defaultAlgorithm) fun _ => rfl,
    fun _ => recovers_field (recovers_policy s.regionFailure) fun _ => rfl,
    fun _ => recovers_field (recovers_placement k.placement s.placement) fun _ => rfl,
    fun _ => recovers_field (recovers_window k.window s.window) fun _ => rfl,
    fun _ => recovers_field (recovers_table sorted) fun _ => rfl⟩

/-- Who reads a configuration that is told in part gets what is kept of it, laid over the standard
settings. -/
theorem recovers_settings (k : Kept) {c : Settings}
    (sorted : (Value.object c.splitter.options).Sorted) :
    Recovers (Settings.edited k) (Settings.record.toValue c) Settings.record.decode
      (c.overlay k .standard) := by
  refine recovers_record (c.layered k) (by decide) nofun ?_
  simp only [Settings.record, List.forall_mem_cons, List.not_mem_nil, false_implies,
    implies_true, and_true]
  exact ⟨fun _ => recovers_field (recovers_splitter k sorted) fun _ => rfl,
    fun _ => recovers_field (recovers_demo k.demo c.demo) fun _ => rfl⟩

/-! ## Settings as they are written -/

/-- Whole configurations are told by all their fields, on every level. -/
def Kept.all : Kept where
  config _ := true
  splitter _ := true
  demo _ := true
  placement _ := true
  window _ := true

theorem written_ratio (r : Ratio) : Written Ratio.edited (Ratio.record.toValue r) := by
  refine written_record ?_
  simp only [Ratio.record, List.forall_mem_cons, List.not_mem_nil, false_implies, implies_true,
    and_true]
  exact ⟨written_whole (.integer _), written_whole (.integer _)⟩

theorem written_placement (p : Placement) :
    Written (Placement.edited fun _ => true) (Placement.record.toValue p) := by
  refine written_record ?_
  simp only [Placement.record, List.forall_mem_cons, List.not_mem_nil, false_implies, implies_true,
    and_true]
  exact ⟨written_whole (.integer _), written_whole (.integer _), written_ratio p.zoom⟩

theorem written_window (w : WindowSettings) :
    Written (WindowSettings.edited fun _ => true) (WindowSettings.record.toValue w) := by
  refine written_record ?_
  simp only [WindowSettings.record, List.forall_mem_cons, List.not_mem_nil, false_implies,
    implies_true, and_true]
  exact ⟨written_whole (.integer _), written_whole (.integer _), written_whole (.integer _),
    written_whole (.integer _), written_whole (.bool _), written_whole (.bool _)⟩

theorem written_demo (d : DemoSettings) :
    Written (DemoSettings.edited fun _ => true) (DemoSettings.record.toValue d) := by
  refine written_record ?_
  simp only [DemoSettings.record, List.forall_mem_cons, List.not_mem_nil, false_implies,
    implies_true, and_true]
  exact ⟨written_whole (.integer _), written_whole (.integer _), written_whole (.integer _),
    written_whole (.integer _)⟩

theorem written_option_text (s : Option String) : Written .whole (.option .string s) := by
  cases s with
  | none => exact written_whole .null
  | some s => exact written_whole (.string s)

theorem written_splitter {s : SplitSettings} (floatless : (Value.object s.options).Floatless) :
    Written (SplitSettings.edited .all) (SplitSettings.record.toValue s) := by
  refine written_record ?_
  simp only [SplitSettings.record, List.forall_mem_cons, List.not_mem_nil, false_implies,
    implies_true, and_true]
  exact ⟨written_option_text s.algorithm, written_whole (.string _), written_whole (.string _),
    written_placement s.placement, written_window s.window, written_whole floatless⟩

/-- The compact text of settings tells all of them, unless there are doubles among the options. -/
theorem written_settings {c : Settings}
    (floatless : (Value.object c.splitter.options).Floatless) :
    Written (Settings.edited .all) (Settings.record.toValue c) := by
  refine written_record ?_
  simp only [Settings.record, List.forall_mem_cons, List.not_mem_nil, false_implies,
    implies_true, and_true]
  exact ⟨written_splitter floatless, written_demo c.demo⟩

/-! ## The law -/

theorem Settings.overlay_all (c base : Settings) : c.overlay .all base = c := rfl

theorem decodeText_spaced {α : Type} {read : Decoder α} {f : Form} {a : α}
    (reads : read .text (f.node 0) = .ok a) (before after : Gap) :
    decodeText read (spaced before f after) = .ok a := by
  rw [decodeText, ofText_form]
  simp [reads, bind, Except.bind, pure, Except.pure]

/-- A configuration is written, cut down, rearranged, added to, and read: what is kept of it counts,
and what is left out has the value it has in the standard settings of its object. With nothing done
to it, all of it comes back. Tables are sorted in every configuration; there may be no double among
the options, which its text need not give back, and no more brackets than can be read. -/
theorem partial_settings_overlay_standard (c : Settings)
    (sorted : (Value.object c.splitter.options).Sorted)
    (floatless : (Value.object c.splitter.options).Floatless)
    (shallow : (Settings.record.toValue c).nesting ≤ 127) :
    (∀ (k : Kept) (before after : Gap) (f : Form),
      Settings.edited k (Settings.record.toValue c) f →
        Settings.ofText (spaced before f after) = .ok (c.overlay k .standard)) ∧
      Settings.ofText (Settings.record.toValue c).text = .ok c := by
  have reads (k : Kept) (before after : Gap) (f : Form)
      (edited : Settings.edited k (Settings.record.toValue c) f) :
      Settings.ofText (spaced before f after) = .ok (c.overlay k .standard) := by
    refine decodeText_spaced (recovers_settings k sorted edited ?_) before after
    rw [Nat.zero_add]
    exact shallow
  refine ⟨reads, ?_⟩
  obtain ⟨f, chars, edited⟩ := written_settings floatless
  have read := reads .all .none .none f edited
  rw [c.overlay_all] at read
  rw [Value.text, ← chars]
  simpa [spaced, Gap.none] using read

/-- Settings of a wall with gaps, all far from the standard ones. -/
def gapped : Settings where
  splitter :=
    { algorithm := some "wall"
      defaultAlgorithm := "clone"
      regionFailure := .tolerate
      placement := ⟨640, 480, ⟨2, 1⟩⟩
      window := ⟨-5, 7, 0, 0, false, true⟩
      options := [("gap", .int 2)] }
  demo := ⟨320, 240, 25, 1000⟩

/-- What is kept of them: the options, and how far to the right the windows are. -/
def gappedKept : Kept where
  config name := name == "splitter"
  splitter name := name == "window" || name == "options"
  demo _ := false
  placement _ := false
  window name := name == "x"

/-- What is left of their document, the options before the window, and a stranger before both. -/
def gappedText : String :=
  "\x7b\"a\":1e9,\"splitter\":\x7b\"options\":\x7b\"gap\":2\x7d,\"window\":\x7b\"x\":-5\x7d\x7d\x7d"

theorem gapped_in_part :
    (Value.object gapped.splitter.options).Sorted ∧
      (Value.object gapped.splitter.options).Floatless ∧
      (Settings.record.toValue gapped).nesting ≤ 127 ∧
      Settings.ofText gappedText = .ok (gapped.overlay gappedKept .standard) := by
  have sorted : (Value.object gapped.splitter.options).Sorted :=
    .object (List.pairwise_singleton _ _) (by simpa [gapped] using .number _)
  have floatless : (Value.object gapped.splitter.options).Floatless :=
    .object (by simpa [gapped] using .integer _)
  have shallow : (Settings.record.toValue gapped).nesting ≤ 127 := by decide
  refine ⟨sorted, floatless, shallow, ?_⟩
  obtain ⟨stranger, strangerChars, strangerSpells⟩ := exists_strokes "a"
  obtain ⟨splitter, splitterChars, splitterSpells⟩ := exists_strokes "splitter"
  obtain ⟨options, optionsChars, optionsSpells⟩ := exists_strokes "options"
  obtain ⟨window, windowChars, windowSpells⟩ := exists_strokes "window"
  obtain ⟨x, xChars, xSpells⟩ := exists_strokes "x"
  obtain ⟨free, freeChars, freeTells⟩ := exists_form floatless
  obtain ⟨place, placeChars, placeTells⟩ := exists_form (.integer ⟨-5, by omega, by omega⟩)
  let large : Form := .number
    ⟨false, ⟨['1'], nofun, List.forall_mem_singleton.mpr rfl⟩, nofun, none,
      some ⟨false, none, ⟨['9'], nofun, List.forall_mem_singleton.mpr rfl⟩⟩⟩
  let member (key : List Stroke) (f : Form) : Member Form := ⟨key, .none, .none, f, .none, .none⟩
  let f : Form := .object .none
    [member stranger large, member splitter (.object .none
      [member options free, member window (.object .none [member x place])])]
  have edited : Settings.edited gappedKept (Settings.record.toValue gapped) f := by
    refine .intro (.refl _) (.stranger strangerSpells (by decide) (.known splitterSpells ?_ .nil))
    refine .intro (.swap _ _ _) (.known optionsSpells freeTells (.known windowSpells ?_ .nil))
    exact .intro (.refl _) (.known xSpells placeTells .nil)
  have text : spaced .none f .none = gappedText := by
    have freeText : free.chars = "\x7b\"gap\":2\x7d".toList := by rw [freeChars]; rfl
    have placeText : place.chars = "-5".toList := by rw [placeChars]; rfl
    simp [stringChars, escapeChar] at strangerChars splitterChars optionsChars windowChars xChars
    simp [spaced, f, large, member, Form.chars, membersChars, Gap.none, strangerChars,
      splitterChars, optionsChars, windowChars, xChars, freeText, placeText]
    rfl
  rw [← text]
  exact (partial_settings_overlay_standard gapped sorted floatless shallow).1 gappedKept
    .none .none f edited

end Mosaic
