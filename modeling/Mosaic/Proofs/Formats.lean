import Mosaic.Proofs.Rearranging

/-!
# Formats in documents are read back

A format comes back from its text, from every text with the same members in another order, and from
options that were set to its fields one by one. So its text tells a format from all others. Nothing
is asked of the format: any bytes may name its layout, and its terms and sizes may well be zero.

## Main definitions

* `VideoFormat.overlay` — what is kept of a format, laid over another

## Main results

* `restores_format`, `transfers_format` — what the reader of formats gets back, and on which routes
* `formats_come_back` — what that makes of texts and options
-/

set_option autoImplicit false

namespace Mosaic

open Json

/-- Some fields of a format, laid over another. -/
def VideoFormat.overlay (keep : String → Bool) (f base : VideoFormat) : VideoFormat where
  chroma := if keep "chroma" then f.chroma else base.chroma
  width := if keep "width" then f.width else base.width
  height := if keep "height" then f.height else base.height
  xOffset := if keep "x_offset" then f.xOffset else base.xOffset
  yOffset := if keep "y_offset" then f.yOffset else base.yOffset
  visibleWidth := if keep "visible_width" then f.visibleWidth else base.visibleWidth
  visibleHeight := if keep "visible_height" then f.visibleHeight else base.visibleHeight
  orientation := if keep "orientation" then f.orientation else base.orientation
  sar := if keep "sar" then f.sar else base.sar

theorem VideoFormat.layered (f : VideoFormat) :
    Layered VideoFormat.record fun keep => f.overlay keep where
  nothing _ := rfl
  twice _ _ _ := by simp only [overlay, Bool.or_eq_true, ite_or]
  named same _ := by
    simp only [record, wordField, RecordField.of, List.forall_mem_cons] at same
    simp only [overlay, same]

/-! ## The fields -/

theorem recovers_chroma (c : Chroma) : Recovers .whole c.toValue Chroma.decode c :=
  (recovers_fixed fun b _ => recovers_byte b).map Chroma.ofList

theorem recovers_orientation (o : Orientation) :
    Recovers .whole (.string o.name) (variant Orientation.known) o :=
  recovers_variant (by cases o <;> decide)

/-- A format is read back from whatever tells it. -/
theorem recovers_format (f : VideoFormat) :
    Recovers .whole (VideoFormat.record.toValue f) VideoFormat.record.decode f := by
  refine Recovers.whole (recovers_record f.layered (by decide) (fun _ _ _ => rfl) ?_)
  simp only [VideoFormat.record, List.forall_mem_cons, List.not_mem_nil, false_implies,
    implies_true, and_true]
  exact ⟨fun _ => recovers_field (recovers_chroma f.chroma) fun _ => rfl,
    fun _ => recovers_field (recovers_word f.width) fun _ => rfl,
    fun _ => recovers_field (recovers_word f.height) fun _ => rfl,
    fun _ => recovers_field (recovers_word f.xOffset) fun _ => rfl,
    fun _ => recovers_field (recovers_word f.yOffset) fun _ => rfl,
    fun _ => recovers_field (recovers_word f.visibleWidth) fun _ => rfl,
    fun _ => recovers_field (recovers_word f.visibleHeight) fun _ => rfl,
    fun _ => recovers_field (recovers_orientation f.orientation) fun _ => rfl,
    fun _ => recovers_field (recovers_ratio f.sar).whole fun _ => rfl⟩

theorem transfers_ratio : Transfers Ratio.record.decode := by
  refine transfers_record ?_
  simp only [Ratio.record, List.forall_mem_cons, List.not_mem_nil, false_implies, implies_true,
    and_true]
  exact ⟨transfers_word.map _, transfers_word.map _⟩

/-- What is read as a format in a text is read as the same format in a value. -/
theorem transfers_format : Transfers VideoFormat.record.decode := by
  refine transfers_record ?_
  simp only [VideoFormat.record, List.forall_mem_cons, List.not_mem_nil, false_implies,
    implies_true, and_true]
  exact ⟨((transfers_fixed transfers_byte 4).map _).map _, transfers_word.map _,
    transfers_word.map _, transfers_word.map _, transfers_word.map _, transfers_word.map _,
    transfers_word.map _, (transfers_variant _).map _, transfers_ratio.map _⟩

/-! ## The value -/

theorem floatless_format (f : VideoFormat) : (VideoFormat.record.toValue f).Floatless := by
  have chroma : f.chroma.toValue.Floatless := by
    refine .array fun v listed => ?_
    obtain ⟨b, -, rfl⟩ := List.mem_map.mp listed
    exact .integer _
  have sar : (Ratio.record.toValue f.sar).Floatless := by
    refine floatless_record ?_
    simp only [Ratio.record, List.forall_mem_cons, List.not_mem_nil, false_implies, implies_true,
      and_true]
    exact ⟨.integer _, .integer _⟩
  refine floatless_record ?_
  simp only [VideoFormat.record, List.forall_mem_cons, List.not_mem_nil, false_implies,
    implies_true, and_true]
  exact ⟨chroma, .integer _, .integer _, .integer _, .integer _, .integer _, .integer _,
    .string _, sar⟩

/-- A format comes back from whatever tells it, and its text does. -/
theorem restores_format (f : VideoFormat) :
    Restores VideoFormat.record.decode (VideoFormat.record.toValue f) f where
  recovers := recovers_format f
  floatless := floatless_format f
  -- The layout and the aspect stand in brackets of their own, inside those of the format.
  shallow := show 2 ≤ depthLimit by decide

/-! ## The law -/

/-- A format comes back from its text; from the text of every arrangement of its members, and from
every other text that tells it, with blanks and escapes wherever they may stand; and from its fields
if they are set, in any order, as the options of a configuration that had none. So no two formats
have one text. -/
theorem formats_come_back (f : VideoFormat) :
    decodeText VideoFormat.record.decode (VideoFormat.record.toValue f).text = .ok f ∧
      (∀ v : Value, v.Rearranges (VideoFormat.record.toValue f) →
        decodeText VideoFormat.record.decode v.text = .ok f) ∧
      (∀ (before after : Gap) (form : Form), form.Tells (VideoFormat.record.toValue f) →
        decodeText VideoFormat.record.decode (spaced before form after) = .ok f) ∧
      (∀ (s : SplitSettings) (order : List (String × Value)), s.options = [] →
        (Value.object order).Rearranges (VideoFormat.record.toValue f) →
          (s.setOptions order).optionsAs VideoFormat.record.decode = .ok f) ∧
      ∀ g : VideoFormat,
        (VideoFormat.record.toValue g).text = (VideoFormat.record.toValue f).text → g = f := by
  have read (g : VideoFormat) := (restores_format g).decodeText_text (.refl _)
  refine ⟨read f, fun v => (restores_format f).decodeText_text, fun before after form tells => ?_,
    fun s order empty rearranges => ?_, fun g same => ?_⟩
  · exact (restores_format f).decodeText_spaced tells before after
  · exact (restores_format f).optionsAs_setOptions transfers_format (map_fst_entries ▸ by decide)
      rearranges empty
  · have readF := read f
    rw [← same, read g] at readF
    exact Except.ok.inj readF

/-- A format with nothing but extremes: a quote and a backslash among the bytes of its layout, the
largest size there is, and an aspect of zero to zero. -/
def extreme : VideoFormat where
  chroma := ⟨0, 255, 34, 92⟩
  width := 4294967295
  height := 0
  xOffset := 4294967295
  yOffset := 1
  visibleWidth := 0
  visibleHeight := 10
  orientation := .rightBottom
  sar := ⟨0, 0⟩

/-- Its members backwards, those of the aspect as well. -/
def backwards : List (String × Value) :=
  [("sar", .object [("den", .nat 0), ("num", .nat 0)]), ("orientation", .string "RightBottom"),
    ("visible_height", .nat 10), ("visible_width", .nat 0), ("y_offset", .nat 1),
    ("x_offset", .nat 4294967295), ("height", .nat 0), ("width", .nat 4294967295),
    ("chroma", .array [.nat 0, .nat 255, .nat 34, .nat 92])]

theorem backwards_rearranges :
    (Value.object backwards).Rearranges (VideoFormat.record.toValue extreme) := by
  let entries := VideoFormat.record.fields.map fun field => (field.name, field.write extreme)
  have aspect : (Value.object [("den", .nat 0), ("num", .nat 0)]).Rearranges
      (Ratio.record.toValue extreme.sar) := .members (.swap _ _ _)
  have inner : (Value.object backwards).Rearranges (.object entries.reverse) :=
    @Value.Rearranges.member [] backwards.tail "sar" _ _ aspect
  exact .trans inner (.members entries.reverse_perm)

theorem extreme_comes_back :
    decodeText VideoFormat.record.decode (Value.object backwards).text = .ok extreme ∧
      (SplitSettings.standard.setOptions backwards).optionsAs VideoFormat.record.decode =
        .ok extreme := by
  obtain ⟨-, read, -, set, -⟩ := formats_come_back extreme
  exact ⟨read _ backwards_rearranges, set _ _ rfl backwards_rearranges⟩

end Mosaic
