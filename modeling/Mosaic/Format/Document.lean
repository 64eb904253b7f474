import Mosaic.Format
import Mosaic.Json.Record

/-!
# Formats in documents

How formats and their parts are read and written: a layout as an array of four
bytes, an orientation by its name, ratios and formats as complete records.
-/

set_option autoImplicit false

namespace Mosaic

open Json

/-- A layout in a document. -/
def Chroma.decode : Decoder Chroma := fun route node =>
  (fixed 4 byte route node).map Chroma.ofList

/-- A layout as a value. -/
def Chroma.toValue (c : Chroma) : Value := .list (fun b => .nat b.toNat) c.toList

/-- A number of pixels as a value. -/
def wordValue (n : UInt32) : Value := .nat n.toNat

/-- A field that holds a number of pixels. -/
def wordField {α : Type} (name : String) (get : α → UInt32) (put : UInt32 → α → α) :
    RecordField α :=
  .of name word get put wordValue

/-- The names of the orientations in documents. -/
def Orientation.known : List (String × Orientation) :=
  Orientation.all.map fun o => (o.name, o)

/-- Ratios in documents. -/
def Ratio.record : Record Ratio where
  title := "Rational"
  initial := .one
  complete := true
  fields := [
    wordField "num" Ratio.num fun n r => { r with num := n },
    wordField "den" Ratio.den fun n r => { r with den := n }]

/-- Formats in documents. -/
def VideoFormat.record : Record VideoFormat where
  title := "VideoFormat"
  initial := .whole .i420 0 0
  complete := true
  fields := [
    .of "chroma" Chroma.decode VideoFormat.chroma (fun c f => { f with chroma := c })
      Chroma.toValue,
    wordField "width" VideoFormat.width fun n f => { f with width := n },
    wordField "height" VideoFormat.height fun n f => { f with height := n },
    wordField "x_offset" VideoFormat.xOffset fun n f => { f with xOffset := n },
    wordField "y_offset" VideoFormat.yOffset fun n f => { f with yOffset := n },
    wordField "visible_width" VideoFormat.visibleWidth fun n f => { f with visibleWidth := n },
    wordField "visible_height" VideoFormat.visibleHeight fun n f => { f with visibleHeight := n },
    .of "orientation" (variant Orientation.known) VideoFormat.orientation
      (fun o f => { f with orientation := o }) (fun o => .string o.name),
    .of "sar" Ratio.record.decode VideoFormat.sar (fun r f => { f with sar := r })
      Ratio.record.toValue]

end Mosaic
