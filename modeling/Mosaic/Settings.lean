import Mosaic.Buttons
import Mosaic.Cause
import Mosaic.Format.Document
import Mosaic.Placement

/-!
# Settings

What a configuration document can set, with the value each setting has when the
document is silent about it. Every record here may be given in part.

## Main definitions

* `WindowSettings`, `SplitSettings`, `DemoSettings`, `Settings` — the records
* `Settings.record` and its parts — how they are read and written
* `SplitSettings.algorithmName` — the algorithm that is asked for
* `SplitSettings.optionsAs` — the free options read as some type
-/

set_option autoImplicit false

namespace Mosaic

open Json

/-- Placement and decoration of a window. -/
structure WindowSettings where
  x : Int32
  y : Int32
  width : UInt32
  height : UInt32
  decorated : Bool
  fullscreen : Bool
deriving DecidableEq, Repr

/-- A decorated window at the origin; its size is left open. -/
def WindowSettings.plain : WindowSettings := ⟨0, 0, 0, 0, true, false⟩

/-- The same window with a size. -/
def WindowSettings.resize (w : WindowSettings) (size : Size) : WindowSettings :=
  { w with width := size.width, height := size.height }

/-- The size of a window. -/
def WindowSettings.size (w : WindowSettings) : Size := ⟨w.width, w.height⟩

/-- What to do when the window or display of one region cannot be created. -/
inductive FailurePolicy where
  /-- Take everything back and open nothing. -/
  | abort
  /-- Leave that region without output and carry on. -/
  | tolerate
deriving DecidableEq, Repr

/-- The name of a policy in documents. -/
def FailurePolicy.name : FailurePolicy → String
  | abort => "abort"
  | tolerate => "tolerate"

/-- The names of the policies in documents. -/
def FailurePolicy.known : List (String × FailurePolicy) :=
  [abort, tolerate].map fun p => (p.name, p)

/-- How a stream is split and shown. -/
structure SplitSettings where
  /-- The algorithm asked for, if any. -/
  algorithm : Option String
  /-- The algorithm used when none, or an empty name, is asked for. -/
  defaultAlgorithm : String
  regionFailure : FailurePolicy
  placement : Placement
  /-- Decoration of every region window; position and size are set for each. -/
  window : WindowSettings
  /-- Settings of the algorithm, sorted by name. -/
  options : List (String × Value)

/-- The demonstration stream. -/
structure DemoSettings where
  width : UInt32
  height : UInt32
  frames : UInt32
  /-- Microseconds between two frames. -/
  interval : Int64
deriving DecidableEq, Repr

/-- A whole configuration. -/
structure Settings where
  splitter : SplitSettings
  demo : DemoSettings

namespace SplitSettings

/-- A wall, opened as the source wants it. -/
def standard : SplitSettings where
  algorithm := none
  defaultAlgorithm := "wall"
  regionFailure := .abort
  placement := .free
  window := .plain
  options := []

/-- The standard settings with an algorithm asked for. -/
def withAlgorithm (name : String) : SplitSettings := { standard with algorithm := some name }

/-- The algorithm to use: the one asked for, unless it has no name. -/
def algorithmName (s : SplitSettings) : String :=
  match s.algorithm with
  | some name => if name.isEmpty then s.defaultAlgorithm else name
  | none => s.defaultAlgorithm

/-- Sets one option of the algorithm. -/
def setOption (s : SplitSettings) (key : String) (value : Value) : SplitSettings :=
  { s with options := Ordered.put key value s.options }

end SplitSettings

/-- A hundred and twenty full-size frames, forty milliseconds apart. -/
def DemoSettings.standard : DemoSettings := ⟨1920, 1080, 120, 40000⟩

/-- The configuration of a silent document. -/
def Settings.standard : Settings := ⟨.standard, .standard⟩

/-! ## Settings in documents -/

/-- Placements in documents. -/
def Placement.record : Record Placement where
  title := "DisplayPlacement"
  initial := .free
  complete := false
  fields := [
    wordField "width" Placement.width fun n p => { p with width := n },
    wordField "height" Placement.height fun n p => { p with height := n },
    .of "zoom" Ratio.record.decode Placement.zoom (fun z p => { p with zoom := z })
      Ratio.record.toValue]

/-- Window settings in documents. -/
def WindowSettings.record : Record WindowSettings where
  title := "WindowConfig"
  initial := .plain
  complete := false
  fields := [
    .of "x" coordinate WindowSettings.x (fun n w => { w with x := n }) (fun n => .int n.toInt),
    .of "y" coordinate WindowSettings.y (fun n w => { w with y := n }) (fun n => .int n.toInt),
    wordField "width" WindowSettings.width fun n w => { w with width := n },
    wordField "height" WindowSettings.height fun n w => { w with height := n },
    .of "decorated" flag WindowSettings.decorated (fun b w => { w with decorated := b }) .bool,
    .of "fullscreen" flag WindowSettings.fullscreen (fun b w => { w with fullscreen := b }) .bool]

/-- Split settings in documents. -/
def SplitSettings.record : Record SplitSettings where
  title := "SplitterConfig"
  initial := .standard
  complete := false
  fields := [
    .of "algorithm" (option text) SplitSettings.algorithm (fun a s => { s with algorithm := a })
      (.option .string),
    .of "default_algorithm" text SplitSettings.defaultAlgorithm
      (fun a s => { s with defaultAlgorithm := a }) .string,
    .of "region_failure" (variant FailurePolicy.known) SplitSettings.regionFailure
      (fun p s => { s with regionFailure := p }) (fun p => .string p.name),
    .of "placement" Placement.record.decode SplitSettings.placement
      (fun p s => { s with placement := p }) Placement.record.toValue,
    .of "window" WindowSettings.record.decode SplitSettings.window
      (fun w s => { s with window := w }) WindowSettings.record.toValue,
    .of "options" (table anything) SplitSettings.options (fun o s => { s with options := o })
      .object]

/-- Demonstration settings in documents. -/
def DemoSettings.record : Record DemoSettings where
  title := "DemoConfig"
  initial := .standard
  complete := false
  fields := [
    wordField "width" DemoSettings.width fun n d => { d with width := n },
    wordField "height" DemoSettings.height fun n d => { d with height := n },
    wordField "frames" DemoSettings.frames fun n d => { d with frames := n },
    .of "frame_interval_us" duration DemoSettings.interval (fun n d => { d with interval := n })
      (fun n => .int n.toInt)]

/-- Whole configurations in documents. -/
def Settings.record : Record Settings where
  title := "Config"
  initial := .standard
  complete := false
  fields := [
    .of "splitter" SplitSettings.record.decode Settings.splitter
      (fun s c => { c with splitter := s }) SplitSettings.record.toValue,
    .of "demo" DemoSettings.record.decode Settings.demo (fun d c => { c with demo := d })
      DemoSettings.record.toValue]

/-- A set of buttons in a document, by its text form. -/
def ButtonMask.decode : Decoder ButtonMask :=
  meaning "a string value of `|` separated flags" fun s =>
    (ButtonMask.ofText? s).mapError ButtonMask.ReadFault.message

/-- The configuration that a text holds. -/
def Settings.ofText (source : String) : Except Refusal Settings :=
  decodeText Settings.record.decode source

/-- The options of the algorithm read as some type. -/
def SplitSettings.decodeOptions {α : Type} (s : SplitSettings) (read : Decoder α) :
    Except Refusal α :=
  decodeValue read (.object s.options)

/-- What is wrong with the options of an algorithm. -/
def optionsCause (refusal : Refusal) : Cause :=
  (Cause.ofMessage refusal.message).within "Invalid video splitter options"

/-- The options of the algorithm read as some type, a refusal told as a cause. -/
def SplitSettings.optionsAs {α : Type} (s : SplitSettings) (read : Decoder α) : Except Cause α :=
  (s.decodeOptions read).mapError optionsCause

end Mosaic
