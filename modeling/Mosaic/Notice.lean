import Mosaic.Control
import Mosaic.Failure
import Mosaic.Input
import Mosaic.Partition.Registry
import Mosaic.Picture

/-!
# Notices

What the program says about its own doings. Every notice is a value, and says at
what level and in which words it is shown, so who listens may choose by level.
-/

set_option autoImplicit false

namespace Mosaic

/-- How much a notice matters, the gravest first. -/
inductive Level where
  | error
  | warn
  | info
  | debug
  | trace
deriving DecidableEq, Repr

namespace Level

/-- Every level, the gravest first. -/
def all : List Level := [error, warn, info, debug, trace]

/-- The name in front of a notice. -/
def name : Level → String
  | error => "ERROR"
  | warn => "WARN"
  | info => "INFO"
  | debug => "DEBUG"
  | trace => "TRACE"

/-- The place of a level among all. -/
def rank : Level → Nat
  | error => 1
  | warn => 2
  | info => 3
  | debug => 4
  | trace => 5

/-- Whether a listener up to one level hears another. -/
def hears (most level : Level) : Bool := level.rank ≤ most.rank

end Level

/-- Everything that is said, by compositors first, then regions and the endpoints of their
windows, then headless windows and displays, and at last the program around them. -/
inductive Notice where
  | noModule (name : String)
  | usingModule (name : String)
  | initializeFailed (name : String) (cause : Cause)
  | noOutputs (name : String)
  | openFailed (error : OpenError)
  | opened (name : String) (count : Nat) (source : VideoFormat)
  | regionInactive (index : Nat)
  | regionReady (index : Nat) (module : String) (size : Size)
  | regionWithout (index : Nat) (stage : RegionStage) (cause : Cause)
  | filterFailed (date : Tick) (cause : Cause)
  | surplusPictures (pictures regions : Nat)
  | displaySize (size : Size)
  | acknowledged (query : ControlQuery)
  | unsupported (code : Int32)
  | mouseDropped (index : Nat)
  | regionReported (index : Nat) (event : InputEvent)
  | noParent (event : InputEvent)
  | released (name : String)
  | regionResized (index : Nat) (size : Size) (forwarded : Bool)
  | displayDestroyed (index : Nat)
  | windowDestroyed (index : Nat)
  | resizeIgnored (index : Nat)
  | compositorGone (index : Nat) (event : InputEvent)
  | receiverGone (event : InputEvent)
  | sizeNotApplied (size : Size) (error : DisplayError)
  | displayOpened (name : String) (format : VideoFormat) (size : Size)
  | displayPrepared (name : String) (visible : Size) (date : Tick) (overlays : Nat)
  | displayShown (name : String) (date : Option Tick)
  | displayResized (name : String) (before after : Size)
  | displayClosed (name : String) (frames : Nat)
  | displayReady (index : Nat)
  | windowEnabled (index : Nat) (x y : Int32) (size : Size)
  | windowDisabled (index : Nat)
  | settingsFailed (cause : Cause)
  | starting
  | streaming (source : VideoFormat) (algorithm : String) (frames : UInt32)
  | noWindows
  | parentReceived (event : InputEvent)
  | regionSummary (index prepared displayed : Nat)
  | finished
deriving DecidableEq

namespace Notice

/-- How much a notice matters. -/
def level : Notice → Level
  | noModule _ | initializeFailed _ _ | openFailed _ | unsupported _ | settingsFailed _ => .error
  | noOutputs _ | regionWithout _ _ _ | filterFailed _ _ | surplusPictures _ _ | noWindows => .warn
  | usingModule _ | opened _ _ _ | displaySize _ | released _ | displayOpened _ _ _
  | displayClosed _ _ | displayReady _ | starting | streaming _ _ _ | parentReceived _
  | regionSummary _ _ _ | finished => .info
  | regionInactive _ | regionReady _ _ _ | acknowledged _ | regionReported _ _
  | displayDestroyed _ | windowDestroyed _ | sizeNotApplied _ _ | displayResized _ _ _
  | windowEnabled _ _ _ _ | windowDisabled _ => .debug
  | mouseDropped _ | noParent _ | regionResized _ _ _ | resizeIgnored _ | compositorGone _ _
  | receiverGone _ | displayPrepared _ _ _ _ | displayShown _ _ => .trace

/-- The form in which a time that may be missing is shown. -/
def dateText : Option Tick → String
  | none => "None"
  | some date => s!"Some({date})"

/-- The words of a notice. -/
def message : Notice → String
  | noModule name => s!"Compositor: no {capability} module named {Text.quote name}"
  | usingModule name => s!"Compositor: using {capability} module {Text.quote name}"
  | initializeFailed name cause =>
    s!"Compositor: {Text.quote name} failed to initialize: {cause.chain}"
  | noOutputs name =>
    s!"Compositor: {Text.quote name} declares no outputs, nothing will be shown"
  | openFailed error => s!"Compositor: open failed: {error.message}"
  | opened name count source =>
    s!"Compositor: {Text.quote name} ready with {count} regions for {source.text}"
  | regionInactive index => s!"Compositor: region {index} inactive, no window or display"
  | regionReady index module size =>
    s!"Compositor: region {index} ready, {Text.quote module} at {size.text}"
  | regionWithout index stage cause =>
    s!"Compositor: region {index} {stage.text} failed, continuing without output: {cause.chain}"
  | filterFailed date cause =>
    s!"Compositor: filter failed, frame {date} not shown: {cause.chain}"
  | surplusPictures pictures regions =>
    s!"Compositor: filter produced {pictures} pictures for {regions} regions"
  | displaySize size => s!"Compositor: display size {size.text}"
  | acknowledged query => s!"Compositor: {query.inspect} acknowledged"
  | unsupported code => s!"Compositor: unsupported control query {code}"
  | mouseDropped index => s!"Compositor: mouse event from region {index} dropped"
  | regionReported index event => s!"Compositor: region {index} reported {event.inspect}"
  | noParent event => s!"Compositor: no parent window for {event.inspect}"
  | released name => s!"Compositor: released {capability} module {Text.quote name}"
  | regionResized index size forwarded =>
    s!"Region {index}: size {size.text} (display: {forwarded})"
  | displayDestroyed index => s!"Region {index}: display destroyed"
  | windowDestroyed index => s!"Region {index}: window destroyed"
  | resizeIgnored index => s!"WindowOwner {index}: resize after close ignored"
  | compositorGone index event =>
    s!"WindowOwner {index}: compositor gone, dropping {event.inspect}"
  | receiverGone event => s!"ParentWindow: receiver gone, dropping {event.inspect}"
  | sizeNotApplied size error =>
    s!"DisplayDriver: resize to {size.text} not applied: {error.message}"
  | displayOpened name format size =>
    s!"HeadlessDisplayDriver[{name}]: open {format.text} on {size.text}"
  | displayPrepared name visible date overlays =>
    s!"HeadlessDisplayDriver[{name}]: prepare {visible.text} at {date} ({overlays} overlay regions)"
  | displayShown name date => s!"HeadlessDisplayDriver[{name}]: display (date {dateText date})"
  | displayResized name before after =>
    s!"HeadlessDisplayDriver[{name}]: resize {before.text} -> {after.text}"
  | displayClosed name frames => s!"HeadlessDisplayDriver[{name}]: close after {frames} frames"
  | displayReady index => s!"HeadlessFactory: display for region {index} ready"
  | windowEnabled index x y size => s!"HeadlessWindow {index}: enabled {size.text}+{x}+{y}"
  | windowDisabled index => s!"HeadlessWindow {index}: disabled"
  | settingsFailed cause => s!"Config: {cause.chain}; using defaults"
  | starting => "Starting vidsplit..."
  | streaming source algorithm frames =>
    s!"Source {source.text}, algorithm {Text.quote algorithm}, {frames} frames"
  | noWindows => "No region windows, skipping input simulation"
  | parentReceived event => s!"Parent window received {event.inspect}"
  | regionSummary index prepared displayed =>
    s!"Region {index}: {prepared} prepared, {displayed} displayed"
  | finished => "vidsplit finished."

/-- A notice as one line: its level and its words. -/
def line (n : Notice) : String := s!"{n.level.name} {n.message}"

end Notice

end Mosaic
