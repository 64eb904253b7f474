import Mosaic.Notice
import Mosaic.Pattern.Text

/-!
# Choosing what is heard

Every notice belongs to a topic, and topics have paths. A filter is written as a
list of directives, separated by commas: a level for all topics, a path for
everything below it, or a path and a level. Of the directives whose path a topic
starts with, the longest decides. A pattern after a slash must occur in the message.

## Main definitions

* `Notice.topic` — the path of a notice
* `NoticeFilter.ofText` — the filter that a text describes, with what it complains about
* `NoticeFilter.hears` — whether a notice is heard
-/

set_option autoImplicit false

namespace Mosaic

/-- The path of what a notice is about. -/
def Notice.topic : Notice → String
  | noModule _ | usingModule _ | initializeFailed _ _ | noOutputs _ | openFailed _ | opened _ _ _
  | regionInactive _ | regionReady _ _ _ | regionWithout _ _ _ | filterFailed _ _
  | surplusPictures _ _ | displaySize _ | acknowledged _ | unsupported _ | mouseDropped _
  | regionReported _ _ | noParent _ | released _ => "vidsplit::compositor"
  | regionResized _ _ _ | displayDestroyed _ | windowDestroyed _ => "vidsplit::compositor::region"
  | resizeIgnored _ | compositorGone _ _ | receiverGone _ => "vidsplit::window::owner"
  | sizeNotApplied _ _ => "vidsplit::display::driver"
  | displayOpened _ _ _ | displayPrepared _ _ _ _ | displayShown _ _ | displayResized _ _ _
  | displayClosed _ _ => "vidsplit::display::drivers::headless"
  | displayReady _ | windowEnabled _ _ _ _ | windowDisabled _ => "vidsplit::window::headless"
  | settingsFailed _ => "vidsplit::config"
  | starting | streaming _ _ _ | noWindows | parentReceived _ | regionSummary _ _ _ | finished =>
    "vidsplit"

/-- How much is heard: everything up to a level, or nothing. -/
abbrev Loudness := Option Level

namespace Loudness

/-- Whether a level is heard. -/
def hears (most : Loudness) (level : Level) : Bool := most.any fun most => most.hears level

/-- The name of a loudness. -/
def name : Loudness → String
  | none => "OFF"
  | some level => level.name

/-- The loudness with a name, in whatever case the name is written. -/
def ofName? (s : String) : Option Loudness :=
  (none :: Level.all.map some).find? fun l => name l = s.map Char.toUpper

end Loudness

/-- The parts of a text between the occurrences of a mark. -/
def parts (mark : Char) (s : String) : List String :=
  (Text.cutAt mark s.toList).map String.ofList

/-- A text without the blanks at its two ends. -/
def trimmed (s : String) : String := String.ofList (Text.trim s.toList)

/-- How loud the topics below a path are; without a path, all topics. -/
structure Directive where
  path : Option String
  loudness : Loudness
deriving DecidableEq, Repr

namespace Directive

/-- Whether a directive is about a topic. -/
def covers (d : Directive) (topic : String) : Bool := d.path.all fun path => path.isPrefixOf topic

/-- How specific a directive is. -/
def weight (d : Directive) : Nat := d.path.elim 0 String.utf8ByteSize

/-- Reads one directive, or says what is wrong with it. -/
def ofText (s : String) : Except String Directive :=
  match parts '=' s with
  | [path] =>
    match Loudness.ofName? path with
    | some loudness => .ok ⟨none, loudness⟩
    | none => .ok ⟨some path, some .trace⟩
  | [path, level] =>
    let level := trimmed level
    if level.isEmpty then .ok ⟨some path, some .trace⟩
    else
      match Loudness.ofName? level with
      | some loudness => .ok ⟨some path, loudness⟩
      | none => .error s!"invalid logging spec '{level}'"
  | _ => .error s!"invalid logging spec '{s}'"

end Directive

/-- Chooses among notices. -/
structure NoticeFilter where
  directives : List Directive
  /-- What must occur in the message. -/
  pattern : Pattern
deriving DecidableEq, Repr

namespace NoticeFilter

/-- Everything up to one level. -/
def upTo (level : Level) : NoticeFilter := ⟨[⟨none, some level⟩], .empty⟩

/-- Adds a directive, in the place of one for the same path. -/
def put (directives : List Directive) (d : Directive) : List Directive :=
  if directives.any fun e => e.path = d.path then
    directives.map fun e => if e.path = d.path then d else e
  else directives ++ [d]

/-- The directive that decides about a topic: of those that cover it the most specific one, and
of equally specific ones the last. -/
def deciding? (f : NoticeFilter) (topic : String) : Option Directive :=
  (f.directives.filter fun d => d.covers topic).foldl
    (fun best d =>
      match best with
      | none => some d
      | some b => if b.weight ≤ d.weight then some d else best)
    none

/-- Whether a notice is heard. -/
def hears (f : NoticeFilter) (n : Notice) : Bool :=
  (f.deciding? n.topic).any (fun d => d.loudness.hears n.level) &&
    f.pattern.occursIn n.message

/-- The filter of some directives; without any, errors alone are heard. -/
def ofDirectives (directives : List Directive) (pattern : Pattern) : NoticeFilter :=
  if directives.isEmpty then ⟨[⟨none, some .error⟩], pattern⟩
  else ⟨directives.foldl put [], pattern⟩

/-- The pattern that a text describes, and what is wrong with it; a bad pattern is left out. -/
def readPattern (text : String) : Pattern × List String :=
  match Pattern.ofText text with
  | .ok pattern => (pattern, [])
  | .error defect => (.empty, [s!"invalid regex filter - {defect.message text}"])

/-- The filter that a text describes, and what is wrong with the parts that were left out. -/
def ofText (s : String) : NoticeFilter × List String :=
  match parts '/' s with
  | [] => (ofDirectives [] .empty, [])
  | list :: rest =>
    if rest.length ≤ 1 then
      let read := (((parts ',' list).map trimmed).filter fun part => !part.isEmpty).map
        Directive.ofText
      let directives := read.filterMap Except.toOption
      let complaints := read.filterMap fun
        | .error complaint => some complaint
        | .ok _ => none
      let (pattern, troubles) := readPattern (rest.headD "")
      (ofDirectives directives pattern, complaints ++ troubles)
    else (ofDirectives [] .empty, [s!"invalid logging spec '{s}' (too many '/'s)"])

end NoticeFilter

end Mosaic
