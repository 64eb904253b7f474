import Mosaic.Compositor.Operation
import Mosaic.Headless
import Mosaic.Notice.Filter
import Mosaic.Partition.Builtin
import Mosaic.Settings.File

/-!
# The demonstration

The demonstration sends a stream of blank pictures through a compositor with
headless windows and displays and then says what every region got. Halfway through
it acts as a user: it resizes the first window, changes the display size and clicks
in the last window.

`Demo.run` gives everything that is to be shown, line by line, and the exit code.

## Main definitions

* `Demo.frames` — the stream
* `Demo.play` — the demonstration as an action
* `Demo.run` — its report
-/

set_option autoImplicit false

namespace Mosaic.Demo

open Act

/-- An action of the compositor of the demonstration. -/
abbrev Move (α : Type) := Act Unit Notice Builtin HeadlessWindow HeadlessDisplay α

/-- Those the compositor of the demonstration works with. -/
def crew : Crew Unit Notice Builtin HeadlessWindow HeadlessDisplay :=
  ⟨Builtin.partitioner, headless⟩

/-- The time of a frame, or a fault if it is no time. -/
def frameDate (n : Nat) (interval : Int64) : Except Fault Tick :=
  let date := n * interval.toInt
  if -0x8000000000000000 ≤ date ∧ date < 0x8000000000000000 then .ok (Int64.ofInt date)
  else .error .multiplyOverflow

/-- What the user does in the first and the last window. -/
def interlude (first last : Nat) : List Compositor.Operation :=
  let pointer (event : MouseEvent) := Compositor.Operation.report last (.input (.mouse event))
  [.report first (.resized ⟨640, 360⟩), .control (.displaySize ⟨1280, 720⟩),
    pointer (.moved 10 10), pointer (.pressed .left), pointer (.released .left)]

/-- What the user does in the middle of the stream. -/
def simulateInput : Move Unit := do
  let shown := (← compositor).regions.filter fun region => region.window.isSome
  match shown.head?, shown.getLast? with
  | some first, some last => Compositor.performAll crew (interlude first.index last.index)
  | _, _ => say .noWindows

/-- Sends one blank picture through the compositor. -/
def frame (source : VideoFormat) (settings : DemoSettings) (n : Nat) : Move Unit := do
  -- The time comes before the picture, so of two faults that of the time shows.
  let date ← onWorld (Run.attempt (frameDate n settings.interval))
  let length ← onWorld (Run.attempt (Picture.blankLength source))
  let picture ← onWorld (Run.onLedger fun l => l.record source date (.blank length))
  Compositor.performAll crew [.prepare picture none date, .display]
  if n = settings.frames.toNat / 2 then simulateInput
  release (some picture)

/-- Sends so many pictures from one on through the compositor. -/
def frames (source : VideoFormat) (settings : DemoSettings) : Nat → Nat → Move Unit
  | 0, _ => pure ()
  | count + 1, n => do
    frame source settings n
    frames source settings count (n + 1)

/-- Says several things. -/
def sayAll : List Notice → Move Unit
  | [] => pure ()
  | notice :: rest => do
    say notice
    sayAll rest

/-- What the parent received. -/
def receipts (c : Compositor Builtin HeadlessWindow HeadlessDisplay) : List Notice :=
  (c.parent.elim [] ParentWindow.received).map .parentReceived

/-- What each display counted. -/
def summaries (c : Compositor Builtin HeadlessWindow HeadlessDisplay) : List Notice :=
  c.regions.filterMap fun region =>
    region.display.map fun d => .regionSummary region.index d.prepared d.displayed

/-- The whole demonstration once its compositor is open. -/
def play (source : VideoFormat) (settings : DemoSettings) : Move Unit := do
  frames source settings settings.frames.toNat 0
  let _ ← Compositor.drain crew
  let c ← compositor
  sayAll (receipts c)
  sayAll (summaries c)
  Compositor.close crew
  say .finished

/-! ## What is shown -/

/-- What a demonstration shows, in order. -/
inductive Line where
  | notice (n : Notice)
  | text (s : String)

/-- What a demonstration leaves behind. -/
structure Report where
  exitCode : UInt32
  lines : List Line

/-- The notices of a trace in order of time. -/
def notices (w : World Unit (Happening Notice)) : List Line :=
  w.history.filterMap fun
    | .said notice => some (.notice notice)
    | .inside notice => some (.notice notice)
    | _ => none

/-- Messages under one another, each line of theirs behind a margin and the first line behind a
head. -/
def indented (head margin message : String) : List Line :=
  match message.splitOn "\n" with
  | [] => []
  | first :: rest => .text (head ++ first) :: rest.map fun line => .text (margin ++ line)

/-- A failure with its causes, numbered if there are several. -/
def failure (context : String) (cause : Cause) : List Line :=
  [.text s!"Error: {context}", .text "", .text "Caused by:"] ++
    match cause.toList with
    | [message] => indented "    " "    " message
    | messages =>
      (messages.zipIdx.map fun (message, i) =>
        indented (String.ofList ("    ".toList.drop ((toString i).length - 1)) ++ s!"{i}: ")
          "       " message).flatten

/-- A fault in the middle. -/
def breakdown (fault : Fault) : List Line := [.text "", .text fault.message]

/-- The source of the demonstration. -/
def source (settings : DemoSettings) : VideoFormat :=
  .whole .i420 settings.width settings.height

/-- What is said before the compositor is opened. -/
def introduction (settings : Settings) (trouble : Option Cause) : List Line :=
  [Line.notice .starting] ++
    trouble.toList.map (fun cause => Line.notice (.settingsFailed cause)) ++
    [Line.notice (.streaming (source settings.demo) settings.splitter.algorithmName
      settings.demo.frames)]

/-- The report on a demonstration with an open compositor. A fault closes the compositor. -/
def reportOn (settings : Settings) (c : Compositor Builtin HeadlessWindow HeadlessDisplay)
    (w : World Unit (Happening Notice)) : Report :=
  match play (source settings.demo) settings.demo ⟨c, w⟩ with
  | .ok _ s => ⟨0, notices s.world⟩
  | .error fault s =>
    let before := notices s.world
    -- What was said before the fault is shown already: only the closing is still to be told.
    let closing := Compositor.close crew { s with world := { s.world with trace := [] } }
    let after := match closing with
      | .ok _ s => notices s.world
      | .error _ s => notices s.world
    ⟨101, before ++ breakdown fault ++ after⟩

/-- The report on a demonstration with some settings, and with what was wrong with their file. -/
def run (settings : Settings) (trouble : Option Cause) : Report :=
  let opening := Compositor.open crew Builtin.registry settings.splitter (source settings.demo)
    (some .fresh) ⟨(), .empty, []⟩
  let report : Report :=
    match opening with
    | .error fault w => ⟨101, notices w ++ breakdown fault⟩
    | .ok (.error e) w => ⟨1, notices w ++ failure "Failed to open the compositor" e.toCause⟩
    | .ok (.ok c) w => reportOn settings c w
  { report with lines := introduction settings trouble ++ report.lines }

/-- The lines of a report that a filter lets pass, first what is wrong with the filter. A notice
of several lines has its later ones set in. -/
def Report.text (report : Report) (listening : NoticeFilter × List String) : List String :=
  (listening.2.flatMap fun complaint => s!"warning: {complaint}, ignoring it".splitOn "\n") ++
    report.lines.flatMap fun
      | .text s => [s]
      | .notice n =>
        if listening.1.hears n then
          match n.line.splitOn "\n" with
          | [] => []
          | first :: rest => first :: rest.map fun line => "    " ++ line
        else []

end Mosaic.Demo
