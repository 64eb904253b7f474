import Mosaic.Crew

/-!
# Headless windows and displays

A headless display shows nothing. It remembers its size and the time of the last
picture, counts the pictures it was asked to prepare and to show, and says what it
is asked to do. A headless window has no surface; it only knows whether it is shown.

Both work in any environment, so the backend made of them fits every compositor.

## Main definitions

* `HeadlessDisplay`, `HeadlessWindow` — the states
* `HeadlessDisplay.modules` — the names under which headless displays are asked for
* `headless` — the backend that makes and drives them
-/

set_option autoImplicit false

namespace Mosaic

/-- A display that shows nothing and counts what it would have shown. -/
structure HeadlessDisplay where
  name : String
  format : VideoFormat
  size : Size
  /-- The time of the last picture prepared. -/
  lastDate : Option Tick
  prepared : Nat
  displayed : Nat
deriving DecidableEq

/-- A window without a surface. -/
structure HeadlessWindow where
  /-- The region the window belongs to. -/
  index : Nat
  settings : WindowSettings
  enabled : Bool
deriving DecidableEq

variable {σ : Type}

namespace HeadlessDisplay

/-- The names under which headless displays are asked for. -/
def modules : List String := ["", "headless", "dummy"]

/-- A new display. -/
def create (name : String) (format : VideoFormat) (size : Size) :
    Run σ Notice HeadlessDisplay := do
  Run.record (.displayOpened name format size)
  return ⟨name, format, size, none, 0, 0⟩

/-- Takes a picture for a time. -/
def prepare (d : HeadlessDisplay) (picture : Picture) (overlay : Option Overlay) (date : Tick) :
    Run σ Notice HeadlessDisplay := do
  let visible : Size := ⟨picture.format.visibleWidth, picture.format.visibleHeight⟩
  Run.record (.displayPrepared d.name visible date (overlay.elim 0 List.length))
  return { d with lastDate := some date, prepared := d.prepared + 1 }

/-- Shows what was prepared. -/
def display (d : HeadlessDisplay) : Run σ Notice HeadlessDisplay := do
  Run.record (.displayShown d.name d.lastDate)
  return { d with displayed := d.displayed + 1 }

/-- Follows a control query: a new size is taken, a change of the source needs nothing. -/
def control (d : HeadlessDisplay) (query : ControlQuery) :
    Run σ Notice (Except DisplayError Unit × HeadlessDisplay) := do
  match query with
  | .displaySize size =>
    Run.record (.displayResized d.name d.size size)
    return (.ok (), { d with size := size })
  | .unknown code => return (.error (.unsupported code), d)
  | .sourceAspect | .sourceCrop | .sourcePlace => return (.ok (), d)

/-- Ends the display. -/
def close (d : HeadlessDisplay) : Run σ Notice HeadlessDisplay := do
  Run.record (.displayClosed d.name d.displayed)
  return d

/-- The display that a region asks for, if it is a headless one. -/
def request (r : DisplayRequest) : Run σ Notice (Except Cause HeadlessDisplay) := do
  if modules.contains r.module then
    let d ← create s!"{r.module}#{r.index}" r.format r.window.size
    Run.record (.displayReady r.index)
    return .ok d
  else return .error (.ofMessage s!"no display module named {Text.quote r.module}")

end HeadlessDisplay

namespace HeadlessWindow

/-- A new window. -/
def create (index : Nat) (settings : WindowSettings) : HeadlessWindow := ⟨index, settings, false⟩

/-- Shows the window. -/
def enable (w : HeadlessWindow) (settings : WindowSettings) : Run σ Notice HeadlessWindow := do
  Run.record (.windowEnabled w.index settings.x settings.y settings.size)
  return { w with settings := settings, enabled := true }

/-- Hides the window. -/
def disable (w : HeadlessWindow) : Run σ Notice HeadlessWindow := do
  Run.record (.windowDisabled w.index)
  return { w with enabled := false }

end HeadlessWindow

/-- Headless windows, which report nothing by themselves, and headless displays. -/
def headless : Backend σ Notice HeadlessWindow HeadlessDisplay where
  opening _ _ _ := []
  showing _ _ _ := []
  newWindow index settings := return .ok (.create index settings)
  enable window settings := do return (.ok (), ← window.enable settings)
  disable window := window.disable
  dropWindow _ := return
  newDisplay _ request := HeadlessDisplay.request request
  prepare display picture overlay date := display.prepare picture overlay date
  display display _ := display.display
  control display query := display.control query
  close display := display.close
  dropDisplay _ := return

end Mosaic
