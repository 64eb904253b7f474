import Mosaic.Cause
import Mosaic.Text.Quoted

/-!
# Failures of opening and control

`OpenError` says why no compositor came to be, and `DisplayError` why a display
did not follow a control query. Both know their words (`message`) and the chain
behind them.
-/

set_option autoImplicit false

namespace Mosaic

/-- The steps of setting a region up, in their order. -/
inductive RegionStage where
  | window
  | enable
  | display
deriving DecidableEq, Repr

/-- The name of a step inside messages. -/
def RegionStage.text : RegionStage → String
  | window => "window"
  | enable => "window enable"
  | display => "display"

/-- Why a compositor could not be opened. -/
inductive OpenError where
  | moduleNotFound (name : String)
  | algorithmFailed (name : String) (source : Cause)
  | regionFailed (index : Nat) (stage : RegionStage) (source : Cause)
  /-- No memory for something. Memory is taken to be there when a compositor is opened here, so
  opening never ends with it; it is only among what a failure can say. -/
  | allocationFailed (what : String)
deriving DecidableEq, Repr

namespace OpenError

/-- The words for a failure to open. -/
def message : OpenError → String
  | moduleNotFound name => s!"no video splitter module named {Text.quote name}"
  | algorithmFailed name source =>
    s!"video splitter {Text.quote name} failed to initialize: {source.message}"
  | regionFailed index stage source =>
    s!"region {index}: {stage.text} creation failed: {source.message}"
  | allocationFailed what => s!"cannot allocate {what}"

/-- What lies behind a failure to open, if anything. -/
def source? : OpenError → Option Cause
  | moduleNotFound _ => none
  | algorithmFailed _ source => some source
  | regionFailed _ _ source => some source
  | allocationFailed _ => none

/-- The failure as a chain: its own words, then what lies behind it. -/
def toCause (e : OpenError) : Cause :=
  match e.source? with
  | none => .ofMessage e.message
  | some source => source.within e.message

end OpenError

/-- Why a display did not follow a control query. -/
inductive DisplayError where
  | unsupported (code : Int32)
  | failed (source : Cause)
deriving DecidableEq, Repr

/-- The words for a query that was not followed. -/
def DisplayError.message : DisplayError → String
  | unsupported code => s!"unsupported control query {code}"
  | failed source => source.message

end Mosaic
