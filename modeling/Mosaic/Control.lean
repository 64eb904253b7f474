import Mosaic.Placement

/-!
# Control queries

A control query tells a display that its configuration changed. Each query has a
code; a code that no query has is carried along as unknown.
-/

set_option autoImplicit false

namespace Mosaic

/-- A change of a display's configuration. -/
inductive ControlQuery where
  | displaySize (size : Size)
  | sourceAspect
  | sourceCrop
  | sourcePlace
  | unknown (code : Int32)
deriving DecidableEq, Repr

namespace ControlQuery

/-- The query with a code. The size belongs to a change of the display size alone. -/
def ofCode (code : Int32) (size : Size) : ControlQuery :=
  if code = 1 then displaySize size
  else if code = 2 then sourceAspect
  else if code = 3 then sourceCrop
  else if code = 4 then sourcePlace
  else unknown code

/-- The code of a query. -/
def code : ControlQuery → Int32
  | displaySize _ => 1
  | sourceAspect => 2
  | sourceCrop => 3
  | sourcePlace => 4
  | unknown code => code

/-- The size that a query carries, if it is a change of the display size. -/
def size? : ControlQuery → Option Size
  | displaySize size => some size
  | _ => none

/-- The form in which a query is shown. -/
def inspect : ControlQuery → String
  | displaySize size => s!"DisplaySize({size.inspect})"
  | sourceAspect => "SourceAspect"
  | sourceCrop => "SourceCrop"
  | sourcePlace => "SourcePlace"
  | unknown code => s!"Unknown({code})"

/-- Every code survives the way to a query and back. -/
theorem code_ofCode (code : Int32) (size : Size) : (ofCode code size).code = code := by
  unfold ofCode
  split
  · simp [ControlQuery.code, *]
  split
  · simp [ControlQuery.code, *]
  split
  · simp [ControlQuery.code, *]
  split <;> simp [ControlQuery.code, *]

end ControlQuery

end Mosaic
