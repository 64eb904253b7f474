import Mosaic.Text.Blank
import Mosaic.Text.Hex

/-!
# Mouse buttons and sets of them

A set of buttons is a byte with one bit for each of five buttons. Bits without a
button may be set too; they are kept, and shown as one number.

The text form names the buttons of a set with bars between them and ends with the
remaining bits in base sixteen. `ButtonMask.ofText?` reads it back, with blanks
allowed around every part.
-/

set_option autoImplicit false

namespace Mosaic

/-- The buttons of a mouse. -/
inductive MouseButton where
  | left
  | middle
  | right
  | wheelUp
  | wheelDown
deriving DecidableEq, Repr

/-- A set of mouse buttons, one bit each. -/
structure ButtonMask where
  bits : UInt8
deriving DecidableEq, Repr

namespace MouseButton

/-- Every button, in the order of the bits. -/
def all : List MouseButton := [left, middle, right, wheelUp, wheelDown]

/-- The name used in messages. -/
def name : MouseButton → String
  | left => "Left"
  | middle => "Middle"
  | right => "Right"
  | wheelUp => "WheelUp"
  | wheelDown => "WheelDown"

/-- The name used in the text form of a set. -/
def flag : MouseButton → String
  | left => "LEFT"
  | middle => "MIDDLE"
  | right => "RIGHT"
  | wheelUp => "WHEEL_UP"
  | wheelDown => "WHEEL_DOWN"

/-- The set that holds this button alone. -/
def mask : MouseButton → ButtonMask
  | left => ⟨1⟩
  | middle => ⟨2⟩
  | right => ⟨4⟩
  | wheelUp => ⟨8⟩
  | wheelDown => ⟨16⟩

theorem mem_all (b : MouseButton) : b ∈ all := by cases b <;> decide

end MouseButton

namespace ButtonMask

/-- No button. -/
def empty : ButtonMask := ⟨0⟩

/-- Every button. -/
def all : ButtonMask := ⟨31⟩

/-- The bits of either set. -/
def union (m n : ButtonMask) : ButtonMask := ⟨m.bits ||| n.bits⟩

/-- The bits of one set that another lacks. -/
def difference (m n : ButtonMask) : ButtonMask := ⟨m.bits &&& ~~~n.bits⟩

/-- Whether a set has every bit of another. -/
def includes (m n : ButtonMask) : Bool := m.bits &&& n.bits == n.bits

/-- Whether a button is in a set. -/
def contains (m : ButtonMask) (b : MouseButton) : Bool := m.includes b.mask

/-- The bits that stand for a button. -/
def truncate (m : ButtonMask) : ButtonMask := ⟨m.bits &&& all.bits⟩

/-- The buttons that are not in a set. -/
def complement (m : ButtonMask) : ButtonMask := truncate ⟨~~~m.bits⟩

/-- The set of the buttons in a list. -/
def ofList (buttons : List MouseButton) : ButtonMask :=
  buttons.foldl (fun m b => m.union b.mask) empty

/-- The buttons of a set, in the order of the bits. -/
def toList (m : ButtonMask) : List MouseButton := MouseButton.all.filter m.contains

/-- The bits that stand for no button. -/
def rest (m : ButtonMask) : ButtonMask := m.difference all

/-- A number in base sixteen with its mark. -/
def hexText (n : UInt8) : String := "0x" ++ String.ofList (Nat.toDigits 16 n.toNat)

/-- The parts of the text form: the names, then the remaining bits if there are any. -/
def parts (m : ButtonMask) : List String :=
  m.toList.map MouseButton.flag ++ if m.rest.bits = 0 then [] else [hexText m.rest.bits]

/-- The text form. -/
def text (m : ButtonMask) : String := " | ".intercalate m.parts

/-- The form in which a set is inspected: as its text, the empty set as the number zero. -/
def inspect (m : ButtonMask) : String :=
  let shown := if m.bits = 0 then hexText 0 else m.text
  s!"ButtonMask({shown})"

/-- Why a text is no set of buttons. -/
inductive ReadFault where
  | emptyFlag
  | invalidHexFlag
  | unknownFlag
deriving DecidableEq, Repr

/-- The words for a text that is no set of buttons. -/
def ReadFault.message : ReadFault → String
  | emptyFlag => "encountered empty flag"
  | invalidHexFlag => "invalid hex flag"
  | unknownFlag => "unrecognized named flag"

/-- A byte in base sixteen: at least one digit, a plus sign allowed in front. -/
def hexByte? (cs : List Char) : Option UInt8 :=
  let digits := if cs.head? = some '+' then cs.tail else cs
  if digits.isEmpty then none
  else (Text.hexValue? digits).bind fun n => if n < 256 then some (UInt8.ofNat n) else none

/-- One part of the text form, without the blanks around it. -/
def ofPart (part : List Char) : Except ReadFault ButtonMask :=
  if part.isEmpty then .error .emptyFlag
  else if part.take 2 = ['0', 'x'] then
    match hexByte? (part.drop 2) with
    | some bits => .ok ⟨bits⟩
    | none => .error .invalidHexFlag
  else
    match MouseButton.all.find? fun b => b.flag.toList = part with
    | some b => .ok b.mask
    | none => .error .unknownFlag

/-- Reads the text form; a blank text is the empty set. -/
def ofText? (s : String) : Except ReadFault ButtonMask :=
  if (Text.trim s.toList).isEmpty then .ok empty
  else
    (Text.cutAt '|' s.toList).foldlM (fun m part => (ofPart (Text.trim part)).map m.union) empty

end ButtonMask

end Mosaic
