import Mosaic.Json.Refusal
import Mosaic.Text.Hex

/-!
# Scanning strings and numbers

A string or a number may be read, or skipped because nobody wants it. Skipping is
more lenient: it does not ask whether escaped surrogates pair up or whether a
number is in range. So a scan gives two results: what reading yields, and where a
skip ends. Whatever can be read can be skipped, and the two end at the same place.

## Main definitions

* `scanString` — the rest of a string after its opening quote
* `scanNumber` — a number, its value rounded where it is no integer of the range
-/

set_option autoImplicit false

namespace Mosaic.Json

/-- The result of a scan: what reading yields, and where a skip ends. -/
structure Scanned (α : Type) where
  value : Except Malformed α
  rest : Except Malformed (List Char)

/-- The blanks between the parts of a document. -/
def isGap (c : Char) : Bool := c = ' ' || c = '\n' || c = '\t' || c = '\r'

/-- A text without the blanks in front of it. -/
def skipGaps (cs : List Char) : List Char := cs.dropWhile isGap

/-! ## Strings -/

/-- A part of a string: a character, or a unit given by four digits in base sixteen. -/
inductive Piece where
  | char (c : Char)
  | unit (n : Nat)
deriving DecidableEq

/-- How a string ends: at its closing quote, or broken off. The flag tells whether it broke
off at a point where a unit could still have been meant. -/
inductive StringEnd where
  | closed (rest : List Char)
  | broken (fault : Malformed) (inUnit : Bool)
deriving DecidableEq

/-- The value of four digits in base sixteen. -/
def unit? (a b c d : Char) : Option Nat := Text.hexValue? [a, b, c, d]

/-- The character that a letter after a backslash stands for. -/
def unescape? (c : Char) : Option Char :=
  if c = '"' then some '"'
  else if c = '\\' then some '\\'
  else if c = '/' then some '/'
  else if c = 'b' then some '\x08'
  else if c = 'f' then some '\x0c'
  else if c = 'n' then some '\n'
  else if c = 'r' then some '\r'
  else if c = 't' then some '\t'
  else none

/-- The number of bytes that hold a text. -/
def byteLength (cs : List Char) : Nat := cs.foldl (fun total c => total + c.utf8Size) 0

/-- The pieces of a string after its opening quote, and how it ends. -/
def pieces : List Char → List Piece × StringEnd
  | [] => ([], .broken .endInString true)
  | c :: rest =>
    if c = '"' then ([], .closed rest)
    else if c = '\\' then
      match rest with
      | [] => ([], .broken .endInString true)
      | e :: rest =>
        if e = 'u' then
          match rest with
          | a :: b :: c :: d :: rest =>
            match unit? a b c d with
            | some n =>
              let (more, ending) := pieces rest
              (.unit n :: more, ending)
            | none => ([], .broken .invalidEscape true)
          | short =>
            if byteLength short < 4 then ([], .broken .endInString true)
            else ([], .broken .invalidEscape true)
        else
          match unescape? e with
          | some plain =>
            let (more, ending) := pieces rest
            (.char plain :: more, ending)
          | none => ([], .broken .invalidEscape false)
    else if c.toNat < 0x20 then ([], .broken .controlCharacter false)
    else
      let (more, ending) := pieces rest
      (.char c :: more, ending)

/-- Whether a unit opens a pair of surrogates. -/
def opensPair (n : Nat) : Bool := 0xd800 ≤ n && n ≤ 0xdbff

/-- Whether a unit closes a pair of surrogates. -/
def closesPair (n : Nat) : Bool := 0xdc00 ≤ n && n ≤ 0xdfff

/-- Joins pieces into characters; surrogates have to come in pairs. -/
def join (ending : StringEnd) : List Piece → Except Malformed (List Char)
  | [] =>
    match ending with
    | .closed _ => .ok []
    | .broken fault _ => .error fault
  | .char c :: rest => (join ending rest).map (c :: ·)
  | .unit n :: rest =>
    if closesPair n then .error .loneSurrogate
    else if opensPair n then
      match rest with
      | .unit m :: rest =>
        if closesPair m then
          (join ending rest).map
            (Char.ofNat (0x10000 + (n - 0xd800) * 0x400 + (m - 0xdc00)) :: ·)
        else .error .loneSurrogate
      | .char _ :: _ => .error .brokenSurrogate
      | [] =>
        match ending with
        | .broken fault true => .error fault
        | _ => .error .brokenSurrogate
    else (join ending rest).map (Char.ofNat n :: ·)

/-- The rest of a string after its opening quote. -/
def scanString (cs : List Char) : Scanned String :=
  let (parts, ending) := pieces cs
  { value := (join ending parts).map String.ofList
    rest :=
      match ending with
      | .closed rest => .ok rest
      | .broken fault _ => .error fault }

/-! ## Numbers -/

/-- The parts of a number as written: sign, digits before and after the point, and the
exponent with its sign. -/
structure Numeral where
  negative : Bool
  whole : List Char
  fraction : List Char
  exponent : Option (Bool × List Char)
deriving DecidableEq

/-- The value of a digit. -/
def digitValue (c : Char) : Nat := c.toNat - '0'.toNat

/-- The value of a row of digits. -/
def digitsValue (ds : List Char) : Nat := ds.foldl (fun n d => 10 * n + digitValue d) 0

/-- The digits at the start of a text, at least one of them, and what follows. -/
def digits1 (cs : List Char) : Except Malformed (List Char × List Char) :=
  match cs with
  | [] => .error .endInValue
  | c :: _ =>
    if c.isDigit then .ok (cs.takeWhile Char.isDigit, cs.dropWhile Char.isDigit)
    else .error .invalidNumber

/-- The exponent of a number, if one follows. -/
def scanExponent (cs : List Char) :
    Except Malformed (Option (Bool × List Char) × List Char) :=
  match cs with
  | c :: rest =>
    if c = 'e' ∨ c = 'E' then
      let (negative, unsigned) :=
        match rest with
        | '+' :: rest => (false, rest)
        | '-' :: rest => (true, rest)
        | rest => (false, rest)
      (digits1 unsigned).map fun (ds, rest) => (some (negative, ds), rest)
    else .ok (none, cs)
  | [] => .ok (none, [])

/-- The digits after the point of a number, if one follows. -/
def scanFraction (cs : List Char) : Except Malformed (List Char × List Char) :=
  match cs with
  | '.' :: rest => digits1 rest
  | cs => .ok ([], cs)

/-- The parts of a number. A zero in front of other digits is refused. -/
def scanNumeral (cs : List Char) : Except Malformed (Numeral × List Char) := do
  let (negative, unsigned) :=
    match cs with
    | '-' :: rest => (true, rest)
    | cs => (false, cs)
  let (whole, rest) ← digits1 unsigned
  if whole.head? = some '0' ∧ whole.length ≠ 1 then throw .invalidNumber
  let (fraction, rest) ← scanFraction rest
  let (exponent, rest) ← scanExponent rest
  return (⟨negative, whole, fraction, exponent⟩, rest)

/-- Appends digits to a number as long as it fits into sixty-four bits, and gives those
that are left. -/
def grow (n : Nat) : List Char → Nat × List Char
  | [] => (n, [])
  | d :: ds =>
    if 0x10000000000000000 ≤ n * 10 + digitValue d then (n, d :: ds)
    else grow (n * 10 + digitValue d) ds

/-- The double nearest to a power of ten. -/
def powerOfTen (n : Nat) : Float := Float.ofScientific 1 false n

/-- Scales a double by a power of ten in steps of at most three hundred and eight places,
rounding after each. Nothing if the result is too large. -/
def scale : Nat → Float → Int → Option Float
  | 0, f, _ => some f
  | steps + 1, f, exponent =>
    if exponent.natAbs ≤ 308 then
      if 0 ≤ exponent then
        let scaled := f * powerOfTen exponent.natAbs
        if scaled.isInf then none else some scaled
      else some (f / powerOfTen exponent.natAbs)
    else if f == 0 then some f
    else if 0 ≤ exponent then none
    else scale steps (f / powerOfTen 308) (exponent + 308)

/-- A double from a significand and a power of ten, with a sign. -/
def floatOf (negative : Bool) (significand : Nat) (exponent : Int) : Except Malformed Number :=
  match scale 4 (UInt64.ofNat significand).toFloat exponent with
  | some f => .ok (.float (if negative then -f else f).toBits)
  | none => .error .numberOutOfRange

/-- The value of an integer without point and exponent. Zero with a minus sign, and what
does not fit into a signed or unsigned word, is a double. -/
def integerOf (negative : Bool) (n : Nat) : Except Malformed Number :=
  if negative then
    if h : 0 < n ∧ n ≤ 0x8000000000000000 then .ok (.integer ⟨-n, by omega, by omega⟩)
    else floatOf true n 0
  else if h : n < 0x10000000000000000 then .ok (.integer ⟨n, by omega, by omega⟩)
  else floatOf false n 0

/-- The value of a number as written. The significand takes as many digits as fit; those
left before the point count as powers of ten, those left after it are dropped. -/
def Numeral.value (n : Numeral) : Except Malformed Number :=
  let (whole, left) := grow 0 n.whole
  if n.fraction = [] ∧ n.exponent = none ∧ left = [] then integerOf n.negative whole
  else
    let (significand, dropped) := grow whole n.fraction
    let start : Int := left.length - (n.fraction.length - dropped.length : Nat)
    match n.exponent with
    | none => floatOf n.negative significand start
    | some (down, ds) =>
      let exponent := digitsValue ds
      if 0x80000000 ≤ exponent then
        if significand ≠ 0 ∧ !down then .error .numberOutOfRange
        else .ok (.float (if n.negative then (-0.0 : Float) else 0.0).toBits)
      else floatOf n.negative significand (if down then start - exponent else start + exponent)

/-- A number at the start of a text. A skip reports every fault of form alike. -/
def scanNumber (cs : List Char) : Scanned Number :=
  match scanNumeral cs with
  | .ok (numeral, rest) => ⟨numeral.value, .ok rest⟩
  | .error fault => ⟨.error fault, .error .invalidNumber⟩

end Mosaic.Json
