import Mosaic.Fault
import Mosaic.Format

/-!
# Pictures and the holds on them

A picture is an immutable value. Its serial tells apart pictures that are equal
in every other respect, and its buffer names the pixels, which a view shares with
the picture it looks into.

Who holds a picture is kept apart from the picture, in a `Ledger`: one entry for
each hold. A picture's hold count is the number of its entries, so taking and
dropping a hold add and remove one entry.

## Main definitions

* `Picture.SameAs`, `Picture.SharesPixels` — two pictures are one, or show one buffer
* `Ledger.holds` — the number of holds on a picture
* `Ledger.retain`, `Ledger.release` — take or drop a hold
* `Ledger.record`, `Ledger.view` — a new picture, over new pixels or over those of another
-/

set_option autoImplicit false

namespace Mosaic

/-- A presentation time in microseconds. -/
abbrev Tick := Int64

/-- The bytes of a buffer. A blank buffer is known by its length alone. -/
inductive Pixels where
  | blank (length : Nat)
  | bytes (content : List UInt8)
deriving DecidableEq, Repr

namespace Pixels

/-- The number of bytes. -/
def length : Pixels → Nat
  | blank n => n
  | bytes content => content.length

/-- The sum of the bytes. -/
def sum : Pixels → Nat
  | blank _ => 0
  | bytes content => content.foldl (fun total byte => total + byte.toNat) 0

/-- The first bytes, at most `n` of them. -/
def take (n : Nat) : Pixels → List UInt8
  | blank length => List.replicate (min n length) 0
  | bytes content => content.take n

end Pixels

/-- A position inside a buffer, in source pixels. -/
structure Origin where
  x : UInt32
  y : UInt32
deriving DecidableEq, Repr

/-- The origin of every buffer. -/
def Origin.zero : Origin := ⟨0, 0⟩

/-- The position at an offset from another, or a fault if a component is no word. -/
def Origin.shift (base offset : Origin) : Except Fault Origin := do
  let x ← addWords base.x offset.x
  let y ← addWords base.y offset.y
  return ⟨x, y⟩

/-- A decoded picture, or a view into one. -/
structure Picture where
  serial : Nat
  /-- The serial of the picture that brought the pixels in. -/
  buffer : Nat
  pixels : Pixels
  format : VideoFormat
  date : Tick
  origin : Origin
deriving DecidableEq, Repr

namespace Picture

/-- Whether two pictures are one and the same. -/
def SameAs (p q : Picture) : Prop := p.serial = q.serial

/-- Whether two pictures show the same buffer. -/
def SharesPixels (p q : Picture) : Prop := p.buffer = q.buffer

instance (p q : Picture) : Decidable (p.SameAs q) := inferInstanceAs (Decidable (_ = _))

instance (p q : Picture) : Decidable (p.SharesPixels q) := inferInstanceAs (Decidable (_ = _))

/-- The length of a blank buffer with four bytes for each stored pixel. -/
def blankLength (f : VideoFormat) : Except Fault Nat :=
  let length := f.width.toNat * f.height.toNat * 4
  if 0x10000000000000000 ≤ length then .error .multiplyOverflow
  else if 0x8000000000000000 ≤ length then .error .capacityOverflow
  else .ok length

end Picture

/-- One blended element of an overlay. -/
structure OverlayRegion where
  x : Int32
  y : Int32
  alpha : UInt8
  picture : Picture
deriving DecidableEq, Repr

/-- What is blended on top of a picture, bottom element first. -/
abbrev Overlay := List OverlayRegion

/-- The pictures issued so far and the holds on them: one entry for each hold. -/
structure Ledger where
  next : Nat
  live : List Nat
deriving DecidableEq, Repr

namespace Ledger

/-- No picture was issued yet. -/
def empty : Ledger := ⟨0, []⟩

/-- The number of holds on a picture. -/
def holds (l : Ledger) (p : Picture) : Nat := l.live.count p.serial

/-- Takes one more hold on a picture. -/
def retain (l : Ledger) (p : Picture) : Ledger := { l with live := p.serial :: l.live }

/-- Drops one hold on a picture. -/
def release (l : Ledger) (p : Picture) : Ledger := { l with live := l.live.erase p.serial }

/-- Drops one hold on each of several pictures. -/
def releaseAll (l : Ledger) (ps : List Picture) : Ledger := ps.foldl release l

/-- A new picture over pixels of its own, held once. -/
def record (l : Ledger) (format : VideoFormat) (date : Tick) (pixels : Pixels) :
    Picture × Ledger :=
  (⟨l.next, l.next, pixels, format, date, .zero⟩, ⟨l.next + 1, l.next :: l.live⟩)

/-- A new picture at a known place inside the pixels of another, held once. -/
def place (l : Ledger) (base : Picture) (format : VideoFormat) (origin : Origin) :
    Picture × Ledger :=
  (⟨l.next, base.buffer, base.pixels, format, base.date, origin⟩, ⟨l.next + 1, l.next :: l.live⟩)

/-- A new picture over the pixels of another, its origin given in the coordinates of that one. -/
def view (l : Ledger) (base : Picture) (format : VideoFormat) (offset : Origin) :
    Except Fault (Picture × Ledger) :=
  (base.origin.shift offset).map (l.place base format)

/-- Several views into one picture, nothing where none is asked for. -/
def views (l : Ledger) (base : Picture) :
    List (Option (VideoFormat × Origin)) → Except Fault (List (Option Picture) × Ledger)
  | [] => .ok ([], l)
  | none :: rest => do
    let (ps, l) ← l.views base rest
    return (none :: ps, l)
  | some (format, offset) :: rest => do
    let (p, l) ← l.view base format offset
    let (ps, l) ← l.views base rest
    return (some p :: ps, l)

@[simp] theorem holds_retain_self (l : Ledger) (p : Picture) :
    (l.retain p).holds p = l.holds p + 1 := by
  simp [retain, holds]

@[simp] theorem holds_release_self (l : Ledger) (p : Picture) :
    (l.release p).holds p = l.holds p - 1 := by
  simp [release, holds]

theorem holds_retain (l : Ledger) (p q : Picture) :
    (l.retain p).holds q = l.holds q + if p.serial = q.serial then 1 else 0 := by
  simp [retain, holds, List.count_cons]

/-- Dropping a hold that was just taken restores the ledger. -/
@[simp] theorem release_retain (l : Ledger) (p : Picture) : (l.retain p).release p = l := by
  simp [retain, release]

end Ledger

end Mosaic
