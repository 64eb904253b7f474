import Mosaic.Picture

/-!
# Pictures on request

A rehearsal makes pictures from what it is told about them. What they show is of no
interest, so they have no pixels.
-/

set_option autoImplicit false

namespace Mosaic

/-- A picture without pixels of its own, or a view into one. -/
structure PictureRequest where
  format : VideoFormat
  date : Tick
  /-- The origin of the view, if it is to be one. -/
  origin : Option Origin
deriving DecidableEq, Repr

/-- An overlay element to be made. -/
structure OverlayRequest where
  x : Int32
  y : Int32
  alpha : UInt8
  picture : PictureRequest
deriving DecidableEq, Repr

/-- Makes a picture, held once. -/
def Ledger.make (l : Ledger) (r : PictureRequest) : Picture × Ledger :=
  let (base, l) := l.record r.format r.date (.blank 0)
  match r.origin with
  | none => (base, l)
  | some origin =>
    let (picture, l) := l.place base r.format origin
    (picture, l.release base)

/-- Makes the elements of an overlay, each picture held once. -/
def Ledger.makeOverlay (l : Ledger) : List OverlayRequest → Overlay × Ledger
  | [] => ([], l)
  | r :: rest =>
    let (picture, l) := l.make r.picture
    let (overlay, l) := l.makeOverlay rest
    (⟨r.x, r.y, r.alpha, picture⟩ :: overlay, l)

/-- The pictures of an overlay. -/
def Overlay.pictures (overlay : Overlay) : List Picture := overlay.map OverlayRegion.picture

end Mosaic
