import CellScreen.Font.Face
import CellScreen.Geometry
import CellScreen.Number.Shortest

/-! Fonts as a display sees them: a family and a size give the size of a cell. -/
namespace CellScreen

open Number (Single)

structure Font where
  family : String
  size : Single
deriving DecidableEq, Repr

inductive FontError where
  | unknownFamily (family : String)
  | invalidSize (size : Single) (dpi : Nat)
  | unreadable (fault : FaceFault)
  | missingFile
deriving DecidableEq, Repr

def FontError.message : FontError → String
  | .unknownFamily family => s!"Unknown font family: {family}"
  | .invalidSize size dpi => s!"Invalid font size {size.message} at {dpi} dpi"
  | .unreadable fault => s!"Font parse error: {fault.message}"
  | .missingFile => "Font IO error"

abbrev FontSource := Font → Nat → Except FontError CellMetrics

namespace Font

def pixelSize (font : Font) (dpi : Nat) : Single :=
  font.size * Single.ofNat dpi / Single.ofNat 72

def checkedPixelSize (font : Font) (dpi : Nat) : Except FontError Single :=
  let size := font.pixelSize dpi
  if size.isFinite && size.isPositive then .ok size else .error (.invalidSize font.size dpi)

end Font

def pixelsOver (length : Single) : Nat := length.ceil.toWord

def positivePixels (length : Single) : Nat := max (pixelsOver length) 1

def marginMillimeters : Single := Single.ofNat 2

def maxCharColumns : Nat := 2

def millimetersToPixels (length : Single) (dpi : Nat) : Nat :=
  (length * Single.ofNat dpi / Single.ofRatio false 254 10).toWord

end CellScreen
