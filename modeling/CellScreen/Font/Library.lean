import CellScreen.Font.Basic
import CellScreen.Text.Lowercase

/-! Font families held in memory. Family names count in lower case, and registering a family
again replaces it. -/
namespace CellScreen

open Number (Single)

structure FontLibrary where
  families : List (String × Face)
deriving DecidableEq, Repr

namespace FontLibrary

def empty : FontLibrary := ⟨[]⟩

def find? (library : FontLibrary) (family : String) : Option Face :=
  library.families.lookup (Text.lowercase family)

def contains (library : FontLibrary) (family : String) : Bool := (library.find? family).isSome

def size (library : FontLibrary) : Nat := library.families.length

def insert (library : FontLibrary) (family : String) (face : Face) : FontLibrary :=
  let key := Text.lowercase family
  ⟨(key, face) :: library.families.filter fun (other, _) => other != key⟩

def register (library : FontLibrary) (family : String) (face : Except FaceFault Face) :
    Except FontError FontLibrary :=
  match face with
  | .ok face => .ok (library.insert family face)
  | .error fault => .error (.unreadable fault)

def load (library : FontLibrary) (family : String) (file : Option (Except FaceFault Face)) :
    Except FontError FontLibrary :=
  match file with
  | some face => library.register family face
  | none => .error .missingFile

def cellOf (face : Face) (size : Single) : CellMetrics :=
  let scale := size / Single.ofNat face.unitsPerEm
  { width := positivePixels (scale * Single.ofNat (face.advance 'M'))
    height := positivePixels (Single.ofInt face.lineHeight * scale)
    ascent := pixelsOver (Single.ofInt face.line.ascender * scale) }

def source (library : FontLibrary) : FontSource := fun font dpi =>
  match library.find? font.family with
  | none => .error (.unknownFamily font.family)
  | some face => do return cellOf face (← font.checkedPixelSize dpi)

end FontLibrary
end CellScreen
