import CellScreen.Font.Basic
import CellScreen.Text.Lowercase

/-! Fonts without files: the cells of a family stand in fixed proportions to the pixel size. -/
namespace CellScreen

open Number (Single)

def builtInFamilies (more : List String) : List String :=
  "monospace" :: more.map Text.lowercase

def proportionalCell (size : Single) : CellMetrics :=
  let scaled := fun (tenths : Nat) => positivePixels (size * Single.ofRatio false tenths 10)
  { width := scaled 6, height := scaled 12, ascent := scaled 9 }

def proportionalFonts (families : List String) : FontSource := fun font dpi =>
  if families.contains (Text.lowercase font.family) then do
    return proportionalCell (← font.checkedPixelSize dpi)
  else .error (.unknownFamily font.family)

end CellScreen
