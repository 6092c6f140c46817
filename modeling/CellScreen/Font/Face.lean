import CellScreen.Font.CharacterMap

/-! Font faces: the tables of a font that give the advance of a character and the height of a
line, all in font units. -/
namespace CellScreen

inductive FaceFault where
  | outOfBounds
  | unknownMagic
  | noSuchFace
  | noHead
  | noHorizontalHeader
  | noMaximumProfile
  | glyphOutOfRange
deriving DecidableEq, Repr

def FaceFault.message : FaceFault → String
  | .outOfBounds => "An attempt to read out of bounds detected."
  | .unknownMagic =>
    "Face data must start with 0x00010000, 0x74727565, 0x4F54544F or 0x74746366."
  | .noSuchFace => "The face index is larger than the number of faces in the font."
  | .noHead => "The head table is missing or malformed."
  | .noHorizontalHeader => "The hhea table is missing or malformed."
  | .noMaximumProfile => "The maxp table is missing or malformed."
  | .glyphOutOfRange => "Attempted to map a codepoint out of bounds."

structure LineMeasures where
  ascender : Int
  descender : Int
  lineGap : Int
deriving DecidableEq, Repr

structure LayoutMeasures where
  preferred : Bool
  line : LineMeasures
  top : Int
  bottom : Int
deriving DecidableEq, Repr

namespace LineMeasures

def firstNonzero (values : List Int) : Int := (values.find? (· != 0)).getD 0

/-- The measures of a font that has layout measures too: these where they are preferred or where
a measure of its own is zero. -/
def refine (line : LineMeasures) (layout : LayoutMeasures) : LineMeasures :=
  if layout.preferred then layout.line
  else
    { ascender := firstNonzero [line.ascender, layout.line.ascender, layout.top]
      descender := firstNonzero [line.descender, layout.line.descender, layout.bottom]
      lineGap :=
        if line.ascender = 0 ∨ line.descender = 0 then layout.line.lineGap else line.lineGap }

end LineMeasures

structure FaceTables where
  unitsPerEm : Option Nat
  line : Option LineMeasures
  glyphCount : Option Nat
  advances : List Nat
  maps : List CharacterMap
  layout : Option LayoutMeasures := none
  replacements : List Nat := []
deriving DecidableEq, Repr

structure Face where
  unitsPerEm : Nat
  line : LineMeasures
  advances : List Nat
  maps : List CharacterMap
deriving DecidableEq, Repr

def FaceTables.glyphs (tables : FaceTables) : List Nat :=
  tables.maps.flatMap CharacterMap.glyphs ++ tables.replacements

namespace Face

def ofTables (tables : FaceTables) : Except FaceFault Face :=
  match tables.unitsPerEm, tables.line, tables.glyphCount with
  | none, _, _ => .error .noHead
  | some unitsPerEm, line, glyphCount =>
    if unitsPerEm < 16 ∨ 16384 < unitsPerEm then .error .noHead
    else match line, glyphCount with
      | none, _ => .error .noHorizontalHeader
      | _, none => .error .noMaximumProfile
      | some line, some count =>
        if count = 0 then .error .noMaximumProfile
        else if tables.glyphs.any (count ≤ ·) then .error .glyphOutOfRange
        else .ok {
          unitsPerEm
          line := (tables.layout.map line.refine).getD line
          advances := tables.advances
          maps := tables.maps }

def glyphOf (face : Face) (c : Char) : Nat :=
  (face.maps.reverse.findSome? (·.glyph? c.toNat)).getD 0

def advance (face : Face) (c : Char) : Nat :=
  (face.advances[face.glyphOf c]?).getD (face.advances.getLastD 0)

def lineHeight (face : Face) : Int :=
  face.line.ascender - face.line.descender + face.line.lineGap

end Face
end CellScreen
