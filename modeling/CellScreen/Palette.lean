import CellScreen.Color

/-! The palette: 256 colors that can be replaced one by one and restored together. -/
namespace CellScreen

def standardColors : List Rgb := [
  ⟨0, 0, 0⟩, ⟨205, 0, 0⟩, ⟨0, 205, 0⟩, ⟨205, 205, 0⟩,
  ⟨0, 0, 238⟩, ⟨205, 0, 205⟩, ⟨0, 205, 205⟩, ⟨229, 229, 229⟩,
  ⟨127, 127, 127⟩, ⟨255, 0, 0⟩, ⟨0, 255, 0⟩, ⟨255, 255, 0⟩,
  ⟨92, 92, 255⟩, ⟨255, 0, 255⟩, ⟨0, 255, 255⟩, ⟨255, 255, 255⟩]

def cubeComponent (step : Nat) : UInt8 := if step = 0 then 0 else UInt8.ofNat (55 + step * 40)

def initialColor (index : UInt8) : Rgb :=
  let n := index.toNat
  if n < 16 then standardColors.getD n .black
  else if n < 232 then
    let step := n - 16
    ⟨cubeComponent (step / 36), cubeComponent (step / 6 % 6), cubeComponent (step % 6)⟩
  else
    let gray := UInt8.ofNat (8 + (n - 232) * 10)
    ⟨gray, gray, gray⟩

structure ColorTable where
  entries : Vector Rgb 256
deriving DecidableEq

namespace ColorTable

def initial : ColorTable := ⟨.ofFn fun i => initialColor (UInt8.ofNat i)⟩

def get (table : ColorTable) (index : UInt8) : Rgb :=
  have inside : index.toNat < 256 := index.toNat_lt
  table.entries[index.toNat]

def set (table : ColorTable) (index : UInt8) (color : Rgb) : ColorTable :=
  ⟨table.entries.set index.toNat color index.toNat_lt⟩

def toList (table : ColorTable) : List Rgb := table.entries.toList

theorem get_set (table : ColorTable) (index other : UInt8) (color : Rgb) :
    (table.set index color).get other = if index = other then color else table.get other := by
  simp [get, set, Vector.getElem_set, UInt8.toNat_inj]

theorem get_initial (index : UInt8) : initial.get index = initialColor index := by
  simp [get, initial]

end ColorTable

inductive PaletteError where
  | invalidIndex (index : Int)
deriving DecidableEq, Repr

def PaletteError.message : PaletteError → String
  | .invalidIndex index => s!"palette index {index} out of range (0-255)"

def paletteIndex (index : Int) : Except PaletteError UInt8 :=
  if 0 ≤ index ∧ index < 256 then .ok (UInt8.ofNat index.toNat) else .error (.invalidIndex index)

structure Palette where
  colors : ColorTable
  defaults : Option ColorTable
deriving DecidableEq

namespace Palette

def ofDefaults (defaults : Option ColorTable) : Palette := ⟨defaults.getD .initial, defaults⟩

def assign (palette : Palette) (index : Int) (color : Rgb) : Except PaletteError Palette := do
  let index ← paletteIndex index
  return { palette with colors := palette.colors.set index color }

def lookup (palette : Palette) (index : Int) : Except PaletteError Rgb := do
  let index ← paletteIndex index
  return palette.colors.get index

def reset (palette : Palette) : Palette := ofDefaults palette.defaults

def hasCustomDefaults (palette : Palette) : Bool := palette.defaults.isSome

def resolve (palette : Palette) (color : Color) (default : Rgb) : Rgb :=
  match color with
  | .default => default
  | .indexed index => palette.colors.get index
  | .rgb color => color

end Palette
end CellScreen
