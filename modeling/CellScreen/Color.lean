/-! Colors: concrete ones with three components, and those of attributes, which stand for a
default, a palette entry or a concrete color. -/
namespace CellScreen

structure Rgb where
  red : UInt8
  green : UInt8
  blue : UInt8
deriving DecidableEq, Repr, Inhabited

namespace Rgb

def black : Rgb := ⟨0, 0, 0⟩

def white : Rgb := ⟨255, 255, 255⟩

def dimmed (color : Rgb) : Rgb := ⟨color.red / 2, color.green / 2, color.blue / 2⟩

end Rgb

structure Rgba where
  color : Rgb
  alpha : UInt8
deriving DecidableEq, Repr

def Rgb.withAlpha (color : Rgb) (alpha : UInt8) : Rgba := ⟨color, alpha⟩

inductive Color where
  | default
  | indexed (index : UInt8)
  | rgb (color : Rgb)
deriving DecidableEq, Repr

def Color.brightened : Color → Color
  | .indexed index => if index < 8 then .indexed (index + 8) else .indexed index
  | other => other

end CellScreen
