import CellScreen.Color
import CellScreen.Text.Width

/-! The cells of a screen: a character, how it is drawn, and how many columns it takes. -/
namespace CellScreen

structure Attributes where
  bold : Bool := false
  halfBright : Bool := false
  reverse : Bool := false
  cursor : Bool := false
  underscore : Bool := false
  foreground : Color := .default
  background : Color := .default
deriving DecidableEq, Repr

/-- The width is 0 for the right half of a wide character, which its left half draws. The
character of an empty cell is NUL. -/
structure Cell where
  char : Char
  attributes : Attributes
  width : UInt8
deriving DecidableEq, Repr

namespace Cell

def empty : Cell := ⟨'\x00', {}, 1⟩

def ofChar (c : Char) (attributes : Attributes) : Cell := ⟨c, attributes, Text.columns c⟩

def blank (background : Color) : Cell := ⟨' ', { background }, 1⟩

def continuation (attributes : Attributes) : Cell := ⟨'\x00', attributes, 0⟩

def isContinuation (cell : Cell) : Bool := cell.width == 0

def isBlank (cell : Cell) : Bool :=
  cell.width != 0 && (cell.char == '\x00' || cell.char == ' ')

def drawnChar (cell : Cell) : Char := if cell.char = '\x00' then ' ' else cell.char

theorem isBlank_iff (cell : Cell) :
    cell.isBlank ↔ ¬ cell.isContinuation ∧ cell.drawnChar = ' ' := by
  by_cases zero : cell.width = 0 <;> by_cases nul : cell.char = '\x00' <;>
    simp [isBlank, isContinuation, drawnChar, zero, nul]

end Cell
end CellScreen
