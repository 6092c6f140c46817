import CellScreen.Cell
import CellScreen.Palette
import CellScreen.Selection
import CellScreen.Text.WhiteSpace

/-! Snapshots of what viewers see after a flush. -/
namespace CellScreen

structure Snapshot where
  columns : Nat
  rows : Nat
  charWidth : Nat
  charHeight : Nat
  margin : Nat
  grid : List (List Cell)
  selection : Option Selection
  palette : List Rgb
  defaultForeground : Rgb
  defaultBackground : Rgb
deriving DecidableEq

namespace Snapshot

def rowsOf (columns : Nat) : Nat → List Cell → List (List Cell)
  | 0, _ => []
  | _, [] => []
  | count + 1, cells => cells.take columns :: rowsOf columns count (cells.drop columns)

def gridOfCells (cells : List Cell) (columns : Nat) : List (List Cell) :=
  if columns = 0 then [] else rowsOf columns cells.length cells

def lineOf (row : List Cell) : List Char :=
  Text.dropEndWhile (· == ' ') ((row.filter (!·.isContinuation)).map (·.drawnChar))

def dropEmptyEnd : List (List Char) → List (List Char)
  | [] => []
  | first :: more =>
    first :: (more.reverse.dropWhile (·.isEmpty)).reverse

def text (snapshot : Snapshot) : String :=
  String.ofList ((dropEmptyEnd (snapshot.grid.map lineOf)).flatMap (· ++ ['\n']))

def contentEquals (first second : Snapshot) : Bool :=
  first.columns == second.columns && first.rows == second.rows && first.grid == second.grid

end Snapshot
end CellScreen
