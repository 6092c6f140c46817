/-! The selected range of a screen: where it lies, which cells it has, and the rectangles of
cells that cover it. It is drawn over the cells and never changes them. -/
namespace CellScreen

structure Point where
  row : Nat
  column : Nat
deriving DecidableEq, Repr

def Point.isBefore (first second : Point) : Bool :=
  if first.row = second.row then first.column < second.column else first.row < second.row

structure Span where
  top : Nat
  left : Nat
  bottom : Nat
  right : Nat
deriving DecidableEq, Repr

namespace Span

def columns (span : Span) : Nat := span.right - span.left + 1

def rows (span : Span) : Nat := span.bottom - span.top + 1

end Span

structure Selection where
  start : Point
  finish : Point
deriving DecidableEq, Repr

namespace Selection

def normalized (selection : Selection) : Point × Point :=
  if selection.finish.isBefore selection.start then (selection.finish, selection.start)
  else (selection.start, selection.finish)

def contains (selection : Selection) (row column : Nat) : Bool :=
  let (start, finish) := selection.normalized
  start.row ≤ row && row ≤ finish.row &&
    (row != start.row || start.column ≤ column) && (row != finish.row || column ≤ finish.column)

/-- The rectangles to highlight on a grid: one for a single line, otherwise the tail of the
first line, the full lines between, and the head of the last one. -/
def spans (selection : Selection) (columns rows : Nat) : List Span :=
  let (start, finish) := selection.normalized
  if columns = 0 ∨ rows ≤ start.row then []
  else
    let last := columns - 1
    let bottom := min finish.row (rows - 1)
    let right := if finish.row = bottom then min finish.column last else last
    let left := min start.column last
    if start.row = bottom then [⟨start.row, left, start.row, max right left⟩]
    else
      [⟨start.row, left, start.row, last⟩] ++
        (if start.row + 1 < bottom then [⟨start.row + 1, 0, bottom - 1, last⟩] else []) ++
        [⟨bottom, 0, bottom, right⟩]

def exceeds (selection : Selection) (columns rows : Nat) : Bool :=
  [selection.start, selection.finish].any fun point =>
    rows ≤ point.row || columns ≤ point.column

end Selection
end CellScreen
