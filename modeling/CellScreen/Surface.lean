import CellScreen.Canvas
import CellScreen.Text.WhiteSpace

/-! A surface held in memory. Calls draw on its pending canvas and are recorded; a flush
commits the canvas, and a viewer rebuilds the committed canvas from instructions. -/
namespace CellScreen

structure Surface where
  background : Rgb
  pending : Canvas
  committed : Canvas
  highlighted : List Rect
  calls : Array Call
  commits : Nat

namespace Surface

def ofBackground (background : Rgb) : Surface where
  background
  pending := .blank 0 0 background
  committed := .blank 0 0 background
  highlighted := []
  calls := #[]
  commits := 0

def empty : Surface := ofBackground .black

def drawCall (background : Rgb) (canvas : Canvas) : Call → Canvas
  | .resize width height => canvas.resize width height background
  | .copy source x y => canvas.copy source x y
  | .fill rect color => canvas.fill rect (.paint color)
  | .text run => canvas.draw run
  | .highlight _ => canvas
  | .clearHighlight => canvas
  | .flush => canvas

def highlightCall (highlighted : List Rect) : Call → List Rect
  | .highlight rects => rects
  | .clearHighlight => []
  | _ => highlighted

def apply (surface : Surface) (call : Call) : Surface :=
  let ⟨background, pending, committed, highlighted, calls, commits⟩ := surface
  let pending := drawCall background pending call
  let committing := call == .flush
  { background
    pending
    committed := if committing then pending else committed
    highlighted := highlightCall highlighted call
    calls := calls.push call
    commits := if committing then commits + 1 else commits }

def applyAll (surface : Surface) (calls : List Call) : Surface := calls.foldl apply surface

def takeCalls (surface : Surface) : Array Call × Surface :=
  (surface.calls, { surface with calls := #[] })

def replayInstructions (surface : Surface) : List Instruction :=
  let canvas := surface.committed
  [.size .terminal canvas.width canvas.height,
    .image .terminal ⟨0, 0, canvas.width, canvas.height⟩ canvas.entries.toList]

def receive (surface : Surface) : Instruction → Surface
  | .defaultColors _ background => { surface with background }
  | .size .terminal width height =>
    { surface with pending := surface.pending.resize width height surface.background }
  | .image .terminal rect pixels => { surface with pending := surface.pending.putImage rect pixels }
  | .fill .terminal rect color =>
    { surface with pending := surface.pending.fill rect (.paint color.color) }
  | .copy .terminal source x y => { surface with pending := surface.pending.copy source x y }
  | .text .terminal run => { surface with pending := surface.pending.draw run }
  | .fill .selection rect _ => { surface with highlighted := surface.highlighted ++ [rect] }
  | .clear .selection => { surface with highlighted := [] }
  | .clear .terminal =>
    let canvas := surface.pending
    { surface with pending := .blank canvas.width canvas.height surface.background }
  | .sync => { surface with committed := surface.pending }
  | _ => surface

def replay (instructions : List Instruction) : Surface :=
  let surface := instructions.foldl receive empty
  { surface with committed := surface.pending }

def committedText (surface : Surface) (cellWidth cellHeight columns rows : Nat) : List String :=
  (List.range (rows % 2 ^ 32)).map fun row =>
    String.ofList (Text.trimEnd ((List.range (columns % 2 ^ 32)).map fun column =>
      ((surface.committed.get? (row * cellHeight) (column * cellWidth)).bind (·.glyph)).getD ' '))

end Surface
end CellScreen
