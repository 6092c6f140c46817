import CellScreen.Display

/-! Flushing: the pending changes become calls in three passes. Copies come first, so that they
read pixels that still show committed cells; then fills for blank cells; then text. Each pass
takes neighbouring cells together. -/
namespace CellScreen

structure Block where
  row : Nat
  column : Nat
  columns : Nat
  rows : Nat
deriving DecidableEq, Repr

def Block.cells (block : Block) : List (Nat × Nat) :=
  (List.range' block.row block.rows).flatMap fun row =>
    (List.range' block.column block.columns).map fun column => (row, column)

def streak (holds : Nat → Bool) : Nat → Nat → Nat
  | 0, _ => 0
  | limit + 1, first => if holds first then streak holds limit (first + 1) + 1 else 0

/-- The block grown from a cell, first to the right and then downwards, by cells that fit. -/
def Block.grown (width height row column : Nat) (fits : Nat → Nat → Bool) : Block :=
  let columns := streak (fits row) (width - (column + 1)) (column + 1) + 1
  let fitsRow := fun below => (List.range' column columns).all (fits below)
  { row, column, columns, rows := streak fitsRow (height - (row + 1)) (row + 1) + 1 }

def Block.write (block : Block) (slots : Grid Slot) (slot : Nat → Nat → Slot) : Grid Slot :=
  block.cells.foldl (fun slots (row, column) => slots.set row column (slot row column)) slots

structure PixelCopy where
  source : Rect
  destination : Rect
deriving DecidableEq, Repr

structure PixelFill where
  rect : Rect
  color : Rgb
deriving DecidableEq, Repr

structure FlushPlan where
  copies : List PixelCopy
  fills : List PixelFill
  runs : List TextRun
  cells : Nat
deriving DecidableEq, Repr

namespace FlushPlan

def nothing : FlushPlan := ⟨[], [], [], 0⟩

def calls (plan : FlushPlan) : List Call :=
  plan.copies.map (fun copy => .copy copy.source copy.destination.x copy.destination.y) ++
    plan.fills.map (fun fill => .fill fill.rect fill.color) ++ plan.runs.map .text

def drawCalls (plan : FlushPlan) : Nat :=
  plan.copies.length + plan.fills.length + plan.runs.length

end FlushPlan

namespace Display

def resolveSlot (committed : Grid Cell) (row column : Nat) : Slot → Option Cell
  | .unchanged => committed.get? row column
  | .copy sourceRow sourceColumn => committed.get? sourceRow sourceColumn
  | .set cell => some cell

def resolved (committed : Grid Cell) (slots : Grid Slot) : Grid Cell :=
  .tabulate committed.width committed.height fun row column =>
    ((slots.get? row column).bind (resolveSlot committed row column)).getD (.blank .default)

def copyBlock (slots : Grid Slot) (row column sourceRow sourceColumn : Nat) : Block :=
  .grown slots.width slots.height row column fun r c =>
    decide (sourceColumn + (c - column) < slots.width) &&
      decide (sourceRow + (r - row) < slots.height) &&
      slots.get? r c == some (.copy (sourceRow + (r - row)) (sourceColumn + (c - column)))

structure CopyPass where
  slots : Grid Slot
  copies : List PixelCopy

/-- Copies the block at a place, if a copy starts there. When an earlier copy has written into
its source, its cells are set to their new content instead. -/
def copyStep (display : Display) (next : Grid Cell) (pass : CopyPass) (place : Nat × Nat) :
    CopyPass :=
  let (row, column) := place
  match pass.slots.get? row column with
  | some (.copy sourceRow sourceColumn) =>
    let block := copyBlock pass.slots row column sourceRow sourceColumn
    let source := display.cellRect sourceRow sourceColumn block.columns block.rows
    let destination := display.cellRect row column block.columns block.rows
    if pass.copies.any (·.destination.intersects source) then
      let redrawn := fun r c => Slot.set ((next.get? r c).getD (.blank .default))
      { pass with slots := block.write pass.slots redrawn }
    else
      { slots := block.write pass.slots fun _ _ => .unchanged
        copies := pass.copies ++ [⟨source, destination⟩] }
  | _ => pass

def copyPass (display : Display) (next : Grid Cell) (slots : Grid Slot) : CopyPass :=
  (Grid.places slots.width slots.height).foldl (display.copyStep next) ⟨slots, []⟩

def fillColor (display : Display) : Slot → Option Rgb
  | .set cell =>
    if cell.isBlank && !cell.attributes.underscore then
      some (display.glyphStyle cell.attributes).background
    else none
  | _ => none

structure FillPass where
  slots : Grid Slot
  fills : List PixelFill

def fillStep (display : Display) (pass : FillPass) (place : Nat × Nat) : FillPass :=
  let (row, column) := place
  let colorAt := fun r c => (pass.slots.get? r c).bind display.fillColor
  match colorAt row column with
  | some color =>
    let block := Block.grown pass.slots.width pass.slots.height row column fun r c =>
      colorAt r c == some color
    { slots := block.write pass.slots fun _ _ => .unchanged
      fills := pass.fills ++ [⟨display.cellRect row column block.columns block.rows, color⟩] }
  | none => pass

def fillPass (display : Display) (slots : Grid Slot) : FillPass :=
  (Grid.places slots.width slots.height).foldl display.fillStep ⟨slots, []⟩

def drawnColumns (cells : Grid Cell) (row column : Nat) (cell : Cell) : Nat :=
  if cell.width == 2 && (cells.get? row (column + 1)).any (·.isContinuation) then 2 else 1

def glyphsFrom (cells : Grid Cell) (slots : Grid Slot) (row : Nat) (attributes : Attributes) :
    Nat → Nat → List Glyph
  | 0, _ => []
  | limit + 1, column =>
    match slots.get? row column with
    | some (.set cell) =>
      if cell.isContinuation || cell.attributes != attributes then []
      else
        let columns := drawnColumns cells row column cell
        ⟨cell.drawnChar, UInt8.ofNat columns⟩ ::
          glyphsFrom cells slots row attributes limit (column + columns)
    | _ => []

/-- The runs of a row from a column on. A right half is drawn only with its left half. -/
def runsFrom (display : Display) (cells : Grid Cell) (slots : Grid Slot) (row : Nat) :
    Nat → Nat → List TextRun
  | 0, _ => []
  | limit + 1, column =>
    match slots.get? row column with
    | some (.set cell) =>
      if cell.isContinuation then display.runsFrom cells slots row limit (column + 1)
      else
        let origin := display.cellRect row column 0 0
        let run : TextRun := {
          x := origin.x
          y := origin.y
          cellWidth := display.metrics.width
          cellHeight := display.metrics.height
          glyphs := glyphsFrom cells slots row cell.attributes slots.width column
          style := display.glyphStyle cell.attributes }
        run :: display.runsFrom cells slots row limit (column + run.columns)
    | _ => display.runsFrom cells slots row limit (column + 1)

def textPass (display : Display) (cells : Grid Cell) (slots : Grid Slot) : List TextRun :=
  (List.range slots.height).flatMap fun row => display.runsFrom cells slots row slots.width 0

def flushPlan (display : Display) : FlushPlan :=
  if display.pending.isEmpty then .nothing
  else
    let next := resolved display.committed display.pending.slots
    let copied := display.copyPass next display.pending.slots
    let filled := display.fillPass copied.slots
    { copies := copied.copies
      fills := filled.fills
      runs := display.textPass next filled.slots
      cells := display.pending.count }

def flushOperations (display : Display) : Display × FlushPlan :=
  let plan := display.flushPlan
  if display.pending.isEmpty then (display, plan)
  else
    let style := plan.runs.getLast?.map (·.style)
    ({ display with
        committed := resolved display.committed display.pending.slots
        pending := display.pending.clear
        glyphForeground := (style.map (·.foreground)).getD display.glyphForeground
        glyphBackground := (style.map (·.background)).getD display.glyphBackground
        unflushedSet := false }, plan)

end Display
end CellScreen
