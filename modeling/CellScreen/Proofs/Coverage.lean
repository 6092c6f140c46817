import CellScreen.Proofs.Fills

/-! What the calls of a flush cover. The rectangles of copies and fills are those of blocks of
cells, and a cell is in one of them exactly if the pass that made them has done its change. -/
namespace CellScreen

namespace Rect

def Inside (rect : Rect) (size : Nat × Nat) : Prop :=
  (0 ≤ rect.x ∧ rect.x + rect.width ≤ size.1) ∧ 0 ≤ rect.y ∧ rect.y + rect.height ≤ size.2

def HasPixel (rect : Rect) (metrics : CellMetrics) (row column y x : Nat) : Prop :=
  rect.contains (column * metrics.width + x : Nat) (row * metrics.height + y : Nat)

def Covers (rect : Rect) (metrics : CellMetrics) (row column : Nat) : Prop :=
  ∀ y < metrics.height, ∀ x < metrics.width, rect.HasPixel metrics row column y x

def Meets (rect : Rect) (metrics : CellMetrics) (row column : Nat) : Prop :=
  ∃ y < metrics.height, ∃ x < metrics.width, rect.HasPixel metrics row column y x

instance (rect : Rect) (metrics : CellMetrics) (row column y x : Nat) :
    Decidable (rect.HasPixel metrics row column y x) :=
  inferInstanceAs (Decidable (rect.contains _ _ = true))

instance (rect : Rect) (metrics : CellMetrics) (row column : Nat) :
    Decidable (rect.Meets metrics row column) :=
  inferInstanceAs (Decidable (∃ y < metrics.height, ∃ x < metrics.width,
    rect.HasPixel metrics row column y x))

end Rect

namespace TextRun

def boxesFrom (run : TextRun) : Int → List Glyph → List Rect
  | _, [] => []
  | x, glyph :: glyphs => run.boxOf x glyph ::
      run.boxesFrom (x + (glyph.columns.toNat * run.cellWidth : Nat)) glyphs

def boxes (run : TextRun) : List Rect := run.boxesFrom run.x run.glyphs

end TextRun

inductive Pass where
  | copy
  | fill
  | text
deriving DecidableEq

namespace Call

def pass? : Call → Option Pass
  | .copy .. => some .copy
  | .fill .. => some .fill
  | .text _ => some .text
  | .resize .. | .highlight _ | .clearHighlight | .flush => none

def painted : Call → List Rect
  | .copy source x y => [{ source with x, y }]
  | .fill rect _ => [rect]
  | .text run => run.boxes
  | .resize .. | .highlight _ | .clearHighlight | .flush => []

def extents : Call → List Rect
  | .copy source x y => [source, { source with x, y }]
  | .fill rect _ => [rect]
  | .text run => [run.bounds]
  | .resize .. | .highlight _ | .clearHighlight | .flush => []

end Call

def Slot.isSet : Slot → Bool
  | .set _ => true
  | _ => false

namespace Display

def IsBlock (display : Display) (rect : Rect) : Prop :=
  ∃ block : Block, block.Within display ∧ display.blockRect block = rect

/-- How many of the rectangles have the first pixel of a cell. -/
def hits (display : Display) (rects : List Rect) (row column : Nat) : Nat :=
  rects.countP (·.contains (column * display.metrics.width : Nat)
    (row * display.metrics.height : Nat))

/-- What a pass has painted of the slots that it started with: exactly the cells whose change is
done by now, each of them once. -/
structure Counted (display : Display) (start slots : Grid Slot) (rects : List Rect) : Prop where
  width_eq : slots.width = start.width
  height_eq : slots.height = start.height
  blocks : ∀ rect ∈ rects, display.IsBlock rect
  kept : ∀ {row column : Nat}, start.get? row column = some .unchanged →
    slots.get? row column = some .unchanged
  once : ∀ {row column : Nat} {slot : Slot}, start.get? row column = some slot →
    display.hits rects row column =
      if slots.get? row column = some .unchanged ∧ slot ≠ .unchanged then 1 else 0

variable {display : Display} {canvas : Canvas} {start slots : Grid Slot} {rects : List Rect}

theorem hits_append (more : List Rect) (row column : Nat) :
    display.hits (rects ++ more) row column =
      display.hits rects row column + display.hits more row column := List.countP_append ..

theorem hits_blockRect (fits : display.Fits canvas) {block : Block}
    (within : block.Within display) (row column : Nat) :
    display.hits [display.blockRect block] row column =
      if (row, column) ∈ block.cells then 1 else 0 := by
  rw [hits, List.countP_singleton]
  simp only [contains_origin fits within]

private theorem counted_start (slots : Grid Slot) : display.Counted slots slots [] := by
  refine ⟨rfl, rfl, nofun, id, fun recorded => ?_⟩
  rw [if_neg]
  · rfl
  · rintro ⟨same, changed⟩
    exact changed (Option.some.inj (recorded.symm.trans same))

private theorem Counted.paint (counted : display.Counted start slots rects)
    (fits : display.Fits canvas) {block : Block} (within : block.Within display)
    (waiting : ∀ {row column : Nat}, (row, column) ∈ block.cells →
      slots.get? row column ≠ some .unchanged) :
    display.Counted start (block.write slots fun _ _ => .unchanged)
      (rects ++ [display.blockRect block]) := by
  have written {row column : Nat} {slot : Slot} (recorded : start.get? row column = some slot) :=
    Block.get?_write block slots (fun _ _ => .unchanged)
      (counted.height_eq ▸ counted.width_eq ▸ Grid.inside_of_get? recorded)
  refine ⟨?_, ?_, ?_, ?_, ?_⟩
  · rw [Block.width_write, counted.width_eq]
  · rw [Block.height_write, counted.height_eq]
  · intro rect member
    rcases List.mem_append.mp member with before | now
    · exact counted.blocks rect before
    · exact ⟨block, within, (List.mem_singleton.mp now).symm⟩
  · intro row column unchanged
    rw [written unchanged, counted.kept unchanged, ite_self]
  · intro row column slot recorded
    rw [hits_append, hits_blockRect fits within, counted.once recorded, written recorded]
    by_cases member : (row, column) ∈ block.cells
    · have changed : slot ≠ .unchanged := fun same =>
        waiting member (counted.kept (same ▸ recorded))
      simp [member, waiting member, changed]
    · simp [member]

private theorem Counted.redraw (counted : display.Counted start slots rects) {block : Block}
    (cells : Nat → Nat → Cell) (waiting : ∀ {row column : Nat}, (row, column) ∈ block.cells →
      slots.get? row column ≠ some .unchanged) :
    display.Counted start (block.write slots fun row column => .set (cells row column)) rects := by
  have written {row column : Nat} {slot : Slot} (recorded : start.get? row column = some slot) :=
    Block.get?_write block slots (fun row column => .set (cells row column))
      (counted.height_eq ▸ counted.width_eq ▸ Grid.inside_of_get? recorded)
  refine ⟨?_, ?_, counted.blocks, ?_, ?_⟩
  · rw [Block.width_write, counted.width_eq]
  · rw [Block.height_write, counted.height_eq]
  · intro row column unchanged
    have kept := counted.kept unchanged
    rw [written unchanged, if_neg fun member => waiting member kept, kept]
  · intro row column slot recorded
    rw [counted.once recorded, written recorded]
    by_cases member : (row, column) ∈ block.cells
    · simp [member, waiting member]
    · simp [member]

private theorem blockRect_movedTo (display : Display) (block : Block) (row column : Nat) :
    display.blockRect block = { display.blockRect (block.movedTo row column) with
      x := (display.blockRect block).x, y := (display.blockRect block).y } := by
  simp [blockRect, cellRect, Block.movedTo]

def CopyPass.Aligned (display : Display) (pass : CopyPass) : Prop :=
  ∀ copy ∈ pass.copies, display.IsBlock copy.source ∧
    copy.destination = { copy.source with x := copy.destination.x, y := copy.destination.y }

private theorem counted_copyStep {pass next : CopyPass} {place : Nat × Nat}
    (fits : display.Fits canvas)
    (counted : display.Counted start pass.slots (pass.copies.map (·.destination)))
    (step : pass.Step display place next) :
    display.Counted start next.slots (next.copies.map (·.destination)) := by
  have of_copies {block : Block} {sourceRow sourceColumn : Nat}
      (copies : ∀ {row column : Nat}, (row, column) ∈ block.cells → pass.slots.get? row column =
        some (.copy (sourceRow + (row - block.row)) (sourceColumn + (column - block.column))))
      {row column : Nat} (member : (row, column) ∈ block.cells) :
      pass.slots.get? row column ≠ some .unchanged := by
    rw [copies member]
    simp
  cases step with
  | kept => exact counted
  | redrawn starts within sourceWithin copies meets =>
    exact counted.redraw (fun row column => (display.next.get? row column).getD (.blank .default))
      (of_copies copies)
  | moved starts within sourceWithin copies apart =>
    rw [List.map_append]
    exact counted.paint fits within (of_copies copies)

private theorem aligned_copyStep {pass next : CopyPass} {place : Nat × Nat}
    (aligned : pass.Aligned display) (step : pass.Step display place next) :
    next.Aligned display := by
  cases step with
  | kept => exact aligned
  | redrawn starts within sourceWithin copies meets => exact aligned
  | moved starts within sourceWithin copies apart =>
    intro copy member
    rcases List.mem_append.mp member with before | now
    · exact aligned copy before
    · rw [List.mem_singleton.mp now]
      exact ⟨⟨_, sourceWithin, rfl⟩, blockRect_movedTo ..⟩

theorem counted_copyPass (consistent : display.Consistent) (fits : display.Fits canvas) :
    let pass := display.copyPass display.next display.pending.slots
    display.Counted display.pending.slots pass.slots (pass.copies.map (·.destination)) ∧
      pass.Aligned display := by
  intro pass
  refine (copyPass_induction (motive := fun pass : CopyPass => display.Counted
    display.pending.slots pass.slots (pass.copies.map (·.destination)) ∧ pass.Aligned display)
    consistent ⟨counted_start _, fun _ member => absurd member List.not_mem_nil⟩ ?_).2
  intro pass next place traced kept step
  exact ⟨counted_copyStep fits kept.1 step, aligned_copyStep kept.2 step⟩

private theorem counted_fillStep {pass next : FillPass} (fits : display.Fits canvas)
    (counted : display.Counted start pass.slots (pass.fills.map (·.rect)))
    (step : pass.Step display next) :
    display.Counted start next.slots (next.fills.map (·.rect)) := by
  cases step with
  | kept => exact counted
  | filled within alike =>
    rw [List.map_append]
    refine counted.paint fits within fun member unchanged => ?_
    have fills := alike member
    rw [unchanged] at fills
    cases fills

theorem counted_fillPass (fits : display.Fits canvas) (width_eq : slots.width = display.width)
    (height_eq : slots.height = display.height) :
    display.Counted slots (display.fillPass slots).slots
      ((display.fillPass slots).fills.map (·.rect)) := by
  refine (fillPass_induction (motive := fun pass : FillPass => display.Counted slots pass.slots
    (pass.fills.map (·.rect))) fits width_eq height_eq (counted_start slots) ?_).2
  intro pass next sound counted step
  exact counted_fillStep fits counted step

end Display
end CellScreen
