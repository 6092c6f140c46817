import CellScreen.Proofs.PaintedOnce
import CellScreen.Proofs.Painting
import CellScreen.Proofs.Places

/-! Scrolling up. Where all pending copies move cells up by one distance, no copy of a flush reads
what an earlier one has written: the blocks are taken from the top, an earlier one that reaches down
to the source of a later one would have taken the cells above it as well, and those are still to be
copied. So all copies move pixels, and only what was set is drawn. -/
namespace CellScreen

namespace Pending

def ScrollsUp (pending : Pending) (distance : Nat) : Prop :=
  ∀ {row column sourceRow sourceColumn : Nat},
    pending.get? row column = some (.copy sourceRow sourceColumn) →
      sourceRow = row + distance ∧ sourceColumn = column

variable {pending : Pending} {distance : Nat}

end Pending

namespace Display

variable {display : Display} {canvas : Canvas} {pass : CopyPass} {distance row column : Nat}

private theorem exists_mem_of_intersects (fits : display.Fits canvas) {first second : Block}
    (within : first.Within display) (otherWithin : second.Within display)
    (meets : (display.blockRect first).intersects (display.blockRect second)) :
    ∃ row column, (row, column) ∈ first.cells ∧ (row, column) ∈ second.cells := by
  have edge {block : Block} (within : block.Within display) :
      coordinate (block.columns * display.metrics.width : Nat) =
          (block.columns * display.metrics.width : Nat) ∧
        coordinate (block.rows * display.metrics.height : Nat) =
          (block.rows * display.metrics.height : Nat) :=
    ⟨coordinate_natCast (columns_bounded fits (Nat.le_of_add_left_le within.2)),
      coordinate_natCast (rows_bounded fits (Nat.le_of_add_left_le within.1))⟩
  have before {index other count unit : Nat}
      (less : ((index * unit : Nat) : Int) < (other * unit : Nat) + (count * unit : Nat)) :
      index < other + count := by
    have sum : index * unit < (other + count) * unit := by
      rw [Nat.add_mul]
      omega
    exact Nat.lt_of_mul_lt_mul_right sum
  simp only [blockRect, cellRect_eq fits within.1 within.2,
    cellRect_eq fits otherWithin.1 otherWithin.2, Rect.intersects, Rect.isEmpty, Rect.right,
    Rect.bottom, edge within, edge otherWithin, Bool.and_eq_true, Bool.not_eq_true',
    Bool.or_eq_false_iff, beq_eq_false_iff_ne, Nat.mul_ne_zero_iff, decide_eq_true_eq] at meets
  obtain ⟨⟨⟨⟨⟨some, other⟩, left⟩, right⟩, top⟩, bottom⟩ := meets
  have columns := And.intro (before left) (before right)
  have rows := And.intro (before top) (before bottom)
  refine ⟨max first.row second.row, max first.column second.column, ?_, ?_⟩
  · rw [Block.mem_cells]
    omega
  · rw [Block.mem_cells]
    omega

structure CopyPass.Rising (display : Display) (bound : Nat) (pass : CopyPass) : Prop where
  traced : pass.Traced display
  sets : ∀ {row column : Nat} {cell : Cell}, pass.slots.get? row column = some (.set cell) →
    display.pending.get? row column = some (.set cell)
  done : ∀ copy ∈ pass.copies, ∃ block : Block, block.Within display ∧ block.row ≤ bound ∧
    copy.destination = display.blockRect block ∧
      ∀ {row column : Nat}, (row, column) ∈ block.cells →
        pass.slots.get? row column = some .unchanged

private theorem CopyPass.Rising.apart {block : Block} {sourceRow sourceColumn : Nat}
    (rising : pass.Rising display block.row)
    (fits : display.Fits canvas) (scrolls : display.pending.ScrollsUp distance)
    (sourceWithin : (block.movedTo sourceRow sourceColumn).Within display)
    (copies : ∀ {row column : Nat}, (row, column) ∈ block.cells → pass.slots.get? row column =
      some (.copy (sourceRow + (row - block.row)) (sourceColumn + (column - block.column)))) :
    pass.copies.any (·.destination.intersects
      (display.blockRect (block.movedTo sourceRow sourceColumn))) = false := by
  rw [List.any_eq_false]
  intro copy member meets
  obtain ⟨earlier, within, above, destination, done⟩ := rising.done copy member
  rw [destination] at meets
  obtain ⟨row, column, inEarlier, inSource⟩ :=
    exists_mem_of_intersects fits within sourceWithin meets
  rw [Block.mem_cells] at inEarlier inSource
  simp only [Block.movedTo] at inSource
  have first : (block.row, block.column) ∈ block.cells := by
    rw [Block.mem_cells]
    omega
  obtain ⟨shiftRow, shiftColumn⟩ :=
    scrolls (rising.traced.of_copy (copies first))
  have waits : (block.row, column) ∈ block.cells := by
    rw [Block.mem_cells]
    omega
  have taken : (block.row, column) ∈ earlier.cells := by
    rw [Block.mem_cells]
    omega
  cases (done taken).symm.trans (copies waits)

private theorem CopyPass.Rising.step {next : CopyPass} {place : Nat × Nat}
    (rising : pass.Rising display place.1) (fits : display.Fits canvas)
    (scrolls : display.pending.ScrollsUp distance)
    (step : pass.Step display place next) : next.Rising display place.1 := by
  have traced := rising.traced.step step
  cases step with
  | kept => exact rising
  | redrawn starts within sourceWithin copies meets =>
    rw [← starts] at rising
    have apart := rising.apart fits scrolls sourceWithin copies
    cases meets.symm.trans apart
  | @moved block sourceRow sourceColumn starts within sourceWithin copies apart =>
    have written {row column : Nat} (inside : row < display.height ∧ column < display.width) :=
      Block.get?_write block pass.slots (fun _ _ => .unchanged)
        (rising.traced.height_eq ▸ rising.traced.width_eq ▸ inside)
    refine ⟨traced, fun {row column cell} waits => ?_, fun copy member => ?_⟩
    · have inside := Grid.inside_of_get? waits
      rw [traced.height_eq, traced.width_eq] at inside
      dsimp only at waits
      rw [written inside] at waits
      split at waits
      · cases waits
      · exact rising.sets waits
    · rcases List.mem_append.mp member with before | now
      · obtain ⟨earlier, earlierWithin, above, destination, done⟩ := rising.done copy before
        refine ⟨earlier, earlierWithin, above, destination, fun {row column} member => ?_⟩
        rw [written (earlierWithin.inside member), done member, ite_self]
      · rw [List.mem_singleton.mp now]
        refine ⟨block, within, Nat.le_of_eq starts, rfl, fun {row column} member => ?_⟩
        rw [written (within.inside member), if_pos member]

section

variable (consistent : display.Consistent) (fits : display.Fits canvas)
  (scrolls : display.pending.ScrollsUp distance)

include consistent fits scrolls

end

end Display

namespace Screen

end Screen
end CellScreen
