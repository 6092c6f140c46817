import CellScreen.Proofs.Clipping
import CellScreen.Proofs.Painting
import CellScreen.Proofs.PixelCells

/-! Colors of content that is only moved. Two displays that differ in their palettes alone are
flushed side by side. Their copies are the same, so pixels that are moved keep the colors that they
were drawn with. What an earlier copy has written over before it could be read is drawn anew, and
with the palette of the flush. -/
namespace CellScreen

def FlushPlan.moved (plan : FlushPlan) (canvas : Canvas) : Canvas :=
  plan.copies.foldl
    (fun canvas copy => canvas.copy copy.source copy.destination.x copy.destination.y) canvas

namespace Display

/-- A place is in a block of copies with one shift whose source one of the given copies has written
into. -/
def Overwritten (display : Display) (copies : List PixelCopy) (row column : Nat) : Prop :=
  ∃ (block : Block) (sourceRow sourceColumn : Nat), (row, column) ∈ block.cells ∧
    (∀ {row column : Nat}, (row, column) ∈ block.cells → display.pending.get? row column =
      some (.copy (sourceRow + (row - block.row)) (sourceColumn + (column - block.column)))) ∧
    ∃ copy ∈ copies, copy.destination.intersects
      (display.blockRect (block.movedTo sourceRow sourceColumn))

variable {display : Display} {canvas : Canvas} {row column : Nat}

private theorem Overwritten.mono {copies more : List PixelCopy}
    (overwritten : display.Overwritten copies row column)
    (among : ∀ copy ∈ copies, copy ∈ more) : display.Overwritten more row column := by
  obtain ⟨block, sourceRow, sourceColumn, member, shifted, copy, earlier, meets⟩ := overwritten
  exact ⟨block, sourceRow, sourceColumn, member, shifted, copy, among copy earlier, meets⟩

def CopyPass.Excused (display : Display) (pass : CopyPass) : Prop :=
  ∀ {row column : Nat} {cell : Cell}, pass.slots.get? row column = some (.set cell) →
    display.pending.get? row column = some (.set cell) ∨
      display.Overwritten pass.copies row column ∧ display.next.get? row column = some cell

private theorem CopyPass.Excused.step {pass next : CopyPass} {place : Nat × Nat}
    (excused : pass.Excused display) (traced : pass.Traced display)
    (step : pass.Step display place next) : next.Excused display := by
  intro row column cell waits
  have inside := Grid.inside_of_get? waits
  cases step with
  | kept => exact excused waits
  | @redrawn block sourceRow sourceColumn starts within sourceWithin copies meets =>
    dsimp only at waits inside
    rw [Block.height_write, Block.width_write] at inside
    rw [Block.get?_write _ _ _ inside] at waits
    by_cases member : (row, column) ∈ block.cells
    · obtain ⟨copy, earlier, meets⟩ := List.any_eq_true.mp meets
      have overwritten : display.Overwritten pass.copies row column :=
        ⟨block, sourceRow, sourceColumn, member, fun member => traced.of_copy (copies member), copy,
          earlier, meets⟩
      obtain ⟨content, found⟩ : ∃ content, display.next.get? row column = some content :=
        Grid.exists_get? (within.inside member)
      rw [if_pos member, found] at waits
      cases waits
      exact .inr ⟨overwritten, found⟩
    · rw [if_neg member] at waits
      exact excused waits
  | moved starts within sourceWithin copies apart =>
    dsimp only at waits inside
    rw [Block.height_write, Block.width_write] at inside
    rw [Block.get?_write _ _ _ inside] at waits
    split at waits
    · cases waits
    · exact (excused waits).imp_right fun overwritten =>
        ⟨overwritten.1.mono fun _ => List.mem_append_left _, overwritten.2⟩

def recolored (display : Display) (palette : Palette) : Display := { display with palette }

section

variable (display) (palette : Palette)

def DrawnAlike (slots : Grid Slot) : Prop :=
  ∀ {row column : Nat} {cell : Cell}, slots.get? row column = some (.set cell) →
    (display.recolored palette).glyphStyle cell.attributes = display.glyphStyle cell.attributes

end

section

variable {palette : Palette} {slots : Grid Slot}

private theorem DrawnAlike.colorAt (alike : display.DrawnAlike palette slots) (row column : Nat) :
    (slots.get? row column).bind (display.recolored palette).fillColor =
      (slots.get? row column).bind display.fillColor := by
  cases found : slots.get? row column with
  | none => rfl
  | some slot =>
    cases slot with
    | set cell => simp only [Option.bind_some, fillColor, alike found]
    | _ => rfl

private theorem DrawnAlike.write (alike : display.DrawnAlike palette slots) (block : Block) :
    display.DrawnAlike palette (block.write slots fun _ _ => .unchanged) := by
  intro row column cell waits
  have inside := Grid.inside_of_get? waits
  rw [Block.height_write, Block.width_write] at inside
  rw [Block.get?_write _ _ _ inside] at waits
  split at waits
  · cases waits
  · exact alike waits

private theorem DrawnAlike.fillStep {pass : FillPass}
    (alike : display.DrawnAlike palette pass.slots) (place : Nat × Nat) :
    (display.recolored palette).fillStep pass place = display.fillStep pass place ∧
      display.DrawnAlike palette (display.fillStep pass place).slots := by
  constructor
  · simp only [Display.fillStep, alike.colorAt]
    rfl
  · simp only [Display.fillStep]
    split
    · exact alike.write _
    · exact alike

private theorem DrawnAlike.fillPass (alike : display.DrawnAlike palette slots) :
    (display.recolored palette).fillPass slots = display.fillPass slots ∧
      display.DrawnAlike palette (display.fillPass slots).slots :=
  foldl_congr_of_invariant
    (motive := fun pass : FillPass => display.DrawnAlike palette pass.slots)
    (fun _ place alike => alike.fillStep place) alike _

private theorem DrawnAlike.runsFrom (alike : display.DrawnAlike palette slots) (cells : Grid Cell)
    (row limit column : Nat) : (display.recolored palette).runsFrom cells slots row limit column =
      display.runsFrom cells slots row limit column := by
  induction limit generalizing column with
  | zero => rfl
  | succ limit ih =>
    unfold Display.runsFrom
    split
    · next cell waits =>
      rw [alike waits]
      simp only [ih]
      rfl
    · exact ih _

private theorem DrawnAlike.textPass (alike : display.DrawnAlike palette slots) (cells : Grid Cell) :
    (display.recolored palette).textPass cells slots = display.textPass cells slots := by
  simp only [Display.textPass, alike.runsFrom]

private theorem DrawnAlike.flushPlan (alike : display.DrawnAlike palette
      (display.copyPass display.next display.pending.slots).slots) :
    (display.recolored palette).flushPlan = display.flushPlan := by
  obtain ⟨fills, later⟩ := alike.fillPass
  by_cases isEmpty : display.pending.isEmpty
  · exact (if_pos isEmpty).trans (if_pos isEmpty).symm
  · let copied := display.copyPass display.next display.pending.slots
    let filled := (display.recolored palette).fillPass copied.slots
    have recolored : (display.recolored palette).flushPlan = ⟨copied.copies, filled.fills,
      (display.recolored palette).textPass display.next filled.slots, display.pending.count⟩ :=
        if_neg isEmpty
    have plan : display.flushPlan = ⟨copied.copies, (display.fillPass copied.slots).fills,
      display.textPass display.next (display.fillPass copied.slots).slots, display.pending.count⟩ :=
        if_neg isEmpty
    rw [recolored, plan, ← later.textPass, ← fills]

end

section

variable (consistent : display.Consistent)
  (solid : 0 < display.metrics.width ∧ 0 < display.metrics.height)
  (bounded : display.width * display.metrics.width < 2 ^ 31 ∧
    display.height * display.metrics.height < 2 ^ 31)
  (palette : Palette) (background : Rgb) (canvas : Canvas)

include consistent solid bounded

end

end Display

namespace Screen

end Screen
end CellScreen
