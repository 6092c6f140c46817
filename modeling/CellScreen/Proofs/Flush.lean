import CellScreen.Proofs.Fills
import CellScreen.Proofs.Runs

/-! What a flush shows. A cell without a change keeps its box, a cell that was set is drawn, and a
copied cell gets the box that its source had before the flush, or is drawn where an earlier copy
has written over the source. -/
namespace CellScreen

namespace Display

def moves (display : Display) (row column : Nat) : Bool :=
  (display.copyPass display.next display.pending.slots).slots.get? row column == some .unchanged

def flushedBox (display : Display) (canvas : Canvas) (row column : Nat) :
    Slot → Grid (Option Pixel)
  | .unchanged => canvas.box display.metrics row column
  | .set cell => display.drawing cell
  | .copy sourceRow sourceColumn =>
    if display.moves row column then canvas.box display.metrics sourceRow sourceColumn
    else display.drawing ((display.committed.get? sourceRow sourceColumn).getD (.blank .default))

variable {display : Display} {canvas : Canvas} {slots : Grid Slot}

private theorem drawing_of_fillColor {cell : Cell} {color : Rgb}
    (fills : display.fillColor (.set cell) = some color) :
    display.drawing cell = display.metrics.plain color := by
  unfold fillColor at fills
  dsimp only at fills
  split at fills
  · next plain =>
    rw [Bool.and_eq_true, Bool.not_eq_true'] at plain
    rw [← Option.some.inj fills]
    exact display.drawing_of_isBlank plain.1 plain.2
  · cases fills

theorem textBox_fillPass (fits : display.Fits canvas) (width_eq : slots.width = display.width)
    (height_eq : slots.height = display.height) (row column : Nat) :
    display.textBox (display.fillPass slots).slots ((display.fillPass slots).drawn canvas)
        row column = display.textBox slots canvas row column := by
  have sound := sound_fillPass fits width_eq height_eq
  unfold textBox
  cases found : slots.get? row column with
  | some slot =>
    cases sound.treated found with
    | kept waits box_eq => rw [waits, box_eq]
    | filled fills done box_eq =>
      rw [done, box_eq]
      cases slot with
      | set cell => exact (drawing_of_fillColor fills).symm
      | unchanged => cases fills
      | copy sourceRow sourceColumn => cases fills
  | none =>
    have absent : (display.fillPass slots).slots.get? row column = none := by
      rw [Grid.get?_eq_none_iff, sound.width_eq, sound.height_eq, ← width_eq, ← height_eq,
        ← Grid.get?_eq_none_iff, found]
    rw [absent, box_fillPass fits width_eq height_eq, found]
    rfl

theorem get?_next_of_copied (consistent : display.Consistent) (fits : display.Fits canvas)
    {row column : Nat} {cell : Cell} (waits : (display.copyPass display.next
      display.pending.slots).slots.get? row column = some (.set cell)) :
    display.next.get? row column = some cell := by
  have copied := sound_copyPass consistent fits
  have inside := Grid.inside_of_get? waits
  rw [copied.width_eq, copied.height_eq] at inside
  obtain ⟨slot, recorded⟩ := exists_slot consistent inside
  rw [get?_next consistent recorded]
  cases copied.treated recorded with
  | kept same box_eq =>
    cases same.symm.trans waits
    rfl
  | moved done box_eq written => cases done.symm.trans waits
  | redrawn set content box_eq =>
    cases set.symm.trans waits
    exact content

theorem prepared_fillPass (consistent : display.Consistent) (fits : display.Fits canvas) :
    display.Prepared display.next
      (display.fillPass (display.copyPass display.next display.pending.slots).slots).slots := by
  have copied := sound_copyPass consistent fits
  have filled := sound_fillPass fits copied.width_eq copied.height_eq
  refine ⟨filled.width_eq, filled.height_eq, rfl, fun waits => ?_⟩
  have before := (set_fillPass_iff fits copied.width_eq copied.height_eq).mp waits
  exact get?_next_of_copied consistent fits before.1

private theorem foldl_calls (copied : CopyPass) (filled : FillPass) (runs : List TextRun)
    (count : Nat) (background : Rgb) (canvas : Canvas) :
    (FlushPlan.mk copied.copies filled.fills runs count).calls.foldl
        (Surface.drawCall background) canvas =
      runs.foldl Canvas.draw (filled.drawn (copied.drawn canvas)) := by
  simp only [FlushPlan.calls, List.foldl_append, List.foldl_map]
  rfl

theorem drawn_flushPlan (some : ¬ display.pending.isEmpty) (background : Rgb) (canvas : Canvas) :
    let copied := display.copyPass display.next display.pending.slots
    let filled := display.fillPass copied.slots
    display.flushPlan.calls.foldl (Surface.drawCall background) canvas =
      (display.textPass display.next filled.slots).foldl Canvas.draw
        (filled.drawn (copied.drawn canvas)) := by
  intro copied filled
  rw [flushPlan, if_neg some]
  exact foldl_calls copied filled _ _ background canvas

private theorem textBox_copyPass (consistent : display.Consistent) (fits : display.Fits canvas)
    {row column : Nat} {slot : Slot} (recorded : display.pending.get? row column = some slot) :
    display.textBox (display.copyPass display.next display.pending.slots).slots
        ((display.copyPass display.next display.pending.slots).drawn canvas) row column =
      display.flushedBox canvas row column slot := by
  have inside : row < display.pending.slots.height ∧ column < display.pending.slots.width :=
    Grid.inside_of_get? recorded
  have settled : CopyPass.Settled (row, column)
      (display.copyPass display.next display.pending.slots) := settled_copyPass _ _ inside
  unfold textBox
  cases (sound_copyPass consistent fits).treated recorded with
  | kept waits box_eq =>
    rw [waits]
    cases slot with
    | unchanged => exact box_eq
    | set cell => rfl
    | copy sourceRow sourceColumn => exact absurd waits (settled sourceRow sourceColumn)
  | moved done box_eq written =>
    have moves : display.moves row column := beq_iff_eq.mpr done
    rw [done, flushedBox, if_pos moves]
    exact box_eq
  | redrawn waits content box_eq =>
    have draws : ¬ display.moves row column := fun moves => by
      cases waits.symm.trans (beq_iff_eq.mp moves)
    rw [waits, flushedBox, if_neg draws, content]
    rfl

/-- What a flush makes of the box of a cell that it does not make a right half. -/
theorem box_flush (consistent : display.Consistent) (fits : display.Fits canvas)
    (background : Rgb) {row column : Nat} {slot : Slot} {cell : Cell}
    (recorded : display.pending.get? row column = some slot)
    (resolves : resolveSlot display.committed row column slot = some cell)
    (whole : cell.isContinuation = false) :
    (display.flushPlan.calls.foldl (Surface.drawCall background) canvas).box display.metrics
        row column = display.flushedBox canvas row column slot := by
  by_cases isEmpty : display.pending.isEmpty
  · rw [flushPlan, if_pos isEmpty,
      Pending.eq_unchanged_of_isEmpty consistent.valid isEmpty recorded]
    rfl
  · let copied := display.copyPass display.next display.pending.slots
    let filled := display.fillPass copied.slots
    have sound : copied.Sound display canvas := sound_copyPass consistent fits
    have fitsCopied : display.Fits (copied.drawn canvas) := fits.of_size (by simp) (by simp)
    have fitsFilled : display.Fits (filled.drawn (copied.drawn canvas)) :=
      fitsCopied.of_size (by simp) (by simp)
    have leads : (display.next.get? row column).all (!·.isContinuation) := by
      rw [get?_next consistent recorded, resolves]
      simp [whole]
    rw [drawn_flushPlan isEmpty background canvas,
      box_textPass fitsFilled (prepared_fillPass consistent fits) leads,
      textBox_fillPass fitsCopied sound.width_eq sound.height_eq]
    exact textBox_copyPass consistent fits recorded

end Display
end CellScreen
