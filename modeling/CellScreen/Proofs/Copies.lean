import CellScreen.Proofs.Box
import CellScreen.Proofs.Request

/-! The copies of a flush. Each cell with a pending copy gets the pixels that its source had before
the flush, or is left to be drawn; no copy reads pixels that an earlier one has written. -/
namespace CellScreen

private theorem Rect.intersects_of_contains {first second : Rect} {x y : Int}
    (one : first.contains x y) (other : second.contains x y) : first.intersects second := by
  have filled {rect : Rect} (inside : rect.contains x y) : rect.isEmpty = false := by
    rw [contains_iff] at inside
    have wide : rect.width ≠ 0 := fun none => by
      rw [none] at inside
      exact absurd (Int.lt_of_le_of_lt inside.1.1 inside.1.2) (by simp [coordinate])
    have high : rect.height ≠ 0 := fun none => by
      rw [none] at inside
      exact absurd (Int.lt_of_le_of_lt inside.2.1 inside.2.2) (by simp [coordinate])
    simp [isEmpty, wide, high]
  have nonempty := filled one
  have nonempty' := filled other
  simp only [contains, Bool.and_eq_true, decide_eq_true_eq] at one other
  simp only [intersects, nonempty, nonempty', Bool.not_false, Bool.true_and, Bool.and_eq_true,
    decide_eq_true_eq]
  refine ⟨⟨⟨?_, ?_⟩, ?_⟩, ?_⟩
  · exact Int.lt_of_le_of_lt one.1.1.1 other.1.1.2
  · exact Int.lt_of_le_of_lt other.1.1.1 one.1.1.2
  · exact Int.lt_of_le_of_lt one.1.2 other.2
  · exact Int.lt_of_le_of_lt other.1.2 one.2

namespace Display

def next (display : Display) : Grid Cell := resolved display.committed display.pending.slots

theorem get?_next {display : Display} (consistent : display.Consistent) {row column : Nat}
    {slot : Slot} (found : display.pending.get? row column = some slot) :
    display.next.get? row column = resolveSlot display.committed row column slot :=
  get?_resolved consistent found

private theorem get?_of_mem_copyBlock {slots : Grid Slot} {row column sourceRow sourceColumn : Nat}
    (found : slots.get? row column = some (.copy sourceRow sourceColumn))
    (sourced : sourceRow < slots.height ∧ sourceColumn < slots.width) {r c : Nat}
    (member : (r, c) ∈ (copyBlock slots row column sourceRow sourceColumn).cells) :
    slots.get? r c = some (.copy (sourceRow + (r - row)) (sourceColumn + (c - column))) ∧
      sourceRow + (r - row) < slots.height ∧ sourceColumn + (c - column) < slots.width := by
  have fits := Block.fits_of_mem_grown (by simpa using ⟨⟨sourced.2, sourced.1⟩, found⟩) member
  simp only [Bool.and_eq_true, decide_eq_true_eq, beq_iff_eq] at fits
  exact ⟨fits.2, fits.1.2, fits.1.1⟩

private theorem sourceWithin_copyBlock {display : Display} {slots : Grid Slot}
    (width_eq : slots.width = display.width) (height_eq : slots.height = display.height)
    {row column sourceRow sourceColumn : Nat}
    (found : slots.get? row column = some (.copy sourceRow sourceColumn))
    (sourced : sourceRow < slots.height ∧ sourceColumn < slots.width) :
    ((copyBlock slots row column sourceRow sourceColumn).movedTo sourceRow sourceColumn).Within
      display := by
  let block := copyBlock slots row column sourceRow sourceColumn
  have rows : 0 < block.rows := Nat.succ_pos _
  have columns : 0 < block.columns := Nat.succ_pos _
  have corner : (row + (block.rows - 1), column + (block.columns - 1)) ∈ block.cells := by
    rw [Block.mem_cells]
    show (row ≤ _ ∧ _ < row + block.rows) ∧ column ≤ _ ∧ _ < column + block.columns
    omega
  have last := (get?_of_mem_copyBlock found sourced corner).2
  constructor
  · show sourceRow + block.rows ≤ display.height
    omega
  · show sourceColumn + block.columns ≤ display.width
    omega

def CopyPass.drawn (pass : CopyPass) (canvas : Canvas) : Canvas :=
  pass.copies.foldl
    (fun canvas copy => canvas.copy copy.source copy.destination.x copy.destination.y) canvas

@[simp] theorem CopyPass.width_drawn (pass : CopyPass) (canvas : Canvas) :
    (pass.drawn canvas).width = canvas.width :=
  foldl_keeps (fun _ _ => Canvas.width_copy ..) pass.copies canvas

@[simp] theorem CopyPass.height_drawn (pass : CopyPass) (canvas : Canvas) :
    (pass.drawn canvas).height = canvas.height :=
  foldl_keeps (fun _ _ => Canvas.height_copy ..) pass.copies canvas

inductive CopyPass.Treated (display : Display) (canvas : Canvas) (pass : CopyPass)
    (row column : Nat) : Slot → Prop
  | kept {slot : Slot} (waits : pass.slots.get? row column = some slot)
      (box_eq : (pass.drawn canvas).box display.metrics row column =
        canvas.box display.metrics row column) : Treated display canvas pass row column slot
  | moved {sourceRow sourceColumn : Nat} (done : pass.slots.get? row column = some .unchanged)
      (box_eq : (pass.drawn canvas).box display.metrics row column =
        canvas.box display.metrics sourceRow sourceColumn)
      (written : ∃ copy ∈ pass.copies, copy.destination.contains
        (column * display.metrics.width : Nat) (row * display.metrics.height : Nat)) :
      Treated display canvas pass row column (.copy sourceRow sourceColumn)
  | redrawn {sourceRow sourceColumn : Nat} {cell : Cell}
      (waits : pass.slots.get? row column = some (.set cell))
      (next : display.committed.get? sourceRow sourceColumn = some cell)
      (box_eq : (pass.drawn canvas).box display.metrics row column =
        canvas.box display.metrics row column) :
      Treated display canvas pass row column (.copy sourceRow sourceColumn)

structure CopyPass.Sound (display : Display) (canvas : Canvas) (pass : CopyPass) : Prop where
  width_eq : pass.slots.width = display.width
  height_eq : pass.slots.height = display.height
  treated : ∀ {row column : Nat} {slot : Slot}, display.pending.get? row column = some slot →
    pass.Treated display canvas row column slot

structure CopyPass.Traced (display : Display) (pass : CopyPass) : Prop where
  width_eq : pass.slots.width = display.width
  height_eq : pass.slots.height = display.height
  of_copy : ∀ {row column sourceRow sourceColumn : Nat},
    pass.slots.get? row column = some (.copy sourceRow sourceColumn) →
      display.pending.get? row column = some (.copy sourceRow sourceColumn)

variable {display : Display} {canvas : Canvas} {pass : CopyPass}

theorem contains_origin (fits : display.Fits canvas) {block : Block}
    (within : block.Within display) {row column : Nat} :
    (display.blockRect block).contains (column * display.metrics.width : Nat)
        (row * display.metrics.height : Nat) ↔ (row, column) ∈ block.cells := by
  have corner : (display.blockRect block).contains (column * display.metrics.width + 0 : Nat)
      (row * display.metrics.height + 0 : Nat) ↔ (row, column) ∈ block.cells :=
    contains_blockRect fits within fits.high fits.wide
  rwa [Nat.add_zero, Nat.add_zero] at corner

theorem CopyPass.Sound.of_copy (sound : pass.Sound display canvas)
    (consistent : display.Consistent) {row column sourceRow sourceColumn : Nat}
    (found : pass.slots.get? row column = some (.copy sourceRow sourceColumn)) :
    display.pending.get? row column = some (.copy sourceRow sourceColumn) := by
  have inside := Grid.inside_of_get? found
  rw [sound.height_eq, sound.width_eq] at inside
  obtain ⟨slot, recorded⟩ := exists_slot consistent inside
  rw [recorded]
  cases sound.treated recorded with
  | kept waits box_eq => exact waits.symm.trans found
  | moved done box_eq written => cases done.symm.trans found
  | redrawn waits next box_eq => cases waits.symm.trans found

theorem CopyPass.not_written (fits : display.Fits canvas) {block : Block}
    (within : block.Within display)
    (apart : pass.copies.any (·.destination.intersects (display.blockRect block)) = false)
    {row column : Nat} (member : (row, column) ∈ block.cells) :
    ¬ ∃ copy ∈ pass.copies, copy.destination.contains
      (column * display.metrics.width : Nat) (row * display.metrics.height : Nat) := by
  rintro ⟨copy, earlier, contained⟩
  have meets : copy.destination.intersects (display.blockRect block) :=
    Rect.intersects_of_contains contained ((contains_origin fits within).mpr member)
  rw [List.any_eq_false] at apart
  exact apart copy earlier meets

private theorem CopyPass.Sound.box_of_apart (sound : pass.Sound display canvas)
    (consistent : display.Consistent) (fits : display.Fits canvas) {block : Block}
    (within : block.Within display)
    (apart : pass.copies.any (·.destination.intersects (display.blockRect block)) = false)
    {row column : Nat} (member : (row, column) ∈ block.cells) :
    (pass.drawn canvas).box display.metrics row column =
      canvas.box display.metrics row column := by
  have inside := within.inside member
  obtain ⟨slot, recorded⟩ := exists_slot consistent inside
  cases sound.treated recorded with
  | kept waits box_eq => exact box_eq
  | redrawn waits next box_eq => exact box_eq
  | moved done box_eq written =>
    exact absurd written (CopyPass.not_written fits within apart member)

private theorem CopyPass.Treated.mono {next : CopyPass} {row column : Nat} {slot : Slot}
    (treated : pass.Treated display canvas row column slot)
    (slot_eq : next.slots.get? row column = pass.slots.get? row column)
    (box_eq : (next.drawn canvas).box display.metrics row column =
      (pass.drawn canvas).box display.metrics row column)
    (more : ∀ copy ∈ pass.copies, copy ∈ next.copies) :
    next.Treated display canvas row column slot := by
  cases treated with
  | kept waits same => exact .kept (slot_eq.trans waits) (box_eq.trans same)
  | redrawn waits content same => exact .redrawn (slot_eq.trans waits) content (box_eq.trans same)
  | moved done same written =>
    obtain ⟨copy, earlier, contained⟩ := written
    exact .moved (slot_eq.trans done) (box_eq.trans same) ⟨copy, more copy earlier, contained⟩

theorem CopyPass.drawn_append (slots : Grid Slot) (copy : PixelCopy) :
    CopyPass.drawn ⟨slots, pass.copies ++ [copy]⟩ canvas =
      (pass.drawn canvas).copy copy.source copy.destination.x copy.destination.y :=
  List.foldl_append ..

private theorem CopyPass.Sound.redraw (sound : pass.Sound display canvas)
    (consistent : display.Consistent) {block : Block}
    (copies : ∀ {row column : Nat}, (row, column) ∈ block.cells →
      ∃ sourceRow sourceColumn, pass.slots.get? row column = some (.copy sourceRow sourceColumn)) :
    CopyPass.Sound display canvas { pass with
      slots := block.write pass.slots fun row column =>
        .set ((display.next.get? row column).getD
          (.blank .default)) } := by
  refine ⟨?_, ?_, ?_⟩
  · rw [Block.width_write, sound.width_eq]
  · rw [Block.height_write, sound.height_eq]
  · intro row column slot recorded
    have treated := sound.treated recorded
    have inside := inside_of_slot consistent recorded
    rw [← sound.width_eq, ← sound.height_eq] at inside
    by_cases member : (row, column) ∈ block.cells
    · obtain ⟨sourceRow, sourceColumn, found⟩ := copies member
      cases recorded.symm.trans (sound.of_copy consistent found)
      obtain ⟨cell, resolves⟩ := exists_resolveSlot consistent recorded
      refine .redrawn ?_ resolves ?_
      · rw [Block.get?_write _ _ _ inside, if_pos member, get?_next consistent recorded,
          resolves, Option.getD_some]
      · cases treated with
        | kept waits box_eq => exact box_eq
        | moved done box_eq earlier => cases done.symm.trans found
        | redrawn waits next box_eq => cases waits.symm.trans found
    · refine treated.mono ?_ rfl fun _ => id
      rw [Block.get?_write _ _ _ inside, if_neg member]

theorem mem_movedTo {block : Block} {row column : Nat} (member : (row, column) ∈ block.cells)
    (sourceRow sourceColumn : Nat) :
    (sourceRow + (row - block.row), sourceColumn + (column - block.column)) ∈
      (block.movedTo sourceRow sourceColumn).cells := by
  have place := Block.mem_cells.mp member
  rw [Block.mem_cells]
  simp only [Block.movedTo]
  omega

private theorem CopyPass.Sound.move (sound : pass.Sound display canvas)
    (consistent : display.Consistent) (fits : display.Fits canvas) {block : Block}
    {sourceRow sourceColumn : Nat} (within : block.Within display)
    (sourceWithin : (block.movedTo sourceRow sourceColumn).Within display)
    (copies : ∀ {row column : Nat}, (row, column) ∈ block.cells → pass.slots.get? row column =
      some (.copy (sourceRow + (row - block.row)) (sourceColumn + (column - block.column))))
    (apart : pass.copies.any (·.destination.intersects
      (display.blockRect (block.movedTo sourceRow sourceColumn))) = false) :
    CopyPass.Sound display canvas ⟨block.write pass.slots fun _ _ => .unchanged,
      pass.copies ++ [⟨display.blockRect (block.movedTo sourceRow sourceColumn),
        display.blockRect block⟩]⟩ := by
  refine ⟨?_, ?_, ?_⟩
  · rw [Block.width_write, sound.width_eq]
  · rw [Block.height_write, sound.height_eq]
  · intro row column slot recorded
    have treated := sound.treated recorded
    have inside := inside_of_slot consistent recorded
    have stillFits : display.Fits (pass.drawn canvas) := fits.of_size (by simp) (by simp)
    have box_eq := Canvas.box_copy stillFits within sourceWithin inside
    have slot_eq := Block.get?_write block pass.slots (fun _ _ => .unchanged)
      (by rwa [sound.width_eq, sound.height_eq])
    by_cases member : (row, column) ∈ block.cells
    -- The pixels come from the drawn canvas, but those of the source are as before the flush.
    · rw [if_pos member] at box_eq slot_eq
      cases recorded.symm.trans (sound.of_copy consistent (copies member))
      refine .moved slot_eq ?_ ⟨_, List.mem_append_right _ (List.mem_singleton_self _), ?_⟩
      · rw [CopyPass.drawn_append, box_eq]
        exact sound.box_of_apart consistent fits sourceWithin apart (mem_movedTo member _ _)
      · exact (contains_origin fits within).mpr member
    · rw [if_neg member] at box_eq slot_eq
      refine treated.mono slot_eq ?_ fun _ => List.mem_append_left _
      rw [CopyPass.drawn_append, box_eq]

inductive CopyPass.Step (display : Display) (pass : CopyPass) (place : Nat × Nat) :
    CopyPass → Prop
  | kept : Step display pass place pass
  | redrawn {block : Block} {sourceRow sourceColumn : Nat} (starts : block.row = place.1)
      (within : block.Within display)
      (sourceWithin : (block.movedTo sourceRow sourceColumn).Within display)
      (copies : ∀ {row column : Nat}, (row, column) ∈ block.cells → pass.slots.get? row column =
        some (.copy (sourceRow + (row - block.row)) (sourceColumn + (column - block.column))))
      (meets : pass.copies.any (·.destination.intersects
        (display.blockRect (block.movedTo sourceRow sourceColumn))) = true) :
      Step display pass place { pass with
        slots := block.write pass.slots fun row column =>
          .set ((display.next.get? row column).getD (.blank .default)) }
  | moved {block : Block} {sourceRow sourceColumn : Nat} (starts : block.row = place.1)
      (within : block.Within display)
      (sourceWithin : (block.movedTo sourceRow sourceColumn).Within display)
      (copies : ∀ {row column : Nat}, (row, column) ∈ block.cells → pass.slots.get? row column =
        some (.copy (sourceRow + (row - block.row)) (sourceColumn + (column - block.column))))
      (apart : pass.copies.any (·.destination.intersects
        (display.blockRect (block.movedTo sourceRow sourceColumn))) = false) :
      Step display pass place ⟨block.write pass.slots fun _ _ => .unchanged,
        pass.copies ++ [⟨display.blockRect (block.movedTo sourceRow sourceColumn),
          display.blockRect block⟩]⟩

theorem step_copyStep (consistent : display.Consistent) (traced : pass.Traced display)
    (place : Nat × Nat) : pass.Step display place (display.copyStep display.next pass place) := by
  obtain ⟨row, column⟩ := place
  unfold copyStep
  dsimp only
  split
  · next sourceRow sourceColumn found =>
    have inside := Grid.inside_of_get? found
    have sourced : sourceRow < pass.slots.height ∧ sourceColumn < pass.slots.width := by
      rw [traced.height_eq, traced.width_eq, ← consistent.height_eq, ← consistent.width_eq]
      exact consistent.valid.sourced (traced.of_copy found)
    let block := copyBlock pass.slots row column sourceRow sourceColumn
    have copies {r c : Nat} (member : (r, c) ∈ block.cells) :=
      (get?_of_mem_copyBlock found sourced member).1
    have within : block.Within display := by
      rw [traced.height_eq, traced.width_eq] at inside
      simp only [block, copyBlock, traced.height_eq, traced.width_eq]
      exact Block.within_grown inside.1 inside.2
    have sourceWithin : (block.movedTo sourceRow sourceColumn).Within display :=
      sourceWithin_copyBlock traced.width_eq traced.height_eq found sourced
    split
    · next meets => exact .redrawn rfl within sourceWithin copies meets
    · next apart => exact .moved rfl within sourceWithin copies (Bool.eq_false_iff.mpr apart)
  · exact .kept

private theorem CopyPass.Traced.write (traced : pass.Traced display) (block : Block)
    {written : Nat → Nat → Slot} (plain : ∀ row column sourceRow sourceColumn,
      written row column ≠ .copy sourceRow sourceColumn) (copies : List PixelCopy) :
    CopyPass.Traced display ⟨block.write pass.slots written, copies⟩ := by
  refine ⟨?_, ?_, fun {row column sourceRow sourceColumn} found => ?_⟩
  · rw [Block.width_write, traced.width_eq]
  · rw [Block.height_write, traced.height_eq]
  · have inside := Grid.inside_of_get? found
    rw [Block.height_write, Block.width_write] at inside
    dsimp only at found
    rw [Block.get?_write _ _ _ inside] at found
    split at found
    · exact absurd (Option.some.inj found) (plain row column sourceRow sourceColumn)
    · exact traced.of_copy found

theorem CopyPass.Traced.step (traced : pass.Traced display) {next : CopyPass} {place : Nat × Nat}
    (step : pass.Step display place next) : next.Traced display := by
  cases step with
  | kept => exact traced
  | redrawn starts within sourceWithin copies meets => exact traced.write _ (by simp) _
  | moved starts within sourceWithin copies apart => exact traced.write _ (by simp) _

private theorem CopyPass.Sound.step (sound : pass.Sound display canvas)
    (consistent : display.Consistent)
    (fits : display.Fits canvas) {next : CopyPass} {place : Nat × Nat}
    (step : pass.Step display place next) : next.Sound display canvas := by
  cases step with
  | kept => exact sound
  | redrawn starts within sourceWithin copies meets =>
    exact sound.redraw consistent fun member => ⟨_, _, copies member⟩
  | moved starts within sourceWithin copies apart =>
    exact sound.move consistent fits within sourceWithin copies apart

def CopyPass.Settled (place : Nat × Nat) (pass : CopyPass) : Prop :=
  ∀ sourceRow sourceColumn, pass.slots.get? place.1 place.2 ≠ some (.copy sourceRow sourceColumn)

private theorem CopyPass.settled_write {place : Nat × Nat} {block : Block} {slots : Grid Slot}
    {written : Nat → Nat → Slot} {copies : List PixelCopy}
    (plain : ∀ row column sourceRow sourceColumn, written row column ≠
      .copy sourceRow sourceColumn)
    (covered : place ∈ block.cells ∨ CopyPass.Settled place ⟨slots, copies⟩)
    {others : List PixelCopy} : CopyPass.Settled place ⟨block.write slots written, others⟩ := by
  intro sourceRow sourceColumn found
  have inside := Grid.inside_of_get? found
  rw [Block.height_write, Block.width_write] at inside
  dsimp only at found
  rw [Block.get?_write _ _ _ inside] at found
  split at found
  · exact plain _ _ _ _ (Option.some.inj found)
  · next apart =>
    exact (covered.resolve_left apart) sourceRow sourceColumn found

private theorem settled_copyStep (next : Grid Cell) (place other : Nat × Nat) (pass : CopyPass)
    (settled : other = place ∨ pass.Settled place) :
    (display.copyStep next pass other).Settled place := by
  obtain ⟨row, column⟩ := other
  unfold copyStep
  dsimp only
  split
  · next sourceRow sourceColumn found =>
    have covered : place ∈ (copyBlock pass.slots row column sourceRow sourceColumn).cells ∨
        pass.Settled place := by
      cases settled with
      | inl here => exact .inl (here ▸ Block.mem_grown)
      | inr before => exact .inr before
    split
    · exact CopyPass.settled_write (by simp) covered
    · exact CopyPass.settled_write (by simp) covered
  · next absent =>
    cases settled with
    | inl here => exact here ▸ absent
    | inr before => exact before

theorem copyPass_induction (consistent : display.Consistent) {motive : CopyPass → Prop}
    (start : motive ⟨display.pending.slots, []⟩)
    (step : ∀ {pass next : CopyPass} {place : Nat × Nat}, pass.Traced display →
      motive pass → pass.Step display place next → motive next) :
    (display.copyPass display.next display.pending.slots).Traced display ∧
      motive (display.copyPass display.next display.pending.slots) := by
  unfold copyPass
  apply List.foldlRecOn (motive := fun pass : CopyPass => pass.Traced display ∧ motive pass)
  · exact ⟨⟨consistent.width_eq, consistent.height_eq, id⟩, start⟩
  · intro pass ⟨traced, kept⟩ place member
    have next := step_copyStep consistent traced place
    exact ⟨traced.step next, step traced kept next⟩

theorem sound_copyPass_induction (consistent : display.Consistent) (fits : display.Fits canvas)
    {motive : CopyPass → Prop} (start : motive ⟨display.pending.slots, []⟩)
    (step : ∀ {pass next : CopyPass} {place : Nat × Nat}, pass.Sound display canvas →
      motive pass → pass.Step display place next → motive next) :
    (display.copyPass display.next display.pending.slots).Sound display canvas ∧
      motive (display.copyPass display.next display.pending.slots) := by
  refine (copyPass_induction (motive := fun pass => pass.Sound display canvas ∧ motive pass)
    consistent ⟨⟨consistent.width_eq, consistent.height_eq, fun recorded => .kept recorded rfl⟩,
      start⟩ ?_).2
  intro pass next place traced ⟨sound, kept⟩ taken
  exact ⟨sound.step consistent fits taken, step sound kept taken⟩

/-- No copy reads what an earlier copy of the pass has written: such a block is drawn instead. -/
theorem sound_copyPass (consistent : display.Consistent) (fits : display.Fits canvas) :
    (display.copyPass display.next
      display.pending.slots).Sound display canvas :=
  (sound_copyPass_induction (motive := fun _ => True) consistent fits trivial
    fun _ _ _ => trivial).1

theorem settled_copyPass (next : Grid Cell) (slots : Grid Slot) {row column : Nat}
    (inside : row < slots.height ∧ column < slots.width) :
    (display.copyPass next slots).Settled (row, column) :=
  foldl_establishes (fun place pass => settled_copyStep next place place pass (.inl rfl))
    (fun place other pass settled => settled_copyStep next place other pass (.inr settled))
    (Grid.mem_places.mpr inside) _

end Display
end CellScreen
