import CellScreen.Proofs.Copies

/-! The fills of a flush. Blank cells that wait to be set get their background, block by block,
and all that then waits to be set is text. -/
namespace CellScreen

namespace Display

def FillPass.drawn (pass : FillPass) (canvas : Canvas) : Canvas :=
  pass.fills.foldl (fun canvas fill => canvas.fill fill.rect (.paint fill.color)) canvas

@[simp] theorem FillPass.width_drawn (pass : FillPass) (canvas : Canvas) :
    (pass.drawn canvas).width = canvas.width :=
  foldl_keeps (fun _ _ => Canvas.width_fill ..) pass.fills canvas

@[simp] theorem FillPass.height_drawn (pass : FillPass) (canvas : Canvas) :
    (pass.drawn canvas).height = canvas.height :=
  foldl_keeps (fun _ _ => Canvas.height_fill ..) pass.fills canvas

inductive FillPass.Treated (display : Display) (canvas : Canvas) (pass : FillPass)
    (row column : Nat) : Slot → Prop
  | kept {slot : Slot} (waits : pass.slots.get? row column = some slot)
      (box_eq : (pass.drawn canvas).box display.metrics row column =
        canvas.box display.metrics row column) : Treated display canvas pass row column slot
  | filled {slot : Slot} {color : Rgb} (fills : display.fillColor slot = some color)
      (done : pass.slots.get? row column = some .unchanged)
      (box_eq : (pass.drawn canvas).box display.metrics row column =
        display.metrics.plain color) : Treated display canvas pass row column slot

structure FillPass.Sound (display : Display) (canvas : Canvas) (slots : Grid Slot)
    (pass : FillPass) : Prop where
  width_eq : pass.slots.width = display.width
  height_eq : pass.slots.height = display.height
  treated : ∀ {row column : Nat} {slot : Slot}, slots.get? row column = some slot →
    pass.Treated display canvas row column slot

variable {display : Display} {canvas : Canvas} {slots : Grid Slot} {pass : FillPass}

private theorem FillPass.drawn_append (fill : PixelFill) :
    FillPass.drawn ⟨slots, pass.fills ++ [fill]⟩ canvas =
      (pass.drawn canvas).fill fill.rect (.paint fill.color) :=
  List.foldl_append ..

private theorem FillPass.Sound.fill (sound : pass.Sound display canvas slots)
    (fits : display.Fits canvas) {block : Block} {color : Rgb} (within : block.Within display)
    (alike : ∀ {row column : Nat}, (row, column) ∈ block.cells →
      (pass.slots.get? row column).bind display.fillColor = some color) :
    FillPass.Sound display canvas slots ⟨block.write pass.slots fun _ _ => .unchanged,
      pass.fills ++ [⟨display.blockRect block, color⟩]⟩ := by
  refine ⟨?_, ?_, ?_⟩
  · rw [Block.width_write, sound.width_eq]
  · rw [Block.height_write, sound.height_eq]
  · intro row column slot recorded
    have treated := sound.treated recorded
    have inside : row < pass.slots.height ∧ column < pass.slots.width := by
      cases treated with
      | kept waits box_eq => exact Grid.inside_of_get? waits
      | filled fills done box_eq => exact Grid.inside_of_get? done
    have stillFits : display.Fits (pass.drawn canvas) := fits.of_size (by simp) (by simp)
    have slot_eq := Block.get?_write block pass.slots (fun _ _ => .unchanged) inside
    have box_eq := Canvas.box_fill stillFits within color row column
    by_cases member : (row, column) ∈ block.cells
    · rw [if_pos member] at box_eq slot_eq
      have waiting := alike member
      have fills : display.fillColor slot = some color := by
        cases treated with
        | kept waits same => rwa [waits, Option.bind_some] at waiting
        | filled fills done same =>
          rw [done] at waiting
          cases waiting
      refine .filled fills slot_eq ?_
      rw [drawn_append, box_eq]
    · rw [if_neg member] at box_eq slot_eq
      cases treated with
      | kept waits same =>
        refine .kept (slot_eq.trans waits) ?_
        rw [drawn_append, box_eq, same]
      | filled fills done same =>
        refine .filled fills (slot_eq.trans done) ?_
        rw [drawn_append, box_eq, same]

inductive FillPass.Step (display : Display) (pass : FillPass) : FillPass → Prop
  | kept : Step display pass pass
  | filled {block : Block} {color : Rgb} (within : block.Within display)
      (alike : ∀ {row column : Nat}, (row, column) ∈ block.cells →
        (pass.slots.get? row column).bind display.fillColor = some color) :
      Step display pass ⟨block.write pass.slots fun _ _ => .unchanged,
        pass.fills ++ [⟨display.blockRect block, color⟩]⟩

private theorem step_fillStep (width_eq : pass.slots.width = display.width)
    (height_eq : pass.slots.height = display.height) (place : Nat × Nat) :
    pass.Step display (display.fillStep pass place) := by
  obtain ⟨row, column⟩ := place
  unfold fillStep
  dsimp only
  split
  · next color found =>
    obtain ⟨slot, waits, fills⟩ := Option.bind_eq_some_iff.mp found
    have inside := Grid.inside_of_get? waits
    rw [height_eq, width_eq] at inside ⊢
    let fitting := fun r c => (pass.slots.get? r c).bind display.fillColor == some color
    let block := Block.grown display.width display.height row column fitting
    have within : block.Within display := Block.within_grown inside.1 inside.2
    have start : fitting row column := beq_iff_eq.mpr found
    have alike {r c : Nat} (member : (r, c) ∈ block.cells) : fitting r c :=
      Block.fits_of_mem_grown start member
    exact .filled within fun member => beq_iff_eq.mp (alike member)
  · exact .kept

private theorem FillPass.Sound.step (sound : pass.Sound display canvas slots)
    (fits : display.Fits canvas)
    {next : FillPass} (step : pass.Step display next) : next.Sound display canvas slots := by
  cases step with
  | kept => exact sound
  | filled within alike => exact sound.fill fits within alike

def FillPass.Settled (display : Display) (place : Nat × Nat) (pass : FillPass) : Prop :=
  (pass.slots.get? place.1 place.2).bind display.fillColor = none

theorem settled_fillStep (place other : Nat × Nat) (pass : FillPass)
    (settled : other = place ∨ pass.Settled display place) :
    (display.fillStep pass other).Settled display place := by
  obtain ⟨row, column⟩ := other
  unfold fillStep
  dsimp only
  split
  · next color found =>
    generalize blockName : Block.grown _ _ row column _ = block
    have covered : place ∈ block.cells ∨ pass.Settled display place := by
      cases settled with
      | inl here =>
        rw [← blockName, ← here]
        exact .inl Block.mem_grown
      | inr before => exact .inr before
    unfold FillPass.Settled
    dsimp only
    cases written : (block.write pass.slots fun _ _ => .unchanged).get? place.1 place.2 with
    | none => rfl
    | some slot =>
      have inside := Grid.inside_of_get? written
      rw [Block.height_write, Block.width_write] at inside
      rw [Block.get?_write _ _ _ inside] at written
      split at written
      · cases written
        rfl
      · next apart =>
        rw [← written]
        exact covered.resolve_left apart
  · next absent =>
    cases settled with
    | inl here => exact here ▸ absent
    | inr before => exact before

theorem fillPass_induction (fits : display.Fits canvas) (width_eq : slots.width = display.width)
    (height_eq : slots.height = display.height) {motive : FillPass → Prop}
    (start : motive ⟨slots, []⟩)
    (step : ∀ {pass next : FillPass}, pass.Sound display canvas slots → motive pass →
      pass.Step display next → motive next) :
    (display.fillPass slots).Sound display canvas slots ∧ motive (display.fillPass slots) := by
  unfold fillPass
  apply List.foldlRecOn
    (motive := fun pass : FillPass => pass.Sound display canvas slots ∧ motive pass)
  · exact ⟨⟨width_eq, height_eq, fun recorded => .kept recorded rfl⟩, start⟩
  · intro pass ⟨sound, kept⟩ place member
    have next := step_fillStep sound.width_eq sound.height_eq place
    exact ⟨sound.step fits next, step sound kept next⟩

theorem sound_fillPass (fits : display.Fits canvas) (width_eq : slots.width = display.width)
    (height_eq : slots.height = display.height) :
    (display.fillPass slots).Sound display canvas slots :=
  (fillPass_induction (motive := fun _ => True) fits width_eq height_eq trivial
    fun _ _ _ => trivial).1

/-- After the fills nothing waits to be filled any more; what still waits to be set is text. -/
theorem settled_fillPass {row column : Nat} (inside : row < slots.height ∧ column < slots.width) :
    (display.fillPass slots).Settled display (row, column) :=
  foldl_establishes (fun place pass => settled_fillStep place place pass (.inl rfl))
    (fun place other pass settled => settled_fillStep place other pass (.inr settled))
    (Grid.mem_places.mpr inside) _

/-- The fills paint what waits for them and leave all else, also what is off the grid. -/
theorem box_fillPass (fits : display.Fits canvas) (width_eq : slots.width = display.width)
    (height_eq : slots.height = display.height) (row column : Nat) :
    ((display.fillPass slots).drawn canvas).box display.metrics row column =
      match (slots.get? row column).bind display.fillColor with
      | some color => display.metrics.plain color
      | none => canvas.box display.metrics row column := by
  cases found : slots.get? row column with
  | some slot =>
    have settled : ((display.fillPass slots).slots.get? row column).bind display.fillColor = none :=
      settled_fillPass (Grid.inside_of_get? found)
    rw [Option.bind_some]
    cases (sound_fillPass fits width_eq height_eq).treated found with
    | kept waits box_eq =>
      rw [waits, Option.bind_some] at settled
      rw [settled, box_eq]
    | filled fills done box_eq => rw [fills, box_eq]
  | none =>
    rw [Grid.get?_eq_none_iff, width_eq, height_eq] at found
    refine (fillPass_induction (motive := fun pass => (pass.drawn canvas).box display.metrics row
      column = canvas.box display.metrics row column) fits width_eq height_eq rfl ?_).2
    intro pass next sound kept step
    cases step with
    | kept => exact kept
    | filled within alike =>
      have stillFits : display.Fits (pass.drawn canvas) := fits.of_size (by simp) (by simp)
      rw [FillPass.drawn_append, Canvas.box_fill stillFits within,
        if_neg fun member => found (within.inside member)]
      exact kept

theorem set_fillPass_iff (fits : display.Fits canvas) (width_eq : slots.width = display.width)
    (height_eq : slots.height = display.height) {row column : Nat} {cell : Cell} :
    (display.fillPass slots).slots.get? row column = some (.set cell) ↔
      slots.get? row column = some (.set cell) ∧ display.fillColor (.set cell) = none := by
  have sound := sound_fillPass fits width_eq height_eq
  constructor
  · intro waits
    have inside := Grid.inside_of_get? waits
    rw [sound.width_eq, sound.height_eq, ← width_eq, ← height_eq] at inside
    have settled : ((display.fillPass slots).slots.get? row column).bind display.fillColor = none :=
      settled_fillPass inside
    rw [waits, Option.bind_some] at settled
    obtain ⟨slot, found⟩ := Grid.exists_get? inside
    cases sound.treated found with
    | kept same box_eq =>
      cases same.symm.trans waits
      exact ⟨found, settled⟩
    | filled fills done box_eq => cases done.symm.trans waits
  · rintro ⟨found, unfilled⟩
    cases sound.treated found with
    | kept same box_eq => exact same
    | filled fills done box_eq => cases unfilled.symm.trans fills

end Display
end CellScreen
