import CellScreen.Proofs.Clipping
import CellScreen.Proofs.Conveying
import CellScreen.Proofs.Lettering
import CellScreen.Proofs.Repainting

/-! One flush paints every change once. Copies, fills and text share the changes among them, and all
that they read or paint is made of whole cells of the grid. Right halves apart, which go with their
characters, a cell with a change is painted by exactly one call, and a cell without one by none. -/
namespace CellScreen

namespace FlushPlan

theorem map_pass?_calls (plan : FlushPlan) : plan.calls.map Call.pass? =
    List.replicate plan.copies.length (some .copy) ++
      List.replicate plan.fills.length (some .fill) ++
      List.replicate plan.runs.length (some .text) := by
  simp only [calls, List.map_append, List.map_map, Function.comp_def, Call.pass?, List.map_const']

private theorem painted_calls (plan : FlushPlan) (aligned : ∀ copy ∈ plan.copies,
      copy.destination = { copy.source with x := copy.destination.x, y := copy.destination.y }) :
    plan.calls.flatMap Call.painted =
      plan.copies.map (·.destination) ++ plan.fills.map (·.rect) ++
        plan.runs.flatMap TextRun.boxes := by
  simp only [calls, List.flatMap_append, List.flatMap_map, Call.painted]
  rw [← List.map_eq_flatMap, ← List.map_eq_flatMap, List.map_congr_left aligned]

end FlushPlan

namespace Display

variable {display : Display} {canvas : Canvas}

private theorem not_copy_of_filled (consistent : display.Consistent) (fits : display.Fits canvas)
    {row column : Nat}
    (inside : row < display.pending.slots.height ∧ column < display.pending.slots.width) :
    let copied := display.copyPass display.next display.pending.slots
    ∀ sourceRow sourceColumn, (display.fillPass copied.slots).slots.get? row column ≠
      some (.copy sourceRow sourceColumn) := by
  intro copied sourceRow sourceColumn waits
  have settled : copied.Settled (row, column) := settled_copyPass _ _ inside
  have sound : copied.Sound display canvas := sound_copyPass consistent fits
  have filled := sound_fillPass fits sound.width_eq sound.height_eq
  have place := Grid.inside_of_get? waits
  rw [filled.height_eq, filled.width_eq, ← sound.height_eq, ← sound.width_eq] at place
  obtain ⟨slot, found⟩ := Grid.exists_get? place
  cases filled.treated found with
  | kept same box_eq => exact settled sourceRow sourceColumn (found.trans (same.symm.trans waits))
  | filled fills done box_eq => cases done.symm.trans waits

private theorem hits_passes (consistent : display.Consistent) (fits : display.Fits canvas)
    {row column : Nat} {slot : Slot} {cell : Cell}
    (recorded : display.pending.get? row column = some slot)
    (resolves : resolveSlot display.committed row column slot = some cell)
    (whole : cell.isContinuation = false) :
    let copied := display.copyPass display.next display.pending.slots
    let filled := display.fillPass copied.slots
    display.hits (copied.copies.map (·.destination)) row column +
        display.hits (filled.fills.map (·.rect)) row column +
        display.hits ((display.textPass display.next filled.slots).flatMap TextRun.boxes)
          row column =
      if slot = .unchanged then 0 else 1 := by
  intro copied filled
  have sound : copied.Sound display canvas := sound_copyPass consistent fits
  have copying := (counted_copyPass consistent fits).1
  have filling := counted_fillPass fits sound.width_eq sound.height_eq
  have place := inside_of_slot consistent recorded
  rw [← sound.width_eq, ← sound.height_eq] at place
  obtain ⟨between, found⟩ := Grid.exists_get? place
  have leads : (display.next.get? row column).all (!·.isContinuation) := by
    rw [get?_next consistent recorded, resolves]
    simp [whole]
  rw [copying.once recorded, filling.once found,
    (boxes_textPass fits (prepared_fillPass consistent fits)).2 leads]
  have finished := not_copy_of_filled consistent fits (Grid.inside_of_get? recorded)
  obtain ⟨last, waits⟩ : ∃ last, filled.slots.get? row column = some last :=
    Grid.exists_get? (by rwa [filling.width_eq, filling.height_eq])
  -- A change is done by the copies, or by the fills, or else it waits for the text.
  rw [found, waits]
  by_cases unchanged : slot = .unchanged
  · rw [unchanged] at recorded
    cases found.symm.trans (copying.kept recorded)
    cases waits.symm.trans (filling.kept found)
    simp [unchanged, Slot.isSet]
  · by_cases moved : between = .unchanged
    · rw [moved] at found
      cases waits.symm.trans (filling.kept found)
      simp [unchanged, moved, Slot.isSet]
    · cases last with
      | unchanged => simp [unchanged, moved, Slot.isSet]
      | set cell => simp [unchanged, moved, Slot.isSet]
      | copy sourceRow sourceColumn => exact absurd waits (finished sourceRow sourceColumn)

/-- Every rectangle of a call is one of whole cells. -/
theorem blocks_flushPlan (consistent : display.Consistent) (fits : display.Fits canvas)
    {call : Call} (member : call ∈ display.flushPlan.calls) :
    (∀ rect ∈ call.painted, display.IsBlock rect) ∧
      ∀ rect ∈ call.extents, display.IsBlock rect := by
  unfold flushPlan at member
  split at member
  · cases member
  · have prepared := prepared_fillPass consistent fits
    have sound : (display.copyPass display.next display.pending.slots).Sound display canvas :=
      sound_copyPass consistent fits
    obtain ⟨copying, aligned⟩ := counted_copyPass consistent fits
    have filling := counted_fillPass fits sound.width_eq sound.height_eq
    simp only [FlushPlan.calls, List.mem_append, List.mem_map] at member
    obtain (⟨copy, member, rfl⟩ | ⟨fill, member, rfl⟩) | ⟨run, member, rfl⟩ := member
    · obtain ⟨source, destination_eq⟩ := aligned copy member
      have destination := copying.blocks _ (List.mem_map_of_mem member)
      rw [destination_eq] at destination
      simp [Call.painted, Call.extents, source, destination]
    · have rect := filling.blocks _ (List.mem_map_of_mem member)
      simp [Call.painted, Call.extents, rect]
    · have bounds := bounds_textPass fits prepared run member
      refine ⟨fun rect inRun => ?_, ?_⟩
      · exact (boxes_textPass fits prepared).1 rect (List.mem_flatMap.mpr ⟨run, member, inRun⟩)
      · simp [Call.extents, bounds]

private theorem hits_flushPlan (consistent : display.Consistent) (fits : display.Fits canvas)
    {row column : Nat} {slot : Slot} {cell : Cell}
    (recorded : display.pending.get? row column = some slot)
    (resolves : resolveSlot display.committed row column slot = some cell)
    (whole : cell.isContinuation = false) :
    display.hits (display.flushPlan.calls.flatMap Call.painted) row column =
      if slot = .unchanged then 0 else 1 := by
  unfold flushPlan
  split
  · next isEmpty =>
    rw [if_pos (Pending.eq_unchanged_of_isEmpty consistent.valid isEmpty recorded)]
    rfl
  · rw [FlushPlan.painted_calls _ fun copy member =>
        ((counted_copyPass consistent fits).2 copy member).2, hits_append, hits_append]
    exact hits_passes consistent fits recorded resolves whole

private theorem cells_flushPlan (consistent : display.Consistent) :
    display.flushPlan.cells = display.pending.slots.entries.countP (!·.isUnchanged) := by
  rw [← consistent.valid.counted, flushPlan]
  split
  · next isEmpty => exact (beq_iff_eq.mp isEmpty).symm
  · rfl

theorem IsBlock.inside {rect : Rect} (isBlock : display.IsBlock rect) (fits : display.Fits canvas) :
    rect.Inside display.pixelSize := by
  obtain ⟨block, within, rfl⟩ := isBlock
  have across : (block.column + block.columns) * display.metrics.width ≤
      display.width * display.metrics.width := Nat.mul_le_mul_right _ within.2
  have down : (block.row + block.rows) * display.metrics.height ≤
      display.height * display.metrics.height := Nat.mul_le_mul_right _ within.1
  rw [Nat.add_mul] at across down
  have size : display.pixelSize = (display.width * display.metrics.width,
    display.height * display.metrics.height) :=
      Prod.ext (extent_of_bounded fits.columns_small) (extent_of_bounded fits.rows_small)
  rw [blockRect, cellRect_eq fits within.1 within.2, size]
  unfold Rect.Inside
  dsimp only
  omega

/-- A rectangle of whole cells covers the cells that it meets, which are those with their first
pixel in it. -/
theorem IsBlock.meets_iff {rect : Rect} (isBlock : display.IsBlock rect)
    (fits : display.Fits canvas) {row column : Nat} :
    (rect.Meets display.metrics row column ↔ rect.contains (column * display.metrics.width : Nat)
      (row * display.metrics.height : Nat)) ∧
    (rect.Meets display.metrics row column → rect.Covers display.metrics row column) := by
  obtain ⟨block, within, rfl⟩ := isBlock
  have pixels {y x : Nat} (yInside : y < display.metrics.height)
      (xInside : x < display.metrics.width) :
      (display.blockRect block).HasPixel display.metrics row column y x ↔
        (row, column) ∈ block.cells := contains_blockRect fits within yInside xInside
  rw [contains_origin fits within]
  have member : (display.blockRect block).Meets display.metrics row column →
      (row, column) ∈ block.cells := by
    rintro ⟨y, yInside, x, xInside, has⟩
    exact (pixels yInside xInside).mp has
  refine ⟨⟨member, fun inBlock => ?_⟩, fun meets y yInside x xInside => ?_⟩
  · exact ⟨0, fits.high, 0, fits.wide, (pixels fits.high fits.wide).mpr inBlock⟩
  · exact (pixels yInside xInside).mpr (member meets)

end Display

namespace Screen

/-- The calls of a flush are copies, then fills, then text, as many of each kind as it reports, and
stay within the grid. Every change is painted by exactly one of them, over all pixels of its cell,
and no pixel of a cell without a change is painted; right halves go with their characters. -/
theorem painted_flushOperations {screen : Screen}
    (reached : screen.display.pending.Reached screen.display.width screen.display.height)
    (solid : 0 < screen.display.metrics.width ∧ 0 < screen.display.metrics.height)
    (bounded : screen.display.width * screen.display.metrics.width < 2 ^ 31 ∧
      screen.display.height * screen.display.metrics.height < 2 ^ 31) :
    let flushed := screen.flushOperations.1
    let plan := screen.flushOperations.2
    flushed.surface.calls.toList = screen.surface.calls.toList ++ plan.calls ∧
    plan.calls.map Call.pass? =
      List.replicate plan.copies.length (some .copy) ++
        List.replicate plan.fills.length (some .fill) ++
        List.replicate plan.runs.length (some .text) ∧
    plan.cells = screen.display.pending.slots.entries.countP (!·.isUnchanged) ∧
    (∀ call ∈ plan.calls, ∀ rect ∈ call.extents, rect.Inside screen.display.pixelSize) ∧
    (∀ row < screen.display.height, ∀ column < screen.display.width, ∃ slot cell,
      screen.display.pending.get? row column = some slot ∧
      flushed.display.committed.get? row column = some cell ∧
      (cell.isContinuation = false →
        (plan.calls.flatMap Call.painted).countP
          (·.Meets screen.display.metrics row column) = (if slot = .unchanged then 0 else 1) ∧
        ∀ rect ∈ plan.calls.flatMap Call.painted, rect.Meets screen.display.metrics row column →
          rect.Covers screen.display.metrics row column)) := by
  intro flushed plan
  have consistent := reached.consistent
  obtain ⟨canvas, fits, -⟩ := Display.exists_fits solid bounded screen.surface.pending
  have plan_eq : plan = screen.display.flushPlan := screen.display.plan_flushOperations
  have blocks {rect : Rect} (member : rect ∈ plan.calls.flatMap Call.painted) :
      screen.display.IsBlock rect := by
    obtain ⟨call, among, painted⟩ := List.mem_flatMap.mp member
    rw [plan_eq] at among
    exact (Display.blocks_flushPlan consistent fits among).1 rect painted
  refine ⟨Surface.calls_applyAll .., plan.map_pass?_calls, ?_, ?_, ?_⟩
  · rw [plan_eq, Display.cells_flushPlan consistent]
  · intro call among rect extent
    rw [plan_eq] at among
    exact ((Display.blocks_flushPlan consistent fits among).2 rect extent).inside fits
  · intro row below column inRow
    obtain ⟨slot, found⟩ := Display.exists_slot consistent ⟨below, inRow⟩
    obtain ⟨cell, resolves⟩ := Display.exists_resolveSlot consistent found
    have committed : flushed.display.committed.get? row column = some cell :=
      (Display.get?_flushOperations consistent found).trans resolves
    refine ⟨slot, cell, found, committed, fun whole => ⟨?_, fun rect member => ?_⟩⟩
    · rw [← Display.hits_flushPlan consistent fits found resolves whole, ← plan_eq]
      refine List.countP_congr fun rect member => ?_
      rw [decide_eq_true_iff]
      exact ((blocks member).meets_iff fits).1
    · exact ((blocks member).meets_iff fits).2

/-- A cell that gets the pixels of its neighbor, which becomes half of a wide character. -/
theorem painted_flushOperations_of_wide :
    let screen := ofPixels (.ofBackground .white) 3 1
    let pending := (((Pending.empty 3 1).step (.record (.copyColumns 0 1 1 (-1)))).step
      (.record (.setColumns 0 1 1 (.ofChar '日' {})))).step
        (.record (.setColumns 0 2 2 (.continuation {})))
    let waiting : Screen := { screen with display := { screen.display with pending } }
    let plan := waiting.flushOperations.2
    plan.calls.map Call.pass? =
      List.replicate plan.copies.length (some .copy) ++
        List.replicate plan.fills.length (some .fill) ++
        List.replicate plan.runs.length (some .text) ∧
    plan.cells = 3 ∧
    (∀ call ∈ plan.calls, ∀ rect ∈ call.extents, rect.Inside (3, 1)) ∧
    (∀ row < 1, ∀ column < 3, ∃ slot cell,
      pending.get? row column = some slot ∧
      waiting.flushOperations.1.display.committed.get? row column = some cell ∧
      (cell.isContinuation = false →
        (plan.calls.flatMap Call.painted).countP (·.Meets ⟨1, 1, 1⟩ row column) =
          (if slot = .unchanged then 0 else 1) ∧
        ∀ rect ∈ plan.calls.flatMap Call.painted, rect.Meets ⟨1, 1, 1⟩ row column →
          rect.Covers ⟨1, 1, 1⟩ row column)) := by
  intro screen pending waiting
  have wide : waiting.display.width = 3 := width_ofPixels ..
  have high : waiting.display.height = 1 := height_ofPixels ..
  have metrics : waiting.display.metrics = ⟨1, 1, 1⟩ := metrics_ofPixels ..
  have pixels : waiting.display.pixelSize = (3, 1) := pixelSize_ofPixels _ (by decide)
  have recorded : pending.Reached 3 1 := .called (.called (.called .empty _) _) _
  have reached : waiting.display.pending.Reached waiting.display.width waiting.display.height := by
    rw [wide, high]
    exact recorded
  obtain ⟨-, kinds, counted, inside, painted⟩ := painted_flushOperations reached
    (by rw [metrics]; decide) (by rw [wide, high, metrics]; decide)
  rw [pixels] at inside
  rw [wide, high, metrics] at painted
  have three : pending.slots.entries.countP (!·.isUnchanged) = 3 := by decide
  exact ⟨kinds, counted.trans three, inside, painted⟩

end Screen
end CellScreen
