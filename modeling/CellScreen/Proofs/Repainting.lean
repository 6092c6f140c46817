import CellScreen.Proofs.PixelCells
import CellScreen.Proofs.Highlight
import CellScreen.Proofs.Layout
import CellScreen.Proofs.PendingCalls

/-! The pixels of one flush, whatever the canvas showed before. A cell keeps its box, is drawn, or
has the pixels of another cell moved to it, as its pending change asks. What the viewers see does
not change until the surface is committed. -/
namespace CellScreen

namespace Pending

/-- What may be pending on a grid of the given size: calls start from an empty grid, or from one
whose new cells wait to be made blank. -/
inductive Reached (width height : Nat) : Pending → Prop
  | empty : Reached width height (.empty width height)
  | exposed (oldWidth oldHeight : Nat) :
      Reached width height (.ofSlots (Display.exposedSlots oldWidth oldHeight width height))
  | called {pending : Pending} (reached : Reached width height pending) (call : PendingCall) :
      Reached width height (pending.step call)

private theorem sound_exposed (oldWidth oldHeight width height : Nat) :
    (ofSlots (Display.exposedSlots oldWidth oldHeight width height)).Sound width height := by
  have no_copy {row column sourceRow sourceColumn : Nat} :
      (Display.exposedSlots oldWidth oldHeight width height).get? row column ≠
        some (.copy sourceRow sourceColumn) := by
    intro found
    rw [Display.exposedSlots, Grid.get?_tabulate] at found
    split at found
    · split at found <;> cases found
    · cases found
  exact ⟨rfl, rfl, ⟨rfl, fun found => absurd found no_copy⟩, fun found => absurd found no_copy⟩

private theorem Reached.sound {width height : Nat} {pending : Pending}
    (reached : pending.Reached width height) : pending.Sound width height := by
  induction reached with
  | empty => exact sound_empty width height
  | exposed oldWidth oldHeight => exact sound_exposed oldWidth oldHeight width height
  | called reached call ih => exact sound_step ih call

theorem Reached.run {width height : Nat} {pending : Pending}
    (reached : pending.Reached width height) (calls : List PendingCall) :
    (pending.run calls).Reached width height :=
  List.foldlRecOn (motive := Reached width height) calls _ reached
    fun _ reached call _ => reached.called call

theorem Reached.consistent {display : Display}
    (reached : display.pending.Reached display.width display.height) : display.Consistent :=
  ⟨reached.sound.width_eq, reached.sound.height_eq, reached.sound.valid⟩

end Pending

namespace Display

/-- The boxes that a pending change may give to its cell, which shows the canvas from before the
flush. A copy moves pixels as they were, or draws the cell that was committed at its source. -/
inductive Repaints (display : Display) (before : Canvas) (row column : Nat) :
    Slot → Grid (Option Pixel) → Prop
  | kept : Repaints display before row column .unchanged
      (before.box display.metrics row column)
  | drawn (cell : Cell) : Repaints display before row column (.set cell) (display.drawing cell)
  | moved (sourceRow sourceColumn : Nat) :
      Repaints display before row column (.copy sourceRow sourceColumn)
        (before.box display.metrics sourceRow sourceColumn)
  | redrawn {sourceRow sourceColumn : Nat} {cell : Cell}
      (found : display.committed.get? sourceRow sourceColumn = some cell) :
      Repaints display before row column (.copy sourceRow sourceColumn) (display.drawing cell)

variable {display : Display}

private theorem repaints_flushedBox (consistent : display.Consistent) (before : Canvas)
    {row column : Nat} {slot : Slot} (recorded : display.pending.get? row column = some slot) :
    display.Repaints before row column slot (display.flushedBox before row column slot) := by
  cases slot with
  | unchanged => exact .kept
  | set cell => exact .drawn cell
  | copy sourceRow sourceColumn =>
    obtain ⟨cell, resolves⟩ := exists_resolveSlot consistent recorded
    have found : display.committed.get? sourceRow sourceColumn = some cell := resolves
    unfold flushedBox
    dsimp only
    split
    · exact .moved sourceRow sourceColumn
    · rw [found]
      exact .redrawn found

end Display

namespace Surface

private theorem committed_applyAll_calls (surface : Surface) (plan : FlushPlan) :
    (surface.applyAll plan.calls).committed = surface.committed ∧
      (surface.applyAll plan.calls).commits = surface.commits := by
  refine List.foldlRecOn (motive := fun drawn : Surface => drawn.committed = surface.committed ∧
    drawn.commits = surface.commits) plan.calls _ ⟨rfl, rfl⟩ ?_
  intro drawn same call member
  simp only [FlushPlan.calls, List.mem_append, List.mem_map] at member
  obtain (⟨copy, -, rfl⟩ | ⟨fill, -, rfl⟩) | ⟨run, -, rfl⟩ := member <;> exact same

end Surface

namespace Screen

/-- On a canvas of the size of the grid that shows anything at all, with any committed cells and any
recorded changes, a flush repaints the box of every cell that does not become a right half as its
change asks. It keeps the size of the canvas and what the viewers see. -/
theorem repaints_flushOperations {screen : Screen}
    (reached : screen.display.pending.Reached screen.display.width screen.display.height)
    (solid : 0 < screen.display.metrics.width ∧ 0 < screen.display.metrics.height)
    (bounded : screen.display.width * screen.display.metrics.width < 2 ^ 31 ∧
      screen.display.height * screen.display.metrics.height < 2 ^ 31)
    (sized : (screen.surface.pending.width, screen.surface.pending.height) =
      screen.display.pixelSize) :
    let flushed := screen.flushOperations.1
    (∀ row < screen.display.height, ∀ column < screen.display.width, ∃ slot cell,
      screen.display.pending.get? row column = some slot ∧
      flushed.display.committed.get? row column = some cell ∧
      (cell.isContinuation = false → screen.display.Repaints screen.surface.pending row column slot
        (flushed.surface.pending.box screen.display.metrics row column))) ∧
    (flushed.surface.pending.width, flushed.surface.pending.height) = screen.display.pixelSize ∧
    flushed.surface.committed = screen.surface.committed ∧
    flushed.surface.commits = screen.surface.commits ∧
    flushed.surface.highlighted = screen.surface.highlighted ∧
    flushed.surface.background = screen.surface.background := by
  intro flushed
  have consistent := reached.consistent
  obtain ⟨width_eq, height_eq⟩ := Prod.mk.inj sized
  have laid : screen.Laid :=
    ⟨consistent, solid.1, solid.2, bounded.1, bounded.2,
      width_eq.trans (extent_of_bounded bounded.1), height_eq.trans (extent_of_bounded bounded.2)⟩
  have flushes : Request.flushOperations.flushes := rfl
  have canvas_eq : flushed.surface.pending = _ := screen.canvas_of_flushes flushes
  obtain ⟨committed_eq, commits_eq⟩ :=
    screen.surface.committed_applyAll_calls screen.display.flushOperations.2
  refine ⟨fun row below column inRow => ?_, ?_, committed_eq, commits_eq,
    Surface.highlighted_flush .., screen.background_step .flushOperations⟩
  · obtain ⟨slot, found⟩ := Display.exists_slot consistent ⟨below, inRow⟩
    obtain ⟨cell, resolves⟩ := Display.exists_resolveSlot consistent found
    have committed : flushed.display.committed.get? row column = some cell :=
      (Display.get?_flushOperations consistent found).trans resolves
    refine ⟨slot, cell, found, committed, fun whole => ?_⟩
    rw [canvas_eq, Display.box_flush consistent laid.fits _ found resolves whole]
    exact Display.repaints_flushedBox consistent _ found
  · have size := Display.size_calls screen.display.flushPlan screen.surface.background
      screen.surface.pending
    rw [canvas_eq, size.1, size.2, sized]

/-- Two cells that change places and one that is underlined, on a canvas that shows none of them. -/
theorem repaints_flushOperations_of_swapped :
    let screen := ofPixels (.ofBackground .white) 3 1
    let pending := (((Pending.empty 3 1).step (.record (.copyColumns 0 1 1 (-1)))).step
      (.record (.copyColumns 0 0 0 1))).step
        (.record (.setColumns 0 2 2 (.ofChar 'a' { underscore := true })))
    let waiting : Screen := ⟨{ screen.display with pending },
      screen.surface.apply (.fill ⟨1, 0, 1, 1⟩ ⟨0x12, 0x34, 0x56⟩)⟩
    let flushed := waiting.flushOperations.1
    (∀ row < 1, ∀ column < 3, ∃ slot cell,
      waiting.display.pending.get? row column = some slot ∧
      flushed.display.committed.get? row column = some cell ∧
      (cell.isContinuation = false → waiting.display.Repaints waiting.surface.pending row column
        slot (flushed.surface.pending.box waiting.display.metrics row column))) ∧
    (flushed.surface.pending.width, flushed.surface.pending.height) = (3, 1) ∧
    flushed.surface.committed = waiting.surface.committed := by
  intro screen pending waiting
  have wide : waiting.display.width = 3 := width_ofPixels ..
  have high : waiting.display.height = 1 := height_ofPixels ..
  have metrics : waiting.display.metrics = ⟨1, 1, 1⟩ := metrics_ofPixels ..
  have pixels : waiting.display.pixelSize = (3, 1) := pixelSize_ofPixels _ (by decide)
  have recorded : pending.Reached 3 1 := .called (.called (.called .empty _) _) _
  have reached : waiting.display.pending.Reached waiting.display.width waiting.display.height := by
    rw [wide, high]
    exact recorded
  have sized : (waiting.surface.pending.width, waiting.surface.pending.height) =
      waiting.display.pixelSize := by
    rw [pixels]
    exact (Prod.ext (Canvas.width_fill ..) (Canvas.height_fill ..)).trans
      (canvas_ofPixels _ (by decide))
  obtain ⟨repainted, size, committed, -⟩ := repaints_flushOperations reached
    (by rw [metrics]; decide) (by rw [wide, high, metrics]; decide) sized
  rw [wide, high] at repainted
  rw [pixels] at size
  exact ⟨repainted, size, committed⟩

end Screen
end CellScreen
