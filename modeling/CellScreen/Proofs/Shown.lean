import CellScreen.Proofs.Layout

/-! Cells that the canvas shows by their drawing. As long as the font and the palette stay the same,
so do the drawings; a flush shows a cell if the box that it leaves there is the drawing of the cell,
and a resize shows what it has found shown. -/
namespace CellScreen

namespace Request

def keepsLook : Request → Bool
  | .setFont .. | .assignColor .. | .resetPalette => false
  | _ => true

theorem keepsFont_of_keepsLook {request : Request} (keeps : request.keepsLook) :
    request.keepsFont := by
  cases request with
  | setFont => cases keeps
  | _ => rfl

end Request

namespace Display

structure LooksLike (next display : Display) : Prop where
  metrics_eq : next.metrics = display.metrics
  palette_eq : next.palette = display.palette
  foreground_eq : next.defaultForeground = display.defaultForeground
  background_eq : next.defaultBackground = display.defaultBackground

theorem LooksLike.glyphStyle_eq {next display : Display} (alike : next.LooksLike display)
    (attributes : Attributes) : next.glyphStyle attributes = display.glyphStyle attributes := by
  simp only [glyphStyle, alike.palette_eq, alike.foreground_eq, alike.background_eq]

theorem LooksLike.drawing_eq {next display : Display} (alike : next.LooksLike display)
    (cell : Cell) : next.drawing cell = display.drawing cell := by
  rw [drawing, drawing, alike.glyphStyle_eq, alike.metrics_eq]

theorem LooksLike.trans {last next display : Display} (later : last.LooksLike next)
    (alike : next.LooksLike display) : last.LooksLike display where
  metrics_eq := later.metrics_eq.trans alike.metrics_eq
  palette_eq := later.palette_eq.trans alike.palette_eq
  foreground_eq := later.foreground_eq.trans alike.foreground_eq
  background_eq := later.background_eq.trans alike.background_eq

theorem looksLike_resize (display : Display) (width height : Nat) :
    (display.resize width height).1.LooksLike display := by
  simp only [resize]
  split <;> exact ⟨rfl, rfl, rfl, rfl⟩

theorem looksLike_flushOperations (display : Display) :
    display.flushOperations.1.LooksLike display := by
  unfold flushOperations
  split <;> exact ⟨rfl, rfl, rfl, rfl⟩

def Shows (display : Display) (canvas : Canvas) (row column : Nat) : Prop :=
  ∀ cell, display.committed.get? row column = some cell → cell.isContinuation = false →
    canvas.box display.metrics row column = display.drawing cell

theorem shows_iff {display : Display} {canvas : Canvas} {row column : Nat} {cell : Cell}
    (found : display.committed.get? row column = some cell) :
    display.Shows canvas row column ↔ (cell.isContinuation = false →
      canvas.box display.metrics row column = display.drawing cell) := by
  constructor
  · intro shows
    exact shows cell found
  · intro drawn other again
    cases found.symm.trans again
    exact drawn

theorem shows_of_outside {display : Display} {canvas : Canvas} {row column : Nat}
    (outside : ¬ (row < display.height ∧ column < display.width)) :
    display.Shows canvas row column := by
  intro cell found
  exact absurd (Grid.inside_of_get? found) outside

end Display

namespace Screen

def ShowsAll (screen : Screen) : Prop :=
  ∀ row column, screen.display.Shows screen.surface.committed row column

variable {screen : Screen}

theorem looksLike_step (screen : Screen) {request : Request} (keeps : request.keepsLook) :
    (screen.step request).display.LooksLike screen.display := by
  cases request with
  | setFont | assignColor | resetPalette => cases keeps
  | resize columns rows => exact screen.display.looksLike_resize columns rows
  | flushOperations | flush | join => exact screen.display.looksLike_flushOperations
  | _ => exact ⟨rfl, rfl, rfl, rfl⟩

theorem looksLike_run (screen : Screen) {requests : List Request}
    (keeps : ∀ request ∈ requests, request.keepsLook) :
    (screen.run requests).display.LooksLike screen.display := by
  apply run_induction (motive := fun reached => reached.display.LooksLike screen.display)
  · exact ⟨rfl, rfl, rfl, rfl⟩
  · intro reached alike request member
    exact (reached.looksLike_step (keeps request member)).trans alike

/-- A flush shows a cell exactly if the box that it gives to the cell is its drawing. -/
theorem shows_flush_iff (laid : screen.Laid) {row column : Nat} {slot : Slot} {cell : Cell}
    (recorded : screen.display.pending.get? row column = some slot)
    (resolves : Display.resolveSlot screen.display.committed row column slot = some cell) :
    (screen.step .flush).display.Shows (screen.step .flush).surface.pending row column ↔
      (cell.isContinuation = false →
        screen.display.flushedBox screen.surface.pending row column slot =
          screen.display.drawing cell) := by
  have alike : (screen.step .flush).display.LooksLike screen.display := screen.looksLike_step rfl
  have committed_eq : (screen.step .flush).display.committed.get? row column = some cell := by
    rw [screen.display_of_flushes rfl, Display.get?_flushOperations laid.consistent recorded,
      resolves]
  have canvas_eq : (screen.step .flush).surface.pending = _ := screen.canvas_of_flushes rfl
  rw [Display.shows_iff committed_eq, alike.metrics_eq, alike.drawing_eq, canvas_eq]
  apply forall_congr'
  intro whole
  rw [Display.box_flush laid.consistent laid.fits screen.surface.background recorded resolves whole]

/-- A cell that stays on the grid is shown after a resize as it was before. -/
theorem shows_resize {columns rows : Nat}
    (solid : 0 < screen.display.metrics.width ∧ 0 < screen.display.metrics.height)
    (bounded : (Request.resize columns rows).Bounded screen.display.metrics) {row column : Nat}
    (stays : row < screen.display.height ∧ column < screen.display.width)
    (shows : screen.display.Shows screen.surface.pending row column) :
    (screen.step (.resize columns rows)).display.Shows
      (screen.step (.resize columns rows)).surface.pending row column := by
  have alike := screen.display.looksLike_resize columns rows
  intro cell found whole
  have laid := laid_resize solid bounded
  have after := laid.covers (Grid.inside_of_get? found)
  rw [display_of_resize, Display.committed_resize, Grid.get?_tabulate] at found
  split at found
  · obtain ⟨old, before⟩ := Grid.exists_get? stays
    rw [before, Option.getD_some] at found
    cases found
    have drawn := shows cell before whole
    rw [display_of_resize, alike.metrics_eq, alike.drawing_eq, ← drawn, screen.canvas_resize]
    rw [screen.metrics_step _ rfl, screen.canvas_resize] at after
    exact Canvas.box_resize_of_covers (Canvas.covers_of_drawing drawn) after
  · cases found

end Screen

end CellScreen
