import CellScreen.Proofs.PixelCells
import CellScreen.Proofs.Replay
import CellScreen.Proofs.Request

/-! The highlight of a selection. Those who watch see the rectangles that were drawn when the
selection was made; who joins gets those that the selection has by now. The two agree exactly if the
grid and the cells of now give the selection the rectangles that it had then. -/
namespace CellScreen

structure Layout where
  columns : Nat
  rows : Nat
  metrics : CellMetrics
deriving DecidableEq, Repr

namespace Layout

def rect (layout : Layout) (span : Span) : Rect where
  x := coordinate (extent span.left layout.metrics.width)
  y := coordinate (extent span.top layout.metrics.height)
  width := extent span.columns layout.metrics.width
  height := extent span.rows layout.metrics.height

def highlight (layout : Layout) : Option Selection → List Rect
  | none => []
  | some selection => (selection.spans layout.columns layout.rows).map layout.rect

end Layout

namespace Display

def layout (display : Display) : Layout := ⟨display.width, display.height, display.metrics⟩

private theorem highlightRects_eq (display : Display) :
    display.highlightRects = display.layout.highlight display.selection := by
  unfold highlightRects
  cases display.selection <;> rfl

private theorem highlightRects_congr {first second : Display}
    (layout_eq : first.layout = second.layout) (selection_eq : first.selection = second.selection) :
    first.highlightRects = second.highlightRects := by
  rw [highlightRects_eq, highlightRects_eq, layout_eq, selection_eq]

theorem selection_resize (display : Display) (width height : Nat) :
    (display.resize width height).1.selection =
      if display.selection.any (·.exceeds width height) then none else display.selection := by
  simp only [resize]
  split <;> rfl

theorem highlight_resize (display : Display) (width height : Nat) (rects : List Rect) :
    (display.resize width height).2.foldl Surface.highlightCall rects =
      if display.selection.any (·.exceeds width height) then [] else rects := by
  simp only [resize]
  split <;> rfl

theorem layout_flushOperations (display : Display) :
    display.flushOperations.1.layout = display.layout := by
  unfold flushOperations
  split <;> rfl

theorem selection_flushOperations (display : Display) :
    display.flushOperations.1.selection = display.selection := by
  unfold flushOperations
  split <;> rfl

end Display

namespace Surface

private theorem highlighted_applyAll (surface : Surface) (calls : List Call) :
    (surface.applyAll calls).highlighted = calls.foldl highlightCall surface.highlighted := by
  unfold applyAll
  induction calls generalizing surface with
  | nil => rfl
  | cons call calls ih => rw [List.foldl_cons, List.foldl_cons, ih]; rfl

theorem highlighted_flush (surface : Surface) (plan : FlushPlan) :
    (surface.applyAll plan.calls).highlighted = surface.highlighted := by
  rw [highlighted_applyAll]
  refine List.foldlRecOn (motive := fun rects => rects = surface.highlighted) plan.calls _ rfl ?_
  rintro rects rfl call member
  simp only [FlushPlan.calls, List.mem_append, List.mem_map] at member
  obtain (⟨copy, -, rfl⟩ | ⟨fill, -, rfl⟩) | ⟨run, -, rfl⟩ := member <;> rfl

end Surface

namespace Screen

/-- The layout in which a run has drawn the highlight last, given the one before the run. -/
def drawnLayout (screen : Screen) (layout : Layout) : List Request → Layout
  | [] => layout
  | .select start finish :: more =>
    drawnLayout (screen.step (.select start finish)) screen.display.layout more
  | request :: more => drawnLayout (screen.step request) layout more

def Draws (screen : Screen) (layout : Layout) : Prop :=
  screen.surface.highlighted = layout.highlight screen.display.selection

variable {screen : Screen} {layout : Layout}

private theorem draws_select (screen : Screen) (start finish : Point) :
    (screen.step (.select start finish)).Draws screen.display.layout := by
  have rects := Display.highlightRects_eq { screen.display with selection := some ⟨start, finish⟩ }
  exact rects

private theorem draws_of_same {next : Screen} (draws : screen.Draws layout)
    (highlighted_eq : next.surface.highlighted = screen.surface.highlighted)
    (selection_eq : next.display.selection = screen.display.selection) : next.Draws layout := by
  rw [Draws, highlighted_eq, selection_eq]
  exact draws

/-- A selection that no longer fits goes together with its highlight; one that fits stays as it is
drawn. -/
theorem draws_resize (draws : screen.Draws layout) (columns rows : Nat) :
    (screen.step (.resize columns rows)).Draws layout := by
  have highlighted_eq : (screen.step (.resize columns rows)).surface.highlighted = _ :=
    Surface.highlighted_applyAll screen.surface (screen.display.resize columns rows).2
  rw [Display.highlight_resize] at highlighted_eq
  have selection_eq := screen.display.selection_resize columns rows
  split at highlighted_eq
  · next exceeds =>
    rw [if_pos exceeds] at selection_eq
    rw [Draws, highlighted_eq, display_of_resize, selection_eq]
    rfl
  · next fits =>
    rw [if_neg fits] at selection_eq
    exact draws_of_same draws highlighted_eq selection_eq

private theorem draws_setFont (draws : screen.Draws layout) (family : Option String)
    (size : Option Number.Single) (dpi : Nat) :
    (screen.step (.setFont family size dpi)).Draws layout := by
  obtain ⟨font, resolution, metrics, -, set⟩ := screen.step_setFont family size dpi
  rw [set]
  exact draws

private theorem draws_assignColor (draws : screen.Draws layout) (index : Int) (color : Rgb) :
    (screen.step (.assignColor index color)).Draws layout := by
  obtain ⟨palette, set⟩ := screen.step_assignColor index color
  rw [set]
  exact draws

theorem draws_flushOperations (draws : screen.Draws layout) :
    screen.flushOperations.1.Draws layout :=
  draws_of_same draws (Surface.highlighted_flush ..) screen.display.selection_flushOperations

theorem draws_run (draws : screen.Draws layout) (requests : List Request) :
    (screen.run requests).Draws (screen.drawnLayout layout requests) := by
  unfold run
  induction requests generalizing screen layout with
  | nil => exact draws
  | cons request requests ih =>
    cases request with
    | select start finish => exact ih (draws_select screen start finish)
    | resize columns rows => exact ih (draws_resize draws columns rows)
    | setFont family size dpi => exact ih (draws_setFont draws family size dpi)
    | assignColor index color => exact ih (draws_assignColor draws index color)
    | flushOperations | flush | join => exact ih (draws_flushOperations draws)
    | clearSelect => exact ih rfl
    | _ => exact ih draws

/-- Who joins gets the rectangles that the selection has by now. -/
theorem highlighted_replay_join (screen : Screen) :
    (Surface.replay screen.join.2).highlighted =
      screen.display.layout.highlight screen.display.selection := by
  have sent : screen.join.2 = screen.join.1.viewerInstructions := rfl
  have rects : screen.join.1.display.highlightRects = screen.display.highlightRects :=
    Display.highlightRects_congr screen.display.layout_flushOperations
      screen.display.selection_flushOperations
  rw [← Display.highlightRects_eq, ← rects, sent, Surface.replay, receive_viewerInstructions]
  cases screen.join.1.display.highlightRects <;> rfl

theorem draws_new {background : Rgb} {fonts : FontSource} {config : Config}
    (made : Screen.new (.ofBackground background) fonts config = .ok screen) :
    screen.Draws screen.display.layout := by
  obtain ⟨⟨display, calls⟩, built, made⟩ := exists_ok_of_bind made
  obtain ⟨scheme, -, built⟩ := exists_ok_of_bind built
  obtain ⟨metrics, -, built⟩ := exists_ok_of_bind built
  cases Except.ok.inj made
  cases Except.ok.inj built
  rfl

/-- At every state of a screen its viewers and one that joins see the same highlight exactly if the
selection has the same rectangles by now as in the layout in which it was drawn. -/
theorem highlighted_eq_replayed_iff {background : Rgb} {fonts : FontSource} {config : Config}
    (made : Screen.new (.ofBackground background) fonts config = .ok screen)
    (requests : List Request) :
    let reached := screen.run requests
    reached.surface.highlighted = (Surface.replay reached.join.2).highlighted ↔
      (screen.drawnLayout screen.display.layout requests).highlight reached.display.selection =
        reached.display.layout.highlight reached.display.selection := by
  intro reached
  have draws : reached.surface.highlighted = _ := draws_run (draws_new made) requests
  rw [draws, highlighted_replay_join]

/-- Selections on a screen that is made wider: of two lines, and of one. -/
theorem highlighted_eq_replayed_iff_of_wider :
    let screen := ofPixels .empty 2 2
    ∀ requests ∈ [[.select ⟨0, 1⟩ ⟨1, 0⟩, .flush, .resize 3 2],
        [.select ⟨0, 1⟩ ⟨0, 0⟩, .resize 3 2, .setFont none (some (.ofNat 1)) 96]],
      let reached := screen.run requests
      reached.surface.highlighted = (Surface.replay reached.join.2).highlighted ↔
        (screen.drawnLayout screen.display.layout requests).highlight reached.display.selection =
          reached.display.layout.highlight reached.display.selection :=
  fun requests _ => highlighted_eq_replayed_iff (new_ofPixels .empty 2 2) requests

/-- The tail of the first selected line stays short when the line gets longer. -/
theorem highlighted_ne_replayed_of_wider :
    let reached := (ofPixels .empty 2 2).run [.select ⟨0, 1⟩ ⟨1, 0⟩, .flush, .resize 3 2]
    reached.surface.highlighted ≠ (Surface.replay reached.join.2).highlighted := by
  decide +kernel

end Screen
end CellScreen
