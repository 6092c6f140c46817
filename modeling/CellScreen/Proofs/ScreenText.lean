import CellScreen.Proofs.PixelCells
import CellScreen.Proofs.Layout
import CellScreen.Proofs.Lines

/-! The text of a screen can be read from its cells and from its pixels. A cell puts its character
on the first pixel of its box, flushes and resizes keep the two in step, and so a snapshot and the
surface have the same lines. -/
namespace CellScreen

def Cell.Legible (cell : Cell) : Prop :=
  cell.width ≠ 0 ∧ (Text.isBlank cell.char → cell.char = ' ')

instance (cell : Cell) : Decidable cell.Legible := inferInstanceAs (Decidable (_ ∧ _))

private theorem Cell.legible_blank (background : Color) : (blank background).Legible :=
  ⟨by simp [blank], fun _ => rfl⟩

private theorem Cell.Legible.whole {cell : Cell} (legible : cell.Legible) :
    cell.isContinuation = false := by
  simpa [isContinuation] using legible.1

private theorem Cell.Legible.isBlank_drawnChar {cell : Cell} (legible : cell.Legible) :
    Text.isBlank cell.drawnChar = (cell.drawnChar == ' ') := by
  unfold drawnChar
  split
  · decide
  · by_cases space : cell.char = ' '
    · rw [space]
      decide
    · have inked : ¬ Text.isBlank cell.char := fun blank => space (legible.2 blank)
      rw [Bool.eq_false_iff.mpr inked, beq_eq_false_iff_ne.mpr space]

/-- Cells that are set are legible, and sizes have at least one column and one row. -/
def Request.Legible : Request → Prop
  | .setColumns _ _ _ cell => cell.Legible
  | .resize columns rows => 0 < columns ∧ 0 < rows
  | _ => True

structure Request.Printing (metrics : CellMetrics) (request : Request) : Prop where
  keeps : request.keepsFont
  bounded : request.Bounded metrics
  legible : request.Legible

instance (request : Request) : Decidable request.Legible :=
  match request with
  | .setColumns _ _ _ cell => inferInstanceAs (Decidable cell.Legible)
  | .resize columns rows => inferInstanceAs (Decidable (0 < columns ∧ 0 < rows))
  | .copyColumns .. | .copyRows .. | .setFont .. | .assignColor .. | .resetPalette | .select .. =>
    isTrue trivial
  | .clearSelect | .flushOperations | .flush | .join => isTrue trivial

instance (metrics : CellMetrics) (request : Request) : Decidable (request.Printing metrics) :=
  decidable_of_iff (request.keepsFont ∧ request.Bounded metrics ∧ request.Legible)
    ⟨fun all => ⟨all.1, all.2.1, all.2.2⟩, fun all => ⟨all.keeps, all.bounded, all.legible⟩⟩

private theorem Request.legible_of_mem_changes {request : Request} (legible : request.Legible)
    {width height row column : Nat} {cell : Cell}
    (member : (row, column, .set cell) ∈ request.changes width height) : cell.Legible := by
  cases request with
  | setColumns =>
    obtain ⟨-, -, same⟩ := Pending.mem_settings.mp member
    cases same
    exact legible
  | copyColumns =>
    obtain ⟨-, -, -, source, -, -, same⟩ := Pending.mem_columnMoves.mp member
    cases same
  | copyRows =>
    obtain ⟨-, -, source, -, -, same⟩ := Pending.mem_rowMoves.mp member
    cases same
  | _ => exact absurd member List.not_mem_nil

namespace Canvas

def ink (canvas : Canvas) (metrics : CellMetrics) (row column : Nat) : Char :=
  ((canvas.get? (row * metrics.height) (column * metrics.width)).bind (·.glyph)).getD ' '

variable {canvas other : Canvas} {metrics : CellMetrics} {row column : Nat}

private theorem get?_origin {picture : Nat → Nat → Option Pixel}
    (solid : 0 < metrics.width ∧ 0 < metrics.height)
    (shown : canvas.box metrics row column = .tabulate metrics.width metrics.height picture) :
    canvas.get? (row * metrics.height) (column * metrics.width) = picture 0 0 := by
  have corner := Grid.tabulate_eq_iff.mp shown 0 solid.2 0 solid.1
  rwa [Nat.add_zero, Nat.add_zero] at corner

private theorem ink_of_box {otherRow otherColumn : Nat}
    (solid : 0 < metrics.width ∧ 0 < metrics.height)
    (same : canvas.box metrics row column = other.box metrics otherRow otherColumn) :
    canvas.ink metrics row column = other.ink metrics otherRow otherColumn := by
  rw [ink, get?_origin solid same, ink, Nat.add_zero, Nat.add_zero]

private theorem ink_of_plain {color : Rgb} (solid : 0 < metrics.width ∧ 0 < metrics.height)
    (shown : canvas.box metrics row column = metrics.plain color) :
    canvas.ink metrics row column = ' ' := by
  rw [ink, get?_origin solid shown]
  rfl

private theorem ink_of_drawing {display : Display} {cell : Cell}
    (solid : 0 < display.metrics.width ∧ 0 < display.metrics.height)
    (shown : canvas.box display.metrics row column = display.drawing cell) :
    canvas.ink display.metrics row column = cell.drawnChar := by
  rw [Display.drawing, Style.picture] at shown
  rw [ink, get?_origin solid shown, Nat.zero_mul, Nat.zero_add, Style.pixel]
  by_cases space : cell.drawnChar = ' '
  · rw [if_neg (fun inked => inked.2 space), space]
    split <;> rfl
  · rw [if_pos ⟨⟨rfl, rfl⟩, space⟩]
    rfl

end Canvas

namespace Screen

structure Legible (screen : Screen) : Prop where
  laid : screen.Laid
  cells : ∀ {row column : Nat} {cell : Cell},
    screen.display.committed.get? row column = some cell → cell.Legible ∧
      screen.surface.pending.ink screen.display.metrics row column = cell.drawnChar
  slots : ∀ {row column : Nat} {cell : Cell},
    screen.display.pending.get? row column = some (.set cell) → cell.Legible

variable {screen : Screen}

private theorem Legible.solid (legible : screen.Legible) :
    0 < screen.display.metrics.width ∧ 0 < screen.display.metrics.height :=
  ⟨legible.laid.wide, legible.laid.high⟩

private theorem legible_recorded (legible : screen.Legible) {request : Request}
    (quiet : request.draws = false) (keeps : request.keepsFont)
    (bounded : request.Bounded screen.display.metrics) (setsLegible : request.Legible) :
    (screen.step request).Legible := by
  obtain ⟨pending, committed, canvas, -⟩ := screen.step_recorded quiet
  refine ⟨laid_step legible.laid keeps bounded, ?_, ?_⟩
  · intro row column cell found
    rw [committed] at found
    rw [canvas, metrics_step screen request keeps]
    exact legible.cells found
  · intro row column cell found
    rw [pending] at found
    rcases Pending.mem_or_get?_of_recordAll found with recorded | before
    · exact Request.legible_of_mem_changes setsLegible recorded
    · exact legible.slots before

theorem legible_resize (legible : screen.Legible) {columns rows : Nat}
    (bounded : (Request.resize columns rows).Bounded screen.display.metrics) :
    (screen.step (.resize columns rows)).Legible := by
  refine ⟨laid_step legible.laid rfl bounded, ?_, ?_⟩
  · intro row column cell found
    rw [display_of_resize, Display.committed_resize, Grid.get?_tabulate] at found
    split at found
    · next inside =>
      have box_eq := box_resize legible.laid bounded inside
      rw [metrics_step screen _ rfl]
      by_cases stays : row < screen.display.height ∧ column < screen.display.width
      · rw [if_pos stays] at box_eq
        obtain ⟨old, before⟩ := Grid.exists_get? stays
        rw [before, Option.getD_some] at found
        cases found
        rw [Canvas.ink_of_box legible.solid box_eq]
        exact legible.cells before
      · rw [if_neg stays] at box_eq
        rw [(Grid.get?_eq_none_iff _ _ _).mpr stays, Option.getD_none] at found
        cases found
        exact ⟨Cell.legible_blank .default, Canvas.ink_of_plain legible.solid box_eq⟩
    · cases found
  · intro row column cell found
    rw [display_of_resize, Display.get?_pending_resize] at found
    split at found
    · split at found
      · cases found
      · cases found
        exact Cell.legible_blank .default
    · cases found

private theorem legible_flush (legible : screen.Legible) {request : Request}
    (flushes : request.flushes) (keeps : request.keepsFont)
    (bounded : request.Bounded screen.display.metrics) : (screen.step request).Legible := by
  have consistent := legible.laid.consistent
  have display_eq := screen.display_of_flushes flushes
  refine ⟨laid_step legible.laid keeps bounded, ?_, ?_⟩
  · intro row column cell found
    have inside : row < screen.display.height ∧ column < screen.display.width := by
      have place := Grid.inside_of_get? found
      rw [display_eq] at place
      rwa [← screen.display.width_flushOperations, ← screen.display.height_flushOperations]
    obtain ⟨slot, recorded⟩ := Display.exists_slot consistent inside
    rw [display_eq, Display.get?_flushOperations consistent recorded] at found
    have cellLegible : cell.Legible := by
      cases slot with
      | unchanged => exact (legible.cells found).1
      | copy sourceRow sourceColumn => exact (legible.cells found).1
      | set new =>
        cases found
        exact legible.slots recorded
    have box_eq := Display.box_flush consistent legible.laid.fits screen.surface.background recorded
      found cellLegible.whole
    rw [← screen.canvas_of_flushes flushes] at box_eq
    rw [metrics_step screen request keeps]
    refine ⟨cellLegible, ?_⟩
    cases slot with
    | unchanged =>
      rw [Canvas.ink_of_box legible.solid box_eq]
      exact (legible.cells found).2
    | set new =>
      cases found
      exact Canvas.ink_of_drawing legible.solid box_eq
    -- Moved or drawn, the cell gets the character that its source has.
    | copy sourceRow sourceColumn =>
      rw [Display.flushedBox] at box_eq
      split at box_eq
      · rw [Canvas.ink_of_box legible.solid box_eq]
        exact (legible.cells found).2
      · change screen.display.committed.get? sourceRow sourceColumn = some cell at found
        rw [found, Option.getD_some] at box_eq
        exact Canvas.ink_of_drawing legible.solid box_eq
  · intro row column cell found
    rw [display_eq] at found
    cases Display.unchanged_flushOperations consistent found

theorem legible_step (legible : screen.Legible) {request : Request} (keeps : request.keepsFont)
    (bounded : request.Bounded screen.display.metrics) (setsLegible : request.Legible) :
    (screen.step request).Legible := by
  rcases request.quiet_or_resize_or_flushes with quiet | ⟨columns, rows, rfl⟩ | flushes
  · exact legible_recorded legible quiet keeps bounded setsLegible
  · exact legible_resize legible bounded
  · exact legible_flush legible flushes keeps bounded

theorem legible_new {background : Rgb} {fonts : FontSource} {config : Config}
    (made : Screen.new (.ofBackground background) fonts config = .ok screen)
    (solid : 0 < screen.display.metrics.width ∧ 0 < screen.display.metrics.height)
    (bounded : (Request.resize config.columns config.rows).Bounded screen.display.metrics) :
    screen.Legible := by
  obtain ⟨start, laid, -, -, noRows, metrics_eq, rfl⟩ := exists_laid_start made solid
  rw [← metrics_eq] at bounded
  have legible : start.Legible := by
    refine ⟨laid, ?_, ?_⟩
    · intro row column cell found
      have below : row < start.display.height := (Grid.inside_of_get? found).1
      rw [noRows] at below
      exact absurd below (Nat.not_lt_zero row)
    · intro row column cell found
      have below := (Display.inside_of_slot laid.consistent found).1
      rw [noRows] at below
      exact absurd below (Nat.not_lt_zero row)
  exact legible_resize legible bounded

theorem legible_run (legible : screen.Legible) {requests : List Request}
    (printing : ∀ request ∈ requests, request.Printing screen.display.metrics) :
    (screen.run requests).Legible := by
  unfold run
  induction requests generalizing screen with
  | nil => exact legible
  | cons request requests ih =>
    obtain ⟨now, later⟩ := List.forall_mem_cons.mp printing
    rw [← metrics_step screen request now.keeps] at later
    exact ih (legible_step legible now.keeps now.bounded now.legible) later

def Populated (screen : Screen) : Prop := 0 < screen.display.width ∧ 0 < screen.display.height

theorem populated_step (populated : screen.Populated) {request : Request}
    (legible : request.Legible) : (screen.step request).Populated := by
  rcases request.quiet_or_resize_or_flushes with quiet | ⟨columns, rows, rfl⟩ | flushes
  · have committed := (screen.step_recorded quiet).committed
    rw [Populated, Display.width, Display.height, committed]
    exact populated
  · rw [Populated, display_of_resize, Display.width_resize, Display.height_resize]
    exact legible
  · rw [Populated, screen.display_of_flushes flushes, Display.width_flushOperations,
      Display.height_flushOperations]
    exact populated

theorem populated_run (populated : screen.Populated) {requests : List Request}
    (legible : ∀ request ∈ requests, request.Legible) : (screen.run requests).Populated := by
  apply run_induction (motive := Populated) populated
  intro reached populated request member
  exact populated_step populated (legible request member)

private theorem dropEndWhile_congr {cs : List Char} {drop other : Char → Bool}
    (same : ∀ c ∈ cs, drop c = other c) :
    Text.dropEndWhile drop cs = Text.dropEndWhile other cs := by
  have reversed : ∀ c ∈ cs.reverse, drop c = other c := fun c member =>
    same c (List.mem_reverse.mp member)
  rw [Text.dropEndWhile, Text.dropEndWhile]
  congr 1
  generalize cs.reverse = ds at reversed
  induction ds with
  | nil => rfl
  | cons first more ih =>
    obtain ⟨now, later⟩ := List.forall_mem_cons.mp reversed
    rw [List.dropWhile_cons, List.dropWhile_cons, now, ih later]

private theorem lineOf_eq_trimEnd (legible : screen.Legible) {row : Nat}
    (below : row < screen.display.height) :
    Snapshot.lineOf ((List.range screen.display.width).map fun column =>
        (screen.display.committed.get? row column).getD (.blank .default)) =
      Text.trimEnd ((List.range screen.display.width).map fun column =>
        screen.surface.pending.ink screen.display.metrics row column) := by
  have drawn {column : Nat} (inRow : column < screen.display.width) : ∃ cell : Cell,
      (screen.display.committed.get? row column).getD (.blank .default) = cell ∧ cell.Legible ∧
        screen.surface.pending.ink screen.display.metrics row column = cell.drawnChar := by
    obtain ⟨cell, found⟩ := Grid.exists_get? ⟨below, inRow⟩
    refine ⟨cell, ?_, legible.cells found⟩
    rw [found, Option.getD_some]
  have whole : ∀ cell ∈ (List.range screen.display.width).map fun column =>
      (screen.display.committed.get? row column).getD (.blank .default),
      (!cell.isContinuation) = true := by
    intro cell member
    obtain ⟨column, inRow, rfl⟩ := List.mem_map.mp member
    obtain ⟨cell, cell_eq, cellLegible, -⟩ := drawn (List.mem_range.mp inRow)
    rw [cell_eq, cellLegible.whole]
    rfl
  rw [Snapshot.lineOf, List.filter_eq_self.mpr whole, List.map_map, Text.trimEnd]
  have inked : (List.range screen.display.width).map (Cell.drawnChar ∘ fun column =>
      (screen.display.committed.get? row column).getD (.blank .default)) =
        (List.range screen.display.width).map fun column =>
          screen.surface.pending.ink screen.display.metrics row column := by
    apply List.map_congr_left
    intro column inRow
    obtain ⟨cell, cell_eq, -, ink_eq⟩ := drawn (List.mem_range.mp inRow)
    rw [ink_eq, Function.comp_apply, cell_eq]
  rw [inked]
  apply dropEndWhile_congr
  intro c member
  obtain ⟨column, inRow, rfl⟩ := List.mem_map.mp member
  obtain ⟨cell, -, cellLegible, ink_eq⟩ := drawn (List.mem_range.mp inRow)
  rw [ink_eq, cellLegible.isBlank_drawnChar]

/-- The cells of a legible screen and its pixels have the same lines. -/
theorem text_eq_joinedLines (legible : screen.Legible) (populated : screen.Populated)
    (shown : screen.surface.committed = screen.surface.pending) :
    screen.display.snapshot.text = joinedLines (screen.surface.committedText
      screen.display.metrics.width screen.display.metrics.height screen.display.width
      screen.display.height) := by
  have grid_eq : screen.display.snapshot.grid = _ := Snapshot.gridOfCells_entries populated.1
  have some : screen.display.snapshot.grid ≠ [] := by
    rw [grid_eq]
    have rows := populated.2
    simp only [ne_eq, List.map_eq_nil_iff, List.range_eq_nil]
    exact Nat.ne_of_gt rows
  have columns_small : screen.display.width < 2 ^ 32 := by
    have := Nat.le_mul_of_pos_right screen.display.width legible.laid.wide
    have := legible.laid.columns_small
    omega
  have rows_small : screen.display.height < 2 ^ 32 := by
    have := Nat.le_mul_of_pos_right screen.display.height legible.laid.high
    have := legible.laid.rows_small
    omega
  rw [Snapshot.text_eq_joinedLines some, grid_eq, List.map_map, Surface.committedText,
    Nat.mod_eq_of_lt columns_small, Nat.mod_eq_of_lt rows_small, shown]
  congr 1
  apply List.map_congr_left
  intro row below
  exact congrArg String.ofList (lineOf_eq_trimEnd legible (List.mem_range.mp below))

/-- After every run that ends with a flush, the text of the snapshot is what stands at the origins
of the cells on the surface. -/
theorem text_eq_of_new {background : Rgb} {fonts : FontSource} {config : Config}
    (made : Screen.new (.ofBackground background) fonts config = .ok screen)
    (solid : 0 < screen.display.metrics.width ∧ 0 < screen.display.metrics.height)
    {requests : List Request}
    (printing : ∀ request ∈ .resize config.columns config.rows :: requests,
      Request.Printing screen.display.metrics request) :
    let flushed := screen.run (requests ++ [.flush])
    flushed.display.snapshot.text = joinedLines (flushed.surface.committedText
      flushed.display.metrics.width flushed.display.metrics.height flushed.display.width
      flushed.display.height) := by
  intro flushed
  obtain ⟨first, later⟩ := List.forall_mem_cons.mp printing
  have flushed_eq : flushed = (screen.run requests).step .flush := run_append ..
  have populatedNew : screen.Populated := by
    obtain ⟨start, -, -, -, rfl⟩ := exists_start made
    rw [Populated, display_of_resize, Display.width_resize, Display.height_resize]
    exact first.legible
  have legibleRun := legible_run (legible_new made solid first.bounded) later
  have legible : flushed.Legible := by
    rw [flushed_eq]
    exact legible_step legibleRun rfl trivial trivial
  have populatedRun := populated_run populatedNew fun request member =>
    (later request member).legible
  have populated : flushed.Populated := by
    rw [flushed_eq, Populated, Screen.display_of_flushes _ rfl, Display.width_flushOperations,
      Display.height_flushOperations]
    exact populatedRun
  apply text_eq_joinedLines legible populated
  rw [flushed_eq, committed_flush]

/-- Text that is scrolled while the screen grows and shrinks, on a surface that is not black. -/
theorem text_eq_of_scrolled :
    let screen := ofPixels (.ofBackground .white) 2 1
    screen.display.metrics = ⟨1, 1, 1⟩ ∧
    let flushed := screen.run ([.setColumns 0 0 0 (.ofChar 'a' {}), .flush, .copyColumns 0 0 0 1,
      .resize 3 2, .resize 2 3, .copyRows 0 1 1, .setColumns 0 1 1 (.ofChar 'b' {})] ++ [.flush])
    flushed.display.snapshot.text = joinedLines (flushed.surface.committedText
      flushed.display.metrics.width flushed.display.metrics.height flushed.display.width
      flushed.display.height) := by
  refine ⟨metrics_ofPixels .., text_eq_of_new (new_ofPixels _ 2 1) (solid_ofPixels ..) ?_⟩
  rw [metrics_ofPixels]
  decide

end Screen
end CellScreen
