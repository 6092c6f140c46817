import CellScreen.Proofs.Flush

/-! The layout of a screen. As long as the font stays the same, the canvas has exactly the pixels
of the grid; a resize keeps the boxes of the cells that stay and paints those of new cells with the
background of the surface. -/
namespace CellScreen

namespace Request

def keepsFont : Request → Bool
  | .setFont .. => false
  | _ => true

def flushes : Request → Bool
  | .flushOperations | .flush | .join => true
  | _ => false

theorem quiet_or_resize_or_flushes (request : Request) :
    request.draws = false ∨ (∃ columns rows, request = .resize columns rows) ∨ request.flushes := by
  cases request with
  | resize columns rows => exact .inr (.inl ⟨columns, rows, rfl⟩)
  | flushOperations | flush | join => exact .inr (.inr rfl)
  | _ => exact .inl rfl

def Bounded (metrics : CellMetrics) : Request → Prop
  | .resize columns rows => columns * metrics.width < 2 ^ 31 ∧ rows * metrics.height < 2 ^ 31
  | _ => True

instance (metrics : CellMetrics) (request : Request) : Decidable (request.Bounded metrics) :=
  match request with
  | .resize columns rows => inferInstanceAs
      (Decidable (columns * metrics.width < 2 ^ 31 ∧ rows * metrics.height < 2 ^ 31))
  | .setColumns .. | .copyColumns .. | .copyRows .. | .setFont .. | .assignColor .. =>
    isTrue trivial
  | .resetPalette | .select .. | .clearSelect | .flushOperations | .flush | .join => isTrue trivial

end Request

namespace Canvas

variable {canvas : Canvas} {metrics : CellMetrics} {row column : Nat}

def Covers (canvas : Canvas) (metrics : CellMetrics) (row column : Nat) : Prop :=
  ∀ y < metrics.height, ∀ x < metrics.width,
    row * metrics.height + y < canvas.height ∧ column * metrics.width + x < canvas.width

private theorem covers_of_inside {columns rows : Nat}
    (width_eq : canvas.width = columns * metrics.width)
    (height_eq : canvas.height = rows * metrics.height) (inside : row < rows ∧ column < columns) :
    canvas.Covers metrics row column := by
  intro y below x inRow
  rw [width_eq, height_eq]
  exact ⟨(mul_add_lt_iff below).mpr inside.1, (mul_add_lt_iff inRow).mpr inside.2⟩

theorem covers_of_drawing {display : Display} {cell : Cell}
    (drawn : canvas.box display.metrics row column = display.drawing cell) :
    canvas.Covers display.metrics row column := by
  rw [box, Display.drawing, Style.picture, Grid.tabulate_eq_iff] at drawn
  intro y below x inRow
  exact Grid.inside_of_get? (drawn y below x inRow)

theorem get?_resize (width height : Nat) (background : Rgb) (y x : Nat) :
    (canvas.resize width height background).get? y x =
      if y < height ∧ x < width then some ((canvas.get? y x).getD (.paint background)) else none :=
  Grid.get?_tabulate ..

theorem box_resize_of_covers {width height : Nat} {background : Rgb}
    (before : canvas.Covers metrics row column)
    (after : (canvas.resize width height background).Covers metrics row column) :
    (canvas.resize width height background).box metrics row column =
      canvas.box metrics row column := by
  refine Grid.tabulate_eq_iff.mpr fun y below x inRow => ?_
  obtain ⟨pixel, found⟩ := Grid.exists_get? (before y below x inRow)
  have inside : row * metrics.height + y < height ∧ column * metrics.width + x < width :=
    after y below x inRow
  rw [get?_resize, if_pos inside, found, Option.getD_some]

private theorem box_resize_of_apart {width height : Nat} {background : Rgb}
    (before : canvas.height ≤ row * metrics.height ∨ canvas.width ≤ column * metrics.width)
    (after : (canvas.resize width height background).Covers metrics row column) :
    (canvas.resize width height background).box metrics row column =
      metrics.plain background := by
  refine Grid.tabulate_eq_iff.mpr fun y below x inRow => ?_
  have absent : canvas.get? (row * metrics.height + y) (column * metrics.width + x) = none := by
    rw [Grid.get?_eq_none_iff]
    omega
  have inside : row * metrics.height + y < height ∧ column * metrics.width + x < width :=
    after y below x inRow
  rw [get?_resize, if_pos inside, absent, Option.getD_none]

end Canvas

namespace Display

theorem metrics_resize (display : Display) (width height : Nat) :
    (display.resize width height).1.metrics = display.metrics := by
  simp only [resize]
  split <;> rfl

theorem metrics_flushOperations (display : Display) :
    display.flushOperations.1.metrics = display.metrics := by
  unfold flushOperations
  split <;> rfl

theorem plan_flushOperations (display : Display) :
    display.flushOperations.2 = display.flushPlan := by
  unfold flushOperations
  split <;> rfl

private theorem size_drawCall (background : Rgb) (canvas : Canvas) {call : Call}
    (draws : ∀ width height, call ≠ .resize width height) :
    (Surface.drawCall background canvas call).width = canvas.width ∧
      (Surface.drawCall background canvas call).height = canvas.height := by
  cases call with
  | resize width height => exact absurd rfl (draws width height)
  | copy source x y => exact ⟨Canvas.width_copy .., Canvas.height_copy ..⟩
  | fill rect color => exact ⟨Canvas.width_fill .., Canvas.height_fill ..⟩
  | text run => exact ⟨Canvas.width_draw .., Canvas.height_draw ..⟩
  | _ => exact ⟨rfl, rfl⟩

theorem size_calls (plan : FlushPlan) (background : Rgb) (canvas : Canvas) :
    (plan.calls.foldl (Surface.drawCall background) canvas).width = canvas.width ∧
      (plan.calls.foldl (Surface.drawCall background) canvas).height = canvas.height := by
  refine List.foldlRecOn (motive := fun drawn : Canvas => drawn.width = canvas.width ∧
    drawn.height = canvas.height) plan.calls _ ⟨rfl, rfl⟩ ?_
  intro drawn size call member
  have draws : ∀ width height, call ≠ .resize width height := by
    rintro width height rfl
    simp [FlushPlan.calls] at member
  obtain ⟨width_eq, height_eq⟩ := size_drawCall background drawn draws
  exact ⟨width_eq.trans size.1, height_eq.trans size.2⟩

end Display

namespace Screen

theorem metrics_step (screen : Screen) (request : Request) (keeps : request.keepsFont) :
    (screen.step request).display.metrics = screen.display.metrics := by
  cases request with
  | setFont => cases keeps
  | resize columns rows => exact screen.display.metrics_resize columns rows
  | flushOperations | flush | join => exact screen.display.metrics_flushOperations
  | assignColor index color =>
    obtain ⟨palette, set⟩ := screen.step_assignColor index color
    rw [set]
  | _ => rfl

theorem display_of_flushes (screen : Screen) {request : Request} (flushes : request.flushes) :
    (screen.step request).display = screen.display.flushOperations.1 := by
  cases request with
  | flushOperations | flush | join => rfl
  | _ => cases flushes

theorem canvas_of_flushes (screen : Screen) {request : Request} (flushes : request.flushes) :
    (screen.step request).surface.pending = screen.display.flushPlan.calls.foldl
      (Surface.drawCall screen.surface.background) screen.surface.pending := by
  cases request with
  | flushOperations | flush | join =>
    rw [← screen.display.plan_flushOperations, ← Surface.pending_applyAll]
    rfl
  | _ => cases flushes

theorem committed_flush (screen : Screen) :
    (screen.step .flush).surface.committed = (screen.step .flush).surface.pending := rfl

theorem canvas_resize (screen : Screen) (columns rows : Nat) :
    (screen.step (.resize columns rows)).surface.pending =
      screen.surface.pending.resize (extent columns screen.display.metrics.width)
        (extent rows screen.display.metrics.height) screen.surface.background := by
  change (screen.surface.applyAll (screen.display.resize columns rows).2).pending = _
  rw [Surface.pending_applyAll]
  simp only [Display.resize]
  split <;> rfl

theorem background_step (screen : Screen) (request : Request) :
    (screen.step request).surface.background = screen.surface.background := by
  rcases request.quiet_or_resize_or_flushes with quiet | ⟨columns, rows, rfl⟩ | flushes
  · exact (screen.step_recorded quiet).background
  · exact Surface.background_applyAll ..
  · cases request with
    | flushOperations | flush | join => exact Surface.background_applyAll ..
    | _ => cases flushes

structure Laid (screen : Screen) : Prop where
  consistent : screen.display.Consistent
  wide : 0 < screen.display.metrics.width
  high : 0 < screen.display.metrics.height
  columns_small : screen.display.width * screen.display.metrics.width < 2 ^ 31
  rows_small : screen.display.height * screen.display.metrics.height < 2 ^ 31
  width_eq : screen.surface.pending.width = screen.display.width * screen.display.metrics.width
  height_eq : screen.surface.pending.height =
    screen.display.height * screen.display.metrics.height

theorem Laid.fits {screen : Screen} (laid : screen.Laid) :
    screen.display.Fits screen.surface.pending where
  wide := laid.wide
  high := laid.high
  columns_small := laid.columns_small
  rows_small := laid.rows_small
  columns_covered := Nat.le_of_eq laid.width_eq.symm
  rows_covered := Nat.le_of_eq laid.height_eq.symm

theorem Laid.covers {screen : Screen} (laid : screen.Laid) {row column : Nat}
    (inside : row < screen.display.height ∧ column < screen.display.width) :
    screen.surface.pending.Covers screen.display.metrics row column :=
  Canvas.covers_of_inside laid.width_eq laid.height_eq inside

theorem laid_resize {screen : Screen} {columns rows : Nat}
    (solid : 0 < screen.display.metrics.width ∧ 0 < screen.display.metrics.height)
    (bounded : (Request.resize columns rows).Bounded screen.display.metrics) :
    (screen.step (.resize columns rows)).Laid := by
  have metrics_eq := screen.metrics_step (.resize columns rows) rfl
  refine ⟨Display.consistent_resize .., ?_, ?_, ?_, ?_, ?_, ?_⟩
  · rw [metrics_eq]
    exact solid.1
  · rw [metrics_eq]
    exact solid.2
  · rw [metrics_eq, display_of_resize, Display.width_resize]
    exact bounded.1
  · rw [metrics_eq, display_of_resize, Display.height_resize]
    exact bounded.2
  · rw [metrics_eq, display_of_resize, Display.width_resize, canvas_resize]
    exact extent_of_bounded bounded.1
  · rw [metrics_eq, display_of_resize, Display.height_resize, canvas_resize]
    exact extent_of_bounded bounded.2

theorem laid_step {screen : Screen} (laid : screen.Laid) {request : Request}
    (keeps : request.keepsFont) (bounded : request.Bounded screen.display.metrics) :
    (screen.step request).Laid := by
  have metrics_eq := screen.metrics_step request keeps
  have consistent := consistent_step laid.consistent request
  have of_size (width_eq : (screen.step request).display.width = screen.display.width)
      (height_eq : (screen.step request).display.height = screen.display.height)
      (canvasWidth_eq : (screen.step request).surface.pending.width = screen.surface.pending.width)
      (canvasHeight_eq : (screen.step request).surface.pending.height =
        screen.surface.pending.height) : (screen.step request).Laid := by
    refine ⟨consistent, ?_, ?_, ?_, ?_, ?_, ?_⟩
    · rw [metrics_eq]
      exact laid.wide
    · rw [metrics_eq]
      exact laid.high
    · rw [metrics_eq, width_eq]
      exact laid.columns_small
    · rw [metrics_eq, height_eq]
      exact laid.rows_small
    · rw [metrics_eq, width_eq, canvasWidth_eq]
      exact laid.width_eq
    · rw [metrics_eq, height_eq, canvasHeight_eq]
      exact laid.height_eq
  rcases request.quiet_or_resize_or_flushes with quiet | ⟨columns, rows, rfl⟩ | flushes
  · obtain ⟨-, committed, canvas, -⟩ := screen.step_recorded quiet
    apply of_size
    · rw [Display.width, committed, Display.width]
    · rw [Display.height, committed, Display.height]
    · rw [canvas]
    · rw [canvas]
  · exact laid_resize ⟨laid.wide, laid.high⟩ bounded
  · have display_eq := screen.display_of_flushes flushes
    have size := Display.size_calls screen.display.flushPlan screen.surface.background
      screen.surface.pending
    rw [← screen.canvas_of_flushes flushes] at size
    apply of_size
    · rw [display_eq, Display.width_flushOperations]
    · rw [display_eq, Display.height_flushOperations]
    · exact size.1
    · exact size.2

/-- A new screen is a laid out screen without cells that was resized. -/
theorem exists_laid_start {background : Rgb} {fonts : FontSource} {config : Config}
    {screen : Screen} (made : Screen.new (.ofBackground background) fonts config = .ok screen)
    (solid : 0 < screen.display.metrics.width ∧ 0 < screen.display.metrics.height) :
    ∃ start : Screen, start.Laid ∧ start.surface.background = background ∧
      start.display.width = 0 ∧ start.display.height = 0 ∧
        start.display.metrics = screen.display.metrics ∧
          screen = start.step (.resize config.columns config.rows) := by
  obtain ⟨display, consistent, noColumns, noRows, rfl⟩ := exists_start made
  rw [metrics_step _ _ rfl] at solid ⊢
  refine ⟨⟨display, .ofBackground background⟩, ?_, rfl, noColumns, noRows, rfl, rfl⟩
  refine ⟨consistent, solid.1, solid.2, ?_, ?_, ?_, ?_⟩
  · rw [noColumns, Nat.zero_mul]
    decide
  · rw [noRows, Nat.zero_mul]
    decide
  · rw [noColumns, Nat.zero_mul]
    rfl
  · rw [noRows, Nat.zero_mul]
    rfl

/-- A resize keeps the boxes of the cells that stay and paints those of new cells. -/
theorem box_resize {screen : Screen} (laid : screen.Laid) {columns rows : Nat}
    (bounded : (Request.resize columns rows).Bounded screen.display.metrics) {row column : Nat}
    (inside : row < rows ∧ column < columns) :
    (screen.step (.resize columns rows)).surface.pending.box screen.display.metrics row column =
      if row < screen.display.height ∧ column < screen.display.width then
        screen.surface.pending.box screen.display.metrics row column
      else screen.display.metrics.plain screen.surface.background := by
  have metrics_eq := screen.metrics_step (.resize columns rows) rfl
  have grid : row < (screen.step (.resize columns rows)).display.height ∧
      column < (screen.step (.resize columns rows)).display.width := by
    rw [display_of_resize, Display.height_resize, Display.width_resize]
    exact inside
  have after := (laid_resize ⟨laid.wide, laid.high⟩ bounded).covers grid
  rw [metrics_eq, canvas_resize] at after
  rw [canvas_resize]
  split
  · next stays => exact Canvas.box_resize_of_covers (laid.covers stays) after
  · next exposed =>
    apply Canvas.box_resize_of_apart _ after
    rw [laid.width_eq, laid.height_eq]
    rcases Nat.lt_or_ge row screen.display.height with below | beyond
    · have right : screen.display.width ≤ column := by omega
      exact .inr (Nat.mul_le_mul_right _ right)
    · exact .inl (Nat.mul_le_mul_right _ beyond)

end Screen
end CellScreen
