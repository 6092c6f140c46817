import CellScreen.Proofs.PixelCells
import CellScreen.Proofs.Exposure

/-! What is painted at every place of the grid, right halves included. A flush draws a right half
only along with the cell to its left; a right half that comes without it keeps the pixels that its
place has, or those of the place that it is copied from. The painter of a place is the cell that is
drawn over it, with which of its columns it is. The origin of a place is where its other pixels
come from. -/
namespace CellScreen

namespace Request

def updates : Request → Bool
  | .resize .. => false
  | request => request.keepsLook

private theorem keepsLook_of_updates {request : Request} (updates : request.updates) :
    request.keepsLook := by
  cases request with
  | resize => rfl
  | _ => exact updates

private theorem bounded_of_updates {request : Request} (updates : request.updates)
    (metrics : CellMetrics) : request.Bounded metrics := by
  cases request with
  | resize => cases updates
  | _ => exact trivial

private theorem not_flushes_of_quiet {request : Request} (quiet : request.draws = false) :
    ¬ request.flushes := by
  cases request with
  | flushOperations | flush | join => cases quiet
  | _ => exact Bool.false_ne_true

end Request

namespace Display

def half (display : Display) (cell : Cell) (part : Nat) : Grid (Option Pixel) :=
  (display.glyphStyle cell.attributes).picture cell.drawnChar display.metrics part

private theorem LooksLike.half_eq {next display : Display} (alike : next.LooksLike display)
    (cell : Cell) (part : Nat) : next.half cell part = display.half cell part := by
  rw [half, half, alike.glyphStyle_eq, alike.metrics_eq]

def redrawn (display : Display) (row column : Nat) : Option Cell :=
  match (display.copyPass display.next display.pending.slots).slots.get? row column with
  | some (.set cell) => some cell
  | _ => none

def redrawnBefore (display : Display) (row : Nat) : Nat → Option Cell
  | 0 => none
  | left + 1 => (display.redrawn row left).filter fun cell =>
    cell.width == 2 && (display.fillColor (.set cell)).isNone

def painter (display : Display) (row column : Nat) : Option (Cell × Nat) :=
  if (display.next.get? row column).any (·.isContinuation) then
    (display.redrawnBefore row column).map (·, 1)
  else (display.redrawn row column).map (·, 0)

def origin (display : Display) (row column : Nat) : Nat × Nat :=
  match display.pending.get? row column with
  | some (.copy sourceRow sourceColumn) =>
    if display.moves row column then (sourceRow, sourceColumn) else (row, column)
  | _ => (row, column)

variable {display : Display} {canvas : Canvas} {row column : Nat}

theorem redrawn_eq_some_iff {cell : Cell} : display.redrawn row column = some cell ↔
    (display.copyPass display.next display.pending.slots).slots.get? row column =
      some (.set cell) := by
  unfold redrawn
  split
  · next other waits => rw [waits, Option.some.injEq, Option.some.injEq, Slot.set.injEq]
  · next absent => exact ⟨nofun, fun waits => absurd waits (absent cell)⟩

private theorem textBox_copied (painted : Canvas) :
    display.textBox (display.copyPass display.next display.pending.slots).slots painted row column =
      match display.redrawn row column with
      | some cell => display.drawing cell
      | none => painted.box display.metrics row column := by
  cases draws : display.redrawn row column with
  | some cell => rw [textBox, redrawn_eq_some_iff.mp draws]
  | none =>
    unfold textBox
    split
    · next cell waits => cases draws.symm.trans (redrawn_eq_some_iff.mpr waits)
    · rfl

private theorem get?_next_of_redrawn (consistent : display.Consistent) (fits : display.Fits canvas)
    {cell : Cell} (draws : display.redrawn row column = some cell) :
    display.next.get? row column = some cell :=
  get?_next_of_copied consistent fits (redrawn_eq_some_iff.mp draws)

private theorem origin_inside (consistent : display.Consistent)
    (inside : row < display.height ∧ column < display.width) :
    (display.origin row column).1 < display.height ∧
      (display.origin row column).2 < display.width := by
  unfold origin
  split
  · next sourceRow sourceColumn recorded =>
    split
    · rw [← consistent.height_eq, ← consistent.width_eq]
      exact consistent.valid.sourced recorded
    · exact inside
  · exact inside

private theorem copied_from_origin (consistent : display.Consistent) (fits : display.Fits canvas)
    (inside : row < display.height ∧ column < display.width) :
    ((display.copyPass display.next display.pending.slots).drawn canvas).box display.metrics
        row column =
      canvas.box display.metrics (display.origin row column).1 (display.origin row column).2 ∧
    (display.redrawn row column = none → display.next.get? row column =
      display.committed.get? (display.origin row column).1 (display.origin row column).2) := by
  obtain ⟨slot, recorded⟩ := exists_slot consistent inside
  have place := inside
  rw [← consistent.width_eq, ← consistent.height_eq] at place
  have settled : CopyPass.Settled (row, column)
      (display.copyPass display.next display.pending.slots) := settled_copyPass _ _ place
  rw [get?_next consistent recorded]
  unfold origin redrawn
  rw [recorded]
  cases (sound_copyPass consistent fits).treated recorded with
  | kept waits box_eq =>
    rw [waits]
    cases slot with
    | unchanged => exact ⟨box_eq, fun _ => rfl⟩
    | set cell => exact ⟨box_eq, nofun⟩
    | copy sourceRow sourceColumn => exact absurd waits (settled sourceRow sourceColumn)
  | moved done box_eq written =>
    have moves : display.moves row column := beq_iff_eq.mpr done
    dsimp only
    rw [if_pos moves]
    exact ⟨box_eq, fun _ => rfl⟩
  | redrawn waits content box_eq =>
    have draws : ¬ display.moves row column := fun moves => by
      cases waits.symm.trans (beq_iff_eq.mp moves)
    dsimp only
    rw [if_neg draws, waits]
    exact ⟨box_eq, nofun⟩

private theorem fillColor_of_not_isBlank {cell : Cell} (inked : ¬ cell.isBlank) :
    display.fillColor (.set cell) = none := by
  simp [fillColor, inked]

private theorem box_filled_of_continuation (consistent : display.Consistent)
    (fits : display.Fits canvas)
    (continues : (display.next.get? row column).any (·.isContinuation)) :
    ((display.fillPass (display.copyPass display.next display.pending.slots).slots).drawn
        canvas).box display.metrics row column = canvas.box display.metrics row column := by
  have sound := sound_copyPass consistent fits
  rw [box_fillPass fits sound.width_eq sound.height_eq]
  split
  · next color waiting =>
    obtain ⟨slot, found, fills⟩ := Option.bind_eq_some_iff.mp waiting
    cases slot with
    | set cell =>
      rw [get?_next_of_copied consistent fits found] at continues
      have inked : ¬ cell.isBlank := fun blank => ((Cell.isBlank_iff cell).mp blank).1 continues
      cases (fillColor_of_not_isBlank inked).symm.trans fills
    | unchanged => cases fills
    | copy sourceRow sourceColumn => cases fills
  · rfl

private theorem redrawn_of_isEmpty (consistent : display.Consistent) (fits : display.Fits canvas)
    (isEmpty : display.pending.isEmpty) : display.redrawn row column = none := by
  rw [Option.eq_none_iff_forall_ne_some]
  intro cell draws
  have waits := redrawn_eq_some_iff.mp draws
  have sound := sound_copyPass consistent fits
  have inside := Grid.inside_of_get? waits
  rw [sound.width_eq, sound.height_eq] at inside
  obtain ⟨slot, recorded⟩ := exists_slot consistent inside
  have treated := sound.treated recorded
  cases Pending.eq_unchanged_of_isEmpty consistent.valid isEmpty recorded
  cases treated with
  | kept same box_eq => cases same.symm.trans waits

theorem redrawnBefore_eq_some_iff {left : Nat} {cell : Cell} :
    display.redrawnBefore row (left + 1) = some cell ↔ display.redrawn row left = some cell ∧
      cell.width = 2 ∧ display.fillColor (.set cell) = none := by
  simp [redrawnBefore, Option.filter_eq_some_iff]

theorem painter_of_isEmpty (consistent : display.Consistent) (fits : display.Fits canvas)
    (isEmpty : display.pending.isEmpty) : display.painter row column = none := by
  have kept (column : Nat) : display.redrawn row column = none :=
    redrawn_of_isEmpty consistent fits isEmpty
  unfold painter
  cases column with
  | zero => simp [redrawnBefore, kept]
  | succ left => simp [redrawnBefore, kept]

private theorem origin_of_isEmpty (consistent : display.Consistent)
    (isEmpty : display.pending.isEmpty) (inside : row < display.height ∧ column < display.width) :
    display.origin row column = (row, column) := by
  obtain ⟨slot, recorded⟩ := exists_slot consistent inside
  cases Pending.eq_unchanged_of_isEmpty consistent.valid isEmpty recorded
  rw [origin, recorded]

private theorem partBox_right (fits : display.Fits canvas) (consistent : display.Consistent)
    {left : Nat} {painted : Canvas}
    (continues : (display.next.get? row (left + 1)).any (·.isContinuation)) :
    display.partBox display.next
        (display.fillPass (display.copyPass display.next display.pending.slots).slots).slots
        painted row left 1 =
      match display.redrawnBefore row (left + 1) with
      | some cell => display.half cell 1
      | none => painted.box display.metrics row (left + 1) := by
  have sound := sound_copyPass consistent fits
  unfold partBox
  split
  · next cell waits =>
    obtain ⟨found, unfilled⟩ := (set_fillPass_iff fits sound.width_eq sound.height_eq).mp waits
    have draws := redrawn_eq_some_iff.mpr found
    -- A narrow cell before a right half is drawn in one column only.
    by_cases wide : cell.width = 2
    · have leads : cell.isContinuation = false := by simp [Cell.isContinuation, wide]
      have both : 1 < drawnColumns display.next row left cell := by
        simp [drawnColumns, wide, continues]
      rw [redrawnBefore_eq_some_iff.mpr ⟨draws, wide, unfilled⟩, if_pos ⟨leads, both⟩]
      rfl
    · have one : drawnColumns display.next row left cell = 1 := by simp [drawnColumns, wide]
      have apart : display.redrawnBefore row (left + 1) = none := by
        rw [Option.eq_none_iff_forall_ne_some]
        intro other before
        obtain ⟨again, wideOther, -⟩ := redrawnBefore_eq_some_iff.mp before
        cases draws.symm.trans again
        exact wide wideOther
      rw [apart, one, if_neg (fun drawn => Nat.lt_irrefl 1 drawn.2)]
  · next absent =>
    have apart : display.redrawnBefore row (left + 1) = none := by
      rw [Option.eq_none_iff_forall_ne_some]
      intro other before
      obtain ⟨draws, -, unfilled⟩ := redrawnBefore_eq_some_iff.mp before
      exact absent other ((set_fillPass_iff fits sound.width_eq sound.height_eq).mpr
        ⟨redrawn_eq_some_iff.mp draws, unfilled⟩)
    rw [apart]

private theorem painter_of_whole {cell : Cell} (found : display.next.get? row column = some cell)
    (whole : cell.isContinuation = false) :
    display.painter row column = (display.redrawn row column).map (·, 0) := by
  rw [painter, found, Option.any_some, whole]
  rfl

private theorem painter_of_right {left : Nat} {right : Cell}
    (found : display.next.get? row (left + 1) = some right) (continues : right.isContinuation) :
    display.painter row (left + 1) = (display.redrawnBefore row (left + 1)).map (·, 1) := by
  rw [painter, found, Option.any_some, if_pos continues]

theorem committed_flushOperations (consistent : display.Consistent)
    (inside : row < display.height ∧ column < display.width) :
    display.flushOperations.1.committed.get? row column = display.next.get? row column := by
  obtain ⟨slot, recorded⟩ := exists_slot consistent inside
  rw [get?_flushOperations consistent recorded, get?_next consistent recorded]

end Display

def Painting := Nat → Nat → Grid (Option Pixel)

namespace Painting

def ofScreen (screen : Screen) : Painting :=
  screen.surface.pending.box screen.display.metrics

def flush (painting : Painting) (display : Display) : Painting := fun row column =>
  match display.painter row column with
  | some (cell, part) => display.half cell part
  | none => painting (display.origin row column).1 (display.origin row column).2

def step (painting : Painting) (screen : Screen) (request : Request) : Painting :=
  if request.flushes then painting.flush screen.display else painting

def run : Painting → Screen → List Request → Painting
  | painting, _, [] => painting
  | painting, screen, request :: requests =>
    run (painting.step screen request) (screen.step request) requests

def Shown (painting : Painting) (screen : Screen) : Prop :=
  ∀ {row column : Nat}, row < screen.display.height ∧ column < screen.display.width →
    screen.surface.pending.box screen.display.metrics row column = painting row column

def Whole (painting : Painting) (display : Display) : Prop :=
  ∀ {row column : Nat} {cell : Cell}, display.committed.get? row column = some cell →
    cell.isContinuation = false → painting row column = display.drawing cell

end Painting

namespace Display

variable {display : Display} {canvas : Canvas} {row column : Nat}

/-- The fills and the text of a flush draw what is to be drawn anew. They leave all other boxes,
also those of places off the grid. -/
theorem box_drawn_painter (consistent : display.Consistent) (fits : display.Fits canvas)
    (row column : Nat) :
    let filled := display.fillPass (display.copyPass display.next display.pending.slots).slots
    ((display.textPass display.next filled.slots).foldl Canvas.draw (filled.drawn canvas)).box
        display.metrics row column =
      match display.painter row column with
      | some (cell, part) => display.half cell part
      | none => canvas.box display.metrics row column := by
  intro filled
  have sound := sound_copyPass consistent fits
  have fitsFilled : display.Fits (filled.drawn canvas) := fits.of_size (by simp) (by simp)
  have prepared := prepared_fillPass consistent fits
  unfold painter
  -- Text reaches a right half only from the cell before it, and any other place from its own.
  by_cases continues : (display.next.get? row column).any (·.isContinuation)
  · have kept := box_filled_of_continuation consistent fits continues
    rw [if_pos continues]
    cases column with
    | zero =>
      have isPart : IsPart display.next row 0 0 := .inl rfl
      exact (partBox_textPass fitsFilled prepared isPart).trans
        ((partBox_of_continuation prepared continues).trans kept)
    | succ left =>
      have isPart : IsPart display.next row left 1 := continues
      rw [partBox_textPass fitsFilled prepared isPart, partBox_right fits consistent continues]
      cases display.redrawnBefore row (left + 1) with
      | none => exact kept
      | some cell => rfl
  · have whole : (display.next.get? row column).all (!·.isContinuation) := by
      cases found : display.next.get? row column with
      | none => rfl
      | some cell => simpa [found] using continues
    rw [if_neg continues, box_textPass fitsFilled prepared whole,
      textBox_fillPass fits sound.width_eq sound.height_eq, textBox_copied]
    cases display.redrawn row column with
    | some cell => rfl
    | none => rfl

/-- A flush repaints the boxes of the canvas. -/
theorem box_flush_painter (consistent : display.Consistent) (fits : display.Fits canvas)
    (background : Rgb) (inside : row < display.height ∧ column < display.width) :
    (display.flushPlan.calls.foldl (Surface.drawCall background) canvas).box display.metrics
        row column =
      Painting.flush (canvas.box display.metrics) display row column := by
  unfold Painting.flush
  by_cases isEmpty : display.pending.isEmpty
  · rw [flushPlan, if_pos isEmpty, painter_of_isEmpty consistent fits isEmpty,
      origin_of_isEmpty consistent isEmpty inside]
    rfl
  · have fitsCopied : display.Fits ((display.copyPass display.next
        display.pending.slots).drawn canvas) := fits.of_size (by simp) (by simp)
    rw [drawn_flushPlan isEmpty background canvas, box_drawn_painter consistent fitsCopied]
    cases display.painter row column with
    | some half => rfl
    | none => exact (copied_from_origin consistent fits inside).1

end Display

namespace Painting

variable {painting : Painting} {screen : Screen}

theorem shown_step (shown : painting.Shown screen) (laid : screen.Laid) {request : Request}
    (updates : request.updates) : (painting.step screen request).Shown (screen.step request) := by
  have keeps := Request.keepsLook_of_updates updates
  have alike := screen.looksLike_step keeps
  intro row column inside
  rw [alike.metrics_eq]
  rcases request.quiet_or_resize_or_flushes with quiet | ⟨columns, rows, rfl⟩ | flushes
  · obtain ⟨-, committed, canvas, -⟩ := screen.step_recorded quiet
    rw [Display.height, Display.width, committed] at inside
    rw [canvas, step, if_neg (Request.not_flushes_of_quiet quiet)]
    exact shown inside
  · cases updates
  · rw [screen.display_of_flushes flushes, Display.height_flushOperations,
      Display.width_flushOperations] at inside
    rw [screen.canvas_of_flushes flushes,
      Display.box_flush_painter laid.consistent laid.fits screen.surface.background inside, step,
      if_pos flushes]
    unfold flush
    cases screen.display.painter row column with
    | some half => rfl
    | none => exact shown (Display.origin_inside laid.consistent inside)

theorem whole_step (whole : painting.Whole screen.display) (laid : screen.Laid) {request : Request}
    (updates : request.updates) :
    (painting.step screen request).Whole (screen.step request).display := by
  have keeps := Request.keepsLook_of_updates updates
  have alike := screen.looksLike_step keeps
  intro row column cell found leads
  rw [alike.drawing_eq]
  rcases request.quiet_or_resize_or_flushes with quiet | ⟨columns, rows, rfl⟩ | flushes
  · obtain ⟨-, committed, -, -⟩ := screen.step_recorded quiet
    rw [committed] at found
    rw [step, if_neg (Request.not_flushes_of_quiet quiet)]
    exact whole found leads
  · cases updates
  · have inside := Grid.inside_of_get? found
    rw [screen.display_of_flushes flushes] at found inside
    have place : row < screen.display.height ∧ column < screen.display.width := by
      rwa [← Display.height_flushOperations, ← Display.width_flushOperations]
    rw [Display.committed_flushOperations laid.consistent place] at found
    have copied := Display.copied_from_origin laid.consistent laid.fits place
    rw [step, if_pos flushes, flush, Display.painter_of_whole found leads]
    -- What is not drawn anew has come with its content from a place that was painted whole.
    cases draws : screen.display.redrawn row column with
    | none => exact whole ((copied.2 draws).symm.trans found) leads
    | some drawn =>
      cases (Display.get?_next_of_redrawn laid.consistent laid.fits draws).symm.trans found
      rfl

private theorem run_shows {start : Screen} (laid : start.Laid) (shown : painting.Shown start)
    (whole : painting.Whole start.display) {requests : List Request}
    (updates : ∀ request ∈ requests, request.updates) :
    (start.run requests).Laid ∧ (painting.run start requests).Shown (start.run requests) ∧
      (painting.run start requests).Whole (start.run requests).display := by
  unfold Screen.run
  induction requests generalizing painting start with
  | nil => exact ⟨laid, shown, whole⟩
  | cons request requests ih =>
    obtain ⟨now, later⟩ := List.forall_mem_cons.mp updates
    have laidNext := Screen.laid_step laid
      (Request.keepsFont_of_keepsLook (Request.keepsLook_of_updates now))
      (Request.bounded_of_updates now _)
    exact ih laidNext (shown_step shown laid now) (whole_step whole laid now) later

end Painting

namespace Screen

/-- The viewers see a wide character over both of its columns. -/
def ShowsBoth (screen : Screen) (row column : Nat) (cell : Cell) : Prop :=
  screen.surface.committed.box screen.display.metrics row column = screen.display.half cell 0 ∧
    screen.surface.committed.box screen.display.metrics row (column + 1) =
      screen.display.half cell 1

/-- A flush shows a wide character over both columns exactly if it draws it, or finds its right half
painted where the pixels of the right column come from. -/
theorem showsBoth_flush_iff {screen : Screen} {painting : Painting} (laid : screen.Laid)
    (shown : painting.Shown screen) (whole : painting.Whole screen.display) {row column : Nat}
    {cell right : Cell} (wide : cell.width = 2) (inked : cell.drawnChar ≠ ' ')
    (found : (screen.step .flush).display.committed.get? row column = some cell)
    (beside : (screen.step .flush).display.committed.get? row (column + 1) = some right)
    (continues : right.isContinuation) :
    (screen.step .flush).ShowsBoth row column cell ↔
      screen.display.redrawn row column = some cell ∨
        painting (screen.display.origin row (column + 1)).1
          (screen.display.origin row (column + 1)).2 = screen.display.half cell 1 := by
  have leads : cell.isContinuation = false := by simp [Cell.isContinuation, wide]
  have alike : (screen.step .flush).display.LooksLike screen.display := screen.looksLike_step rfl
  have left : (screen.step .flush).surface.pending.box (screen.step .flush).display.metrics row
      column = (screen.step .flush).display.half cell 0 :=
    (Painting.shown_step shown laid rfl (Grid.inside_of_get? found)).trans
      (Painting.whole_step whole laid rfl found leads)
  have after : (screen.step .flush).surface.pending.box (screen.step .flush).display.metrics row
      (column + 1) = painting.flush screen.display row (column + 1) :=
    Painting.shown_step shown laid rfl (Grid.inside_of_get? beside)
  have place : row < screen.display.height ∧ column + 1 < screen.display.width := by
    have inside := Grid.inside_of_get? beside
    rw [screen.display_of_flushes rfl] at inside
    rwa [← Display.height_flushOperations, ← Display.width_flushOperations]
  rw [screen.display_of_flushes rfl, Display.committed_flushOperations laid.consistent place]
    at beside
  rw [ShowsBoth, committed_flush, left, after, eq_self, true_and, alike.half_eq, Painting.flush,
    Display.painter_of_right beside continues]
  have leftPlace : row < screen.display.height ∧ column < screen.display.width :=
    ⟨place.1, Nat.lt_of_succ_lt place.2⟩
  rw [screen.display_of_flushes rfl, Display.committed_flushOperations laid.consistent leftPlace]
    at found
  cases before : screen.display.redrawnBefore row (column + 1) with
  | some drawn =>
    obtain ⟨draws, -, -⟩ := Display.redrawnBefore_eq_some_iff.mp before
    cases (Display.get?_next_of_redrawn laid.consistent laid.fits draws).symm.trans found
    exact iff_of_true rfl (.inl draws)
  | none =>
    have unfilled : screen.display.fillColor (.set cell) = none :=
      Display.fillColor_of_not_isBlank fun blank => inked ((Cell.isBlank_iff cell).mp blank).2
    have kept : screen.display.redrawn row column ≠ some cell := fun draws => by
      cases before.symm.trans (Display.redrawnBefore_eq_some_iff.mpr ⟨draws, wide, unfilled⟩)
    exact (or_iff_right kept).symm

/-- From a screen that shows its cells on, wide characters are shown over both columns exactly if
the last flush draws them, or finds their right halves painted by the flushes before it. -/
theorem showsBoth_iff {start : Screen} (laid : start.Laid)
    (shows : ∀ row column, start.display.Shows start.surface.pending row column)
    {requests : List Request} (updates : ∀ request ∈ requests, request.updates)
    {row column : Nat} {cell right : Cell} (wide : cell.width = 2) (inked : cell.drawnChar ≠ ' ')
    (found : (start.run (requests ++ [.flush])).display.committed.get? row column = some cell)
    (beside : (start.run (requests ++ [.flush])).display.committed.get? row (column + 1) =
      some right) (continues : right.isContinuation) :
    (start.run (requests ++ [.flush])).ShowsBoth row column cell ↔
      (start.run requests).display.redrawn row column = some cell ∨
        (Painting.ofScreen start).run start requests
            ((start.run requests).display.origin row (column + 1)).1
            ((start.run requests).display.origin row (column + 1)).2 =
          (start.run requests).display.half cell 1 := by
  have shown : (Painting.ofScreen start).Shown start := fun _ => rfl
  have whole : (Painting.ofScreen start).Whole start.display := fun found whole =>
    shows _ _ _ found whole
  obtain ⟨laid, shown, whole⟩ := Painting.run_shows laid shown whole updates
  rw [run_append] at found beside ⊢
  exact showsBoth_flush_iff laid shown whole wide inked found beside continues

/-- A right half that is set one flush after its wide character. -/
theorem showsBoth_iff_of_late_right :
    let start := (ofPixels (.ofBackground .white) 2 1).step .flush
    let requests := [.setColumns 0 0 0 (.ofChar '日' {}), .flush,
      .setColumns 0 1 1 (.continuation {})]
    let reached := start.run requests
    (start.run (requests ++ [.flush])).ShowsBoth 0 0 (.ofChar '日' {}) ↔
      reached.display.redrawn 0 0 = some (.ofChar '日' {}) ∨
        (Painting.ofScreen start).run start requests (reached.display.origin 0 1).1
            (reached.display.origin 0 1).2 = reached.display.half (.ofChar '日' {}) 1 := by
  intro start requests
  have found : (start.run (requests ++ [.flush])).display.committed.get? 0 0 =
      some (.ofChar '日' {}) := by
    decide +kernel
  have beside : (start.run (requests ++ [.flush])).display.committed.get? 0 1 =
      some (.continuation {}) := by
    decide +kernel
  have laid : start.Laid := laid_step (laid_ofPixels _ (by decide)) rfl trivial
  exact showsBoth_iff laid (showsAll_ofPixels _ (by decide)) (by decide) (by decide) (by decide)
    found beside rfl

/-- A right half that is set one flush after its wide character keeps what its place showed. -/
theorem not_showsBoth_of_late_right :
    let start := (ofPixels (.ofBackground .white) 2 1).step .flush
    start.ShowsAll ∧
    let reached := start.run [.setColumns 0 1 1 (.ofChar 'b' {}),
      .setColumns 0 0 0 (.ofChar '日' {}), .flush, .setColumns 0 1 1 (.continuation {}), .flush]
    reached.display.committed.get? 0 0 = some (.ofChar '日' {}) ∧
      reached.display.committed.get? 0 1 = some (.continuation {}) ∧
        ¬ reached.ShowsBoth 0 0 (.ofChar '日' {}) := by
  refine ⟨showsAll_ofPixels _ (by decide), by decide +kernel, by decide +kernel, ?_⟩
  rintro ⟨-, right⟩
  revert right
  decide +kernel

end Screen

end CellScreen
