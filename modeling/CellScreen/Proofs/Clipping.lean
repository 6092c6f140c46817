import CellScreen.Proofs.Shown

/-! Canvases that are smaller than the grid. A flush of such a canvas shows on it what it would
show on a larger one, unless it moves pixels that are not there: a copy leaves what it finds no
pixels for. -/
namespace CellScreen

def Grid.PartOf (part whole : Grid (Option Pixel)) : Prop :=
  ∀ y x pixel, part.get? y x = some (some pixel) → whole.get? y x = some (some pixel)

private theorem Grid.PartOf.refl (picture : Grid (Option Pixel)) : picture.PartOf picture :=
  fun _ _ _ => id

private theorem Grid.PartOf.through {part whole small picture : Grid (Option Pixel)}
    (first : part.PartOf whole) (second : small.PartOf whole) (third : small.PartOf picture)
    (filled : ∀ y x pixel, part.get? y x = some (some pixel) →
      ∃ old, small.get? y x = some (some old)) : part.PartOf picture := by
  intro y x pixel found
  obtain ⟨old, before⟩ := filled y x pixel found
  have large := (first y x pixel found).symm.trans (second y x old before)
  rw [Option.some.inj (Option.some.inj large)]
  exact third y x old before

namespace Canvas

variable {canvas whole : Canvas} {metrics : CellMetrics} {row column : Nat} {x y : Int}

def Clips (canvas whole : Canvas) (x y : Int) : Prop :=
  ∀ pixel, canvas.pixel? x y = some pixel → whole.pixel? x y = some pixel

private theorem inside_of_pixel? {pixel : Pixel} (found : canvas.pixel? x y = some pixel) :
    0 ≤ x ∧ x < canvas.width ∧ 0 ≤ y ∧ y < canvas.height := by
  unfold pixel? at found
  split at found
  · have inside := Grid.inside_of_get? found
    omega
  · cases found

private theorem Clips.inside (clips : canvas.Clips whole x y)
    (inside : 0 ≤ x ∧ x < canvas.width ∧ 0 ≤ y ∧ y < canvas.height) :
    0 ≤ x ∧ x < whole.width ∧ 0 ≤ y ∧ y < whole.height := by
  obtain ⟨pixel, found⟩ := exists_pixel? inside
  exact inside_of_pixel? (clips pixel found)

private theorem Clips.setPixel (clips : canvas.Clips whole x y) (toX toY : Int) (color : Pixel) :
    (canvas.setPixel toX toY color).Clips (whole.setPixel toX toY color) x y := by
  intro pixel found
  have inside := inside_of_pixel? found
  rw [width_setPixel, height_setPixel] at inside
  have insideWhole := clips.inside inside
  rw [pixel?_setPixel] at found ⊢
  split at found
  · next placed =>
    obtain ⟨rfl, rfl, -⟩ := placed
    rwa [if_pos ⟨rfl, rfl, insideWhole⟩]
  · next apart =>
    rw [if_neg]
    · exact clips pixel found
    · rintro ⟨rfl, rfl, -⟩
      exact apart ⟨rfl, rfl, inside⟩

private theorem Clips.fill (clips : canvas.Clips whole x y) (rect : Rect) (color : Pixel) :
    (canvas.fill rect color).Clips (whole.fill rect color) x y := by
  intro pixel found
  have inside := inside_of_pixel? found
  rw [width_fill, height_fill] at inside
  rw [pixel?_fill_of_inside _ _ _ inside] at found
  rw [pixel?_fill_of_inside _ _ _ (clips.inside inside)]
  split at found
  · next covered => rwa [if_pos covered]
  · next apart =>
    rw [if_neg apart]
    exact clips pixel found

private theorem Clips.drawGlyph (clips : canvas.Clips whole x y) (run : TextRun) (start : Int)
    (glyph : Glyph) : (canvas.drawGlyph run start glyph).Clips (whole.drawGlyph run start glyph)
      x y := by
  have painted := clips.fill ⟨coordinate start, run.y, glyph.columns.toNat * run.cellWidth,
    run.cellHeight⟩ (.paint run.style.background)
  simp only [Canvas.drawGlyph]
  split <;> split
  · exact painted.fill _ _
  · exact painted
  · exact (painted.fill _ _).setPixel _ _ _
  · exact painted.setPixel _ _ _

private theorem Clips.drawGlyphs (run : TextRun) (glyphs : List Glyph) {start : Int}
    (clips : canvas.Clips whole x y) :
    (canvas.drawGlyphs run start glyphs).Clips (whole.drawGlyphs run start glyphs) x y := by
  induction glyphs generalizing canvas whole start with
  | nil => exact clips
  | cons glyph glyphs ih => exact ih (clips.drawGlyph run start glyph)

theorem Clips.draw (clips : canvas.Clips whole x y) (run : TextRun) :
    (canvas.draw run).Clips (whole.draw run) x y := clips.drawGlyphs run run.glyphs

theorem Clips.foldl {α : Type} (clips : canvas.Clips whole x y) (draw : Canvas → α → Canvas)
    (keeps : ∀ {small large : Canvas}, small.Clips large x y →
      ∀ entry, (draw small entry).Clips (draw large entry) x y) (entries : List α) :
    (entries.foldl draw canvas).Clips (entries.foldl draw whole) x y := by
  induction entries generalizing canvas whole with
  | nil => exact clips
  | cons entry entries ih => exact ih (keeps clips entry)

/-- A copy reads both canvases alike where all that it reads is on the smaller one. -/
theorem Clips.copy (clips : canvas.Clips whole x y) {source : Rect} {toX toY : Int}
    (read : source.contains (x - (toX - source.x)) (y - (toY - source.y)) → ∃ pixel,
      canvas.pixel? (x - (toX - source.x)) (y - (toY - source.y)) = some pixel ∧
        whole.pixel? (x - (toX - source.x)) (y - (toY - source.y)) = some pixel) :
    (canvas.copy source toX toY).Clips (whole.copy source toX toY) x y := by
  intro pixel found
  have inside := inside_of_pixel? found
  rw [width_copy, height_copy] at inside
  rw [pixel?_copy _ _ _ _ inside] at found
  rw [pixel?_copy _ _ _ _ (clips.inside inside)]
  by_cases moved : source.contains (x - (toX - source.x)) (y - (toY - source.y))
  · obtain ⟨old, small, large⟩ := read moved
    rw [if_pos (mem_points.mpr ⟨moved, inside_of_pixel? small⟩)] at found
    rw [if_pos (mem_points.mpr ⟨moved, inside_of_pixel? large⟩), large, ← small, found]
  · rw [if_neg fun placed => moved (mem_points.mp placed).1] at found ⊢
    exact clips pixel found

private theorem get?_box (canvas : Canvas) (metrics : CellMetrics) (row column y x : Nat) :
    (canvas.box metrics row column).get? y x = if y < metrics.height ∧ x < metrics.width then
      some (canvas.get? (row * metrics.height + y) (column * metrics.width + x)) else none :=
  Grid.get?_tabulate ..

theorem box_partOf_iff : (canvas.box metrics row column).PartOf (whole.box metrics row column) ↔
    ∀ y < metrics.height, ∀ x < metrics.width, canvas.Clips whole
      (column * metrics.width + x : Nat) (row * metrics.height + y : Nat) := by
  constructor
  · intro part y below x inRow pixel found
    have entry := part y x pixel
    rw [get?_box, get?_box, if_pos ⟨below, inRow⟩, if_pos ⟨below, inRow⟩] at entry
    rw [pixel?_natCast] at found ⊢
    exact Option.some.inj (entry (congrArg some found))
  · intro clips y x pixel found
    rw [get?_box] at found ⊢
    split at found
    · next inside =>
      have entry := clips y inside.1 x inside.2 pixel
      rw [pixel?_natCast, pixel?_natCast] at entry
      rw [if_pos inside, entry (Option.some.inj found)]
    · cases found

theorem clips_resize (canvas : Canvas) {width height : Nat} (wider : canvas.width ≤ width)
    (higher : canvas.height ≤ height) (background : Rgb) (x y : Int) :
    canvas.Clips (canvas.resize width height background) x y := by
  intro pixel found
  have inside := inside_of_pixel? found
  unfold pixel? at found ⊢
  have placed : 0 ≤ x ∧ 0 ≤ y := ⟨inside.1, inside.2.2.1⟩
  rw [if_pos placed] at found ⊢
  rw [get?_resize, if_pos (by omega), found, Option.getD_some]

variable {picture : Grid (Option Pixel)} {other : Canvas}

theorem exists_get?_box_of_size (width_eq : other.width = canvas.width)
    (height_eq : other.height = canvas.height) {y x : Nat} {pixel : Pixel}
    (found : (other.box metrics row column).get? y x = some (some pixel)) :
    ∃ old, (canvas.box metrics row column).get? y x = some (some old) := by
  rw [get?_box] at found ⊢
  split at found
  · next inside =>
    have placed := Grid.inside_of_get? (Option.some.inj found)
    rw [width_eq, height_eq] at placed
    obtain ⟨old, before⟩ := Grid.exists_get? placed
    exact ⟨old, by rw [if_pos inside, before]⟩
  · cases found

private theorem Covers.exists_get?_box (covers : canvas.Covers metrics row column) {y x : Nat}
    (inside : y < metrics.height ∧ x < metrics.width) :
    ∃ pixel, (canvas.box metrics row column).get? y x = some (some pixel) := by
  obtain ⟨pixel, found⟩ := Grid.exists_get? (covers y inside.1 x inside.2)
  exact ⟨pixel, by rw [get?_box, if_pos inside, found]⟩

theorem box_eq_of_partOf (width_eq : other.width = canvas.width)
    (height_eq : other.height = canvas.height)
    (drawn : (canvas.box metrics row column).PartOf picture)
    (drawn' : (other.box metrics row column).PartOf picture) :
    other.box metrics row column = canvas.box metrics row column := by
  refine Grid.tabulate_eq_iff.mpr fun y below x inRow => ?_
  have part := drawn y x
  have part' := drawn' y x
  rw [get?_box, if_pos ⟨below, inRow⟩] at part part'
  cases found : canvas.get? (row * metrics.height + y) (column * metrics.width + x) with
  | none =>
    rw [Grid.get?_eq_none_iff] at found ⊢
    rwa [width_eq, height_eq]
  | some pixel =>
    have placed := Grid.inside_of_get? found
    rw [← width_eq, ← height_eq] at placed
    obtain ⟨pixel', found'⟩ := Grid.exists_get? placed
    have seen := part pixel (congrArg some found)
    have seen' := part' pixel' (congrArg some found')
    rw [found', Option.some.inj (seen'.symm.trans seen)]

end Canvas

namespace Display

def CopyPass.Clipped (display : Display) (canvas whole : Canvas) (pass : CopyPass) : Prop :=
  ∀ row column : Nat, row < display.height ∧ column < display.width →
    (∀ sourceRow sourceColumn,
      display.pending.get? row column = some (.copy sourceRow sourceColumn) →
        pass.slots.get? row column = some .unchanged →
          canvas.Covers display.metrics sourceRow sourceColumn) →
      ((pass.drawn canvas).box display.metrics row column).PartOf
        ((pass.drawn whole).box display.metrics row column)

variable {display : Display} {canvas whole : Canvas} {pass : CopyPass}

private theorem partOf_copy (fits : display.Fits whole) {block : Block}
    {sourceRow sourceColumn : Nat} (within : block.Within display)
    (sourceWithin : (block.movedTo sourceRow sourceColumn).Within display) {row column : Nat}
    (part : (canvas.box display.metrics row column).PartOf (whole.box display.metrics row column))
    (read : (row, column) ∈ block.cells →
      canvas.Covers display.metrics (sourceRow + (row - block.row))
        (sourceColumn + (column - block.column)) ∧
      (canvas.box display.metrics (sourceRow + (row - block.row))
        (sourceColumn + (column - block.column))).PartOf
          (whole.box display.metrics (sourceRow + (row - block.row))
            (sourceColumn + (column - block.column)))) :
    ((canvas.copy (display.blockRect (block.movedTo sourceRow sourceColumn))
        (display.blockRect block).x (display.blockRect block).y).box display.metrics
          row column).PartOf
      ((whole.copy (display.blockRect (block.movedTo sourceRow sourceColumn))
        (display.blockRect block).x (display.blockRect block).y).box display.metrics
          row column) := by
  rw [Canvas.box_partOf_iff] at part ⊢
  intro y below x inRow
  refine (part y below x inRow).copy fun moved => ?_
  have member := (contains_moved_back fits within sourceWithin row column below inRow).mp moved
  obtain ⟨covers, clips⟩ := read member
  obtain ⟨fromX, fromY⟩ := moved_back_eq fits within sourceWithin member y x
  obtain ⟨pixel, found⟩ := Grid.exists_get? (covers y below x inRow)
  rw [← Canvas.pixel?_natCast] at found
  rw [fromX, fromY]
  exact ⟨pixel, found, Canvas.box_partOf_iff.mp clips y below x inRow pixel found⟩

private theorem CopyPass.Clipped.box_of_apart (clipped : pass.Clipped display canvas whole)
    (sound : pass.Sound display whole) (fits : display.Fits whole) {block : Block}
    (within : block.Within display)
    (apart : pass.copies.any (·.destination.intersects (display.blockRect block)) = false)
    {row column : Nat} (member : (row, column) ∈ block.cells) :
    ((pass.drawn canvas).box display.metrics row column).PartOf
      ((pass.drawn whole).box display.metrics row column) := by
  have inside := within.inside member
  refine clipped row column inside fun sourceRow sourceColumn recorded done => ?_
  cases sound.treated recorded with
  | kept waits box_eq => cases waits.symm.trans done
  | redrawn waits next box_eq => cases waits.symm.trans done
  | moved done' box_eq written =>
    exact absurd written (CopyPass.not_written fits within apart member)

private theorem CopyPass.Clipped.redraw (clipped : pass.Clipped display canvas whole)
    (sound : pass.Sound display whole) {block : Block} {written : Nat → Nat → Slot}
    (copies : ∀ {row column : Nat}, (row, column) ∈ block.cells →
      ∃ sourceRow sourceColumn, pass.slots.get? row column = some (.copy sourceRow sourceColumn)) :
    CopyPass.Clipped display canvas whole
      { pass with slots := block.write pass.slots written } := by
  intro row column inside covered
  refine clipped row column inside fun sourceRow sourceColumn recorded done => ?_
  apply covered sourceRow sourceColumn recorded
  rw [← sound.width_eq, ← sound.height_eq] at inside
  dsimp only
  rw [Block.get?_write _ _ _ inside, if_neg]
  · exact done
  · intro member
    obtain ⟨r, c, waits⟩ := copies member
    cases waits.symm.trans done

private theorem CopyPass.Clipped.move (clipped : pass.Clipped display canvas whole)
    (sound : pass.Sound display whole) (consistent : display.Consistent)
    (fits : display.Fits whole) {block : Block} {sourceRow sourceColumn : Nat}
    (within : block.Within display)
    (sourceWithin : (block.movedTo sourceRow sourceColumn).Within display)
    (copies : ∀ {row column : Nat}, (row, column) ∈ block.cells → pass.slots.get? row column =
      some (.copy (sourceRow + (row - block.row)) (sourceColumn + (column - block.column))))
    (apart : pass.copies.any (·.destination.intersects
      (display.blockRect (block.movedTo sourceRow sourceColumn))) = false) :
    CopyPass.Clipped display canvas whole ⟨block.write pass.slots fun _ _ => .unchanged,
      pass.copies ++ [⟨display.blockRect (block.movedTo sourceRow sourceColumn),
        display.blockRect block⟩]⟩ := by
  intro row column inside covered
  have slot_eq := Block.get?_write block pass.slots (fun _ _ => .unchanged)
    (by rwa [sound.width_eq, sound.height_eq])
  have before : ((pass.drawn canvas).box display.metrics row column).PartOf
      ((pass.drawn whole).box display.metrics row column) := by
    refine clipped row column inside fun r c recorded done => covered r c recorded ?_
    rw [slot_eq, done, ite_self]
  rw [CopyPass.drawn_append, CopyPass.drawn_append]
  refine partOf_copy (fits.of_size (by simp) (by simp)) within sourceWithin before fun member => ?_
  -- Only a block that is moved is read, and its places now count as moved.
  have recorded := sound.of_copy consistent (copies member)
  rw [if_pos member] at slot_eq
  have covers := covered _ _ recorded slot_eq
  refine ⟨?_, clipped.box_of_apart sound fits sourceWithin apart (mem_movedTo member _ _)⟩
  intro y below x inRow
  rw [CopyPass.width_drawn, CopyPass.height_drawn]
  exact covers y below x inRow

private theorem CopyPass.Clipped.step (clipped : pass.Clipped display canvas whole)
    (sound : pass.Sound display whole) (consistent : display.Consistent)
    (fits : display.Fits whole) {next : CopyPass} {place : Nat × Nat}
    (step : pass.Step display place next) : next.Clipped display canvas whole := by
  cases step with
  | kept => exact clipped
  | redrawn starts within sourceWithin copies meets =>
    exact clipped.redraw sound fun member => ⟨_, _, copies member⟩
  | moved starts within sourceWithin copies apart =>
    exact clipped.move sound consistent fits within sourceWithin copies apart

private theorem clipped_copyPass (consistent : display.Consistent) (fits : display.Fits whole)
    (part : ∀ row column, (canvas.box display.metrics row column).PartOf
      (whole.box display.metrics row column)) :
    (display.copyPass display.next display.pending.slots).Clipped display canvas whole := by
  refine (sound_copyPass_induction (motive := fun pass => pass.Clipped display canvas whole)
    consistent fits (fun row column _ _ => part row column) ?_).2
  intro pass next place sound clipped step
  exact clipped.step sound consistent fits step

theorem FillPass.clips_drawn (pass : FillPass) {x y : Int} (clips : canvas.Clips whole x y) :
    (pass.drawn canvas).Clips (pass.drawn whole) x y := by
  have keeps {small large : Canvas} (clips : small.Clips large x y) (fill : PixelFill) :
      (small.fill fill.rect (.paint fill.color)).Clips
        (large.fill fill.rect (.paint fill.color)) x y := clips.fill fill.rect (.paint fill.color)
  exact clips.foldl _ keeps pass.fills

/-- A flush shows on the smaller canvas part of what it shows on the larger one, but where it may
have to move pixels that are not on the smaller one. -/
theorem partOf_flush (consistent : display.Consistent) (fits : display.Fits whole)
    (background : Rgb) (part : ∀ row column, (canvas.box display.metrics row column).PartOf
      (whole.box display.metrics row column)) {row column : Nat}
    (inside : row < display.height ∧ column < display.width)
    (covered : ∀ sourceRow sourceColumn,
      display.pending.get? row column = some (.copy sourceRow sourceColumn) →
        canvas.Covers display.metrics sourceRow sourceColumn) :
    ((display.flushPlan.calls.foldl (Surface.drawCall background) canvas).box display.metrics
        row column).PartOf
      ((display.flushPlan.calls.foldl (Surface.drawCall background) whole).box display.metrics
        row column) := by
  by_cases isEmpty : display.pending.isEmpty
  · rw [flushPlan, if_pos isEmpty]
    exact part row column
  · rw [drawn_flushPlan isEmpty, drawn_flushPlan isEmpty, Canvas.box_partOf_iff]
    intro y below x inRow
    have copied := clipped_copyPass consistent fits part row column inside
      fun sourceRow sourceColumn recorded _ => covered sourceRow sourceColumn recorded
    have clips := Canvas.box_partOf_iff.mp copied y below x inRow
    have filled := (display.fillPass (display.copyPass display.next
      display.pending.slots).slots).clips_drawn clips
    exact filled.foldl Canvas.draw Canvas.Clips.draw _

/-- As far as a cell is on the canvas it is shown by its drawing, if it is no right half. -/
def ShowsPart (display : Display) (canvas : Canvas) (row column : Nat) : Prop :=
  ∀ cell, display.committed.get? row column = some cell → cell.isContinuation = false →
    (canvas.box display.metrics row column).PartOf (display.drawing cell)

variable {row column : Nat}

theorem Shows.part (shows : display.Shows canvas row column) :
    display.ShowsPart canvas row column := by
  intro cell found single
  rw [shows cell found single]
  exact .refl _

theorem LooksLike.shows {next : Display} (alike : next.LooksLike display)
    (committed_eq : next.committed = display.committed) (shows : display.Shows canvas row column) :
    next.Shows canvas row column := by
  intro cell found single
  rw [committed_eq] at found
  rw [alike.metrics_eq, alike.drawing_eq]
  exact shows cell found single

theorem LooksLike.showsPart {next : Display} (alike : next.LooksLike display)
    (committed_eq : next.committed = display.committed)
    (part : display.ShowsPart canvas row column) : next.ShowsPart canvas row column := by
  intro cell found single
  rw [committed_eq] at found
  rw [alike.metrics_eq, alike.drawing_eq]
  exact part cell found single

theorem ShowsPart.shows (part : display.ShowsPart canvas row column)
    (covers : ∀ cell, display.committed.get? row column = some cell →
      cell.isContinuation = false → canvas.Covers display.metrics row column) :
    display.Shows canvas row column := by
  intro cell found single
  rw [Canvas.box, drawing, Style.picture, Grid.tabulate_eq_iff]
  intro y below x inRow
  obtain ⟨pixel, there⟩ := Grid.exists_get? (covers cell found single y below x inRow)
  have seen := part cell found single y x pixel
  rw [Canvas.get?_box, if_pos ⟨below, inRow⟩, there, drawing, Style.picture, Grid.get?_tabulate,
    if_pos ⟨below, inRow⟩] at seen
  rw [there, ← Option.some.inj (seen rfl)]

theorem exists_fits (solid : 0 < display.metrics.width ∧ 0 < display.metrics.height)
    (bounded : display.width * display.metrics.width < 2 ^ 31 ∧
      display.height * display.metrics.height < 2 ^ 31) (canvas : Canvas) :
    ∃ whole : Canvas, display.Fits whole ∧ (∀ x y, canvas.Clips whole x y) := by
  let width := max canvas.width (display.width * display.metrics.width)
  let height := max canvas.height (display.height * display.metrics.height)
  refine ⟨canvas.resize width height .black, ⟨solid.1, solid.2, bounded.1, bounded.2, ?_, ?_⟩, ?_⟩
  · exact Nat.le_max_right ..
  · exact Nat.le_max_right ..
  · exact canvas.clips_resize (Nat.le_max_left ..) (Nat.le_max_left ..) .black

/-- What is shown as far as it is on the canvas is shown so again after a flush, if all that the
flush copies was shown as a whole. -/
theorem showsPart_flush (consistent : display.Consistent)
    (bounded : display.width * display.metrics.width < 2 ^ 31 ∧
      display.height * display.metrics.height < 2 ^ 31) (background : Rgb)
    (shown : ∀ row column, display.ShowsPart canvas row column)
    (sources : ∀ {row column sourceRow sourceColumn : Nat},
      display.pending.get? row column = some (.copy sourceRow sourceColumn) →
        display.Shows canvas sourceRow sourceColumn) (row column : Nat) :
    display.flushOperations.1.ShowsPart
      (display.flushPlan.calls.foldl (Surface.drawCall background) canvas) row column := by
  intro cell found single
  have inside : row < display.flushOperations.1.height ∧
      column < display.flushOperations.1.width := Grid.inside_of_get? found
  rw [height_flushOperations, width_flushOperations] at inside
  obtain ⟨slot, recorded⟩ := exists_slot consistent inside
  have resolves := (get?_flushOperations consistent recorded).symm.trans found
  have alike := display.looksLike_flushOperations
  have size := size_calls display.flushPlan background canvas
  rw [alike.metrics_eq, alike.drawing_eq]
  by_cases solid : 0 < display.metrics.width ∧ 0 < display.metrics.height
  -- The flush is compared with the same flush of a canvas that has all pixels of the grid.
  · obtain ⟨whole, fits, clips⟩ := exists_fits solid bounded canvas
    have before (row column : Nat) : (canvas.box display.metrics row column).PartOf
        (whole.box display.metrics row column) :=
      Canvas.box_partOf_iff.mpr fun y _ x _ => clips _ _
    have copied {sourceRow sourceColumn : Nat} (copies : slot = .copy sourceRow sourceColumn) :
        canvas.box display.metrics sourceRow sourceColumn = display.drawing cell := by
      subst copies
      exact sources recorded cell resolves single
    have part := partOf_flush consistent fits background before inside
      fun sourceRow sourceColumn copies =>
        Canvas.covers_of_drawing (copied (Option.some.inj (recorded.symm.trans copies)))
    rw [box_flush consistent fits background recorded resolves single] at part
    cases slot with
    | unchanged =>
      exact part.through (before row column) (shown row column cell resolves single)
        fun _ _ _ => Canvas.exists_get?_box_of_size size.1 size.2
    | set new =>
      cases Option.some.inj resolves
      exact part
    | copy sourceRow sourceColumn =>
      have drawn := copied rfl
      have content : display.committed.get? sourceRow sourceColumn = some cell := resolves
      rw [flushedBox, content, Option.getD_some] at part
      split at part
      · refine part.through (before sourceRow sourceColumn) ?_ ?_
        · rw [drawn]
          exact .refl _
        · intro y x pixel there
          have inBox := Grid.inside_of_get? there
          exact (Canvas.covers_of_drawing drawn).exists_get?_box inBox
      · exact part
  · intro y x pixel drawn
    rw [Canvas.get?_box, if_neg (by omega)] at drawn
    cases drawn

end Display
end CellScreen
