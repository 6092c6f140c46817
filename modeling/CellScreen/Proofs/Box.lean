import CellScreen.Proofs.Block
import CellScreen.Proofs.Canvas

/-! The pixels of a cell are its box, and what a cell should look like is its drawing. Drawing on
the rectangle of a block of cells acts on whole boxes: a fill paints those of the block, a copy
moves them, and a glyph replaces those of its columns. All of it needs the pixels of the grid to be
on the canvas and their coordinates to be small. -/
namespace CellScreen

def Style.pixel (style : Style) (char : Char) (height y x : Nat) : Pixel :=
  if (x = 0 ∧ y = 0) ∧ char ≠ ' ' then ⟨style.foreground, some char⟩
  else if style.underline ∧ y + 1 = height then .paint style.foreground
  else .paint style.background

def Style.picture (style : Style) (char : Char) (metrics : CellMetrics) (part : Nat) :
    Grid (Option Pixel) :=
  .tabulate metrics.width metrics.height fun y x =>
    some (style.pixel char metrics.height y (part * metrics.width + x))

def Display.drawing (display : Display) (cell : Cell) : Grid (Option Pixel) :=
  (display.glyphStyle cell.attributes).picture cell.drawnChar display.metrics 0

def CellMetrics.plain (metrics : CellMetrics) (color : Rgb) : Grid (Option Pixel) :=
  .tabulate metrics.width metrics.height fun _ _ => some (.paint color)

def Canvas.box (canvas : Canvas) (metrics : CellMetrics) (row column : Nat) :
    Grid (Option Pixel) :=
  .tabulate metrics.width metrics.height fun y x =>
    canvas.get? (row * metrics.height + y) (column * metrics.width + x)

theorem CellMetrics.plain_eq_iff {metrics : CellMetrics}
    (solid : 0 < metrics.width ∧ 0 < metrics.height) {first second : Rgb} :
    metrics.plain first = metrics.plain second ↔ first = second := by
  constructor
  · intro same
    have corner := Grid.tabulate_eq_iff.mp same 0 solid.2 0 solid.1
    exact congrArg Pixel.color (Option.some.inj corner)
  · intro same
    rw [same]

theorem Display.drawing_of_isBlank (display : Display) {cell : Cell} (blank : cell.isBlank)
    (bare : cell.attributes.underscore = false) :
    display.drawing cell =
      display.metrics.plain (display.glyphStyle cell.attributes).background := by
  have space := ((Cell.isBlank_iff cell).mp blank).2
  have plain : (display.glyphStyle cell.attributes).underline = false := bare
  rw [drawing, Style.picture, CellMetrics.plain, Grid.tabulate_eq_iff]
  intro y below x inRow
  simp [Style.pixel, space, plain]

theorem Display.drawing_blank (display : Display) :
    display.drawing (.blank .default) = display.metrics.plain display.defaultBackground :=
  display.drawing_of_isBlank rfl rfl

theorem Rect.contains_iff (rect : Rect) (x y : Int) :
    rect.contains x y ↔ (rect.x ≤ x ∧ x < rect.x + coordinate rect.width) ∧
      rect.y ≤ y ∧ y < rect.y + coordinate rect.height := by
  simp only [contains, Bool.and_eq_true, decide_eq_true_eq, and_assoc]
  exact Iff.rfl

private theorem le_mul_add_iff {unit offset first index : Nat} (small : offset < unit) :
    first * unit ≤ index * unit + offset ↔ first ≤ index := by
  rw [← Nat.le_div_iff_mul_le (by omega), Grid.index_div small]

theorem mul_add_lt_iff {unit offset index last : Nat} (small : offset < unit) :
    index * unit + offset < last * unit ↔ index < last := by
  rw [← Nat.div_lt_iff_lt_mul (by omega), Grid.index_div small]

private theorem mul_eq_mul_add_iff {unit offset first index : Nat} (small : offset < unit) :
    first * unit = index * unit + offset ↔ first = index ∧ offset = 0 := by
  constructor
  · intro same
    have placed : first * unit + 0 = index * unit + offset := same
    obtain ⟨rows, offsets⟩ := Grid.index_inj (Nat.zero_lt_of_lt small) small placed
    exact ⟨rows, offsets.symm⟩
  · rintro ⟨rfl, rfl⟩
    rfl

theorem extent_of_bounded {cells unit : Nat} (bounded : cells * unit < 2 ^ 31) :
    extent cells unit = cells * unit := by
  rcases Nat.eq_zero_or_pos unit with rfl | positive
  · rw [extent, Nat.mul_zero, Nat.mul_zero]
  · exact extent_of_small (by have := Nat.le_mul_of_pos_right cells positive; omega)

theorem coordinate_natCast {distance : Nat} (small : distance < 2 ^ 31) :
    coordinate distance = distance :=
  coordinate_of_small (by omega) (by omega)

namespace Display

structure Fits (display : Display) (canvas : Canvas) : Prop where
  wide : 0 < display.metrics.width
  high : 0 < display.metrics.height
  columns_small : display.width * display.metrics.width < 2 ^ 31
  rows_small : display.height * display.metrics.height < 2 ^ 31
  columns_covered : display.width * display.metrics.width ≤ canvas.width
  rows_covered : display.height * display.metrics.height ≤ canvas.height

theorem Fits.of_size {display : Display} {canvas other : Canvas} (fits : display.Fits canvas)
    (width_eq : other.width = canvas.width) (height_eq : other.height = canvas.height) :
    display.Fits other :=
  { fits with
    columns_covered := width_eq ▸ fits.columns_covered
    rows_covered := height_eq ▸ fits.rows_covered }

def blockRect (display : Display) (block : Block) : Rect :=
  display.cellRect block.row block.column block.columns block.rows

end Display

section

variable {display : Display} {canvas : Canvas}

theorem Display.columns_bounded (fits : display.Fits canvas) {columns : Nat}
    (within : columns ≤ display.width) : columns * display.metrics.width < 2 ^ 31 :=
  Nat.lt_of_le_of_lt (Nat.mul_le_mul_right _ within) fits.columns_small

theorem Display.rows_bounded (fits : display.Fits canvas) {rows : Nat}
    (within : rows ≤ display.height) : rows * display.metrics.height < 2 ^ 31 :=
  Nat.lt_of_le_of_lt (Nat.mul_le_mul_right _ within) fits.rows_small

theorem Display.cellRect_eq (fits : display.Fits canvas) {row column columns rows : Nat}
    (below : row + rows ≤ display.height) (inRow : column + columns ≤ display.width) :
    display.cellRect row column columns rows = ⟨(column * display.metrics.width : Nat),
      (row * display.metrics.height : Nat), columns * display.metrics.width,
      rows * display.metrics.height⟩ := by
  have left := columns_bounded fits (Nat.le_of_add_right_le inRow)
  have across := columns_bounded fits (Nat.le_of_add_left_le inRow)
  have top := rows_bounded fits (Nat.le_of_add_right_le below)
  have down := rows_bounded fits (Nat.le_of_add_left_le below)
  rw [cellRect, extent_of_bounded left, extent_of_bounded across, extent_of_bounded top,
    extent_of_bounded down, coordinate_natCast left, coordinate_natCast top]

theorem Display.contains_blockRect (fits : display.Fits canvas) {block : Block}
    (within : block.Within display) {row column y x : Nat} (yInside : y < display.metrics.height)
    (xInside : x < display.metrics.width) :
    (display.blockRect block).contains (column * display.metrics.width + x : Nat)
        (row * display.metrics.height + y : Nat) ↔ (row, column) ∈ block.cells := by
  have across := coordinate_natCast
    (columns_bounded fits (Nat.le_of_add_left_le within.2))
  have down := coordinate_natCast (rows_bounded fits (Nat.le_of_add_left_le within.1))
  have left : block.column * display.metrics.width ≤ column * display.metrics.width + x ↔
      block.column ≤ column := le_mul_add_iff xInside
  have right : column * display.metrics.width + x <
      (block.column + block.columns) * display.metrics.width ↔
        column < block.column + block.columns := mul_add_lt_iff xInside
  have top : block.row * display.metrics.height ≤ row * display.metrics.height + y ↔
      block.row ≤ row := le_mul_add_iff yInside
  have bottom : row * display.metrics.height + y <
      (block.row + block.rows) * display.metrics.height ↔ row < block.row + block.rows :=
    mul_add_lt_iff yInside
  rw [Nat.add_mul] at right bottom
  rw [Block.mem_cells, blockRect, cellRect_eq fits within.1 within.2, Rect.contains_iff]
  simp only [across, down]
  omega

private theorem Display.on_canvas (fits : display.Fits canvas) {row column y x : Nat}
    (inside : row < display.height ∧ column < display.width) (yInside : y < display.metrics.height)
    (xInside : x < display.metrics.width) :
    (0 : Int) ≤ (column * display.metrics.width + x : Nat) ∧
      ((column * display.metrics.width + x : Nat) : Int) < canvas.width ∧
      (0 : Int) ≤ (row * display.metrics.height + y : Nat) ∧
      ((row * display.metrics.height + y : Nat) : Int) < canvas.height := by
  have across := (mul_add_lt_iff xInside).mpr inside.2
  have down := (mul_add_lt_iff yInside).mpr inside.1
  have columnsCovered := fits.columns_covered
  have rowsCovered := fits.rows_covered
  omega

theorem Canvas.box_fill (fits : display.Fits canvas) {block : Block}
    (within : block.Within display) (color : Rgb) (row column : Nat) :
    (canvas.fill (display.blockRect block) (.paint color)).box display.metrics row column =
      if (row, column) ∈ block.cells then display.metrics.plain color
      else canvas.box display.metrics row column := by
  apply Grid.tabulate_eq_ite
  intro y yInside x xInside
  have contains : (display.blockRect block).contains (column * display.metrics.width + x : Nat)
      (row * display.metrics.height + y : Nat) ↔ (row, column) ∈ block.cells :=
    Display.contains_blockRect fits within yInside xInside
  rw [← pixel?_natCast, pixel?_fill, pixel?_natCast]
  by_cases member : (row, column) ∈ block.cells
  · have on := display.on_canvas fits (within.inside member) yInside xInside
    rw [if_pos ⟨contains.mpr member, on⟩, if_pos member]
  · rw [if_neg fun all => member (contains.mp all.1), if_neg member]

private theorem Rect.contains_moved {first second : Rect} (width_eq : first.width = second.width)
    (height_eq : first.height = second.height) (x y : Int) :
    first.contains (x - (second.x - first.x)) (y - (second.y - first.y)) ↔
      second.contains x y := by
  rw [contains_iff, contains_iff, width_eq, height_eq]
  generalize coordinate (second.width : Int) = across
  generalize coordinate (second.height : Int) = down
  omega

private theorem moved_back {unit offset source target index : Nat} (after : target ≤ index) :
    ((index * unit + offset : Nat) : Int) - ((target * unit : Nat) - (source * unit : Nat)) =
      ((source + (index - target)) * unit + offset : Nat) := by
  obtain ⟨step, rfl⟩ := Nat.exists_eq_add_of_le after
  rw [Nat.add_sub_cancel_left, Nat.add_mul, Nat.add_mul]
  omega

theorem Display.contains_moved_back (fits : display.Fits canvas) {block : Block}
    {sourceRow sourceColumn : Nat} (within : block.Within display)
    (sourceWithin : (block.movedTo sourceRow sourceColumn).Within display)
    (row column : Nat) {y x : Nat} (yInside : y < display.metrics.height)
    (xInside : x < display.metrics.width) :
    let source := display.blockRect (block.movedTo sourceRow sourceColumn)
    let target := display.blockRect block
    source.contains ((column * display.metrics.width + x : Nat) - (target.x - source.x))
        ((row * display.metrics.height + y : Nat) - (target.y - source.y)) ↔
      (row, column) ∈ block.cells := by
  intro source target
  have source_eq : source = ⟨_, _, _, _⟩ :=
    Display.cellRect_eq fits sourceWithin.1 sourceWithin.2
  have target_eq : target = ⟨_, _, _, _⟩ := Display.cellRect_eq fits within.1 within.2
  rw [← Display.contains_blockRect fits within yInside xInside]
  exact Rect.contains_moved (by rw [source_eq, target_eq]; rfl)
    (by rw [source_eq, target_eq]; rfl) _ _

theorem Display.moved_back_eq (fits : display.Fits canvas) {block : Block}
    {sourceRow sourceColumn : Nat} (within : block.Within display)
    (sourceWithin : (block.movedTo sourceRow sourceColumn).Within display)
    {row column : Nat} (member : (row, column) ∈ block.cells) (y x : Nat) :
    let source := display.blockRect (block.movedTo sourceRow sourceColumn)
    let target := display.blockRect block
    ((column * display.metrics.width + x : Nat) : Int) - (target.x - source.x) =
        ((sourceColumn + (column - block.column)) * display.metrics.width + x : Nat) ∧
      ((row * display.metrics.height + y : Nat) : Int) - (target.y - source.y) =
        ((sourceRow + (row - block.row)) * display.metrics.height + y : Nat) := by
  intro source target
  have source_eq : source = ⟨_, _, _, _⟩ :=
    Display.cellRect_eq fits sourceWithin.1 sourceWithin.2
  have target_eq : target = ⟨_, _, _, _⟩ := Display.cellRect_eq fits within.1 within.2
  have place := Block.mem_cells.mp member
  rw [source_eq, target_eq]
  exact ⟨moved_back place.2.1, moved_back place.1.1⟩

theorem Canvas.box_copy (fits : display.Fits canvas) {block : Block} {sourceRow sourceColumn : Nat}
    (within : block.Within display)
    (sourceWithin : (block.movedTo sourceRow sourceColumn).Within display) {row column : Nat}
    (inside : row < display.height ∧ column < display.width) :
    (canvas.copy (display.blockRect (block.movedTo sourceRow sourceColumn))
        (display.blockRect block).x (display.blockRect block).y).box display.metrics row column =
      if (row, column) ∈ block.cells then
        canvas.box display.metrics (sourceRow + (row - block.row))
          (sourceColumn + (column - block.column))
      else canvas.box display.metrics row column := by
  apply Grid.tabulate_eq_ite
  intro y yInside x xInside
  have moved := Display.contains_moved_back fits within sourceWithin row column yInside xInside
  rw [← pixel?_natCast, pixel?_copy _ _ _ _ (display.on_canvas fits inside yInside xInside)]
  by_cases covered : (row, column) ∈ block.cells
  · have place := Block.mem_cells.mp covered
    have sourceInside : sourceRow + (row - block.row) < display.height ∧
        sourceColumn + (column - block.column) < display.width := by
      have below : sourceRow + block.rows ≤ display.height := sourceWithin.1
      have inRow : sourceColumn + block.columns ≤ display.width := sourceWithin.2
      omega
    have on := display.on_canvas fits sourceInside yInside xInside
    obtain ⟨fromX, fromY⟩ := Display.moved_back_eq fits within sourceWithin covered y x
    have read := moved.mpr covered
    rw [fromX, fromY] at read ⊢
    rw [if_pos (mem_points.mpr ⟨read, on⟩), if_pos covered, pixel?_natCast]
  · rw [if_neg fun placed => covered (moved.mp (mem_points.mp placed).1), if_neg covered,
      pixel?_natCast]

structure TextRun.OnRow (run : TextRun) (display : Display) (row : Nat) : Prop where
  y_eq : run.y = (row * display.metrics.height : Nat)
  cellWidth_eq : run.cellWidth = display.metrics.width
  cellHeight_eq : run.cellHeight = display.metrics.height

theorem TextRun.boxOf_eq (fits : display.Fits canvas) {run : TextRun} {glyph : Glyph}
    {row column : Nat} (onRow : run.OnRow display row)
    (within : Block.Within ⟨row, column, glyph.columns.toNat, 1⟩ display) :
    run.boxOf (column * display.metrics.width : Nat) glyph =
      display.blockRect ⟨row, column, glyph.columns.toNat, 1⟩ := by
  rw [Display.blockRect, Display.cellRect_eq fits within.1 within.2, boxOf, onRow.y_eq,
    onRow.cellWidth_eq, onRow.cellHeight_eq, Nat.one_mul]

private theorem TextRun.contains_underlineOf (fits : display.Fits canvas) {run : TextRun}
    {glyph : Glyph} {start column : Nat} (onRow : run.OnRow display start)
    (within : start < display.height ∧ column + glyph.columns.toNat ≤ display.width)
    {row c y x : Nat} (yInside : y < display.metrics.height) (xInside : x < display.metrics.width) :
    (run.underlineOf (column * display.metrics.width : Nat) glyph).contains
        (c * display.metrics.width + x : Nat) (row * display.metrics.height + y : Nat) ↔
      (row = start ∧ column ≤ c ∧ c < column + glyph.columns.toNat) ∧
        y + 1 = display.metrics.height := by
  have lowest : start * display.metrics.height + (display.metrics.height - 1) =
      row * display.metrics.height + y ↔ start = row ∧ display.metrics.height - 1 = y := by
    constructor
    · intro same
      exact Grid.index_inj (by omega) yInside same
    · intro same
      rw [same.1, same.2]
  have left : column * display.metrics.width ≤ c * display.metrics.width + x ↔ column ≤ c :=
    le_mul_add_iff xInside
  have right : c * display.metrics.width + x <
      (column + glyph.columns.toNat) * display.metrics.width ↔
        c < column + glyph.columns.toNat := mul_add_lt_iff xInside
  have across : coordinate (glyph.columns.toNat * display.metrics.width : Nat) =
      (glyph.columns.toNat * display.metrics.width : Nat) :=
    coordinate_natCast (Display.columns_bounded fits (Nat.le_of_add_left_le within.2))
  have down : coordinate display.metrics.height = display.metrics.height := by
    have bounded := Display.rows_bounded fits (Nat.succ_le_of_lt (Nat.zero_lt_of_lt within.1))
    rw [Nat.succ_eq_add_one, Nat.zero_add, Nat.one_mul] at bounded
    exact coordinate_natCast bounded
  have one : coordinate (1 : Nat) = (1 : Nat) := by decide
  rw [Nat.add_mul] at right
  rw [Rect.contains_iff]
  simp only [underlineOf, boxOf, Rect.bottom, onRow.y_eq, onRow.cellWidth_eq,
    onRow.cellHeight_eq, across, down, one]
  -- The bounds of coordinates would slow the arithmetic down.
  clear across down one
  omega

private theorem Canvas.get?_drawGlyph (fits : display.Fits canvas) {run : TextRun} {glyph : Glyph}
    {start column : Nat} (onRow : run.OnRow display start) (wide : 0 < glyph.columns.toNat)
    (within : start < display.height ∧ column + glyph.columns.toNat ≤ display.width)
    {r c y x : Nat} (yInside : y < display.metrics.height) (xInside : x < display.metrics.width)
    (on : r * display.metrics.height + y < canvas.height ∧
      c * display.metrics.width + x < canvas.width) :
    (canvas.drawGlyph run (column * display.metrics.width : Nat) glyph).get?
        (r * display.metrics.height + y) (c * display.metrics.width + x) =
      if r = start ∧ column ≤ c ∧ c < column + glyph.columns.toNat then
        some (run.style.pixel glyph.char display.metrics.height y
          ((c - column) * display.metrics.width + x))
      else canvas.get? (r * display.metrics.height + y) (c * display.metrics.width + x) := by
  let block : Block := ⟨start, column, glyph.columns.toNat, 1⟩
  have blockWithin : block.Within display := within
  have boxOf : run.boxOf (column * display.metrics.width : Nat) glyph = display.blockRect block :=
    TextRun.boxOf_eq fits onRow blockWithin
  have boxed : (display.blockRect block).contains (c * display.metrics.width + x : Nat)
      (r * display.metrics.height + y : Nat) ↔
        r = start ∧ column ≤ c ∧ c < column + glyph.columns.toNat := by
    rw [Display.contains_blockRect fits blockWithin yInside xInside, Block.mem_cells]
    show (start ≤ r ∧ r < start + 1) ∧ column ≤ c ∧ c < column + glyph.columns.toNat ↔ _
    omega
  have small : coordinate (column * display.metrics.width : Nat) =
      (column * display.metrics.width : Nat) :=
    coordinate_natCast (Display.columns_bounded fits (Nat.le_of_add_right_le within.2))
  have origin : ((column * display.metrics.width : Nat) : Int) =
      (c * display.metrics.width + x : Nat) ∧ run.y = (r * display.metrics.height + y : Nat) ↔
        (column = c ∧ x = 0) ∧ start = r ∧ y = 0 := by
    rw [onRow.y_eq, Int.natCast_inj, Int.natCast_inj, mul_eq_mul_add_iff xInside,
      mul_eq_mul_add_iff yInside]
  have lined : (run.underlineOf (column * display.metrics.width : Nat) glyph).contains
      (c * display.metrics.width + x : Nat) (r * display.metrics.height + y : Nat) ↔
        (r = start ∧ column ≤ c ∧ c < column + glyph.columns.toNat) ∧
          y + 1 = display.metrics.height :=
    TextRun.contains_underlineOf fits onRow within yInside xInside
  rw [← pixel?_natCast, pixel?_drawGlyph _ _ _ small (by omega), boxOf]
  simp only [origin, lined, boxed]
  by_cases covered : r = start ∧ column ≤ c ∧ c < column + glyph.columns.toNat
  · have ink : ((column = c ∧ x = 0) ∧ start = r ∧ y = 0) ↔
        (c - column) * display.metrics.width + x = 0 ∧ y = 0 := by
      rw [Nat.add_eq_zero_iff, Nat.mul_eq_zero]
      omega
    have high : 0 < display.metrics.height := Nat.zero_lt_of_lt yInside
    simp only [ink, onRow.cellHeight_eq, high, decide_true, Bool.and_true, Style.pixel]
    rw [if_pos covered, if_pos covered]
    simp only [covered, and_self, true_and]
    split
    · rfl
    · split <;> rfl
  · have elsewhere : ¬ ((column = c ∧ x = 0) ∧ start = r ∧ y = 0) := by
      omega
    rw [if_neg fun all => elsewhere all.1, if_neg fun all => covered all.2.1, if_neg covered,
      if_neg covered, pixel?_natCast]

theorem Canvas.box_drawGlyph (fits : display.Fits canvas) {run : TextRun} {glyph : Glyph}
    {start column r : Nat} (onRow : run.OnRow display start) (wide : 0 < glyph.columns.toNat)
    (within : start < display.height ∧ column + glyph.columns.toNat ≤ display.width)
    {c : Nat} :
    (canvas.drawGlyph run (column * display.metrics.width : Nat) glyph).box display.metrics r c =
      if r = start ∧ column ≤ c ∧ c < column + glyph.columns.toNat then
        run.style.picture glyph.char display.metrics (c - column)
      else canvas.box display.metrics r c := by
  apply Grid.tabulate_eq_ite
  intro y yInside x xInside
  by_cases on : r * display.metrics.height + y < canvas.height ∧
      c * display.metrics.width + x < canvas.width
  · exact get?_drawGlyph fits onRow wide within yInside xInside on
  -- All pixels of the grid are on the canvas.
  · have beyond : ¬ (r = start ∧ column ≤ c ∧ c < column + glyph.columns.toNat) := by
      rintro ⟨rfl, after, before⟩
      have inside : r < display.height ∧ c < display.width := by omega
      have onCanvas := display.on_canvas fits inside yInside xInside
      omega
    rw [if_neg beyond, (Grid.get?_eq_none_iff ..).mpr on, Grid.get?_eq_none_iff,
      height_drawGlyph, width_drawGlyph]
    exact on

end
end CellScreen
