import CellScreen.Proofs.Coverage
import CellScreen.Proofs.Runs

/-! What the text of a flush covers. The runs of a row are spelled out cell by cell: every glyph has
the box of the cells that it is drawn over, and every cell that waits to be set is in one box. A
right half that waits on its own is in none. -/
namespace CellScreen
namespace Display

variable {display : Display} {canvas : Canvas} {cells : Grid Cell} {slots : Grid Slot}

inductive Lettered (cells : Grid Cell) (slots : Grid Slot) (row : Nat) : Nat → List Glyph → Prop
  | nil (column : Nat) : Lettered cells slots row column []
  | cons {column : Nat} {cell : Cell} {glyphs : List Glyph}
      (waits : slots.get? row column = some (.set cell)) (leads : ¬ cell.isContinuation)
      (rest : Lettered cells slots row (column + drawnColumns cells row column cell) glyphs) :
      Lettered cells slots row column
        (⟨cell.drawnChar, .ofNat (drawnColumns cells row column cell)⟩ :: glyphs)

private theorem lettered_glyphsFrom (cells : Grid Cell) (slots : Grid Slot) (row : Nat)
    (attributes : Attributes) (limit column : Nat) :
    Lettered cells slots row column (glyphsFrom cells slots row attributes limit column) := by
  induction limit generalizing column with
  | zero => exact .nil column
  | succ limit ih =>
    unfold glyphsFrom
    split
    · next cell waits =>
      split
      · exact .nil column
      · next alike =>
        rw [Bool.or_eq_true, not_or] at alike
        exact .cons waits alike.1 (ih _)
    · exact .nil column

theorem Lettered.mono {other : Grid Slot} {row column : Nat} {glyphs : List Glyph}
    (lettered : Lettered cells slots row column glyphs)
    (sets : ∀ {column : Nat} {cell : Cell}, slots.get? row column = some (.set cell) →
      other.get? row column = some (.set cell)) : Lettered cells other row column glyphs := by
  induction lettered with
  | nil column => exact .nil column
  | cons waits leads rest ih => exact .cons (sets waits) leads ih

def columnsOf (glyphs : List Glyph) : Nat := (glyphs.map (·.columns.toNat)).sum

private theorem Lettered.columns_le {row column : Nat} {glyphs : List Glyph}
    (lettered : Lettered cells slots row column glyphs) (prepared : display.Prepared cells slots)
    (inRow : column ≤ display.width) : column + columnsOf glyphs ≤ display.width := by
  induction lettered with
  | nil column => exact inRow
  | @cons column cell glyphs waits leads rest ih =>
    have later := ih (drawn_within prepared waits).2
    rwa [columnsOf, List.map_cons, List.sum_cons, toNat_drawnColumns, ← Nat.add_assoc]

private theorem Lettered.waits {row column c : Nat} {glyphs : List Glyph}
    (lettered : Lettered cells slots row column glyphs)
    (whole : (cells.get? row c).all (!·.isContinuation)) (after : column ≤ c)
    (before : c < column + columnsOf glyphs) : (slots.get? row c).any (·.isSet) := by
  induction lettered with
  | nil column =>
    simp [columnsOf] at before
    omega
  | @cons column cell glyphs waits leads rest ih =>
    by_cases here : column = c
    · rw [← here, waits]
      rfl
    · have beyond := drawnColumns_le cell (Nat.lt_of_le_of_ne after here) whole
      rw [columnsOf, List.map_cons, List.sum_cons, toNat_drawnColumns, ← Nat.add_assoc] at before
      exact ih beyond before

private theorem Lettered.boxes {row column : Nat} {glyphs : List Glyph}
    (lettered : Lettered cells slots row column glyphs) (fits : display.Fits canvas)
    (prepared : display.Prepared cells slots) {run : TextRun} (onRow : run.OnRow display row) :
    let boxes := run.boxesFrom (column * display.metrics.width : Nat) glyphs
    (∀ rect ∈ boxes, display.IsBlock rect) ∧
    ∀ {r c : Nat}, (cells.get? r c).all (!·.isContinuation) → display.hits boxes r c =
      if r = row ∧ column ≤ c ∧ c < column + columnsOf glyphs then 1 else 0 := by
  induction lettered with
  | nil column =>
    refine ⟨nofun, fun whole => ?_⟩
    rw [if_neg]
    · rfl
    · rintro ⟨-, after, before⟩
      exact Nat.not_lt.mpr after before
  | @cons column cell glyphs waits leads rest ih =>
    let glyph : Glyph := ⟨cell.drawnChar, .ofNat (drawnColumns cells row column cell)⟩
    have columns : glyph.columns.toNat = drawnColumns cells row column cell :=
      toNat_drawnColumns cells row column cell
    have within : Block.Within ⟨row, column, glyph.columns.toNat, 1⟩ display := by
      rw [columns]
      exact drawn_within prepared waits
    have box : run.boxOf (column * display.metrics.width : Nat) glyph =
        display.blockRect ⟨row, column, glyph.columns.toNat, 1⟩ :=
      TextRun.boxOf_eq fits onRow within
    have along : ((column * display.metrics.width : Nat) : Int) +
        (glyph.columns.toNat * run.cellWidth : Nat) =
          ((column + drawnColumns cells row column cell) * display.metrics.width : Nat) := by
      rw [columns, onRow.cellWidth_eq, Nat.add_mul, Int.natCast_add]
    rw [TextRun.boxesFrom, box, along]
    refine ⟨?_, fun {r c} whole => ?_⟩
    · intro rect member
      rcases List.mem_cons.mp member with rfl | later
      · exact ⟨_, within, rfl⟩
      · exact ih.1 rect later
    · rw [← List.singleton_append, hits_append, hits_blockRect fits within, ih.2 whole]
      have covered : columnsOf (glyph :: glyphs) =
          drawnColumns cells row column cell + columnsOf glyphs := by
        rw [columnsOf, List.map_cons, List.sum_cons, columns]
        rfl
      -- A whole cell to the right of the first glyph is not under its second column.
      have beyond (here : r = row) (after : column < c) :
          column + drawnColumns cells row column cell ≤ c :=
        drawnColumns_le cell after (here ▸ whole)
      have positive := one_le_drawnColumns cells row column cell
      rw [covered]
      simp only [Block.mem_cells, columns]
      generalize drawnColumns cells row column cell = drawn at beyond positive ⊢
      by_cases first : r = row ∧ column = c
      · rw [if_pos (by omega), if_neg (by omega), if_pos (by omega)]
      · rw [if_neg (by omega), Nat.zero_add]
        have same : (r = row ∧ column + drawn ≤ c ∧ c < column + drawn + columnsOf glyphs) ↔
            (r = row ∧ column ≤ c ∧ c < column + (drawn + columnsOf glyphs)) := by omega
        simp only [same]

structure Starts (display : Display) (cells : Grid Cell) (slots : Grid Slot) (row column : Nat)
    (run : TextRun) : Prop where
  onRow : run.OnRow display row
  x_eq : run.x = (column * display.metrics.width : Nat)
  lettered : Lettered cells slots row column run.glyphs

inductive Spelled (display : Display) (cells : Grid Cell) (slots : Grid Slot) (row : Nat) :
    Nat → List TextRun → Prop
  | finished {column : Nat} (beyond : display.width ≤ column) :
      Spelled display cells slots row column []
  | passed {column : Nat} {runs : List TextRun}
      (idle : (cells.get? row column).all (!·.isContinuation) →
        ¬ (slots.get? row column).any (·.isSet))
      (rest : Spelled display cells slots row (column + 1) runs) :
      Spelled display cells slots row column runs
  | started {column : Nat} {run : TextRun} {runs : List TextRun}
      (starts : Starts display cells slots row column run) (some : 1 ≤ run.columns)
      (place : row < display.height ∧ column < display.width)
      (rest : Spelled display cells slots row (column + run.columns) runs) :
      Spelled display cells slots row column (run :: runs)

private theorem spelled_runsFrom (fits : display.Fits canvas)
    (prepared : display.Prepared cells slots)
    {row limit column : Nat} (enough : display.width ≤ column + limit) :
    Spelled display cells slots row column (display.runsFrom cells slots row limit column) := by
  induction limit generalizing column with
  | zero => exact .finished enough
  | succ limit ih =>
    unfold runsFrom
    split
    · next cell waits =>
      split
      · next continues =>
        refine .passed (fun whole => ?_) (ih (by omega))
        rw [prepared.settled waits] at whole
        simp [continues] at whole
      · next leads =>
        have place := Grid.inside_of_get? waits
        have some : 1 ≤ columnsOf (glyphsFrom cells slots row cell.attributes slots.width column) :=
          one_le_sum_glyphsFrom waits leads (Nat.zero_lt_of_lt place.2)
        have further : display.width ≤ column +
            columnsOf (glyphsFrom cells slots row cell.attributes slots.width column) + limit := by
          omega
        rw [prepared.height_eq, prepared.width_eq] at place
        have corner := cellRect_origin fits place
        dsimp only
        generalize display.cellRect row column 0 0 = origin at corner ⊢
        have lettered := lettered_glyphsFrom cells slots row cell.attributes slots.width column
        exact .started ⟨⟨corner.2, rfl, rfl⟩, corner.1, lettered⟩ some place (ih further)
    · next absent =>
      refine .passed (fun whole waits => ?_) (ih (by omega))
      obtain ⟨slot, found, isSet⟩ := (Option.any_eq_true ..).mp waits
      cases slot with
      | set cell => exact absent cell found
      | unchanged => cases isSet
      | copy sourceRow sourceColumn => cases isSet

private theorem spelled_row (fits : display.Fits canvas) (prepared : display.Prepared cells slots)
    (row : Nat) :
    Spelled display cells slots row 0 (display.runsFrom cells slots row slots.width 0) := by
  have enough : 0 + slots.width = display.width := by
    rw [Nat.zero_add, prepared.width_eq]
  exact spelled_runsFrom fits prepared (Nat.le_of_eq enough.symm)

private theorem Starts.bounds_eq {row column : Nat} {run : TextRun}
    (starts : Starts display cells slots row column run) (fits : display.Fits canvas)
    (prepared : display.Prepared cells slots)
    (place : row < display.height ∧ column < display.width) : display.IsBlock run.bounds := by
  have within : Block.Within ⟨row, column, run.columns, 1⟩ display :=
    ⟨place.1, starts.lettered.columns_le prepared (Nat.le_of_lt place.2)⟩
  refine ⟨⟨row, column, run.columns, 1⟩, within, ?_⟩
  rw [blockRect, cellRect_eq fits within.1 within.2, TextRun.bounds, starts.x_eq,
    starts.onRow.y_eq, starts.onRow.cellWidth_eq, starts.onRow.cellHeight_eq, Nat.one_mul]

private theorem Spelled.exists_starts {row column : Nat} {runs : List TextRun}
    (spelled : Spelled display cells slots row column runs) : ∀ run ∈ runs, ∃ column,
      Starts display cells slots row column run ∧
        row < display.height ∧ column < display.width := by
  induction spelled with
  | finished beyond => exact nofun
  | passed idle rest ih => exact ih
  | started starts some place rest ih =>
    intro run member
    rcases List.mem_cons.mp member with rfl | later
    · exact ⟨_, starts, place⟩
    · exact ih run later

/-- The runs of a row draw every cell that waits to be set once, and draw over no other. -/
theorem Spelled.boxes {row column : Nat} {runs : List TextRun}
    (spelled : Spelled display cells slots row column runs) (fits : display.Fits canvas)
    (prepared : display.Prepared cells slots) :
    (∀ rect ∈ runs.flatMap TextRun.boxes, display.IsBlock rect) ∧
    ∀ {r c : Nat}, (cells.get? r c).all (!·.isContinuation) →
      display.hits (runs.flatMap TextRun.boxes) r c =
        if (r = row ∧ column ≤ c) ∧ (slots.get? r c).any (·.isSet) then 1 else 0 := by
  induction spelled with
  | @finished column beyond =>
    refine ⟨nofun, fun {r c} whole => (if_neg ?_).symm⟩
    rintro ⟨⟨-, after⟩, waits⟩
    obtain ⟨slot, found, -⟩ := (Option.any_eq_true ..).mp waits
    have inside := (Grid.inside_of_get? found).2
    rw [prepared.width_eq] at inside
    omega
  | @passed column runs idle rest ih =>
    refine ⟨ih.1, fun {r c} whole => ?_⟩
    rw [ih.2 whole]
    by_cases here : r = row ∧ c = column
    · obtain ⟨rfl, rfl⟩ := here
      rw [if_neg (by omega), if_neg fun all => idle whole all.2]
    · have same : (r = row ∧ column + 1 ≤ c) ↔ (r = row ∧ column ≤ c) := by omega
      simp only [same]
  | @started column run runs starts some place rest ih =>
    obtain ⟨blocks, drawn⟩ := starts.lettered.boxes fits prepared starts.onRow
    rw [← starts.x_eq] at blocks drawn
    rw [List.flatMap_cons]
    refine ⟨fun rect member => ?_, fun {r c} whole => ?_⟩
    · rcases List.mem_append.mp member with now | later
      · exact blocks rect now
      · exact ih.1 rect later
    · have first : display.hits run.boxes r c =
          if r = row ∧ column ≤ c ∧ c < column + run.columns then 1 else 0 := drawn whole
      rw [hits_append, first, ih.2 whole]
      -- The other runs start behind what the first one covers.
      by_cases covered : r = row ∧ column ≤ c ∧ c < column + run.columns
      · obtain ⟨rfl, after, before⟩ := covered
        have waits := starts.lettered.waits whole after before
        rw [if_pos ⟨rfl, after, before⟩, if_neg (by omega), if_pos ⟨⟨rfl, after⟩, waits⟩]
      · have same : (r = row ∧ column + run.columns ≤ c) ↔ (r = row ∧ column ≤ c) := by omega
        simp only [if_neg covered, Nat.zero_add, same]

private theorem hits_rows (fits : display.Fits canvas) (prepared : display.Prepared cells slots)
    {rows : List Nat} (distinct : rows.Nodup) {r c : Nat}
    (whole : (cells.get? r c).all (!·.isContinuation)) :
    display.hits ((rows.flatMap fun row => display.runsFrom cells slots row slots.width 0).flatMap
        TextRun.boxes) r c = if r ∈ rows ∧ (slots.get? r c).any (·.isSet) then 1 else 0 := by
  induction rows with
  | nil => rfl
  | cons row rows ih =>
    obtain ⟨fresh, distinct⟩ := List.nodup_cons.mp distinct
    have drawn := ((spelled_row fits prepared row).boxes fits prepared).2 whole
    rw [List.flatMap_cons, List.flatMap_append, hits_append, drawn, ih distinct]
    simp only [List.mem_cons, Nat.zero_le, and_true]
    by_cases here : r = row
    · subst here
      simp [fresh]
    · simp [here]

/-- The text draws every cell that waits to be set once, and draws over no other. -/
theorem boxes_textPass (fits : display.Fits canvas) (prepared : display.Prepared cells slots) :
    let boxes := (display.textPass cells slots).flatMap TextRun.boxes
    (∀ rect ∈ boxes, display.IsBlock rect) ∧
    ∀ {r c : Nat}, (cells.get? r c).all (!·.isContinuation) →
      display.hits boxes r c = if (slots.get? r c).any (·.isSet) then 1 else 0 := by
  intro boxes
  refine ⟨fun rect member => ?_, fun {r c} whole => ?_⟩
  · obtain ⟨run, drawn, inRun⟩ := List.mem_flatMap.mp member
    obtain ⟨row, -, inRow⟩ := List.mem_flatMap.mp drawn
    exact ((spelled_row fits prepared row).boxes fits prepared).1 rect
      (List.mem_flatMap.mpr ⟨run, inRow, inRun⟩)
  · have drawn : display.hits boxes r c = _ := hits_rows fits prepared List.nodup_range whole
    rw [drawn]
    by_cases waits : (slots.get? r c).any (·.isSet)
    · obtain ⟨slot, found, -⟩ := (Option.any_eq_true ..).mp waits
      have member : r ∈ List.range slots.height :=
        List.mem_range.mpr (Grid.inside_of_get? found).1
      rw [if_pos ⟨member, waits⟩, if_pos waits]
    · rw [if_neg fun all => waits all.2, if_neg waits]

theorem starts_textPass (fits : display.Fits canvas) (prepared : display.Prepared cells slots) :
    ∀ run ∈ display.textPass cells slots, ∃ row column,
      Starts display cells slots row column run ∧
        row < display.height ∧ column < display.width := by
  intro run member
  obtain ⟨row, -, inRow⟩ := List.mem_flatMap.mp member
  exact ⟨row, (spelled_row fits prepared row).exists_starts run inRow⟩

theorem bounds_textPass (fits : display.Fits canvas) (prepared : display.Prepared cells slots) :
    ∀ run ∈ display.textPass cells slots, display.IsBlock run.bounds := by
  intro run member
  obtain ⟨row, column, starts, place⟩ := starts_textPass fits prepared run member
  exact starts.bounds_eq fits prepared place

end Display
end CellScreen
