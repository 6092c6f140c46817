import CellScreen.Proofs.Box

/-! The text of a flush. Runs cover the cells that wait to be set, each from its own column, and
draw over the right half of a wide character only with its left half. What they do is stated for
one column of a character at a time: that of its own cell, or that of the right half beside it. -/
namespace CellScreen

namespace Canvas

@[simp] theorem width_drawGlyphs (canvas : Canvas) (run : TextRun) (x : Int)
    (glyphs : List Glyph) : (canvas.drawGlyphs run x glyphs).width = canvas.width := by
  induction glyphs generalizing canvas x with
  | nil => rfl
  | cons glyph glyphs ih => rw [drawGlyphs, ih, width_drawGlyph]

@[simp] theorem height_drawGlyphs (canvas : Canvas) (run : TextRun) (x : Int)
    (glyphs : List Glyph) : (canvas.drawGlyphs run x glyphs).height = canvas.height := by
  induction glyphs generalizing canvas x with
  | nil => rfl
  | cons glyph glyphs ih => rw [drawGlyphs, ih, height_drawGlyph]

@[simp] theorem width_draw (canvas : Canvas) (run : TextRun) :
    (canvas.draw run).width = canvas.width := by
  rw [draw, width_drawGlyphs]

@[simp] theorem height_draw (canvas : Canvas) (run : TextRun) :
    (canvas.draw run).height = canvas.height := by
  rw [draw, height_drawGlyphs]

end Canvas

namespace Display

structure Prepared (display : Display) (cells : Grid Cell) (slots : Grid Slot) : Prop where
  width_eq : slots.width = display.width
  height_eq : slots.height = display.height
  cellsWidth_eq : cells.width = display.width
  settled : ∀ {row column : Nat} {cell : Cell}, slots.get? row column = some (.set cell) →
    cells.get? row column = some cell

def textBox (display : Display) (slots : Grid Slot) (canvas : Canvas) (row column : Nat) :
    Grid (Option Pixel) :=
  match slots.get? row column with
  | some (.set cell) => display.drawing cell
  | _ => canvas.box display.metrics row column

def partBox (display : Display) (cells : Grid Cell) (slots : Grid Slot) (canvas : Canvas)
    (row column part : Nat) : Grid (Option Pixel) :=
  match slots.get? row column with
  | some (.set cell) =>
    if cell.isContinuation = false ∧ part < drawnColumns cells row column cell then
      (display.glyphStyle cell.attributes).picture cell.drawnChar display.metrics part
    else canvas.box display.metrics row (column + part)
  | _ => canvas.box display.metrics row (column + part)

/-- Whether no character but the one that starts at a place can be drawn over a column of it: its
own one if that is no right half beside another cell, or the right half beside it. -/
def IsPart (cells : Grid Cell) (row column : Nat) : Nat → Prop
  | 0 => column = 0 ∨ (cells.get? row column).all (!·.isContinuation)
  | 1 => (cells.get? row (column + 1)).any (·.isContinuation)
  | _ => False

private theorem partBox_congr {display : Display} {cells : Grid Cell} {slots : Grid Slot}
    {canvas other : Canvas} {row column part : Nat}
    (same : other.box display.metrics row (column + part) =
      canvas.box display.metrics row (column + part)) :
    display.partBox cells slots other row column part =
      display.partBox cells slots canvas row column part := by
  unfold partBox
  split
  · rw [same]
  · exact same

private theorem partBox_again {display : Display} {cells : Grid Cell} {slots : Grid Slot}
    {canvas other : Canvas} {row column part : Nat}
    (same : other.box display.metrics row (column + part) =
      display.partBox cells slots canvas row column part) :
    display.partBox cells slots other row column part =
      display.partBox cells slots canvas row column part := by
  unfold partBox at same ⊢
  split
  · next cell waits =>
    rw [waits] at same
    split
    · rfl
    · next beyond =>
      dsimp only at same
      rwa [if_neg beyond] at same
  · next absent =>
    rw [same]
    split
    · next cell waits => exact absurd waits (absent cell)
    · rfl

private theorem drawnColumns_cases (cells : Grid Cell) (row column : Nat) (cell : Cell) :
    drawnColumns cells row column cell = 1 ∨ drawnColumns cells row column cell = 2 ∧
      ∃ right, cells.get? row (column + 1) = some right ∧ right.isContinuation := by
  unfold drawnColumns
  split
  · next wide =>
    rw [Bool.and_eq_true, Option.any_eq_true] at wide
    exact .inr ⟨rfl, wide.2⟩
  · exact .inl rfl

theorem toNat_drawnColumns (cells : Grid Cell) (row column : Nat) (cell : Cell) :
    (UInt8.ofNat (drawnColumns cells row column cell)).toNat =
      drawnColumns cells row column cell := by
  cases drawnColumns_cases cells row column cell with
  | inl one => rw [one]; rfl
  | inr two => rw [two.1]; rfl

theorem one_le_drawnColumns (cells : Grid Cell) (row column : Nat) (cell : Cell) :
    1 ≤ drawnColumns cells row column cell := by
  cases drawnColumns_cases cells row column cell with
  | inl one => omega
  | inr two => omega

theorem drawnColumns_le {cells : Grid Cell} {row column c : Nat} (cell : Cell) (after : column < c)
    (whole : (cells.get? row c).all (!·.isContinuation)) :
    column + drawnColumns cells row column cell ≤ c := by
  cases drawnColumns_cases cells row column cell with
  | inl one => omega
  | inr two =>
    obtain ⟨two, right, found, continues⟩ := two
    have beyond : c ≠ column + 1 := fun next => by
      rw [next, found] at whole
      simp [continues] at whole
    omega

variable {display : Display} {canvas : Canvas} {cells : Grid Cell} {slots : Grid Slot}

private theorem partBox_zero (prepared : display.Prepared cells slots) {row column : Nat}
    (whole : (cells.get? row column).all (!·.isContinuation)) :
    display.partBox cells slots canvas row column 0 = display.textBox slots canvas row column := by
  unfold partBox textBox
  split
  · next cell waits =>
    rw [prepared.settled waits] at whole
    have leads : cell.isContinuation = false := by simpa using whole
    exact if_pos ⟨leads, one_le_drawnColumns ..⟩
  · rfl

theorem partBox_of_continuation (prepared : display.Prepared cells slots) {row column part : Nat}
    (continues : (cells.get? row column).any (·.isContinuation)) :
    display.partBox cells slots canvas row column part =
      canvas.box display.metrics row (column + part) := by
  unfold partBox
  split
  · next cell waits =>
    rw [prepared.settled waits] at continues
    have alone : cell.isContinuation = true := continues
    exact if_neg fun drawn => Bool.false_ne_true (drawn.1.symm.trans alone)
  · rfl

private theorem partBox_of_absent {row column part : Nat} (absent : slots.get? row column = none) :
    display.partBox cells slots canvas row column part =
      canvas.box display.metrics row (column + part) := by
  rw [partBox, absent]

private theorem apart_of_isPart (prepared : display.Prepared cells slots) {row column c part : Nat}
    {cell : Cell} (waits : slots.get? row column = some (.set cell))
    (leads : ¬ cell.isContinuation) (isPart : IsPart cells row c part) (other : c ≠ column) :
    ¬ (column ≤ c + part ∧ c + part < column + drawnColumns cells row column cell) := by
  match part with
  | 0 =>
    rintro ⟨after, before⟩
    have right : column < c := Nat.lt_of_le_of_ne after (Ne.symm other)
    cases isPart with
    | inl first => omega
    | inr whole =>
      have beyond := drawnColumns_le cell right whole
      omega
  | 1 =>
    have own : column ≠ c + 1 := by
      rintro rfl
      change (cells.get? row (c + 1)).any (·.isContinuation) = true at isPart
      rw [prepared.settled waits] at isPart
      exact leads isPart
    cases drawnColumns_cases cells row column cell with
    | inl one => omega
    | inr two => omega

theorem drawn_within (prepared : display.Prepared cells slots) {row column : Nat} {cell : Cell}
    (waits : slots.get? row column = some (.set cell)) :
    row < display.height ∧ column + drawnColumns cells row column cell ≤ display.width := by
  have place := Grid.inside_of_get? waits
  rw [prepared.width_eq, prepared.height_eq] at place
  refine ⟨place.1, ?_⟩
  cases drawnColumns_cases cells row column cell with
  | inl one => omega
  | inr two =>
    obtain ⟨two, right, found, -⟩ := two
    have next := (Grid.inside_of_get? found).2
    rw [prepared.cellsWidth_eq] at next
    omega

private theorem box_drawCell (fits : display.Fits canvas) (prepared : display.Prepared cells slots)
    {run : TextRun} {row column : Nat} {cell : Cell} (onRow : run.OnRow display row)
    (styled : run.style = display.glyphStyle cell.attributes)
    (waits : slots.get? row column = some (.set cell)) (leads : ¬ cell.isContinuation)
    {r c part : Nat} (isPart : IsPart cells r c part) :
    (canvas.drawGlyph run (column * display.metrics.width : Nat)
        ⟨cell.drawnChar, .ofNat (drawnColumns cells row column cell)⟩).box display.metrics r
          (c + part) =
      if r = row ∧ c = column then display.partBox cells slots canvas r c part
      else canvas.box display.metrics r (c + part) := by
  have columns := toNat_drawnColumns cells row column cell
  have within : row < display.height ∧
      column + (UInt8.ofNat (drawnColumns cells row column cell)).toNat ≤ display.width := by
    rw [columns]
    exact drawn_within prepared waits
  have wide : 0 < (UInt8.ofNat (drawnColumns cells row column cell)).toNat := by
    rw [columns]
    exact one_le_drawnColumns cells row column cell
  rw [Canvas.box_drawGlyph fits onRow wide within, columns]
  by_cases here : r = row ∧ c = column
  · obtain ⟨rfl, rfl⟩ := here
    rw [partBox, waits, Nat.add_sub_cancel_left, styled]
    simp only [Nat.le_add_right, Nat.add_lt_add_iff_left, Bool.eq_false_iff.mpr leads,
      and_self, true_and, if_true]
  · rw [if_neg here, if_neg]
    rintro ⟨rfl, covered⟩
    exact apart_of_isPart prepared waits leads isPart (fun same => here ⟨rfl, same⟩) covered

private theorem box_drawGlyphs (fits : display.Fits canvas)
    (prepared : display.Prepared cells slots)
    {run : TextRun} {row : Nat} {attributes : Attributes} (onRow : run.OnRow display row)
    (styled : run.style = display.glyphStyle attributes) (limit column : Nat) {r c part : Nat}
    (isPart : IsPart cells r c part) :
    (canvas.drawGlyphs run (column * display.metrics.width : Nat)
        (glyphsFrom cells slots row attributes limit column)).box display.metrics r (c + part) =
      if r = row ∧ column ≤ c ∧ c < column +
          ((glyphsFrom cells slots row attributes limit column).map (·.columns.toNat)).sum
      then display.partBox cells slots canvas r c part
      else canvas.box display.metrics r (c + part) := by
  have nothing (canvas : Canvas) (column : Nat) :
      (canvas.drawGlyphs run (column * display.metrics.width : Nat) []).box display.metrics r
          (c + part) =
        if r = row ∧ column ≤ c ∧ c < column + (([] : List Glyph).map (·.columns.toNat)).sum
        then display.partBox cells slots canvas r c part
        else canvas.box display.metrics r (c + part) :=
    (if_neg fun covered => Nat.not_lt.mpr covered.2.1 covered.2.2).symm
  -- The first glyph shows its own cell, the others show those after it.
  induction limit generalizing column canvas with
  | zero => exact nothing canvas column
  | succ limit ih =>
    unfold glyphsFrom
    split
    · next cell waits =>
      split
      · exact nothing canvas column
      · next alike =>
        rw [Bool.or_eq_true, not_or, bne_iff_ne, Decidable.not_not] at alike
        obtain ⟨leads, rfl⟩ := alike
        have first := box_drawCell fits prepared onRow styled waits leads isPart
        have columns := toNat_drawnColumns cells row column cell
        have positive := one_le_drawnColumns cells row column cell
        -- A right half that the first glyph covers starts no glyph.
        have covered : r = row ∧ column < c ∧ c < column + drawnColumns cells row column cell →
            display.partBox cells slots canvas r c part =
              canvas.box display.metrics r (c + part) := by
          rintro ⟨rfl, after, before⟩
          apply partBox_of_continuation prepared
          cases drawnColumns_cases cells r column cell with
          | inl one => omega
          | inr two =>
            obtain ⟨two, right, found, continues⟩ := two
            have next : c = column + 1 := by omega
            rw [next, found]
            exact continues
        generalize drawnColumns cells row column cell = drawn at first columns positive covered ⊢
        have along : ((column * display.metrics.width : Nat) : Int) +
            ((UInt8.ofNat drawn).toNat * run.cellWidth : Nat) =
              ((column + drawn) * display.metrics.width : Nat) := by
          rw [columns, onRow.cellWidth_eq, Nat.add_mul, Int.natCast_add]
        rw [Canvas.drawGlyphs, along, ih (fits.of_size (by simp) (by simp)), List.map_cons,
          List.sum_cons, columns]
        by_cases here : r = row ∧ c = column
        · rw [if_pos here] at first
          obtain ⟨rfl, rfl⟩ := here
          rw [if_neg (by omega), if_pos (by omega), first]
        · rw [if_neg here] at first
          rw [partBox_congr first, first]
          by_cases inFirst : r = row ∧ column < c ∧ c < column + drawn
          · rw [if_neg (by omega), if_pos (by omega), covered inFirst]
          · have same : (r = row ∧ column + drawn ≤ c ∧ c < column + drawn +
                ((glyphsFrom cells slots row cell.attributes limit
                  (column + drawn)).map (·.columns.toNat)).sum) ↔
                (r = row ∧ column ≤ c ∧ c < column + (drawn + ((glyphsFrom cells slots row
                  cell.attributes limit (column + drawn)).map (·.columns.toNat)).sum)) := by
              omega
            simp only [same]
    · exact nothing canvas column

private theorem box_draw (fits : display.Fits canvas) (prepared : display.Prepared cells slots)
    {run : TextRun} {row limit column : Nat} {attributes : Attributes}
    (onRow : run.OnRow display row) (x_eq : run.x = (column * display.metrics.width : Nat))
    (styled : run.style = display.glyphStyle attributes)
    (glyphs_eq : run.glyphs = glyphsFrom cells slots row attributes limit column) {r c part : Nat}
    (isPart : IsPart cells r c part) :
    (canvas.draw run).box display.metrics r (c + part) =
      if r = row ∧ column ≤ c ∧ c < column + run.columns then
        display.partBox cells slots canvas r c part
      else canvas.box display.metrics r (c + part) := by
  rw [Canvas.draw, x_eq, TextRun.columns, glyphs_eq]
  exact box_drawGlyphs fits prepared onRow styled limit column isPart

theorem cellRect_origin (fits : display.Fits canvas) {row column : Nat}
    (place : row < display.height ∧ column < display.width) :
    (display.cellRect row column 0 0).x = (column * display.metrics.width : Nat) ∧
      (display.cellRect row column 0 0).y = (row * display.metrics.height : Nat) := by
  rw [cellRect_eq fits (Nat.le_of_lt place.1) (Nat.le_of_lt place.2)]
  exact ⟨rfl, rfl⟩

theorem one_le_sum_glyphsFrom {row column limit : Nat} {cell : Cell}
    (waits : slots.get? row column = some (.set cell)) (leads : ¬ cell.isContinuation)
    (some : 0 < limit) :
    1 ≤ ((glyphsFrom cells slots row cell.attributes limit column).map (·.columns.toNat)).sum := by
  obtain ⟨limit, rfl⟩ := Nat.exists_eq_add_of_lt some
  rw [Nat.zero_add, glyphsFrom, waits]
  have alike : (cell.isContinuation || cell.attributes != cell.attributes) = false := by
    simp [leads]
  simp only [alike, Bool.false_eq_true, if_false, List.map_cons, List.sum_cons, toNat_drawnColumns]
  exact Nat.le_add_right_of_le (one_le_drawnColumns ..)

/-- The runs of a row show every cell from a column on. -/
theorem box_runsFrom (fits : display.Fits canvas) (prepared : display.Prepared cells slots)
    {row limit column : Nat} (enough : display.width ≤ column + limit) {r c part : Nat}
    (isPart : IsPart cells r c part) :
    ((display.runsFrom cells slots row limit column).foldl Canvas.draw canvas).box
        display.metrics r (c + part) =
      if r = row ∧ column ≤ c then display.partBox cells slots canvas r c part
      else canvas.box display.metrics r (c + part) := by
  induction limit generalizing column canvas with
  | zero =>
    rw [runsFrom, List.foldl_nil]
    split
    · next beyond =>
      have absent : slots.get? r c = none := by
        rw [Grid.get?_eq_none_iff, prepared.width_eq]
        omega
      exact (partBox_of_absent absent).symm
    · rfl
  | succ limit ih =>
    unfold runsFrom
    split
    · next cell waits =>
      split
      -- A right half on its own starts no run and is drawn by none.
      · next continues =>
        rw [ih fits (by omega)]
        by_cases here : r = row ∧ c = column
        · obtain ⟨rfl, rfl⟩ := here
          have alone : (cells.get? r c).any (·.isContinuation) := by
            rw [prepared.settled waits]
            exact continues
          rw [if_neg (by omega), if_pos ⟨rfl, Nat.le_refl _⟩,
            partBox_of_continuation prepared alone]
        · have same : (r = row ∧ column + 1 ≤ c) ↔ (r = row ∧ column ≤ c) := by omega
          simp only [same]
      · next leads =>
        have place := Grid.inside_of_get? waits
        -- The next run starts where this one ends, which is to the right of its start.
        let glyphs := glyphsFrom cells slots row cell.attributes slots.width column
        have some : 1 ≤ (glyphs.map (·.columns.toNat)).sum :=
          one_le_sum_glyphsFrom waits leads (Nat.zero_lt_of_lt place.2)
        have further : display.width ≤ column + (glyphs.map (·.columns.toNat)).sum + limit := by
          omega
        rw [prepared.height_eq, prepared.width_eq] at place
        have corner := cellRect_origin fits place
        dsimp only
        generalize display.cellRect row column 0 0 = origin at corner ⊢
        let run : TextRun := {
          x := origin.x
          y := origin.y
          cellWidth := display.metrics.width
          cellHeight := display.metrics.height
          glyphs
          style := display.glyphStyle cell.attributes }
        have onRow : run.OnRow display row := ⟨corner.2, rfl, rfl⟩
        have drawn := box_draw fits prepared onRow corner.1 rfl rfl isPart
        have stillFits : display.Fits (canvas.draw run) :=
          fits.of_size (Canvas.width_draw ..) (Canvas.height_draw ..)
        have enough : display.width ≤ column + run.columns + limit := further
        have columns : 1 ≤ run.columns := some
        rw [List.foldl_cons, ih stillFits enough]
        by_cases beyond : r = row ∧ column + run.columns ≤ c
        · rw [if_neg (by omega)] at drawn
          rw [if_pos beyond, if_pos (by omega), partBox_congr drawn]
        · rw [if_neg beyond, drawn]
          have same : (r = row ∧ column ≤ c ∧ c < column + run.columns) ↔
              (r = row ∧ column ≤ c) := by omega
          simp only [same]
    · next absent =>
      rw [ih fits (by omega)]
      by_cases here : r = row ∧ c = column
      · obtain ⟨rfl, rfl⟩ := here
        rw [if_neg (by omega), if_pos ⟨rfl, Nat.le_refl _⟩, partBox]
        split
        · next cell waits => exact absurd waits (absent cell)
        · rfl
      · have same : (r = row ∧ column + 1 ≤ c) ↔ (r = row ∧ column ≤ c) := by omega
        simp only [same]

private theorem fits_drawAll (fits : display.Fits canvas) (runs : List TextRun) :
    display.Fits (runs.foldl Canvas.draw canvas) := by
  apply List.foldlRecOn
  · exact fits
  · intro canvas fits run member
    exact fits.of_size (Canvas.width_draw ..) (Canvas.height_draw ..)

/-- After the text every character that waited to be set is shown in all its columns; the rest is
as it was. -/
theorem partBox_textPass (fits : display.Fits canvas) (prepared : display.Prepared cells slots)
    {r c part : Nat} (isPart : IsPart cells r c part) :
    ((display.textPass cells slots).foldl Canvas.draw canvas).box display.metrics r (c + part) =
      display.partBox cells slots canvas r c part := by
  have rows (rows : List Nat) : ((rows.flatMap fun row =>
      display.runsFrom cells slots row slots.width 0).foldl Canvas.draw canvas).box
        display.metrics r (c + part) =
        if r ∈ rows then display.partBox cells slots canvas r c part
        else canvas.box display.metrics r (c + part) := by
    induction rows generalizing canvas with
    | nil => rfl
    | cons row rows ih =>
      have enough : display.width ≤ 0 + slots.width := by
        apply Nat.le_of_eq
        rw [prepared.width_eq, Nat.zero_add]
      let shown := (display.runsFrom cells slots row slots.width 0).foldl Canvas.draw canvas
      have first : shown.box display.metrics r (c + part) = _ :=
        box_runsFrom fits prepared enough isPart
      rw [List.flatMap_cons, List.foldl_append, ih (fits_drawAll fits _)]
      by_cases here : r = row
      · rw [if_pos ⟨here, Nat.zero_le _⟩] at first
        have member : r ∈ row :: rows := here ▸ List.mem_cons_self
        rw [if_pos member, partBox_again first, first, ite_self]
      · rw [if_neg fun all => here all.1] at first
        rw [partBox_congr first, first]
        simp only [List.mem_cons, here, false_or]
  rw [textPass, rows]
  split
  · rfl
  · next beyond =>
    rw [List.mem_range] at beyond
    have absent : slots.get? r c = none := by
      rw [Grid.get?_eq_none_iff]
      omega
    exact (partBox_of_absent absent).symm

/-- After the text every cell that waited to be set is shown; the others are as they were. -/
theorem box_textPass (fits : display.Fits canvas) (prepared : display.Prepared cells slots)
    {r c : Nat} (whole : (cells.get? r c).all (!·.isContinuation)) :
    ((display.textPass cells slots).foldl Canvas.draw canvas).box display.metrics r c =
      display.textBox slots canvas r c := by
  have isPart : IsPart cells r c 0 := .inr whole
  exact (partBox_textPass fits prepared isPart).trans (partBox_zero prepared whole)

end Display
end CellScreen
