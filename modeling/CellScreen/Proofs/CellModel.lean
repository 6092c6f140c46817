import CellScreen.Proofs.PixelCells
import CellScreen.Proofs.Request

/-! The cells of a screen without slots, blocks or pixels: a committed cell for every place of a
grid, and the cell that it becomes with the next flush, if it is to change. A copy takes the cell
that is committed when it is recorded. Every run of a screen commits the cells of this model. -/
namespace CellScreen

structure CellModel where
  columns : Nat
  rows : Nat
  committed : Nat → Nat → Cell
  pending : Nat → Nat → Option Cell

namespace CellModel

def Inside (model : CellModel) (row column : Int) : Prop :=
  0 ≤ row ∧ row < model.rows ∧ 0 ≤ column ∧ column < model.columns

instance (model : CellModel) (row column : Int) : Decidable (model.Inside row column) :=
  inferInstanceAs (Decidable (_ ∧ _))

def cell? (model : CellModel) (row column : Int) : Option Cell :=
  if model.Inside row column then some (model.committed row.toNat column.toNat) else none

def setColumns (model : CellModel) (row first last : Int) (cell : Cell) : CellModel :=
  { model with pending := fun r c =>
      if (r : Int) = row ∧ first ≤ c ∧ c ≤ last ∧ model.Inside r c then some cell
      else model.pending r c }

def copyColumns (model : CellModel) (row first last offset : Int) : CellModel :=
  { model with pending := fun r c =>
      if offset ≠ 0 ∧ (r : Int) = row ∧ model.Inside r c ∧ first ≤ c - offset ∧ c - offset ≤ last
      then (model.cell? r (c - offset)).or (model.pending r c) else model.pending r c }

def copyRows (model : CellModel) (first last offset : Int) : CellModel :=
  { model with pending := fun r c =>
      if offset ≠ 0 ∧ model.Inside r c ∧ first ≤ r - offset ∧ r - offset ≤ last
      then (model.cell? (r - offset) c).or (model.pending r c) else model.pending r c }

def flush (model : CellModel) : CellModel :=
  { model with
    committed := fun r c => (model.pending r c).getD (model.committed r c)
    pending := fun _ _ => none }

def resize (model : CellModel) (columns rows : Nat) : CellModel where
  columns
  rows
  committed := fun r c => (model.cell? r c).getD (.blank .default)
  pending := fun r c =>
    if (r < rows ∧ c < columns) ∧ ¬ model.Inside r c then some (.blank .default) else none

def empty : CellModel := ⟨0, 0, fun _ _ => .blank .default, fun _ _ => none⟩

def step (model : CellModel) : Request → CellModel
  | .setColumns row first last cell => model.setColumns row first last cell
  | .copyColumns row first last offset => model.copyColumns row first last offset
  | .copyRows first last offset => model.copyRows first last offset
  | .resize columns rows => model.resize columns rows
  | .flushOperations | .flush | .join => model.flush
  | _ => model

def run (model : CellModel) (requests : List Request) : CellModel := requests.foldl step model

end CellModel

def Slot.content (committed : Grid Cell) : Slot → Option Cell
  | .unchanged => none
  | .copy row column => committed.get? row column
  | .set cell => some cell

structure CellModel.Agrees (model : CellModel) (display : Display) : Prop where
  width_eq : display.width = model.columns
  height_eq : display.height = model.rows
  committed : ∀ row column : Nat, display.committedCell row column = model.cell? row column
  pending : ∀ {row column : Nat} {slot : Slot}, display.pending.get? row column = some slot →
    slot.content display.committed = model.pending row column

namespace CellModel

variable {model : CellModel}

private theorem inside_iff {row column : Nat} :
    model.Inside row column ↔ row < model.rows ∧ column < model.columns := by
  unfold Inside
  omega

private theorem cell?_of_inside {row column : Nat}
    (inside : row < model.rows ∧ column < model.columns) :
    model.cell? row column = some (model.committed row column) := by
  rw [cell?, if_pos (inside_iff.mpr inside), Int.toNat_natCast, Int.toNat_natCast]

private theorem agrees_recorded {screen next : Screen} {changes : List (Nat × Nat × Slot)}
    (agrees : model.Agrees screen.display) (consistent : screen.display.Consistent)
    (recorded : Screen.Recorded screen next changes) {pending : Nat → Nat → Option Cell}
    (single : ∀ {row column : Nat} {slot other : Slot}, (row, column, slot) ∈ changes →
      (row, column, other) ∈ changes → other = slot)
    (written : ∀ {row column : Nat} {slot : Slot}, (row, column, slot) ∈ changes →
      slot.content screen.display.committed = pending row column)
    (unwritten : ∀ {row column : Nat}, row < model.rows ∧ column < model.columns →
      (∀ slot, (row, column, slot) ∉ changes) → pending row column = model.pending row column) :
    { model with pending }.Agrees next.display := by
  refine ⟨?_, ?_, ?_, ?_⟩
  · rw [Display.width, recorded.committed]
    exact agrees.width_eq
  · rw [Display.height, recorded.committed]
    exact agrees.height_eq
  · intro row column
    rw [Display.committedCell, recorded.committed]
    exact agrees.committed row column
  · intro row column slot found
    rw [recorded.committed]
    rw [recorded.pending] at found
    have inside := Grid.inside_of_get? found
    change row < (screen.display.pending.recordAll changes).height ∧
      column < (screen.display.pending.recordAll changes).width at inside
    rw [Pending.width_recordAll, Pending.height_recordAll] at inside
    by_cases named : ∃ change, (row, column, change) ∈ changes
    · obtain ⟨change, member⟩ := named
      rw [Pending.get?_recordAll_of_mem _ _ member (fun other => single member) inside] at found
      cases found
      exact written member
    · have unnamed : ∀ change, (row, column, change) ∉ changes := fun change member =>
        named ⟨change, member⟩
      rw [Pending.get?_recordAll_of_not_mem] at found
      · rw [consistent.width_eq, consistent.height_eq, agrees.width_eq, agrees.height_eq] at inside
        exact (agrees.pending found).trans (unwritten inside unnamed).symm
      · rintro ⟨r, c, change⟩ member ⟨rfl, rfl⟩
        exact unnamed change member

private theorem agrees_setColumns {screen : Screen} (agrees : model.Agrees screen.display)
    (consistent : screen.display.Consistent) (row first last : Int) (cell : Cell) :
    (model.setColumns row first last cell).Agrees
      (screen.step (.setColumns row first last cell)).display := by
  have width_eq := consistent.width_eq.trans agrees.width_eq
  have height_eq := consistent.height_eq.trans agrees.height_eq
  refine agrees_recorded agrees consistent (screen.step_recorded rfl)
    (fun one other => Request.eq_of_mem_changes other one) ?_ ?_
  · intro r c slot member
    obtain ⟨atRow, inside, rfl⟩ := Pending.mem_settings.mp member
    rw [if_pos]
    · rfl
    · rw [inside_iff]
      omega
  · intro r c inside unnamed
    rw [if_neg]
    rintro ⟨atRow, above, below, -⟩
    exact unnamed (.set cell) (Pending.mem_settings.mpr ⟨by omega, by omega, rfl⟩)

private theorem agrees_copyColumns {screen : Screen} (agrees : model.Agrees screen.display)
    (consistent : screen.display.Consistent) (row first last offset : Int) :
    (model.copyColumns row first last offset).Agrees
      (screen.step (.copyColumns row first last offset)).display := by
  have width_eq := consistent.width_eq.trans agrees.width_eq
  have height_eq := consistent.height_eq.trans agrees.height_eq
  refine agrees_recorded agrees consistent (screen.step_recorded rfl)
    (fun one other => Request.eq_of_mem_changes other one) ?_ ?_
  · intro r c slot member
    obtain ⟨moves, atRow, inRow, source, target, inside, rfl⟩ :=
      Pending.mem_columnMoves.mp member
    have origin : (c : Int) - offset = source := by omega
    rw [if_pos, origin, cell?_of_inside (by omega), Option.some_or]
    · exact (agrees.committed r source).trans (cell?_of_inside (by omega))
    · rw [inside_iff]
      omega
  · intro r c inside unnamed
    split
    -- The source that the offset asks for lies outside the grid, where nothing is committed.
    · next moved =>
      obtain ⟨moves, atRow, -, above, below⟩ := moved
      have outside : ¬ model.Inside r (c - offset) := by
        rintro ⟨-, -, natural, inRow⟩
        exact unnamed (.copy r (c - offset).toNat) (Pending.mem_columnMoves.mpr
          ⟨moves, by omega, by omega, _, by omega, by omega, rfl⟩)
      rw [cell?, if_neg outside, Option.none_or]
    · rfl

private theorem agrees_copyRows {screen : Screen} (agrees : model.Agrees screen.display)
    (consistent : screen.display.Consistent) (first last offset : Int) :
    (model.copyRows first last offset).Agrees
      (screen.step (.copyRows first last offset)).display := by
  have width_eq := consistent.width_eq.trans agrees.width_eq
  have height_eq := consistent.height_eq.trans agrees.height_eq
  refine agrees_recorded agrees consistent (screen.step_recorded rfl)
    (fun one other => Request.eq_of_mem_changes other one) ?_ ?_
  · intro r c slot member
    obtain ⟨moves, below, source, target, inside, rfl⟩ := Pending.mem_rowMoves.mp member
    have origin : (r : Int) - offset = source := by omega
    rw [if_pos, origin, cell?_of_inside (by omega), Option.some_or]
    · exact (agrees.committed source c).trans (cell?_of_inside (by omega))
    · rw [inside_iff]
      omega
  · intro r c inside unnamed
    split
    · next moved =>
      obtain ⟨moves, -, above, below⟩ := moved
      have outside : ¬ model.Inside (r - offset) c := by
        rintro ⟨natural, inColumn, -, -⟩
        exact unnamed (.copy (r - offset).toNat c) (Pending.mem_rowMoves.mpr
          ⟨moves, by omega, _, by omega, by omega, rfl⟩)
      rw [cell?, if_neg outside, Option.none_or]
    · rfl

theorem agrees_resize {display : Display} (agrees : model.Agrees display) (columns rows : Nat) :
    (model.resize columns rows).Agrees (display.resize columns rows).1 := by
  refine ⟨Display.width_resize .., Display.height_resize .., ?_, ?_⟩
  · intro row column
    rw [Display.committedCell, Display.committed_resize, Grid.get?_tabulate]
    have kept := agrees.committed row column
    change display.committed.get? row column = _ at kept
    rw [kept]
    by_cases inside : row < rows ∧ column < columns
    · have placed : (model.resize columns rows).cell? row column = some _ :=
        cell?_of_inside inside
      rw [if_pos inside, placed]
      rfl
    · rw [if_neg inside, cell?, if_neg]
      rwa [inside_iff]
  · intro row column slot found
    rw [Display.get?_pending_resize] at found
    split at found
    · next inside =>
      cases found
      simp only [resize, inside, and_self, true_and, inside_iff, agrees.width_eq,
        agrees.height_eq]
      split <;> rfl
    · cases found

private theorem agrees_flush {display : Display} (agrees : model.Agrees display)
    (consistent : display.Consistent) : model.flush.Agrees display.flushOperations.1 := by
  refine ⟨(Display.width_flushOperations display).trans agrees.width_eq,
    (Display.height_flushOperations display).trans agrees.height_eq, ?_, ?_⟩
  · intro row column
    by_cases inside : row < model.rows ∧ column < model.columns
    · have placed : model.flush.cell? row column =
          some ((model.pending row column).getD (model.committed row column)) :=
        cell?_of_inside inside
      rw [← agrees.height_eq, ← agrees.width_eq] at inside
      obtain ⟨slot, found⟩ := Display.exists_slot consistent inside
      obtain ⟨cell, resolves⟩ := Display.exists_resolveSlot consistent found
      rw [Display.committedCell, Display.get?_flushOperations consistent found, placed,
        ← agrees.pending found]
      cases slot with
      | unchanged =>
        rw [agrees.width_eq, agrees.height_eq] at inside
        exact (agrees.committed row column).trans (cell?_of_inside inside)
      | copy sourceRow sourceColumn =>
        change display.committed.get? sourceRow sourceColumn = some cell at resolves
        rw [Display.resolveSlot, Slot.content, resolves, Option.getD_some]
      | set cell => rfl
    · rw [cell?, if_neg (by rwa [inside_iff]), Display.committedCell, Grid.get?_eq_none_iff]
      change ¬ (row < display.flushOperations.1.height ∧ column < display.flushOperations.1.width)
      rwa [Display.height_flushOperations, Display.width_flushOperations, agrees.height_eq,
        agrees.width_eq]
  · intro row column slot found
    rw [Display.unchanged_flushOperations consistent found]
    rfl

theorem agrees_step {screen : Screen} (agrees : model.Agrees screen.display)
    (consistent : screen.display.Consistent) (request : Request) :
    (model.step request).Agrees (screen.step request).display := by
  cases request with
  | setColumns row first last cell => exact agrees_setColumns agrees consistent row first last cell
  | copyColumns row first last offset =>
    exact agrees_copyColumns agrees consistent row first last offset
  | copyRows first last offset => exact agrees_copyRows agrees consistent first last offset
  | resize columns rows => exact agrees_resize agrees columns rows
  | flushOperations | flush | join => exact agrees_flush agrees consistent
  | _ =>
    exact agrees_recorded agrees consistent (screen.step_recorded rfl)
      (fun member => absurd member List.not_mem_nil) (fun member => absurd member List.not_mem_nil)
      fun _ _ => rfl

theorem agrees_run {screen : Screen} (agrees : model.Agrees screen.display)
    (consistent : screen.display.Consistent) (requests : List Request) :
    (model.run requests).Agrees (screen.run requests).display := by
  unfold run Screen.run
  induction requests generalizing model screen with
  | nil => exact agrees
  | cons request requests ih =>
    exact ih (agrees_step agrees consistent request) (Screen.consistent_step consistent request)

theorem agrees_empty {display : Display} (consistent : display.Consistent)
    (noColumns : display.width = 0) (noRows : display.height = 0) : empty.Agrees display := by
  refine ⟨noColumns, noRows, ?_, ?_⟩
  · intro row column
    rw [cell?, if_neg, Display.committedCell, Grid.get?_eq_none_iff]
    · exact fun inside => Nat.not_lt_zero row (noRows ▸ inside.1)
    · rw [inside_iff]
      exact fun inside => Nat.not_lt_zero row inside.1
  · intro row column slot found
    have inside := Display.inside_of_slot consistent found
    exact absurd (noRows ▸ inside.1) (Nat.not_lt_zero row)

/-- A screen of any configuration commits, after every run, the cells of the model of that size
after the same run; it has a slot for every cell, and each stands for what the model is to change
there. -/
theorem agrees_of_new {surface : Surface} {fonts : FontSource} {config : Config} {screen : Screen}
    (made : Screen.new surface fonts config = .ok screen) (requests : List Request) :
    ((empty.resize config.columns config.rows).run requests).Agrees
        (screen.run requests).display ∧ (screen.run requests).display.Consistent := by
  obtain ⟨start, consistent, noColumns, noRows, rfl⟩ := Screen.exists_start made
  have agrees := agrees_empty consistent noColumns noRows
  have consistentNew := Display.consistent_resize start config.columns config.rows
  exact ⟨agrees_run (agrees_resize agrees config.columns config.rows) consistentNew requests,
    Screen.consistent_run consistentNew requests⟩

/-- Copies that overlap, a cell set over a copy, and a resize that drops what was pending. -/
theorem agrees_of_overlapping_copies :
    let screen := Screen.ofPixels .empty 3 2
    let requests : List Request := [.setColumns 0 (-5) 1 (.ofChar 'a' {}), .flush,
      .copyColumns 0 (-2147483648) 2147483647 1, .copyRows 0 1 1, .setColumns 1 1 1
      (.ofChar 'b' {}), .flushOperations, .copyColumns 1 0 2 (-1), .resize 4 1,
      .copyColumns 0 1 2 1, .flush]
    ((empty.resize 3 2).run requests).Agrees (screen.run requests).display ∧
      (screen.run requests).display.Consistent :=
  agrees_of_new (Screen.new_ofPixels ..) _

end CellModel
end CellScreen
