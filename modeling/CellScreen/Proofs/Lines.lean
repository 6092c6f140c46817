import CellScreen.Display
import Mathlib.Data.List.DropRight

/-! The text of a snapshot, line by line. Its lines are the rows of the grid, and empty lines at
the end are left out. -/
namespace CellScreen

def keptLines (lines : List String) : List String :=
  if (lines.rdropWhile (·.isEmpty)).isEmpty then lines.take 1 else lines.rdropWhile (·.isEmpty)

def joinedLines (lines : List String) : String := "\n".intercalate (keptLines lines) ++ "\n"

private theorem rdropWhile_map {α β : Type} (f : α → β) (drop : β → Bool) (entries : List α) :
    (entries.map f).rdropWhile drop = (entries.rdropWhile (drop ∘ f)).map f := by
  simp only [List.rdropWhile, ← List.map_reverse, List.dropWhile_map]

private theorem rdropWhile_cons {α : Type} (drop : α → Bool) (first : α) (more : List α) :
    (first :: more).rdropWhile drop =
      if (more.rdropWhile drop).isEmpty then (if drop first then [] else [first])
      else first :: more.rdropWhile drop := by
  simp only [List.rdropWhile, List.reverse_cons, List.dropWhile_append, List.isEmpty_reverse]
  split
  · by_cases dropped : drop first <;> simp [dropped]
  · simp

namespace Snapshot

private theorem keptLines_map (lines : List (List Char)) :
    keptLines (lines.map String.ofList) = (dropEmptyEnd lines).map String.ofList := by
  have empty : (fun line : String => line.isEmpty) ∘ String.ofList = (·.isEmpty) := by
    funext line
    cases line <;> simp
  rw [keptLines, rdropWhile_map, empty, List.isEmpty_map]
  cases lines with
  | nil => rfl
  | cons first more =>
    have end_eq : dropEmptyEnd (first :: more) = first :: more.rdropWhile (·.isEmpty) := rfl
    rw [end_eq, rdropWhile_cons]
    by_cases short : (more.rdropWhile (·.isEmpty)).isEmpty
    · have nothing := List.isEmpty_iff.mp short
      by_cases bare : first.isEmpty <;> simp [nothing, bare]
    · simp [short]

private theorem ofList_flatMap {lines : List (List Char)} (some : lines ≠ []) :
    String.ofList (lines.flatMap (· ++ ['\n'])) =
      "\n".intercalate (lines.map String.ofList) ++ "\n" := by
  induction lines with
  | nil => exact absurd rfl some
  | cons first more ih =>
    cases more with
    | nil => simp [String.intercalate_singleton]
    | cons second more =>
      rw [List.flatMap_cons, String.ofList_append, ih (List.cons_ne_nil _ _), List.map_cons,
        List.map_cons, List.map_cons, String.intercalate_cons_cons]
      simp [String.append_assoc]

private theorem rowsOf_eq {columns : Nat} (some : 0 < columns) {rows count : Nat}
    (enough : rows ≤ count) {cells : List Cell} (length_eq : cells.length = rows * columns) :
    rowsOf columns count cells =
      (List.range rows).map fun row => (cells.drop (row * columns)).take columns := by
  induction rows generalizing cells count with
  | zero =>
    rw [Nat.zero_mul, List.length_eq_zero_iff] at length_eq
    subst length_eq
    cases count <;> rfl
  | succ rows ih =>
    obtain ⟨count, rfl⟩ := Nat.exists_eq_add_of_lt (Nat.lt_of_lt_of_le (Nat.succ_pos _) enough)
    rw [Nat.succ_mul] at length_eq
    cases cells with
    | nil =>
      rw [List.length_nil] at length_eq
      omega
    | cons cell cells =>
      have rest : ((cell :: cells).drop columns).length = rows * columns := by
        rw [List.length_drop, length_eq, Nat.add_sub_cancel]
      have below : rows ≤ count := by omega
      have later (row : Nat) : columns + row * columns = (row + 1) * columns := by
        rw [Nat.succ_mul, Nat.add_comm]
      rw [Nat.zero_add]
      change (cell :: cells).take columns :: rowsOf columns count ((cell :: cells).drop columns) = _
      rw [ih below rest, List.range_succ_eq_map, List.map_cons, List.map_map, Nat.zero_mul,
        List.drop_zero]
      simp only [Function.comp_def, List.drop_drop, later, Nat.succ_eq_add_one]

theorem gridOfCells_entries {grid : Grid Cell} (some : 0 < grid.width) :
    gridOfCells grid.entries.toList grid.width =
      (List.range grid.height).map fun row =>
        (List.range grid.width).map fun column =>
          (grid.get? row column).getD (.blank .default) := by
  have length_eq : grid.entries.toList.length = grid.height * grid.width := by
    rw [Array.length_toList, grid.size_eq, Nat.mul_comm]
  have enough : grid.height ≤ grid.entries.toList.length := by
    rw [length_eq]
    exact Nat.le_mul_of_pos_right _ some
  rw [gridOfCells, if_neg (Nat.ne_of_gt some), rowsOf_eq some enough length_eq]
  apply List.map_congr_left
  intro row below
  rw [List.mem_range] at below
  apply List.ext_getElem?
  intro column
  by_cases inRow : column < grid.width
  · obtain ⟨cell, found⟩ := Grid.exists_get? ⟨below, inRow⟩
    have entry := found
    rw [Grid.get?, if_pos inRow] at entry
    rw [List.getElem?_take_of_lt inRow, List.getElem?_drop, Array.getElem?_toList, entry,
      List.getElem?_map, List.getElem?_range inRow, Option.map_some, found, Option.getD_some]
  · have beyond : grid.width ≤ column := Nat.not_lt.mp inRow
    rw [List.getElem?_take_eq_none beyond, List.getElem?_map, List.getElem?_eq_none,
      Option.map_none]
    rwa [List.length_range]

theorem text_eq_joinedLines {snapshot : Snapshot} (some : snapshot.grid ≠ []) :
    snapshot.text = joinedLines (snapshot.grid.map fun row => String.ofList (lineOf row)) := by
  have lines : dropEmptyEnd (snapshot.grid.map lineOf) ≠ [] := by
    cases rows : snapshot.grid with
    | nil => exact absurd rows some
    | cons first more => exact List.cons_ne_nil _ _
  rw [text, ofList_flatMap lines, ← keptLines_map, List.map_map]
  rfl

end Snapshot
end CellScreen
