import CellScreen.Display.Flush

/-! Blocks of cells. A block that grows from a cell has only cells that fit, and writing a block
replaces the slots of its cells and no others. -/
namespace CellScreen

/-- What one step makes true of its own entry, and no step undoes, holds of every entry. -/
theorem foldl_establishes {σ α : Type} {step : σ → α → σ} {settled : α → σ → Prop}
    (establishes : ∀ entry state, settled entry (step state entry))
    (preserves : ∀ entry other state, settled entry state → settled entry (step state other))
    {entries : List α} {entry : α} (member : entry ∈ entries) (state : σ) :
    settled entry (entries.foldl step state) := by
  induction entries generalizing state with
  | nil => exact absurd member List.not_mem_nil
  | cons first more ih =>
    rw [List.foldl_cons]
    cases member with
    | head =>
      apply List.foldlRecOn
      · exact establishes entry state
      · intro state settled other later
        exact preserves entry other state settled
    | tail _ later => exact ih later _

/-- Steps that agree where an invariant holds fold to the same state. -/
theorem foldl_congr_of_invariant {σ α : Type} {step other : σ → α → σ} {motive : σ → Prop}
    (same : ∀ state entry, motive state →
      other state entry = step state entry ∧ motive (step state entry))
    {state : σ} (start : motive state) (entries : List α) :
    entries.foldl other state = entries.foldl step state ∧
      motive (entries.foldl step state) := by
  induction entries generalizing state with
  | nil => exact ⟨rfl, start⟩
  | cons entry entries ih =>
    obtain ⟨agree, kept⟩ := same state entry start
    rw [List.foldl_cons, List.foldl_cons, agree]
    exact ih kept

private theorem holds_of_streak {holds : Nat → Bool} {limit first index : Nat}
    (above : first ≤ index) (below : index < first + streak holds limit first) : holds index := by
  induction limit generalizing first with
  | zero => exact absurd below (by simpa [streak] using above)
  | succ limit ih =>
    unfold streak at below
    split at below
    · next here =>
      by_cases same : first = index
      · rwa [← same]
      · have later : index < first + 1 + streak holds limit (first + 1) := by omega
        exact ih (by omega) later
    · omega

private theorem holds_after {holds : Nat → Bool} {limit first index : Nat} (after : first < index)
    (before : index < first + (streak holds limit (first + 1) + 1)) : holds index := by
  have below : index < first + 1 + streak holds limit (first + 1) := by omega
  exact holds_of_streak after below

theorem streak_le (holds : Nat → Bool) (limit first : Nat) : streak holds limit first ≤ limit := by
  induction limit generalizing first with
  | zero => exact Nat.le_refl 0
  | succ limit ih =>
    unfold streak
    split
    · exact Nat.succ_le_succ (ih (first + 1))
    · exact Nat.zero_le _

private theorem not_holds_of_streak_lt {holds : Nat → Bool} {limit first : Nat}
    (shorter : streak holds limit first < limit) :
    holds (first + streak holds limit first) = false := by
  induction limit generalizing first with
  | zero => exact absurd shorter (Nat.not_lt_zero _)
  | succ limit ih =>
    unfold streak at shorter ⊢
    split
    · next here =>
      rw [if_pos here] at shorter
      have later := ih (Nat.lt_of_succ_lt_succ shorter)
      rwa [Nat.add_right_comm] at later
    · next fails => simpa using fails

namespace Block

def Within (block : Block) (display : Display) : Prop :=
  block.row + block.rows ≤ display.height ∧ block.column + block.columns ≤ display.width

def movedTo (block : Block) (row column : Nat) : Block := { block with row, column }

theorem mem_cells {block : Block} {row column : Nat} :
    (row, column) ∈ block.cells ↔
      (block.row ≤ row ∧ row < block.row + block.rows) ∧
        block.column ≤ column ∧ column < block.column + block.columns := by
  simp only [cells, List.mem_flatMap, List.mem_map, List.mem_range'_1, Prod.mk.injEq]
  constructor
  · rintro ⟨r, below, c, inRow, rfl, rfl⟩
    exact ⟨below, inRow⟩
  · rintro ⟨below, inRow⟩
    exact ⟨row, below, column, inRow, rfl, rfl⟩

theorem Within.inside {display : Display} {block : Block} (within : block.Within display)
    {row column : Nat} (member : (row, column) ∈ block.cells) :
    row < display.height ∧ column < display.width := by
  have place := mem_cells.mp member
  have below := within.1
  have inRow := within.2
  omega

section

variable {width height row column : Nat} {fits : Nat → Nat → Bool}

theorem mem_grown : (row, column) ∈ (grown width height row column fits).cells := by
  rw [mem_cells]
  simp only [grown]
  omega

theorem fits_of_mem_grown (start : fits row column) {r c : Nat}
    (member : (r, c) ∈ (grown width height row column fits).cells) : fits r c := by
  obtain ⟨⟨above, below⟩, after, before⟩ := mem_cells.mp member
  simp only [grown] at above below after before
  by_cases first : row = r
  · subst first
    by_cases here : column = c
    · rwa [← here]
    · exact holds_after (Nat.lt_of_le_of_ne after here) before
  · have fitsRow := holds_after (Nat.lt_of_le_of_ne above first) below
    rw [List.all_eq_true] at fitsRow
    exact fitsRow c (List.mem_range'_1.mpr ⟨after, before⟩)

/-- A block does not grow further to the right only where the grid ends or a cell does not fit. -/
theorem grown_ends
    (inner : column + (grown width height row column fits).columns < width) :
    fits row (column + (grown width height row column fits).columns) = false := by
  simp only [grown] at inner ⊢
  have shorter : streak (fits row) (width - (column + 1)) (column + 1) < width - (column + 1) := by
    omega
  have stopped := not_holds_of_streak_lt shorter
  rwa [Nat.add_right_comm] at stopped

/-- A block does not grow further down only where the grid ends or some cell below does not fit. -/
theorem grown_stops
    (inner : row + (grown width height row column fits).rows < height) :
    ∃ c, (column ≤ c ∧ c < column + (grown width height row column fits).columns) ∧
      fits (row + (grown width height row column fits).rows) c = false := by
  simp only [grown] at inner ⊢
  generalize streak (fits row) (width - (column + 1)) (column + 1) + 1 = columns at inner ⊢
  have shorter : streak (fun below => (List.range' column columns).all (fits below))
      (height - (row + 1)) (row + 1) < height - (row + 1) := by omega
  have stopped := not_holds_of_streak_lt shorter
  rw [Nat.add_right_comm, List.all_eq_false] at stopped
  obtain ⟨c, member, fails⟩ := stopped
  exact ⟨c, List.mem_range'_1.mp member, Bool.eq_false_iff.mpr fails⟩

theorem within_grown {display : Display} (below : row < display.height)
    (inRow : column < display.width) :
    (grown display.width display.height row column fits).Within display := by
  have columns := streak_le (fits row) (display.width - (column + 1)) (column + 1)
  have rows (fitsRow : Nat → Bool) := streak_le fitsRow (display.height - (row + 1)) (row + 1)
  constructor
  · have := rows fun below => (List.range' column
      (streak (fits row) (display.width - (column + 1)) (column + 1) + 1)).all (fits below)
    simp only [grown]
    omega
  · simp only [grown]
    omega

end

section

variable (block : Block) (slots : Grid Slot) (slot : Nat → Nat → Slot)

@[simp] theorem width_write : (block.write slots slot).width = slots.width :=
  foldl_keeps (fun slots (row, column) => Grid.width_set slots row column _) block.cells slots

@[simp] theorem height_write : (block.write slots slot).height = slots.height :=
  foldl_keeps (fun slots (row, column) => Grid.height_set slots row column _) block.cells slots

theorem get?_write {row column : Nat} (inside : row < slots.height ∧ column < slots.width) :
    (block.write slots slot).get? row column =
      if (row, column) ∈ block.cells then some (slot row column)
      else slots.get? row column := by
  unfold write
  induction block.cells generalizing slots with
  | nil => rfl
  | cons first more ih =>
    obtain ⟨r, c⟩ := first
    rw [List.foldl_cons, ih _ (by rwa [Grid.height_set, Grid.width_set]), Grid.get?_set]
    simp only [List.mem_cons, Prod.mk.injEq]
    by_cases later : (row, column) ∈ more
    · rw [if_pos later, if_pos (.inr later)]
    · by_cases here : r = row ∧ c = column
      · obtain ⟨rfl, rfl⟩ := here
        rw [if_neg later, if_pos ⟨rfl, rfl, inside⟩, if_pos (.inl ⟨rfl, rfl⟩)]
      · rw [if_neg later, if_neg fun all => here ⟨all.1, all.2.1⟩, if_neg]
        rintro (⟨rfl, rfl⟩ | again)
        · exact here ⟨rfl, rfl⟩
        · exact later again

end

end Block
end CellScreen
