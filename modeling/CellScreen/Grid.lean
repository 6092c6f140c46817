/-! Tables of a width and a height, stored row by row. Look-ups are total: there is nothing
outside the table, and writing there changes nothing. -/
namespace CellScreen

theorem foldl_keeps {σ α β : Type} {step : σ → α → σ} {measure : σ → β}
    (keeps : ∀ state entry, measure (step state entry) = measure state) (entries : List α)
    (state : σ) : measure (entries.foldl step state) = measure state := by
  induction entries generalizing state with
  | nil => rfl
  | cons first more ih => rw [List.foldl_cons, ih, keeps]

structure Grid (α : Type) where
  width : Nat
  height : Nat
  entries : Array α
  size_eq : entries.size = width * height

namespace Grid

variable {α : Type}

instance [DecidableEq α] : DecidableEq (Grid α) := fun first second =>
  decidable_of_iff (first.width = second.width ∧ first.height = second.height ∧
    first.entries = second.entries) (by cases first; cases second; simp)

def tabulate (width height : Nat) (entry : Nat → Nat → α) : Grid α where
  width
  height
  entries := .ofFn fun i : Fin (width * height) => entry (i / width) (i % width)
  size_eq := by simp

def replicate (width height : Nat) (a : α) : Grid α where
  width
  height
  entries := .replicate (width * height) a
  size_eq := by simp

def get? (grid : Grid α) (row column : Nat) : Option α :=
  if column < grid.width then grid.entries[row * grid.width + column]? else none

def set (grid : Grid α) (row column : Nat) (a : α) : Grid α :=
  if column < grid.width then
    { grid with
      entries := grid.entries.setIfInBounds (row * grid.width + column) a
      size_eq := by simpa using grid.size_eq }
  else grid

def places (width height : Nat) : List (Nat × Nat) :=
  (List.range (width * height)).map fun i => (i / width, i % width)

theorem index_lt {width height row column : Nat} (inRow : column < width) (inside : row < height) :
    row * width + column < width * height :=
  calc row * width + column < row * width + width := by omega
    _ = (row + 1) * width := by rw [Nat.succ_mul]
    _ ≤ height * width := Nat.mul_le_mul_right _ inside
    _ = width * height := Nat.mul_comm _ _

theorem index_div {width row column : Nat} (inRow : column < width) :
    (row * width + column) / width = row := by
  rw [Nat.add_comm, Nat.add_mul_div_right _ _ (by omega), Nat.div_eq_of_lt inRow, Nat.zero_add]

theorem index_mod {width row column : Nat} (inRow : column < width) :
    (row * width + column) % width = column := by
  rw [Nat.add_comm, Nat.add_mul_mod_self_right, Nat.mod_eq_of_lt inRow]

theorem index_inj {width row column otherRow otherColumn : Nat} (inRow : column < width)
    (otherInRow : otherColumn < width)
    (same : row * width + column = otherRow * width + otherColumn) :
    row = otherRow ∧ column = otherColumn := by
  have quotient := congrArg (· / width) same
  have remainder := congrArg (· % width) same
  simp only [index_div inRow, index_div otherInRow] at quotient
  simp only [index_mod inRow, index_mod otherInRow] at remainder
  exact ⟨quotient, remainder⟩

theorem get?_eq_none_iff (grid : Grid α) (row column : Nat) :
    grid.get? row column = none ↔ ¬ (row < grid.height ∧ column < grid.width) := by
  unfold get?
  by_cases inRow : column < grid.width
  · rw [if_pos inRow, Array.getElem?_eq_none_iff, grid.size_eq]
    constructor
    · intro beyond inside
      exact Nat.not_lt.mpr beyond (index_lt inRow inside.1)
    · intro outside
      have below : grid.height ≤ row := by omega
      calc grid.width * grid.height ≤ grid.width * row := Nat.mul_le_mul_left _ below
        _ = row * grid.width := Nat.mul_comm _ _
        _ ≤ row * grid.width + column := Nat.le_add_right _ _
  · simp [inRow]

theorem inside_of_get? {grid : Grid α} {row column : Nat} {a : α}
    (found : grid.get? row column = some a) : row < grid.height ∧ column < grid.width := by
  apply Decidable.byContradiction
  intro outside
  rw [(get?_eq_none_iff grid row column).mpr outside] at found
  cases found

theorem exists_get? {grid : Grid α} {row column : Nat}
    (inside : row < grid.height ∧ column < grid.width) : ∃ a, grid.get? row column = some a := by
  rw [← Option.ne_none_iff_exists']
  exact fun absent => (get?_eq_none_iff grid row column).mp absent inside

theorem get?_tabulate (width height : Nat) (entry : Nat → Nat → α) (row column : Nat) :
    (tabulate width height entry).get? row column =
      if row < height ∧ column < width then some (entry row column) else none := by
  by_cases inside : row < height ∧ column < width
  · have bound := index_lt inside.2 inside.1
    simp [get?, tabulate, inside, bound, index_div inside.2, index_mod inside.2]
  · rw [if_neg inside, get?_eq_none_iff]
    exact inside

theorem get?_replicate (width height : Nat) (a : α) (row column : Nat) :
    (replicate width height a).get? row column =
      if row < height ∧ column < width then some a else none := by
  by_cases inside : row < height ∧ column < width
  · have bound := index_lt inside.2 inside.1
    simp [get?, replicate, inside, bound]
  · rw [if_neg inside, get?_eq_none_iff]
    exact inside

theorem ext_get? {first second : Grid α} (width_eq : first.width = second.width)
    (height_eq : first.height = second.height)
    (same : ∀ row column, first.get? row column = second.get? row column) : first = second := by
  obtain ⟨width, height, entries, size_eq⟩ := first
  obtain ⟨otherWidth, otherHeight, otherEntries, otherSize_eq⟩ := second
  cases width_eq
  cases height_eq
  have entries_eq : entries = otherEntries := by
    apply Array.ext_getElem?
    intro i
    by_cases bound : i < width * height
    · have positive : 0 < width := Nat.pos_of_mul_pos_right (Nat.zero_lt_of_lt bound)
      have entry := same (i / width) (i % width)
      simp only [get?, Nat.mod_lt i positive, if_true] at entry
      have place : i / width * width + i % width = i := by
        rw [Nat.mul_comm]
        exact Nat.div_add_mod i width
      rwa [place] at entry
    · rw [Array.getElem?_eq_none (by omega), Array.getElem?_eq_none (by omega)]
  cases entries_eq
  rfl

theorem tabulate_eq_iff {width height : Nat} {first second : Nat → Nat → α} :
    tabulate width height first = tabulate width height second ↔
      ∀ row < height, ∀ column < width, first row column = second row column := by
  constructor
  · intro equal row below column inRow
    have entry := congrArg (·.get? row column) equal
    simp only [get?_tabulate, below, inRow, and_self, if_true] at entry
    exact Option.some.inj entry
  · intro same
    refine ext_get? rfl rfl fun row column => ?_
    rw [get?_tabulate, get?_tabulate]
    split
    · next inside => rw [same row inside.1 column inside.2]
    · rfl

theorem tabulate_eq_ite {width height : Nat} {chosen : Prop} [Decidable chosen]
    {entry first second : Nat → Nat → α}
    (chooses : ∀ row < height, ∀ column < width,
      entry row column = if chosen then first row column else second row column) :
    tabulate width height entry =
      if chosen then tabulate width height first else tabulate width height second := by
  split
  · next holds =>
    refine tabulate_eq_iff.mpr fun row below column inRow => ?_
    rw [chooses row below column inRow, if_pos holds]
  · next fails =>
    refine tabulate_eq_iff.mpr fun row below column inRow => ?_
    rw [chooses row below column inRow, if_neg fails]

@[simp] theorem width_set (grid : Grid α) (row column : Nat) (a : α) :
    (grid.set row column a).width = grid.width := by
  unfold set
  split <;> rfl

@[simp] theorem height_set (grid : Grid α) (row column : Nat) (a : α) :
    (grid.set row column a).height = grid.height := by
  unfold set
  split <;> rfl

theorem get?_set (grid : Grid α) (row column : Nat) (a : α) (otherRow otherColumn : Nat) :
    (grid.set row column a).get? otherRow otherColumn =
      if row = otherRow ∧ column = otherColumn ∧ row < grid.height ∧ column < grid.width then some a
      else grid.get? otherRow otherColumn := by
  by_cases inRow : column < grid.width
  · by_cases otherInRow : otherColumn < grid.width
    · simp only [set, inRow, if_true, get?, otherInRow, Array.getElem?_setIfInBounds, grid.size_eq]
      by_cases same : row = otherRow ∧ column = otherColumn
      · obtain ⟨rfl, rfl⟩ := same
        by_cases inside : row < grid.height
        · simp [inside, index_lt inRow inside]
        · have outside := (get?_eq_none_iff grid row column).mpr (by simp [inside])
          simp only [get?, inRow, if_true] at outside
          rw [outside]
          have beyond : ¬ row * grid.width + column < grid.width * grid.height := by
            rw [Array.getElem?_eq_none_iff, grid.size_eq] at outside
            omega
          simp [inside, beyond]
      · have different : row * grid.width + column ≠ otherRow * grid.width + otherColumn :=
          fun equal => same (index_inj inRow otherInRow equal)
        rw [if_neg different, if_neg fun all => same ⟨all.1, all.2.1⟩]
    · have unequal : ¬ (row = otherRow ∧ column = otherColumn ∧ row < grid.height ∧
          column < grid.width) := by
        rintro ⟨_, rfl, _, _⟩
        exact otherInRow inRow
      rw [if_neg unequal]
      simp [set, inRow, get?, otherInRow]
  · simp [set, inRow]

theorem mem_places {width height : Nat} {place : Nat × Nat} :
    place ∈ places width height ↔ place.1 < height ∧ place.2 < width := by
  obtain ⟨row, column⟩ := place
  simp only [places, List.mem_map, List.mem_range, Prod.mk.injEq]
  constructor
  · rintro ⟨i, bound, rfl, rfl⟩
    have positive : 0 < width := Nat.pos_of_mul_pos_right (Nat.zero_lt_of_lt bound)
    exact ⟨Nat.div_lt_of_lt_mul bound, Nat.mod_lt _ positive⟩
  · rintro ⟨inside, inRow⟩
    exact ⟨row * width + column, index_lt inRow inside, index_div inRow, index_mod inRow⟩

end Grid
end CellScreen
