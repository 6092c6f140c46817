import CellScreen.Pending

/-! What recording does to the pending changes. A change replaces the slot of its cell and no
other, the count follows the slots, and every copy names a source of the grid. -/
namespace CellScreen

theorem Run.mem_between {low high : Int} {index : Nat} (natural : 0 ≤ low) :
    index ∈ (Run.between low high).indices ↔ low ≤ index ∧ index ≤ high := by
  simp only [Run.indices, Run.between, List.mem_range'_1]
  omega

theorem Run.mem_clamped {first last : Int} {size index : Nat} :
    index ∈ (Run.clamped first last size).indices ↔
      first ≤ index ∧ index ≤ last ∧ index < size := by
  rw [Run.clamped, Run.mem_between (by omega)]
  omega

theorem Run.mem_movable {first last offset : Int} {size index : Nat} :
    index ∈ (Run.movable first last offset size).indices ↔
      first ≤ index ∧ index ≤ last ∧ index < size ∧ 0 ≤ index + offset ∧
        index + offset < size := by
  rw [Run.movable, Run.mem_between (by omega)]
  omega

theorem indexBelow_eq_some_iff {index : Int} {size place : Nat} :
    indexBelow index size = some place ↔ (place : Int) = index ∧ place < size := by
  unfold indexBelow
  split
  · rw [Option.some.injEq]
    omega
  · simp only [reduceCtorEq, false_iff]
    omega

def Slot.Recordable (width height : Nat) : Slot → Prop
  | .unchanged => False
  | .copy row column => row < height ∧ column < width
  | .set _ => True

@[simp] theorem Slot.isUnchanged_eq_false_iff (slot : Slot) :
    slot.isUnchanged = false ↔ slot ≠ .unchanged := by
  cases slot <;> simp [isUnchanged]

private theorem Slot.isUnchanged_of_recordable {width height : Nat} {slot : Slot}
    (recordable : slot.Recordable width height) : slot.isUnchanged = false := by
  cases slot with
  | unchanged => exact recordable.elim
  | copy row column => rfl
  | set cell => rfl

namespace Pending

variable {width height : Nat}

theorem mem_settings {row first last : Int} {cell : Cell} {r c : Nat} {slot : Slot} :
    (r, c, slot) ∈ settings width height row first last cell ↔
      ((r : Int) = row ∧ r < height) ∧ (first ≤ c ∧ c ≤ last ∧ c < width) ∧ slot = .set cell := by
  unfold settings
  cases found : indexBelow row height with
  | none =>
    have outside : ¬ ((r : Int) = row ∧ r < height) := fun inside => by
      rw [indexBelow_eq_some_iff.mpr inside] at found
      cases found
    simp [outside]
  | some place =>
    have here := indexBelow_eq_some_iff.mp found
    have same : place = r ↔ (r : Int) = row ∧ r < height := by omega
    simp only [List.mem_map, Prod.mk.injEq, Run.mem_clamped]
    constructor
    · rintro ⟨column, inside, rfl, rfl, rfl⟩
      exact ⟨same.mp rfl, inside, rfl⟩
    · rintro ⟨atRow, inside, rfl⟩
      exact ⟨c, inside, same.mpr atRow, rfl, rfl⟩

theorem mem_columnMoves {row first last offset : Int} {r c : Nat} {slot : Slot} :
    (r, c, slot) ∈ columnMoves width height row first last offset ↔
      offset ≠ 0 ∧ ((r : Int) = row ∧ r < height) ∧ c < width ∧
        ∃ source : Nat, (source : Int) + offset = c ∧
          (first ≤ source ∧ source ≤ last ∧ source < width) ∧ slot = .copy r source := by
  unfold columnMoves
  cases found : indexBelow row height with
  | none =>
    have outside : ¬ ((r : Int) = row ∧ r < height) := fun inside => by
      rw [indexBelow_eq_some_iff.mpr inside] at found
      cases found
    simp [outside]
  | some place =>
    have here := indexBelow_eq_some_iff.mp found
    have same : place = r ↔ (r : Int) = row ∧ r < height := by omega
    by_cases still : offset = 0
    · simp [still]
    · simp only [still, if_false, List.mem_map, Prod.mk.injEq, Run.mem_movable, moved]
      constructor
      · rintro ⟨source, inside, rfl, target, rfl⟩
        exact ⟨still, same.mp rfl, by omega, source, by omega, by omega, rfl⟩
      · rintro ⟨-, atRow, inRow, source, target, inside, rfl⟩
        exact ⟨source, by omega, same.mpr atRow, by omega, by rw [same.mpr atRow]⟩

theorem mem_rowMoves {first last offset : Int} {r c : Nat} {slot : Slot} :
    (r, c, slot) ∈ rowMoves width height first last offset ↔
      offset ≠ 0 ∧ (r < height ∧ c < width) ∧
        ∃ source : Nat, (source : Int) + offset = r ∧
          (first ≤ source ∧ source ≤ last ∧ source < height) ∧ slot = .copy source c := by
  unfold rowMoves
  by_cases still : offset = 0
  · simp [still]
  · have reached (source : Nat) : (∃ step < (Run.movable first last offset height).length,
        (Run.movable first last offset height).first + step = source) ↔
        first ≤ source ∧ source ≤ last ∧ source < height ∧ 0 ≤ source + offset ∧
          source + offset < height := by
      rw [← Run.mem_movable, Run.indices, List.mem_range'_1]
      constructor
      · rintro ⟨step, bound, rfl⟩
        omega
      · intro inside
        exact ⟨source - (Run.movable first last offset height).first, by omega, by omega⟩
    simp only [still, if_false, List.mem_map, Prod.mk.injEq, moved, ne_eq, not_false_eq_true,
      true_and]
    constructor
    · rintro ⟨⟨column, step⟩, member, target, rfl, rfl⟩
      have bounds := Grid.mem_places.mp member
      have inside := (reached _).mp ⟨step, bounds.2, rfl⟩
      exact ⟨⟨by omega, bounds.1⟩, _, by omega, by omega, rfl⟩
    · rintro ⟨⟨below, inRow⟩, source, target, inside, rfl⟩
      obtain ⟨step, bound, rfl⟩ := (reached source).mpr (by omega)
      exact ⟨(c, step), Grid.mem_places.mpr ⟨inRow, bound⟩, by omega, rfl, rfl⟩

/-- The last change to a cell decides its slot; here all changes to the cell are the same. -/
theorem get?_recordAll_of_mem (pending : Pending) (changes : List (Nat × Nat × Slot))
    {row column : Nat} {slot : Slot} (member : (row, column, slot) ∈ changes)
    (agreed : ∀ other, (row, column, other) ∈ changes → other = slot)
    (inside : row < pending.height ∧ column < pending.width) :
    (pending.recordAll changes).get? row column = some slot := by
  induction changes generalizing pending with
  | nil => exact absurd member List.not_mem_nil
  | cons first more ih =>
    have step : pending.recordAll (first :: more) =
        (pending.record first.1 first.2.1 first.2.2).recordAll more := rfl
    rw [step]
    by_cases again : (row, column, slot) ∈ more
    · exact ih _ again (fun other later => agreed other (List.mem_cons_of_mem _ later))
        (by simpa using inside)
    -- Where no later change names the cell, the first one stands.
    · have here : first = (row, column, slot) :=
        ((List.mem_cons.mp member).resolve_right again).symm
      rw [here, get?_recordAll_of_not_mem, get?_record, if_pos ⟨rfl, rfl, inside⟩]
      rintro ⟨r, c, other⟩ later ⟨rfl, rfl⟩
      have same := agreed other (List.mem_cons_of_mem _ later)
      exact again (same ▸ later)

theorem mem_or_get?_of_recordAll {pending : Pending} {changes : List (Nat × Nat × Slot)}
    {row column : Nat} {slot : Slot}
    (found : (pending.recordAll changes).get? row column = some slot) :
    (row, column, slot) ∈ changes ∨ pending.get? row column = some slot := by
  induction changes generalizing pending with
  | nil => exact .inr found
  | cons first more ih =>
    obtain ⟨r, c, change⟩ := first
    have rest : ((pending.record r c change).recordAll more).get? row column = some slot := found
    rcases ih rest with later | before
    · exact .inl (List.mem_cons_of_mem _ later)
    · rw [get?_record] at before
      split at before
      · next here =>
        obtain ⟨rfl, rfl, -⟩ := here
        cases before
        exact .inl (List.mem_cons_self ..)
      · exact .inr before

@[simp] theorem width_recordAll (pending : Pending) (changes : List (Nat × Nat × Slot)) :
    (pending.recordAll changes).width = pending.width :=
  foldl_keeps (fun _ _ => width_record ..) changes pending

@[simp] theorem height_recordAll (pending : Pending) (changes : List (Nat × Nat × Slot)) :
    (pending.recordAll changes).height = pending.height :=
  foldl_keeps (fun _ _ => height_record ..) changes pending

structure Valid (pending : Pending) : Prop where
  counted : pending.count = pending.slots.entries.countP (!·.isUnchanged)
  sourced : ∀ {row column sourceRow sourceColumn : Nat},
    pending.get? row column = some (.copy sourceRow sourceColumn) →
      sourceRow < pending.height ∧ sourceColumn < pending.width

private theorem count_record (pending : Pending) (row column : Nat) {slot : Slot}
    (changed : slot.isUnchanged = false)
    (counted : pending.count = pending.slots.entries.countP (!·.isUnchanged)) :
    (pending.record row column slot).count =
      (pending.record row column slot).slots.entries.countP (!·.isUnchanged) := by
  obtain ⟨slots, count⟩ := pending
  change count = slots.entries.countP (!·.isUnchanged) at counted
  subst counted
  by_cases inside : row < slots.height ∧ column < slots.width
  · have bound : row * slots.width + column < slots.entries.size := by
      rw [slots.size_eq]
      exact Grid.index_lt inside.2 inside.1
    have before : slots.get? row column = some slots.entries[row * slots.width + column] := by
      simp [Grid.get?, inside.2, bound]
    simp only [record, before, Grid.set, inside.2, if_true, Array.setIfInBounds, bound, dif_pos,
      Array.countP_set, changed, Bool.not_false, Option.some.injEq]
    -- Only the first change to a cell counts, and the entry of a later one was counted before.
    by_cases unchanged : slots.entries[row * slots.width + column] = .unchanged
    · simp [unchanged, Slot.isUnchanged]
    · have counts : (!slots.entries[row * slots.width + column].isUnchanged) = true := by
        simpa using unchanged
      have positive : 0 < slots.entries.countP (!·.isUnchanged) :=
        Array.countP_pos_iff.mpr ⟨_, Array.getElem_mem bound, counts⟩
      simp only [unchanged, counts, if_true, if_false]
      omega
  · have outside := (Grid.get?_eq_none_iff slots row column).mpr inside
    have same : slots.set row column slot = slots := by
      unfold Grid.set
      split
      · next inRow =>
        have beyond : slots.entries.size ≤ row * slots.width + column := by
          rw [Grid.get?, if_pos inRow, Array.getElem?_eq_none_iff] at outside
          exact outside
        simp [Array.setIfInBounds, Nat.not_lt.mpr beyond]
      · rfl
    simp [record, outside, same]

theorem valid_recordAll {pending : Pending} (valid : pending.Valid)
    {changes : List (Nat × Nat × Slot)}
    (recordable : ∀ change ∈ changes, change.2.2.Recordable pending.width pending.height) :
    (pending.recordAll changes).Valid := by
  unfold recordAll
  induction changes generalizing pending with
  | nil => exact valid
  | cons first more ih =>
    rw [List.foldl_cons]
    have now := recordable first (List.mem_cons_self ..)
    apply ih
    · refine ⟨count_record _ _ _ (Slot.isUnchanged_of_recordable now) valid.counted, ?_⟩
      intro row column sourceRow sourceColumn found
      rw [get?_record] at found
      rw [width_record, height_record]
      split at found
      · rw [Option.some.inj found] at now
        exact now
      · exact valid.sourced found
    · intro change later
      rw [width_record, height_record]
      exact recordable change (List.mem_cons_of_mem _ later)

theorem valid_empty (width height : Nat) : (empty width height).Valid := by
  refine ⟨?_, ?_⟩
  · simp [empty, Grid.replicate, Array.countP_replicate, Slot.isUnchanged]
  · intro row column sourceRow sourceColumn found
    rw [get?_empty] at found
    split at found <;> cases found

theorem eq_unchanged_of_isEmpty {pending : Pending} (valid : pending.Valid)
    (isEmpty : pending.isEmpty) {row column : Nat} {slot : Slot}
    (found : pending.get? row column = some slot) : slot = .unchanged := by
  have nothing : pending.slots.entries.countP (!·.isUnchanged) = 0 := by
    rw [← valid.counted]
    exact beq_iff_eq.mp isEmpty
  rw [Array.countP_eq_zero] at nothing
  simp only [get?, Grid.get?] at found
  split at found
  · simpa using nothing slot (Array.mem_of_getElem? found)
  · cases found

end Pending
end CellScreen
