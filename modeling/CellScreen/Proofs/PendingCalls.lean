import Mathlib.Data.Finset.Card
import Mathlib.Data.Finset.Prod
import Mathlib.Data.List.Nodup
import Mathlib.Data.List.Range
import CellScreen.Proofs.Places
import CellScreen.Proofs.Recording

/-! Calls on the pending changes. What a recording call leaves in a slot is said place by place, and
the calls of any sequence keep the slots, their number and the sources of copies in order. -/
namespace CellScreen

inductive Recording where
  | setColumns (row first last : Int) (cell : Cell)
  | copyColumns (row first last offset : Int)
  | copyRows (first last offset : Int)
deriving DecidableEq

namespace Recording

def changes (width height : Nat) : Recording → List (Nat × Nat × Slot)
  | .setColumns row first last cell => Pending.settings width height row first last cell
  | .copyColumns row first last offset => Pending.columnMoves width height row first last offset
  | .copyRows first last offset => Pending.rowMoves width height first last offset

def perform (pending : Pending) : Recording → Pending × Nat
  | .setColumns row first last cell => pending.setColumns row first last cell
  | .copyColumns row first last offset => pending.copyColumns row first last offset
  | .copyRows first last offset => pending.copyRows first last offset

def target (width height row column : Nat) : Recording → Option Slot
  | .setColumns atRow first last cell =>
    if (row : Int) = atRow ∧ first ≤ column ∧ column ≤ last then some (.set cell) else none
  | .copyColumns atRow first last offset =>
    let source := (column : Int) - offset
    if offset ≠ 0 ∧ (row : Int) = atRow ∧ first ≤ source ∧ source ≤ last ∧ 0 ≤ source ∧
        source < width then some (.copy row source.toNat) else none
  | .copyRows first last offset =>
    let source := (row : Int) - offset
    if offset ≠ 0 ∧ first ≤ source ∧ source ≤ last ∧ 0 ≤ source ∧ source < height
      then some (.copy source.toNat column) else none

def places (width height : Nat) (recording : Recording) : Finset (Nat × Nat) :=
  (Finset.range height ×ˢ Finset.range width).filter fun place =>
    (recording.target width height place.1 place.2).isSome

variable {width height : Nat}

theorem perform_eq (pending : Pending) (recording : Recording) :
    recording.perform pending =
      (pending.recordAll (recording.changes pending.width pending.height),
        (recording.changes pending.width pending.height).length) := by
  cases recording <;> rfl

theorem mem_changes_iff {recording : Recording} {row column : Nat} {slot : Slot} :
    (row, column, slot) ∈ recording.changes width height ↔
      (row < height ∧ column < width) ∧
        recording.target width height row column = some slot := by
  cases recording with
  | setColumns atRow first last cell =>
    rw [changes, Pending.mem_settings, target, Option.ite_none_right_eq_some]
    constructor
    · rintro ⟨here, inside, rfl⟩
      exact ⟨⟨here.2, inside.2.2⟩, ⟨here.1, inside.1, inside.2.1⟩, rfl⟩
    · rintro ⟨bounds, here, made⟩
      exact ⟨⟨here.1, bounds.1⟩, ⟨here.2.1, here.2.2, bounds.2⟩, (Option.some.inj made).symm⟩
  | copyColumns atRow first last offset =>
    simp only [changes, Pending.mem_columnMoves, target, Option.ite_none_right_eq_some,
      Option.some.injEq]
    constructor
    · rintro ⟨moves, here, inRow, source, target, inside, rfl⟩
      have origin : (column : Int) - offset = source := by omega
      rw [origin, Int.toNat_natCast]
      exact ⟨⟨here.2, inRow⟩, by omega, rfl⟩
    · rintro ⟨bounds, inside, rfl⟩
      exact ⟨inside.1, by omega, bounds.2, _, by omega, by omega, rfl⟩
  | copyRows first last offset =>
    simp only [changes, Pending.mem_rowMoves, target, Option.ite_none_right_eq_some,
      Option.some.injEq]
    constructor
    · rintro ⟨moves, bounds, source, target, inside, rfl⟩
      have origin : (row : Int) - offset = source := by omega
      rw [origin, Int.toNat_natCast]
      exact ⟨bounds, by omega, rfl⟩
    · rintro ⟨bounds, inside, rfl⟩
      exact ⟨inside.1, bounds, _, by omega, by omega, rfl⟩

theorem of_target_eq_copy {recording : Recording} {row column sourceRow sourceColumn : Nat}
    (inside : row < height ∧ column < width)
    (copies : recording.target width height row column = some (.copy sourceRow sourceColumn)) :
    (sourceRow < height ∧ sourceColumn < width) ∧ (sourceRow, sourceColumn) ≠ (row, column) ∧
      (sourceRow = row ∨ sourceColumn = column) := by
  rw [ne_eq, Prod.mk.injEq]
  cases recording with
  | setColumns atRow first last cell =>
    rw [target, Option.ite_none_right_eq_some] at copies
    cases copies.2
  | copyColumns atRow first last offset =>
    simp only [target, Option.ite_none_right_eq_some, Option.some.injEq, Slot.copy.injEq] at copies
    omega
  | copyRows first last offset =>
    simp only [target, Option.ite_none_right_eq_some, Option.some.injEq, Slot.copy.injEq] at copies
    omega

theorem target_ne_unchanged (recording : Recording) (row column : Nat) :
    recording.target width height row column ≠ some .unchanged := by
  cases recording <;> simp [target]

private theorem recordable_of_mem {recording : Recording} {change : Nat × Nat × Slot}
    (member : change ∈ recording.changes width height) :
    change.2.2.Recordable width height := by
  obtain ⟨row, column, slot⟩ := change
  obtain ⟨inside, records⟩ := mem_changes_iff.mp member
  cases slot with
  | unchanged => exact target_ne_unchanged _ _ _ records
  | copy sourceRow sourceColumn => exact (of_target_eq_copy inside records).1
  | set cell => trivial

@[simp] theorem width_perform (recording : Recording) (pending : Pending) :
    (recording.perform pending).1.width = pending.width := by
  rw [perform_eq, Pending.width_recordAll]

@[simp] theorem height_perform (recording : Recording) (pending : Pending) :
    (recording.perform pending).1.height = pending.height := by
  rw [perform_eq, Pending.height_recordAll]

/-- A recording call leaves its change at the places where it records one, and every other slot as
it was. -/
theorem get?_perform (recording : Recording) (pending : Pending) {row column : Nat}
    (inside : row < pending.height ∧ column < pending.width) :
    (recording.perform pending).1.get? row column =
      (recording.target pending.width pending.height row column).or
        (pending.get? row column) := by
  rw [perform_eq]
  cases records : recording.target pending.width pending.height row column with
  | none =>
    apply Pending.get?_recordAll_of_not_mem
    rintro ⟨r, c, slot⟩ member ⟨rfl, rfl⟩
    cases records.symm.trans (mem_changes_iff.mp member).2
  | some slot =>
    refine Pending.get?_recordAll_of_mem _ _ (mem_changes_iff.mpr ⟨inside, records⟩) ?_ inside
    intro other member
    exact Option.some.inj ((mem_changes_iff.mp member).2.symm.trans records)

private theorem nodup_indices (run : Run) : run.indices.Nodup := List.nodup_range'

/-- No call records two changes at one place. -/
theorem nodup_changes (width height : Nat) (recording : Recording) :
    ((recording.changes width height).map fun change => (change.1, change.2.1)).Nodup := by
  cases recording with
  | setColumns atRow first last cell =>
    simp only [changes, Pending.settings]
    cases indexBelow atRow height with
    | none => exact List.nodup_nil
    | some row =>
      rw [List.map_map]
      exact (nodup_indices _).map fun one other same => (Prod.mk.inj same).2
  | copyColumns atRow first last offset =>
    simp only [changes, Pending.columnMoves]
    cases indexBelow atRow height with
    | none => exact List.nodup_nil
    | some row =>
      dsimp only
      split
      · exact List.nodup_nil
      · rw [List.map_map]
        refine List.Nodup.map_on ?_ (nodup_indices _)
        intro one inside other otherInside same
        have target := (Prod.mk.inj same).2
        rw [Run.mem_movable] at inside otherInside
        simp only [Pending.moved] at target
        omega
  | copyRows first last offset =>
    simp only [changes, Pending.rowMoves]
    split
    · exact List.nodup_nil
    · rw [List.map_map]
      refine List.Nodup.map_on ?_ (Grid.nodup_places _ _)
      rintro ⟨column, step⟩ inside ⟨otherColumn, otherStep⟩ otherInside same
      have bounds := (Grid.mem_places.mp inside).2
      have otherBounds := (Grid.mem_places.mp otherInside).2
      obtain ⟨target, inColumn⟩ := Prod.mk.inj same
      have reached {step : Nat} (below : step < (Run.movable first last offset height).length) :
          (Run.movable first last offset height).first + step ∈
            (Run.movable first last offset height).indices := by
        rw [Run.indices, List.mem_range'_1]
        omega
      have moves := Run.mem_movable.mp (reached bounds)
      have otherMoves := Run.mem_movable.mp (reached otherBounds)
      simp only [Pending.moved] at target inColumn
      rw [Prod.mk.injEq]
      omega

theorem recorded_or_before {recording : Recording} {pending : Pending} {row column : Nat}
    {slot : Slot} (found : (recording.perform pending).1.get? row column = some slot) :
    (row < pending.height ∧ column < pending.width) ∧
      (recording.target pending.width pending.height row column = some slot ∨
        pending.get? row column = some slot) := by
  have inside : row < (recording.perform pending).1.height ∧
      column < (recording.perform pending).1.width := Grid.inside_of_get? found
  rw [width_perform, height_perform] at inside
  rw [get?_perform _ _ inside, Option.or_eq_some_iff] at found
  exact ⟨inside, found.imp_right And.right⟩

/-- The number that a recording call returns is that of the places it records a change at. -/
theorem returned_perform (recording : Recording) (pending : Pending) :
    (recording.perform pending).2 =
      (recording.places pending.width pending.height).card := by
  have same : ((recording.changes pending.width pending.height).map
      fun change => (change.1, change.2.1)).toFinset =
        recording.places pending.width pending.height := by
    ext ⟨row, column⟩
    simp only [List.mem_toFinset, List.mem_map, places, Finset.mem_filter, Finset.mem_product,
      Finset.mem_range, Prod.mk.injEq]
    constructor
    · rintro ⟨⟨r, c, slot⟩, member, rfl, rfl⟩
      obtain ⟨inside, records⟩ := mem_changes_iff.mp member
      exact ⟨inside, Option.isSome_of_eq_some records⟩
    · rintro ⟨inside, records⟩
      obtain ⟨slot, records⟩ := Option.isSome_iff_exists.mp records
      exact ⟨(row, column, slot), mem_changes_iff.mpr ⟨inside, records⟩, rfl, rfl⟩
  rw [perform_eq, ← same, List.toFinset_card_of_nodup (nodup_changes ..), List.length_map]

end Recording

inductive PendingCall where
  | record (recording : Recording)
  | clear
  | take
deriving DecidableEq

namespace Pending

def step (pending : Pending) : PendingCall → Pending
  | .record recording => (recording.perform pending).1
  | .clear => pending.clear
  | .take => pending.take.2

def run (pending : Pending) (calls : List PendingCall) : Pending := calls.foldl step pending

/-- The slots of a grid of the given size are in order: their number of changes is known, and each
copy takes its cell from another place of its row or column. -/
structure Sound (width height : Nat) (pending : Pending) : Prop where
  width_eq : pending.width = width
  height_eq : pending.height = height
  valid : pending.Valid
  aligned : ∀ {row column sourceRow sourceColumn : Nat},
    pending.get? row column = some (.copy sourceRow sourceColumn) →
      (sourceRow, sourceColumn) ≠ (row, column) ∧ (sourceRow = row ∨ sourceColumn = column)

variable {width height : Nat} {pending : Pending}

theorem sound_empty (width height : Nat) : (empty width height).Sound width height := by
  refine ⟨rfl, rfl, valid_empty width height, ?_⟩
  intro row column sourceRow sourceColumn found
  rw [get?_empty] at found
  split at found <;> cases found

private theorem Sound.record (sound : pending.Sound width height) (recording : Recording) :
    (recording.perform pending).1.Sound width height := by
  refine ⟨(recording.width_perform pending).trans sound.width_eq,
    (recording.height_perform pending).trans sound.height_eq, ?_, ?_⟩
  · rw [Recording.perform_eq]
    exact valid_recordAll sound.valid fun change => Recording.recordable_of_mem
  · intro row column sourceRow sourceColumn found
    obtain ⟨inside, copies | before⟩ := Recording.recorded_or_before found
    · exact (Recording.of_target_eq_copy inside copies).2
    · exact sound.aligned before

private theorem Sound.clear (sound : pending.Sound width height) :
    pending.clear.Sound width height := by
  rw [Pending.clear, sound.width_eq, sound.height_eq]
  exact sound_empty width height

theorem sound_step (sound : pending.Sound width height) (call : PendingCall) :
    (pending.step call).Sound width height := by
  cases call with
  | record recording => exact sound.record recording
  | clear => exact sound.clear
  | take => exact sound.clear

theorem sound_run (sound : pending.Sound width height) (calls : List PendingCall) :
    (pending.run calls).Sound width height := by
  apply List.foldlRecOn
  · exact sound
  · intro reached sound call member
    exact sound_step sound call

theorem Valid.isEmpty_iff (valid : pending.Valid) :
    pending.isEmpty ↔ ∀ slot ∈ pending.slots.entries, slot = .unchanged := by
  rw [isEmpty, beq_iff_eq, valid.counted, Array.countP_eq_zero]
  simp

end Pending
end CellScreen
