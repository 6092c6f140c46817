import CellScreen.Cell
import CellScreen.Grid

/-! Pending changes: for every cell its outstanding change since the last flush. The source of
a copy is always a committed cell, so only the last change recorded for a cell counts. -/
namespace CellScreen

inductive Slot where
  | unchanged
  | copy (row column : Nat)
  | set (cell : Cell)
deriving DecidableEq, Repr

def Slot.isUnchanged : Slot → Bool
  | .unchanged => true
  | _ => false

structure Pending where
  slots : Grid Slot
  count : Nat
deriving DecidableEq

structure Run where
  first : Nat
  length : Nat
deriving DecidableEq, Repr

def Run.indices (run : Run) : List Nat := List.range' run.first run.length

def Run.between (low high : Int) : Run := ⟨low.toNat, (high + 1 - low).toNat⟩

def Run.clamped (first last : Int) (size : Nat) : Run :=
  .between (max first 0) (min last (size - 1))

def Run.movable (first last offset : Int) (size : Nat) : Run :=
  .between (max (max first 0) (-offset)) (min (min last (size - 1)) (size - 1 - offset))

def indexBelow (index : Int) (size : Nat) : Option Nat :=
  if 0 ≤ index ∧ index < size then some index.toNat else none

namespace Pending

def empty (width height : Nat) : Pending := ⟨.replicate width height .unchanged, 0⟩

def ofSlots (slots : Grid Slot) : Pending :=
  ⟨slots, slots.entries.countP (!·.isUnchanged)⟩

def width (pending : Pending) : Nat := pending.slots.width

def height (pending : Pending) : Nat := pending.slots.height

def isEmpty (pending : Pending) : Bool := pending.count == 0

def get? (pending : Pending) (row column : Nat) : Option Slot := pending.slots.get? row column

def record (pending : Pending) (row column : Nat) (slot : Slot) : Pending :=
  let ⟨slots, count⟩ := pending
  let before := slots.get? row column
  ⟨slots.set row column slot, if before = some .unchanged then count + 1 else count⟩

def recordAll (pending : Pending) (changes : List (Nat × Nat × Slot)) : Pending :=
  changes.foldl (fun pending (row, column, slot) => pending.record row column slot) pending

def moved (index : Nat) (offset : Int) : Nat := (index + offset).toNat

def columnMoves (width height : Nat) (row first last offset : Int) : List (Nat × Nat × Slot) :=
  match indexBelow row height with
  | none => []
  | some row =>
    if offset = 0 then []
    else (Run.movable first last offset width).indices.map fun column =>
      (row, moved column offset, .copy row column)

def rowMoves (width height : Nat) (first last offset : Int) : List (Nat × Nat × Slot) :=
  if offset = 0 then []
  else
    let run := Run.movable first last offset height
    (Grid.places run.length width).map fun (column, step) =>
      (moved (run.first + step) offset, column, .copy (run.first + step) column)

def settings (width height : Nat) (row first last : Int) (cell : Cell) : List (Nat × Nat × Slot) :=
  match indexBelow row height with
  | none => []
  | some row => (Run.clamped first last width).indices.map fun column => (row, column, .set cell)

def copyColumns (pending : Pending) (row first last offset : Int) : Pending × Nat :=
  let changes := columnMoves pending.width pending.height row first last offset
  (pending.recordAll changes, changes.length)

def copyRows (pending : Pending) (first last offset : Int) : Pending × Nat :=
  let changes := rowMoves pending.width pending.height first last offset
  (pending.recordAll changes, changes.length)

def setColumns (pending : Pending) (row first last : Int) (cell : Cell) : Pending × Nat :=
  let changes := settings pending.width pending.height row first last cell
  (pending.recordAll changes, changes.length)

def clear (pending : Pending) : Pending := empty pending.width pending.height

def take (pending : Pending) : Grid Slot × Pending := (pending.slots, pending.clear)

@[simp] theorem width_record (pending : Pending) (row column : Nat) (slot : Slot) :
    (pending.record row column slot).width = pending.width := Grid.width_set ..

@[simp] theorem height_record (pending : Pending) (row column : Nat) (slot : Slot) :
    (pending.record row column slot).height = pending.height := Grid.height_set ..

theorem get?_record (pending : Pending) (row column : Nat) (slot : Slot)
    (otherRow otherColumn : Nat) :
    (pending.record row column slot).get? otherRow otherColumn =
      if row = otherRow ∧ column = otherColumn ∧ row < pending.height ∧ column < pending.width
      then some slot else pending.get? otherRow otherColumn :=
  Grid.get?_set ..

theorem get?_recordAll_of_not_mem (pending : Pending) (changes : List (Nat × Nat × Slot))
    {row column : Nat} (unnamed : ∀ change ∈ changes, ¬ (change.1 = row ∧ change.2.1 = column)) :
    (pending.recordAll changes).get? row column = pending.get? row column := by
  unfold recordAll
  induction changes generalizing pending with
  | nil => rfl
  | cons first more ih =>
    have apart := unnamed first (List.mem_cons_self ..)
    have rest := fun change member => unnamed change (List.mem_cons_of_mem _ member)
    rw [List.foldl_cons, ih _ rest, get?_record, if_neg]
    exact fun all => apart ⟨all.1, all.2.1⟩

theorem get?_empty (width height row column : Nat) :
    (empty width height).get? row column =
      if row < height ∧ column < width then some .unchanged else none :=
  Grid.get?_replicate ..

end Pending
end CellScreen
