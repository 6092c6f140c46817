import CellScreen.Proofs.PixelCells
import CellScreen.Proofs.Joining

/-! The display remembers whether cells were set since the last flush. It never forgets one that
still waits, and it remembers nothing once nothing waits. -/
namespace CellScreen

def Request.sizeAfter (size : Nat × Nat) : Request → Nat × Nat
  | .resize columns rows => (columns, rows)
  | _ => size

namespace Display

def Remembers (display : Display) : Prop :=
  ∀ row column cell, display.pending.get? row column = some (.set cell) →
    display.unflushedSet = true

def size (display : Display) : Nat × Nat := (display.width, display.height)

theorem remembers_resize (display : Display) (width height : Nat) :
    (display.resize width height).1.Remembers := by
  intro row column cell found
  rw [unflushedSet_resize, Bool.not_eq_true', Bool.eq_false_iff]
  intro isEmpty
  have valid := (display.consistent_resize width height).valid
  cases Pending.eq_unchanged_of_isEmpty valid isEmpty found

theorem remembers_flushOperations {display : Display} (consistent : display.Consistent) :
    display.flushOperations.1.Remembers := by
  intro row column cell found
  cases unchanged_flushOperations consistent found

private theorem remembers_setColumns {display : Display} (remembers : display.Remembers)
    (row first last : Int) (cell : Cell) :
    (display.setColumns row first last cell).Remembers := by
  intro r c waiting found
  -- What waits was set now, so that something was recorded, or it waited before.
  rcases Pending.mem_or_get?_of_recordAll found with member | before
  · have recorded := List.length_pos_of_mem member
    simp only [setColumns, Pending.setColumns, recorded, decide_true, Bool.or_true]
  · have remembered := remembers r c waiting before
    simp only [setColumns, remembered, Bool.true_or]

private theorem remembers_of_copies {display next : Display} (remembers : display.Remembers)
    {changes : List (Nat × Nat × Slot)} (pending : next.pending = display.pending.recordAll changes)
    (flag : next.unflushedSet = display.unflushedSet)
    (copies : ∀ row column cell, (row, column, Slot.set cell) ∉ changes) :
    next.Remembers := by
  intro row column cell found
  rw [pending] at found
  rcases Pending.mem_or_get?_of_recordAll found with member | before
  · exact absurd member (copies row column cell)
  · rw [flag]
    exact remembers row column cell before

end Display

namespace Screen

variable {screen : Screen}

theorem remembers_step (consistent : screen.display.Consistent)
    (remembers : screen.display.Remembers) (request : Request) :
    (screen.step request).display.Remembers := by
  cases request with
  | setColumns row first last cell =>
    exact Display.remembers_setColumns remembers row first last cell
  | copyColumns row first last offset =>
    have recorded : Recorded screen (screen.step (.copyColumns row first last offset)) _ :=
      screen.step_recorded rfl
    refine Display.remembers_of_copies remembers recorded.pending rfl fun r c cell member => ?_
    obtain ⟨-, -, -, source, -, -, copies⟩ := Pending.mem_columnMoves.mp member
    cases copies
  | copyRows first last offset =>
    have recorded : Recorded screen (screen.step (.copyRows first last offset)) _ :=
      screen.step_recorded rfl
    refine Display.remembers_of_copies remembers recorded.pending rfl fun r c cell member => ?_
    obtain ⟨-, -, source, -, -, copies⟩ := Pending.mem_rowMoves.mp member
    cases copies
  | resize columns rows => exact screen.display.remembers_resize columns rows
  | setFont family size dpi =>
    obtain ⟨font, resolution, metrics, -, set⟩ := screen.step_setFont family size dpi
    rw [set]
    exact remembers
  | assignColor index color =>
    obtain ⟨palette, set⟩ := screen.step_assignColor index color
    rw [set]
    exact remembers
  | flushOperations | flush | join => exact Display.remembers_flushOperations consistent
  | resetPalette | select | clearSelect => exact remembers

theorem remembers_run (consistent : screen.display.Consistent)
    (remembers : screen.display.Remembers) (requests : List Request) :
    (screen.run requests).display.Remembers := by
  apply run_induction_of_consistent (motive := fun reached => reached.display.Remembers) consistent
    remembers
  intro reached consistent remembers request
  exact remembers_step consistent remembers request

theorem size_step (screen : Screen) (request : Request) :
    (screen.step request).display.size = request.sizeAfter screen.display.size := by
  cases quiet : request.draws with
  | false =>
    have committed := (screen.step_recorded quiet).committed
    have kept : request.sizeAfter screen.display.size = screen.display.size := by
      cases request with
      | resize => cases quiet
      | _ => rfl
    rw [kept, Display.size, Display.size, Display.width, Display.height, committed]
    rfl
  | true =>
    cases request with
    | resize columns rows =>
      exact Prod.ext (Display.width_resize ..) (Display.height_resize ..)
    | flushOperations | flush | join =>
      exact Prod.ext (Display.width_flushOperations _) (Display.height_flushOperations _)
    | _ => cases quiet

theorem size_run (screen : Screen) (requests : List Request) :
    (screen.run requests).display.size = requests.foldl Request.sizeAfter screen.display.size := by
  unfold run
  induction requests generalizing screen with
  | nil => rfl
  | cons request requests ih => rw [List.foldl_cons, List.foldl_cons, ih, size_step]

/-- Whatever is asked of a new screen, a cell that waits to be set is remembered, what is remembered
is pending, and a flush leaves nothing to remember, also where nothing was pending. The pending
changes and the committed cells both have the size that was last asked for. -/
theorem unflushedSet_follows_slots {surface : Surface} {fonts : FontSource} {config : Config}
    {screen : Screen} (made : Screen.new surface fonts config = .ok screen)
    (requests : List Request) :
    let reached := (screen.run requests).display
    let size := requests.foldl Request.sizeAfter (config.columns, config.rows)
    (∀ row column cell, reached.pending.get? row column = some (.set cell) →
      reached.unflushedSet = true) ∧
    (reached.unflushedSet = true → reached.pending.isEmpty = false) ∧
    reached.flushOperations.1.unflushedSet = false ∧
    (∀ request ∈ [.flushOperations, .flush, .join],
      ((screen.run requests).step request).display.unflushedSet = false) ∧
    (reached.width, reached.height) = size ∧
    (reached.pending.width, reached.pending.height) = size ∧
    reached.pending.slots.entries.size = size.1 * size.2 ∧
    reached.committed.entries.size = size.1 * size.2 := by
  intro reached size
  obtain ⟨start, -, -, -, rfl⟩ := exists_start made
  have consistentNew := start.consistent_resize config.columns config.rows
  have consistent : reached.Consistent := consistent_run consistentNew requests
  have remembers : reached.Remembers :=
    remembers_run consistentNew (start.remembers_resize config.columns config.rows) requests
  have marked : reached.Marked :=
    marked_run consistentNew (start.marked_resize config.columns config.rows) requests
  have flushed : reached.flushOperations.1.unflushedSet = false :=
    Display.marked_flushOperations marked reached.isEmpty_flushOperations
  have sized : (reached.width, reached.height) = size := by
    have sizeNew : (start.resize config.columns config.rows).1.size =
        (config.columns, config.rows) :=
      Prod.ext (Display.width_resize ..) (Display.height_resize ..)
    refine (size_run _ requests).trans ?_
    rw [display_of_resize, sizeNew]
  have pendingSized : (reached.pending.width, reached.pending.height) = size := by
    rw [consistent.width_eq, consistent.height_eq, sized]
  refine ⟨remembers, fun set => ?_, flushed, ?_, sized, pendingSized, ?_, ?_⟩
  · rw [Bool.eq_false_iff]
    intro isEmpty
    rw [marked isEmpty] at set
    cases set
  · intro request member
    simp only [List.mem_cons, List.not_mem_nil, or_false] at member
    rcases member with rfl | rfl | rfl <;> exact flushed
  · rw [← pendingSized]
    exact reached.pending.slots.size_eq
  · rw [← sized]
    exact reached.committed.size_eq

/-- Of two set cells one is copied over before the flush. -/
theorem unflushedSet_follows_slots_of_overwritten :
    let requests : List Request := [.flush, .resize 2 1, .setColumns 0 0 1 (.ofChar 'a' {}),
      .copyColumns 0 1 1 (-1)]
    let reached := ((ofPixels .empty 3 2).run requests).display
    reached.pending.get? 0 1 = some (.set (.ofChar 'a' {})) ∧
    reached.unflushedSet = true ∧ reached.pending.isEmpty = false ∧
    reached.flushOperations.1.unflushedSet = false ∧
    (reached.width, reached.height) = (2, 1) ∧
    (reached.pending.width, reached.pending.height) = (2, 1) ∧
    reached.pending.slots.entries.size = 2 * 1 ∧ reached.committed.entries.size = 2 * 1 := by
  intro requests reached
  have waiting : reached.pending.get? 0 1 = some (.set (.ofChar 'a' {})) := by decide +kernel
  obtain ⟨remembered, pending, flushed, -, sized, pendingSized, slots, cells⟩ :=
    unflushedSet_follows_slots (new_ofPixels .empty 3 2) requests
  have unflushed := remembered 0 1 _ waiting
  exact ⟨waiting, unflushed, pending unflushed, flushed, sized, pendingSized, slots,
    cells⟩

end Screen
end CellScreen
