import CellScreen.Proofs.PixelCells
import CellScreen.Proofs.Request

/-! Joining flushes and then only reads. Once a screen is flushed nothing is left to draw: flushing
it again or letting another viewer join changes nothing but the record of calls. -/
namespace CellScreen

namespace Display

variable {display : Display}

private theorem flushOperations_of_isEmpty (isEmpty : display.pending.isEmpty) :
    display.flushOperations = (display, .nothing) := by
  simp only [flushOperations, flushPlan, isEmpty, if_true]

theorem isEmpty_flushOperations (display : Display) :
    display.flushOperations.1.pending.isEmpty := by
  unfold flushOperations
  split
  · next isEmpty => exact isEmpty
  · rfl

def Marked (display : Display) : Prop := display.pending.isEmpty → display.unflushedSet = false

theorem marked_resize (display : Display) (width height : Nat) :
    (display.resize width height).1.Marked := by
  intro isEmpty
  rw [unflushedSet_resize, isEmpty, Bool.not_true]

theorem marked_flushOperations (marked : display.Marked) : display.flushOperations.1.Marked := by
  unfold flushOperations
  split
  · exact marked
  · exact fun _ => rfl

end Display

namespace Pending

private theorem count_le_count_recordAll (pending : Pending) (changes : List (Nat × Nat × Slot)) :
    pending.count ≤ (pending.recordAll changes).count := by
  unfold recordAll
  induction changes generalizing pending with
  | nil => exact Nat.le_refl _
  | cons first more ih =>
    refine Nat.le_trans ?_ (ih _)
    simp only [record]
    split <;> omega

private theorem isEmpty_of_recordAll {pending : Pending} {changes : List (Nat × Nat × Slot)}
    (isEmpty : (pending.recordAll changes).isEmpty) : pending.isEmpty := by
  have grown := count_le_count_recordAll pending changes
  simp only [Pending.isEmpty, beq_iff_eq] at isEmpty ⊢
  omega

private theorem settings_eq_nil_of_isEmpty {pending : Pending} (valid : pending.Valid)
    {row first last : Int} {cell : Cell} (isEmpty : (pending.recordAll
      (settings pending.width pending.height row first last cell)).isEmpty) :
    settings pending.width pending.height row first last cell = [] := by
  refine List.eq_nil_iff_forall_not_mem.mpr ?_
  rintro ⟨r, c, slot⟩ member
  obtain ⟨atRow, inside, rfl⟩ := mem_settings.mp member
  have found := get?_recordAll_of_mem pending _ member
    (fun other again => (mem_settings.mp again).2.2) ⟨atRow.2, inside.2.2⟩
  have recordable : ∀ change ∈ settings pending.width pending.height row first last cell,
      change.2.2.Recordable pending.width pending.height := by
    intro change inside
    have requested : change ∈ (Request.setColumns row first last cell).changes pending.width
        pending.height := inside
    exact Request.recordable_of_mem_changes requested
  cases eq_unchanged_of_isEmpty (valid_recordAll valid recordable) isEmpty found

end Pending

namespace Screen

variable {screen other : Screen}

theorem marked_step (consistent : screen.display.Consistent) (marked : screen.display.Marked)
    (request : Request) : (screen.step request).display.Marked := by
  cases request with
  | setColumns row first last cell =>
    intro isEmpty
    have none := Pending.settings_eq_nil_of_isEmpty consistent.valid isEmpty
    have flag := marked (Pending.isEmpty_of_recordAll isEmpty)
    simp only [step, update, Display.setColumns, Pending.setColumns, none, flag, List.length_nil,
      Nat.lt_irrefl, decide_false, Bool.or_false]
  | copyColumns | copyRows => exact fun isEmpty => marked (Pending.isEmpty_of_recordAll isEmpty)
  | resize columns rows => exact Display.marked_resize screen.display columns rows
  | setFont family size dpi =>
    obtain ⟨font, resolution, metrics, -, set⟩ := screen.step_setFont family size dpi
    rw [set]
    exact marked
  | assignColor index color =>
    obtain ⟨palette, set⟩ := screen.step_assignColor index color
    rw [set]
    exact marked
  | resetPalette | select | clearSelect => exact marked
  | flushOperations | flush | join => exact Display.marked_flushOperations marked

theorem marked_run (consistent : screen.display.Consistent) (marked : screen.display.Marked)
    (requests : List Request) : (screen.run requests).display.Marked := by
  apply run_induction_of_consistent (motive := fun reached => reached.display.Marked) consistent
    marked
  intro reached consistent marked request
  exact marked_step consistent marked request

structure Alike (screen other : Screen) : Prop where
  display : screen.display = other.display
  background : screen.surface.background = other.surface.background
  pending : screen.surface.pending = other.surface.pending
  committed : screen.surface.committed = other.surface.committed
  highlighted : screen.surface.highlighted = other.surface.highlighted

private theorem Alike.trans {third : Screen} (first : screen.Alike other)
    (second : other.Alike third) :
    screen.Alike third :=
  ⟨first.display.trans second.display, first.background.trans second.background,
    first.pending.trans second.pending, first.committed.trans second.committed,
    first.highlighted.trans second.highlighted⟩

/-- What a viewer that joins is sent does not depend on the record of calls. -/
theorem Alike.viewerInstructions_eq (alike : screen.Alike other) :
    screen.viewerInstructions = other.viewerInstructions := by
  simp only [viewerInstructions, Surface.replayInstructions, alike.display, alike.committed]

structure Idle (screen : Screen) : Prop where
  isEmpty : screen.display.pending.isEmpty
  committed : screen.surface.committed = screen.surface.pending

private theorem idle_flush (screen : Screen) : screen.flush.1.Idle :=
  ⟨Display.isEmpty_flushOperations screen.display, rfl⟩

private theorem flush_of_isEmpty (isEmpty : screen.display.pending.isEmpty) :
    screen.flush = ({ screen with surface := screen.surface.apply .flush }, .nothing) := by
  simp only [flush, flushOperations, Display.flushOperations_of_isEmpty isEmpty]
  rfl

private theorem Idle.alike_flush (idle : screen.Idle) : screen.flush.1.Alike screen := by
  rw [flush_of_isEmpty idle.isEmpty]
  exact ⟨rfl, rfl, rfl, idle.committed.symm, rfl⟩

theorem Idle.alike_run (idle : screen.Idle) (count : Nat) :
    (screen.run (List.replicate count .flush)).Alike screen := by
  induction count generalizing screen with
  | zero => exact ⟨rfl, rfl, rfl, rfl, rfl⟩
  | succ count ih =>
    rw [List.replicate_succ]
    exact (ih (idle_flush screen)).trans idle.alike_flush

/-- However often a screen is flushed before a viewer joins, it is left as by one flush. -/
theorem alike_join (screen : Screen) (count : Nat) :
    (screen.run (List.replicate count .flush)).join.1.Alike screen.flush.1 := by
  have flushed : (screen.run (List.replicate count .flush)).join.1 =
      screen.flush.1.run (List.replicate count .flush) := by
    calc (screen.run (List.replicate count .flush)).join.1
        = screen.run (List.replicate count .flush ++ [.flush]) := by
          rw [run_append]
          rfl
      _ = screen.run (List.replicate (count + 1) .flush) := by rw [List.replicate_succ']
      _ = screen.flush.1.run (List.replicate count .flush) := by
        rw [List.replicate_succ]
        rfl
  rw [flushed]
  exact (idle_flush screen).alike_run count

/-- On a screen that any requests have led to, whatever its surface holds, a viewer that joins is
sent the same instructions after any number of flushes, and the screen is left as by a single one:
nothing is pending, and the next viewer to join is sent the same without a drawing call. -/
theorem join_after_flushes {start : Surface} {fonts : FontSource} {config : Config}
    {screen : Screen} (made : Screen.new start fonts config = .ok screen)
    (requests : List Request) (surface : Surface) :
    let reached : Screen := ⟨(screen.run requests).display, surface⟩
    (∀ count, (reached.run (List.replicate count .flush)).join.2 = reached.join.2 ∧
      (reached.run (List.replicate count .flush)).join.1.Alike reached.flush.1) ∧
    (∀ {row column : Nat} {slot : Slot},
      reached.join.1.display.pending.get? row column = some slot → slot = .unchanged) ∧
    reached.join.1.display.unflushedSet = false ∧
    reached.join.1.join.2 = reached.join.2 ∧
    reached.join.1.join.1.surface.calls = reached.join.1.surface.calls.push .flush := by
  intro reached
  obtain ⟨begin, consistent, -, -, rfl⟩ := exists_start made
  have consistentNew := Display.consistent_resize begin config.columns config.rows
  have consistentReached : reached.display.Consistent := consistent_run consistentNew requests
  have marked : reached.display.Marked :=
    marked_run consistentNew (Display.marked_resize begin config.columns config.rows) requests
  have idle := idle_flush reached
  refine ⟨fun count => ⟨?_, alike_join reached count⟩, ?_, ?_, ?_, ?_⟩
  · exact (alike_join reached count).viewerInstructions_eq
  · exact Display.unchanged_flushOperations consistentReached
  · exact Display.marked_flushOperations marked idle.isEmpty
  · exact idle.alike_flush.viewerInstructions_eq
  · change reached.flush.1.flush.1.surface.calls = reached.flush.1.surface.calls.push .flush
    rw [flush_of_isEmpty idle.isEmpty]
    rfl

/-- Viewers that join while a copy over a set cell is pending, cells are selected and the surface is
another one. -/
theorem join_after_flushes_of_selected :
    let screen := ofPixels .empty 3 2
    let requests : List Request := [.setColumns 0 0 1 (.ofChar 'a' {}), .flush,
      .setColumns 1 1 1 (.ofChar 'b' {}), .copyRows 0 0 1, .select ⟨0, 1⟩ ⟨1, 0⟩]
    let reached : Screen := ⟨(screen.run requests).display, .ofBackground .white⟩
    (∀ count, (reached.run (List.replicate count .flush)).join.2 = reached.join.2 ∧
      (reached.run (List.replicate count .flush)).join.1.Alike reached.flush.1) ∧
    (∀ {row column : Nat} {slot : Slot},
      reached.join.1.display.pending.get? row column = some slot → slot = .unchanged) ∧
    reached.join.1.display.unflushedSet = false ∧
    reached.join.1.join.2 = reached.join.2 ∧
    reached.join.1.join.1.surface.calls = reached.join.1.surface.calls.push .flush :=
  join_after_flushes (new_ofPixels ..) _ _

end Screen
end CellScreen
