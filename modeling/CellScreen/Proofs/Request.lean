import CellScreen.Proofs.Recording
import CellScreen.Screen

/-! Runs of a screen. What can be asked of a screen is a request, and a run carries out requests
one after the other. Most requests only record changes; a resize and a flush also draw. -/
namespace CellScreen

theorem exists_ok_of_bind {ε α β : Type} {first : Except ε α} {second : α → Except ε β}
    {result : β} (success : first >>= second = .ok result) :
    ∃ value, first = .ok value ∧ second value = .ok result := by
  cases first with
  | error fault => cases success
  | ok value => exact ⟨value, rfl, success⟩

inductive Request where
  | setColumns (row first last : Int) (cell : Cell)
  | copyColumns (row first last offset : Int)
  | copyRows (first last offset : Int)
  | resize (columns rows : Nat)
  | setFont (family : Option String) (size : Option Number.Single) (dpi : Nat)
  | assignColor (index : Int) (color : Rgb)
  | resetPalette
  | select (start finish : Point)
  | clearSelect
  | flushOperations
  | flush
  | join
deriving DecidableEq

namespace Request

def changes (width height : Nat) : Request → List (Nat × Nat × Slot)
  | .setColumns row first last cell => Pending.settings width height row first last cell
  | .copyColumns row first last offset => Pending.columnMoves width height row first last offset
  | .copyRows first last offset => Pending.rowMoves width height first last offset
  | _ => []

def draws : Request → Bool
  | .resize .. | .flushOperations | .flush | .join => true
  | _ => false

theorem recordable_of_mem_changes {request : Request} {width height : Nat}
    {change : Nat × Nat × Slot} (member : change ∈ request.changes width height) :
    change.2.2.Recordable width height := by
  obtain ⟨row, column, slot⟩ := change
  cases request with
  | setColumns =>
    obtain ⟨-, -, rfl⟩ := Pending.mem_settings.mp member
    trivial
  | copyColumns =>
    obtain ⟨-, atRow, -, source, -, inside, rfl⟩ := Pending.mem_columnMoves.mp member
    exact ⟨atRow.2, inside.2.2⟩
  | copyRows =>
    obtain ⟨-, inRow, source, -, inside, rfl⟩ := Pending.mem_rowMoves.mp member
    exact ⟨inside.2.2, inRow.2⟩
  | _ => exact absurd member List.not_mem_nil

theorem eq_of_mem_changes {request : Request} {width height row column : Nat} {first second : Slot}
    (one : (row, column, first) ∈ request.changes width height)
    (other : (row, column, second) ∈ request.changes width height) : first = second := by
  cases request with
  | setColumns =>
    obtain ⟨-, -, rfl⟩ := Pending.mem_settings.mp one
    obtain ⟨-, -, rfl⟩ := Pending.mem_settings.mp other
    rfl
  | copyColumns =>
    obtain ⟨-, -, -, source, target, -, rfl⟩ := Pending.mem_columnMoves.mp one
    obtain ⟨-, -, -, source', target', -, rfl⟩ := Pending.mem_columnMoves.mp other
    have same : source = source' := by omega
    rw [same]
  | copyRows =>
    obtain ⟨-, -, source, target, -, rfl⟩ := Pending.mem_rowMoves.mp one
    obtain ⟨-, -, source', target', -, rfl⟩ := Pending.mem_rowMoves.mp other
    have same : source = source' := by omega
    rw [same]
  | _ => exact absurd one List.not_mem_nil

end Request

namespace Surface

@[simp] theorem background_applyAll (surface : Surface) (calls : List Call) :
    (surface.applyAll calls).background = surface.background := by
  have keeps (surface : Surface) (call : Call) :
      (surface.apply call).background = surface.background := rfl
  exact foldl_keeps keeps calls surface

theorem pending_applyAll (surface : Surface) (calls : List Call) :
    (surface.applyAll calls).pending =
      calls.foldl (drawCall surface.background) surface.pending := by
  unfold applyAll
  induction calls generalizing surface with
  | nil => rfl
  | cons call calls ih => rw [List.foldl_cons, ih]; rfl

end Surface

namespace Screen

def step (screen : Screen) : Request → Screen
  | .setColumns row first last cell => screen.update (·.setColumns row first last cell)
  | .copyColumns row first last offset => screen.update (·.copyColumns row first last offset)
  | .copyRows first last offset => screen.update (·.copyRows first last offset)
  | .resize columns rows => screen.perform (·.resize columns rows)
  | .setFont family size dpi =>
    match screen.display.setFont family size dpi with
    | .ok display => { screen with display }
    | .error _ => screen
  | .assignColor index color =>
    match screen.display.assignColor index color with
    | .ok display => { screen with display }
    | .error _ => screen
  | .resetPalette => screen.update (·.resetPalette)
  | .select start finish => screen.perform (·.select start finish)
  | .clearSelect => screen.perform (·.clearSelect)
  | .flushOperations => screen.flushOperations.1
  | .flush => screen.flush.1
  | .join => screen.join.1

def run (screen : Screen) (requests : List Request) : Screen := requests.foldl step screen

theorem run_append (screen : Screen) (requests more : List Request) :
    screen.run (requests ++ more) = (screen.run requests).run more := List.foldl_append ..

theorem run_induction {motive : Screen → Prop} {screen : Screen} {requests : List Request}
    (start : motive screen)
    (step : ∀ reached, motive reached → ∀ request ∈ requests, motive (reached.step request)) :
    motive (screen.run requests) := List.foldlRecOn requests _ start step

/-- A change of the font sets metrics that the fonts answer; where they answer none, all stays. -/
theorem step_setFont (screen : Screen) (family : Option String) (size : Option Number.Single)
    (dpi : Nat) : ∃ font resolution metrics,
      (screen.display.fonts font resolution = .ok metrics ∨
        font = screen.display.font ∧ resolution = screen.display.dpi ∧
          metrics = screen.display.metrics) ∧
      screen.step (.setFont family size dpi) =
        { screen with display := { screen.display with font, dpi := resolution, metrics } } := by
  simp only [step]
  cases changed : screen.display.setFont family size dpi with
  | error fault => exact ⟨_, _, _, .inr ⟨rfl, rfl, rfl⟩, rfl⟩
  | ok display =>
    obtain ⟨metrics, answered, made⟩ := exists_ok_of_bind changed
    cases Except.ok.inj made
    exact ⟨_, _, metrics, .inl answered, rfl⟩

theorem step_assignColor (screen : Screen) (index : Int) (color : Rgb) : ∃ palette,
    screen.step (.assignColor index color) =
      { screen with display := { screen.display with palette } } := by
  simp only [step]
  cases changed : screen.display.assignColor index color with
  | error fault => exact ⟨screen.display.palette, rfl⟩
  | ok display =>
    obtain ⟨palette, -, made⟩ := exists_ok_of_bind changed
    cases Except.ok.inj made
    exact ⟨palette, rfl⟩

structure Recorded (screen next : Screen) (changes : List (Nat × Nat × Slot)) : Prop where
  pending : next.display.pending = screen.display.pending.recordAll changes
  committed : next.display.committed = screen.display.committed
  canvas : next.surface.pending = screen.surface.pending
  background : next.surface.background = screen.surface.background

theorem step_recorded (screen : Screen) {request : Request} (quiet : request.draws = false) :
    Recorded screen (screen.step request)
      (request.changes screen.display.pending.width screen.display.pending.height) := by
  cases request with
  | resize | flushOperations | flush | join => cases quiet
  | setFont family size dpi =>
    obtain ⟨font, resolution, metrics, -, set⟩ := screen.step_setFont family size dpi
    rw [set]
    exact ⟨rfl, rfl, rfl, rfl⟩
  | assignColor index color =>
    obtain ⟨palette, set⟩ := screen.step_assignColor index color
    rw [set]
    exact ⟨rfl, rfl, rfl, rfl⟩
  | _ => exact ⟨rfl, rfl, rfl, rfl⟩

end Screen

namespace Display

structure Consistent (display : Display) : Prop where
  width_eq : display.pending.width = display.width
  height_eq : display.pending.height = display.height
  valid : display.pending.Valid

theorem inside_of_slot {display : Display} (consistent : display.Consistent) {row column : Nat}
    {slot : Slot} (found : display.pending.get? row column = some slot) :
    row < display.height ∧ column < display.width := by
  rw [← consistent.height_eq, ← consistent.width_eq]
  exact Grid.inside_of_get? found

theorem exists_slot {display : Display} (consistent : display.Consistent) {row column : Nat}
    (inside : row < display.height ∧ column < display.width) :
    ∃ slot, display.pending.get? row column = some slot := by
  rw [← consistent.height_eq, ← consistent.width_eq] at inside
  exact Grid.exists_get? inside

theorem exists_resolveSlot {display : Display} (consistent : display.Consistent)
    {row column : Nat} {slot : Slot} (found : display.pending.get? row column = some slot) :
    ∃ cell, resolveSlot display.committed row column slot = some cell := by
  cases slot with
  | unchanged => exact Grid.exists_get? (inside_of_slot consistent found)
  | copy sourceRow sourceColumn =>
    have source := consistent.valid.sourced found
    rw [consistent.height_eq, consistent.width_eq] at source
    exact Grid.exists_get? source
  | set cell => exact ⟨cell, rfl⟩

theorem get?_resolved {display : Display} (consistent : display.Consistent) {row column : Nat}
    {slot : Slot} (found : display.pending.get? row column = some slot) :
    (resolved display.committed display.pending.slots).get? row column =
      resolveSlot display.committed row column slot := by
  have inside := inside_of_slot consistent found
  obtain ⟨cell, resolves⟩ := exists_resolveSlot consistent found
  rw [resolved, Grid.get?_tabulate]
  refine (if_pos inside).trans ?_
  change display.pending.slots.get? row column = some slot at found
  rw [found, Option.bind_some, resolves, Option.getD_some]

/-- After a flush every cell is what its change made of it, also where nothing was pending. -/
theorem get?_flushOperations {display : Display} (consistent : display.Consistent)
    {row column : Nat} {slot : Slot} (found : display.pending.get? row column = some slot) :
    display.flushOperations.1.committed.get? row column =
      resolveSlot display.committed row column slot := by
  unfold flushOperations
  split
  · next isEmpty =>
    rw [Pending.eq_unchanged_of_isEmpty consistent.valid isEmpty found]
    rfl
  · exact get?_resolved consistent found

theorem unchanged_flushOperations {display : Display} (consistent : display.Consistent)
    {row column : Nat} {slot : Slot}
    (found : display.flushOperations.1.pending.get? row column = some slot) :
    slot = .unchanged := by
  unfold flushOperations at found
  split at found
  · next isEmpty => exact Pending.eq_unchanged_of_isEmpty consistent.valid isEmpty found
  · change display.pending.clear.get? row column = some slot at found
    rw [Pending.clear, Pending.get?_empty] at found
    split at found
    · exact (Option.some.inj found).symm
    · cases found

theorem width_flushOperations (display : Display) :
    display.flushOperations.1.width = display.width := by
  unfold flushOperations
  split <;> rfl

theorem height_flushOperations (display : Display) :
    display.flushOperations.1.height = display.height := by
  unfold flushOperations
  split <;> rfl

theorem consistent_flushOperations {display : Display} (consistent : display.Consistent) :
    display.flushOperations.1.Consistent := by
  unfold flushOperations
  split
  · exact consistent
  · exact ⟨consistent.width_eq, consistent.height_eq, Pending.valid_empty ..⟩

theorem committed_resize (display : Display) (width height : Nat) :
    (display.resize width height).1.committed = .tabulate width height fun row column =>
      (display.committed.get? row column).getD (.blank .default) := by
  simp only [resize]
  split <;> rfl

@[simp] theorem width_resize (display : Display) (width height : Nat) :
    (display.resize width height).1.width = width :=
  congrArg Grid.width (committed_resize display width height)

@[simp] theorem height_resize (display : Display) (width height : Nat) :
    (display.resize width height).1.height = height :=
  congrArg Grid.height (committed_resize display width height)

theorem pending_resize (display : Display) (width height : Nat) :
    (display.resize width height).1.pending =
      .ofSlots (exposedSlots display.width display.height width height) := by
  simp only [resize]
  split <;> rfl

theorem unflushedSet_resize (display : Display) (width height : Nat) :
    (display.resize width height).1.unflushedSet =
      !(display.resize width height).1.pending.isEmpty := by
  simp only [resize]
  split <;> rfl

/-- A cell waits to be made blank after a resize exactly if it lies outside the old bounds. -/
theorem get?_pending_resize (display : Display) (width height row column : Nat) :
    (display.resize width height).1.pending.get? row column =
      if row < height ∧ column < width then
        some (if row < display.height ∧ column < display.width then .unchanged
          else .set (.blank .default))
      else none := by
  rw [pending_resize]
  exact Grid.get?_tabulate ..

theorem consistent_resize (display : Display) (width height : Nat) :
    (display.resize width height).1.Consistent := by
  refine ⟨?_, ?_, ?_, ?_⟩
  · rw [pending_resize, width_resize]
    rfl
  · rw [pending_resize, height_resize]
    rfl
  · rw [pending_resize]
    rfl
  · intro row column sourceRow sourceColumn found
    rw [get?_pending_resize] at found
    split at found
    · split at found <;> cases found
    · cases found

end Display

namespace Screen

theorem display_of_resize (screen : Screen) (columns rows : Nat) :
    (screen.step (.resize columns rows)).display = (screen.display.resize columns rows).1 := rfl

theorem consistent_step {screen : Screen} (consistent : screen.display.Consistent)
    (request : Request) : (screen.step request).display.Consistent := by
  cases quiet : request.draws with
  | false =>
    obtain ⟨pending, committed, -, -⟩ := screen.step_recorded quiet
    refine ⟨?_, ?_, ?_⟩
    · rw [pending, Pending.width_recordAll, consistent.width_eq, Display.width, Display.width,
        committed]
    · rw [pending, Pending.height_recordAll, consistent.height_eq, Display.height, Display.height,
        committed]
    · rw [pending]
      exact Pending.valid_recordAll consistent.valid fun change member =>
        Request.recordable_of_mem_changes member
  | true =>
    cases request with
    | resize columns rows => exact Display.consistent_resize ..
    | flushOperations | flush | join => exact Display.consistent_flushOperations consistent
    | _ => cases quiet

/-- A new screen is an empty one that was resized. -/
theorem exists_start {surface : Surface} {fonts : FontSource} {config : Config} {screen : Screen}
    (made : Screen.new surface fonts config = .ok screen) :
    ∃ start : Display, start.Consistent ∧ start.width = 0 ∧ start.height = 0 ∧
      screen = Screen.step ⟨start, surface⟩ (.resize config.columns config.rows) := by
  obtain ⟨⟨display, calls⟩, built, made⟩ := exists_ok_of_bind made
  obtain ⟨scheme, -, built⟩ := exists_ok_of_bind built
  obtain ⟨metrics, -, built⟩ := exists_ok_of_bind built
  cases Except.ok.inj made
  obtain ⟨start, pending, committed, resized⟩ : ∃ start : Display,
      start.pending = .empty 0 0 ∧ start.committed = .replicate 0 0 (.blank .default) ∧
        start.resize config.columns config.rows = (display, calls) := by
    refine ⟨_, ?_, ?_, Except.ok.inj built⟩ <;> rfl
  refine ⟨start, ⟨?_, ?_, ?_⟩, ?_, ?_, ?_⟩
  · rw [pending, Display.width, committed]
    rfl
  · rw [pending, Display.height, committed]
    rfl
  · rw [pending]
    exact Pending.valid_empty 0 0
  · rw [Display.width, committed]
    rfl
  · rw [Display.height, committed]
    rfl
  · simp only [step, perform, resized]

theorem consistent_run {screen : Screen} (consistent : screen.display.Consistent)
    (requests : List Request) : (screen.run requests).display.Consistent := by
  apply run_induction (motive := fun reached => reached.display.Consistent) consistent
  intro reached consistent request member
  exact consistent_step consistent request

theorem consistent_run_of_new {surface : Surface} {fonts : FontSource} {config : Config}
    {screen : Screen} (made : Screen.new surface fonts config = .ok screen)
    (requests : List Request) : (screen.run requests).display.Consistent := by
  obtain ⟨start, consistent, -, -, built⟩ := exists_start made
  rw [built]
  exact consistent_run (consistent_step consistent _) requests

theorem run_induction_of_consistent {motive : Screen → Prop} {screen : Screen}
    (consistent : screen.display.Consistent) (start : motive screen)
    (step : ∀ reached, reached.display.Consistent → motive reached →
      ∀ request, motive (reached.step request)) (requests : List Request) :
    motive (screen.run requests) := by
  have both : (screen.run requests).display.Consistent ∧ motive (screen.run requests) := by
    apply run_induction (motive := fun reached => reached.display.Consistent ∧ motive reached)
      ⟨consistent, start⟩
    intro reached ⟨consistent, kept⟩ request member
    exact ⟨consistent_step consistent request, step reached consistent kept request⟩
  exact both.2

end Screen
end CellScreen
