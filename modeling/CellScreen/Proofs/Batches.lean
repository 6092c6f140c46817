import CellScreen.Proofs.PixelCells
import CellScreen.Proofs.Clipping
import CellScreen.Proofs.Exposure
import CellScreen.Proofs.Joining
import CellScreen.Proofs.PendingCalls

/-! Batches of recording calls. A flush between two batches makes no difference if the second one
copies from no place that the first one changes: what is committed is the same, and so is what the
canvas shows of it. -/
namespace CellScreen

namespace Recording

def request : Recording → Request
  | .setColumns row first last cell => .setColumns row first last cell
  | .copyColumns row first last offset => .copyColumns row first last offset
  | .copyRows first last offset => .copyRows first last offset

def lastTarget (width height row column : Nat) (recordings : List Recording) : Option Slot :=
  recordings.reverse.findSome? (target width height row column)

/-- No call of the second batch copies from a place at which one of the first records a change. -/
def Independent (width height : Nat) (first second : List Recording) : Prop :=
  ∀ copying ∈ second, ∀ row < height, ∀ column < width, ∀ sourceRow < height,
    ∀ sourceColumn < width, copying.target width height row column =
      some (.copy sourceRow sourceColumn) →
        ∀ earlier ∈ first, earlier.target width height sourceRow sourceColumn = none

instance (width height : Nat) (first second : List Recording) :
    Decidable (Independent width height first second) :=
  inferInstanceAs (Decidable (∀ copying ∈ second, ∀ row < height, ∀ column < width,
    ∀ sourceRow < height, ∀ sourceColumn < width, copying.target width height row column =
      some (.copy sourceRow sourceColumn) →
        ∀ earlier ∈ first, earlier.target width height sourceRow sourceColumn = none))

variable {width height row column : Nat}

private theorem lastTarget_append (first second : List Recording) :
    lastTarget width height row column (first ++ second) =
      (lastTarget width height row column second).or
        (lastTarget width height row column first) := by
  rw [lastTarget, List.reverse_append, List.findSome?_append, lastTarget, lastTarget]

private theorem lastTarget_eq_none_iff {recordings : List Recording} :
    lastTarget width height row column recordings = none ↔
      ∀ recording ∈ recordings, recording.target width height row column = none := by
  simp only [lastTarget, List.findSome?_eq_none_iff, List.mem_reverse]

private theorem exists_target {recordings : List Recording} {slot : Slot}
    (records : lastTarget width height row column recordings = some slot) :
    ∃ recording ∈ recordings, recording.target width height row column = some slot := by
  obtain ⟨recording, member, found⟩ := List.exists_of_findSome?_eq_some records
  exact ⟨recording, List.mem_reverse.mp member, found⟩

private theorem lastTarget_ne_unchanged (recordings : List Recording) :
    lastTarget width height row column recordings ≠ some .unchanged := by
  intro records
  obtain ⟨recording, member, keeps⟩ := exists_target records
  exact recording.target_ne_unchanged row column keeps

private theorem Independent.lastTarget_eq_none {first second : List Recording}
    (independent : Independent width height first second) (inside : row < height ∧ column < width)
    {sourceRow sourceColumn : Nat} (copies : lastTarget width height row column second =
      some (.copy sourceRow sourceColumn)) :
    lastTarget width height sourceRow sourceColumn first = none := by
  obtain ⟨copying, member, records⟩ := exists_target copies
  have source := (of_target_eq_copy inside records).1
  exact lastTarget_eq_none_iff.mpr (independent copying member row inside.1 column inside.2
    sourceRow source.1 sourceColumn source.2 records)

end Recording

namespace Screen

@[irreducible] def batch (screen : Screen) (recordings : List Recording) : Screen :=
  screen.run (recordings.map Recording.request ++ [.flush])

variable {screen : Screen}

structure Records (screen next : Screen) (recordings : List Recording) : Prop where
  surface : next.surface = screen.surface
  committed : next.display.committed = screen.display.committed
  looksLike : next.display.LooksLike screen.display
  width_eq : next.display.pending.width = screen.display.pending.width
  height_eq : next.display.pending.height = screen.display.pending.height
  get?_pending : ∀ row column,
    row < screen.display.pending.height ∧ column < screen.display.pending.width →
      next.display.pending.get? row column =
        (Recording.lastTarget screen.display.pending.width screen.display.pending.height row column
          recordings).or (screen.display.pending.get? row column)

theorem records_step (screen : Screen) (recording : Recording) :
    screen.Records (screen.step recording.request) [recording] := by
  have pending_eq : (screen.step recording.request).display.pending =
      (recording.perform screen.display.pending).1 := by
    cases recording <;> rfl
  have pending_of : (screen.step recording.request).display.pending =
      screen.display.pending.recordAll (recording.changes screen.display.pending.width
        screen.display.pending.height) := by
    rw [pending_eq, recording.perform_eq]
  refine ⟨?_, ?_, ?_, ?_, ?_, ?_⟩
  · cases recording <;> rfl
  · cases recording <;> rfl
  · exact screen.looksLike_step (by cases recording <;> rfl)
  · rw [pending_of, Pending.width_recordAll]
  · rw [pending_of, Pending.height_recordAll]
  · intro row column inside
    rw [pending_eq, recording.get?_perform _ inside, Recording.lastTarget, List.reverse_singleton,
      List.findSome?_singleton]

private theorem Records.append {next last : Screen} {first second : List Recording}
    (one : screen.Records next first) (other : next.Records last second) :
    screen.Records last (first ++ second) := by
  refine ⟨?_, ?_, ?_, ?_, ?_, ?_⟩
  · exact other.surface.trans one.surface
  · exact other.committed.trans one.committed
  · exact other.looksLike.trans one.looksLike
  · exact other.width_eq.trans one.width_eq
  · exact other.height_eq.trans one.height_eq
  · intro row column inside
    have later := other.get?_pending row column (by rwa [one.width_eq, one.height_eq])
    rw [later, one.width_eq, one.height_eq, one.get?_pending row column inside,
      Recording.lastTarget_append, Option.or_assoc]

theorem records_run (screen : Screen) (recordings : List Recording) :
    screen.Records (screen.run (recordings.map Recording.request)) recordings := by
  induction recordings generalizing screen with
  | nil => exact ⟨rfl, rfl, ⟨rfl, rfl, rfl, rfl⟩, rfl, rfl, fun _ _ _ => rfl⟩
  | cons recording recordings ih =>
    exact (screen.records_step recording).append (ih (screen.step recording.request))

private theorem Records.get?_pending_of_isEmpty {next : Screen} {recordings : List Recording}
    (records : screen.Records next recordings) (consistent : screen.display.Consistent)
    (isEmpty : screen.display.pending.isEmpty) {row column : Nat}
    (inside : row < screen.display.height ∧ column < screen.display.width) :
    next.display.pending.get? row column = some ((Recording.lastTarget screen.display.width
      screen.display.height row column recordings).getD .unchanged) := by
  obtain ⟨slot, found⟩ := Display.exists_slot consistent inside
  rw [← consistent.width_eq, ← consistent.height_eq] at inside ⊢
  rw [records.get?_pending row column inside, found,
    Pending.eq_unchanged_of_isEmpty consistent.valid isEmpty found]
  cases Recording.lastTarget screen.display.pending.width screen.display.pending.height row column
    recordings <;> rfl

private theorem batch_eq (screen : Screen) (recordings : List Recording) :
    screen.batch recordings = (screen.run (recordings.map Recording.request)).step .flush := by
  rw [batch, run_append]
  rfl

private theorem consistent_batch (consistent : screen.display.Consistent)
    (recordings : List Recording) :
    (screen.batch recordings).display.Consistent := by
  rw [batch]
  exact consistent_run consistent _

private theorem isEmpty_batch (screen : Screen) (recordings : List Recording) :
    (screen.batch recordings).display.pending.isEmpty := by
  rw [batch_eq]
  exact Display.isEmpty_flushOperations _

private theorem looksLike_batch (screen : Screen) (recordings : List Recording) :
    (screen.batch recordings).display.LooksLike screen.display := by
  rw [batch_eq]
  exact (looksLike_step _ rfl).trans (screen.records_run recordings).looksLike

private theorem size_batch (screen : Screen) (recordings : List Recording) :
    (screen.batch recordings).display.width = screen.display.width ∧
      (screen.batch recordings).display.height = screen.display.height := by
  have records := screen.records_run recordings
  rw [batch_eq, display_of_flushes _ rfl, Display.width_flushOperations,
    Display.height_flushOperations, Display.width, Display.height, records.committed]
  exact ⟨rfl, rfl⟩

private theorem canvasSize_batch (screen : Screen) (recordings : List Recording) :
    (screen.batch recordings).surface.pending.width = screen.surface.pending.width ∧
      (screen.batch recordings).surface.pending.height = screen.surface.pending.height := by
  have records := screen.records_run recordings
  rw [batch_eq, canvas_of_flushes _ rfl, records.surface]
  exact Display.size_calls _ _ _

private theorem committedCanvas_batch (screen : Screen) (recordings : List Recording) :
    (screen.batch recordings).surface.committed = (screen.batch recordings).surface.pending := by
  rw [batch_eq, committed_flush]

/-- A batch makes of every cell what the last of its calls to change the cell asks for. -/
theorem get?_committed_batch (consistent : screen.display.Consistent)
    (isEmpty : screen.display.pending.isEmpty) (recordings : List Recording) {row column : Nat}
    (inside : row < screen.display.height ∧ column < screen.display.width) :
    (screen.batch recordings).display.committed.get? row column =
      Display.resolveSlot screen.display.committed row column ((Recording.lastTarget
        screen.display.width screen.display.height row column recordings).getD .unchanged) := by
  have records := screen.records_run recordings
  have recorded := records.get?_pending_of_isEmpty consistent isEmpty inside
  have consistentNext : (screen.run (recordings.map Recording.request)).display.Consistent :=
    consistent_run consistent _
  rw [batch_eq, display_of_flushes _ rfl,
    Display.get?_flushOperations consistentNext recorded, records.committed]

private theorem get?_committed_batch_of_none (consistent : screen.display.Consistent)
    (isEmpty : screen.display.pending.isEmpty) {recordings : List Recording} {row column : Nat}
    (untouched : Recording.lastTarget screen.display.width screen.display.height row column
      recordings = none) :
    (screen.batch recordings).display.committed.get? row column =
      screen.display.committed.get? row column := by
  by_cases inside : row < screen.display.height ∧ column < screen.display.width
  · rw [get?_committed_batch consistent isEmpty recordings inside, untouched]
    rfl
  · have size := screen.size_batch recordings
    have outside := inside
    rw [← size.1, ← size.2] at outside
    rw [(Grid.get?_eq_none_iff _ _ _).mpr inside, (Grid.get?_eq_none_iff _ _ _).mpr outside]

private theorem committed_batch_append (consistent : screen.display.Consistent)
    (isEmpty : screen.display.pending.isEmpty) {first second : List Recording}
    (independent : Recording.Independent screen.display.width screen.display.height first second) :
    ((screen.batch first).batch second).display.committed =
      (screen.batch (first ++ second)).display.committed := by
  have size := screen.size_batch first
  have sizeSplit := (screen.batch first).size_batch second
  rw [size.1, size.2] at sizeSplit
  have sizeJoined := screen.size_batch (first ++ second)
  apply Grid.ext_get?
  · exact sizeSplit.1.trans sizeJoined.1.symm
  · exact sizeSplit.2.trans sizeJoined.2.symm
  intro row column
  by_cases inside : row < screen.display.height ∧ column < screen.display.width
  · rw [get?_committed_batch (consistent_batch consistent first) (isEmpty_batch screen first) second
      (by rwa [size.1, size.2]), size.1, size.2,
      get?_committed_batch consistent isEmpty (first ++ second) inside,
      Recording.lastTarget_append]
    cases last : Recording.lastTarget screen.display.width screen.display.height row column
      second with
    | none => exact get?_committed_batch consistent isEmpty first inside
    | some slot =>
      cases slot with
      | unchanged => exact absurd last (Recording.lastTarget_ne_unchanged second)
      | set cell => rfl
      | copy sourceRow sourceColumn =>
        exact get?_committed_batch_of_none consistent isEmpty
          (independent.lastTarget_eq_none inside last)
  · have outside := inside
    have outside' := inside
    rw [← sizeSplit.1, ← sizeSplit.2] at outside
    rw [← sizeJoined.1, ← sizeJoined.2] at outside'
    rw [(Grid.get?_eq_none_iff _ _ _).mpr outside, (Grid.get?_eq_none_iff _ _ _).mpr outside']

private theorem showsPart_batch (consistent : screen.display.Consistent)
    (isEmpty : screen.display.pending.isEmpty)
    (bounded : screen.display.width * screen.display.metrics.width < 2 ^ 31 ∧
      screen.display.height * screen.display.metrics.height < 2 ^ 31) (recordings : List Recording)
    (shown : ∀ row column, screen.display.ShowsPart screen.surface.pending row column)
    (sources : ∀ {row column sourceRow sourceColumn : Nat},
      row < screen.display.height ∧ column < screen.display.width →
        Recording.lastTarget screen.display.width screen.display.height row column recordings =
          some (.copy sourceRow sourceColumn) →
            screen.display.Shows screen.surface.pending sourceRow sourceColumn)
    (row column : Nat) :
    (screen.batch recordings).display.ShowsPart (screen.batch recordings).surface.pending
      row column := by
  have records := screen.records_run recordings
  rw [batch_eq, display_of_flushes _ rfl, canvas_of_flushes _ rfl]
  apply Display.showsPart_flush
  · exact consistent_run consistent _
  · rwa [Display.width, Display.height, records.committed, records.looksLike.metrics_eq]
  · intro row column
    rw [records.surface]
    exact records.looksLike.showsPart records.committed (shown row column)
  · intro row column sourceRow sourceColumn recorded
    have inside := Display.inside_of_slot (consistent_run consistent _) recorded
    rw [Display.width, Display.height, records.committed] at inside
    rw [records.get?_pending_of_isEmpty consistent isEmpty inside] at recorded
    rw [records.surface]
    apply records.looksLike.shows records.committed
    apply sources inside
    cases last : Recording.lastTarget screen.display.width screen.display.height row column
      recordings with
    | none =>
      rw [last] at recorded
      cases recorded
    | some slot =>
      rw [last] at recorded
      exact recorded

private theorem shows_batch_of_none (consistent : screen.display.Consistent)
    (isEmpty : screen.display.pending.isEmpty) {recordings : List Recording} {row column : Nat}
    (untouched : Recording.lastTarget screen.display.width screen.display.height row column
      recordings = none)
    (shows : screen.display.Shows screen.surface.pending row column)
    (part : (screen.batch recordings).display.ShowsPart (screen.batch recordings).surface.pending
      row column) :
    (screen.batch recordings).display.Shows (screen.batch recordings).surface.pending
      row column := by
  apply part.shows
  intro cell found single y below x inRow
  rw [get?_committed_batch_of_none consistent isEmpty untouched] at found
  have size := screen.canvasSize_batch recordings
  have covers := Canvas.covers_of_drawing (shows cell found single)
  rw [(screen.looksLike_batch recordings).metrics_eq] at below inRow ⊢
  rw [size.1, size.2]
  exact covers y below x inRow

/-- Where all cells were shown, two batches in a row show all cells as far as they are on the
canvas: what the second one copies, the first one has left as it was. -/
theorem showsPart_batch_batch (consistent : screen.display.Consistent)
    (isEmpty : screen.display.pending.isEmpty)
    (bounded : screen.display.width * screen.display.metrics.width < 2 ^ 31 ∧
      screen.display.height * screen.display.metrics.height < 2 ^ 31)
    (shows : ∀ row column, screen.display.Shows screen.surface.pending row column)
    {first second : List Recording}
    (independent : Recording.Independent screen.display.width screen.display.height first second)
    (row column : Nat) : ((screen.batch first).batch second).display.ShowsPart
      ((screen.batch first).batch second).surface.pending row column := by
  have size := screen.size_batch first
  have shown := showsPart_batch consistent isEmpty bounded first
    (fun row column => (shows row column).part) fun _ _ => shows _ _
  apply showsPart_batch (consistent_batch consistent first) (isEmpty_batch screen first) ?_ second
    shown
  · intro row column sourceRow sourceColumn inside copies
    rw [size.1, size.2] at inside copies
    exact shows_batch_of_none consistent isEmpty (independent.lastTarget_eq_none inside copies)
      (shows _ _) (shown _ _)
  · rwa [size.1, size.2, (screen.looksLike_batch first).metrics_eq]

private theorem box_batch_append (consistent : screen.display.Consistent)
    (isEmpty : screen.display.pending.isEmpty)
    (bounded : screen.display.width * screen.display.metrics.width < 2 ^ 31 ∧
      screen.display.height * screen.display.metrics.height < 2 ^ 31)
    (shows : ∀ row column, screen.display.Shows screen.surface.pending row column)
    {first second : List Recording}
    (independent : Recording.Independent screen.display.width screen.display.height first second)
    {row column : Nat} {cell : Cell}
    (found : (screen.batch (first ++ second)).display.committed.get? row column = some cell)
    (single : cell.isContinuation = false) :
    ((screen.batch first).batch second).surface.pending.box screen.display.metrics row column =
      (screen.batch (first ++ second)).surface.pending.box screen.display.metrics row column := by
  have committed_eq := committed_batch_append consistent isEmpty independent
  have drawn := showsPart_batch consistent isEmpty bounded (first ++ second)
    (fun row column => (shows row column).part) (fun _ _ => shows _ _) row column cell found single
  have drawn' := showsPart_batch_batch consistent isEmpty bounded shows independent row column cell
    (by rwa [committed_eq]) single
  have alike := screen.looksLike_batch (first ++ second)
  have alike' := ((screen.batch first).looksLike_batch second).trans (screen.looksLike_batch first)
  rw [alike.metrics_eq, alike.drawing_eq] at drawn
  rw [alike'.metrics_eq, alike'.drawing_eq] at drawn'
  have size := screen.canvasSize_batch (first ++ second)
  have sizeFirst := screen.canvasSize_batch first
  have size' := (screen.batch first).canvasSize_batch second
  apply Canvas.box_eq_of_partOf _ _ drawn drawn'
  · rw [size'.1, sizeFirst.1, size.1]
  · rw [size'.2, sizeFirst.2, size.2]

/-- On a flushed screen, whatever its surface holds, a flush between two batches makes no difference
to what is committed, if the second batch copies from no place that the first one changes. If all
committed cells were shown, it makes none to what is shown of the cells either. -/
theorem agree_of_independent {start : Surface} {fonts : FontSource} {config : Config}
    {screen : Screen} (made : Screen.new start fonts config = .ok screen)
    (requests : List Request) (surface : Surface) (first second : List Recording) :
    let reached : Screen := ⟨(screen.run requests).display, surface⟩
    let split := (reached.batch first).batch second
    let joined := reached.batch (first ++ second)
    reached.display.pending.isEmpty →
      Recording.Independent reached.display.width reached.display.height first second →
    split.display.committed = joined.display.committed ∧
    (reached.display.width * reached.display.metrics.width < 2 ^ 31 ∧
        reached.display.height * reached.display.metrics.height < 2 ^ 31 →
      (∀ row column, reached.display.Shows surface.pending row column) →
      ∀ {row column : Nat} {cell : Cell}, joined.display.committed.get? row column = some cell →
        cell.isContinuation = false →
          split.surface.pending.box reached.display.metrics row column =
              joined.surface.pending.box reached.display.metrics row column ∧
            split.surface.committed.box reached.display.metrics row column =
              joined.surface.committed.box reached.display.metrics row column) := by
  intro reached split joined isEmpty independent
  obtain ⟨begin, -, -, -, rfl⟩ := exists_start made
  have consistent : reached.display.Consistent :=
    consistent_run (Display.consistent_resize begin config.columns config.rows) requests
  refine ⟨committed_batch_append consistent isEmpty independent, ?_⟩
  intro bounded shows row column cell found single
  have same := box_batch_append consistent isEmpty bounded shows independent found single
  refine ⟨same, ?_⟩
  rw [committedCanvas_batch, committedCanvas_batch]
  exact same

/-- A cell that the first of two batches sets, and over which the second one copies another. -/
theorem agree_of_independent_of_copied :
    let screen := ofPixels (.ofBackground .white) 3 1
    let reached : Screen := screen.run [.flush]
    let first : List Recording := [.setColumns 0 0 0 (.ofChar 'a' {}),
      .setColumns 0 2 2 (.ofChar 'b' {})]
    let second : List Recording := [.copyColumns 0 1 1 1, .setColumns 0 1 1 (.ofChar 'c' {})]
    let split := (reached.batch first).batch second
    let joined := reached.batch (first ++ second)
    split.display.committed = joined.display.committed ∧
    ∀ {row column : Nat} {cell : Cell}, joined.display.committed.get? row column = some cell →
      cell.isContinuation = false →
        split.surface.pending.box reached.display.metrics row column =
            joined.surface.pending.box reached.display.metrics row column ∧
          split.surface.committed.box reached.display.metrics row column =
            joined.surface.committed.box reached.display.metrics row column := by
  intro screen reached first second
  have reachedMetrics : reached.display.metrics = ⟨1, 1, 1⟩ :=
    (screen.metrics_step .flush rfl).trans (metrics_ofPixels ..)
  have reachedWidth : reached.display.width = 3 :=
    screen.display.width_flushOperations.trans (width_ofPixels ..)
  have reachedHeight : reached.display.height = 1 :=
    screen.display.height_flushOperations.trans (height_ofPixels ..)
  have shows : reached.ShowsAll := showsAll_ofPixels .white (by decide)
  have pendingShows (row column : Nat) :
      reached.display.Shows reached.surface.pending row column := by
    have committed_eq : reached.surface.committed = reached.surface.pending :=
      screen.committed_flush
    rw [← committed_eq]
    exact shows row column
  have independent :
      Recording.Independent reached.display.width reached.display.height first second := by
    rw [reachedWidth, reachedHeight]
    decide
  have agree := agree_of_independent (new_ofPixels (.ofBackground .white) 3 1) [.flush]
    reached.surface first second screen.display.isEmpty_flushOperations independent
  refine ⟨agree.1, agree.2 ?_ pendingShows⟩
  rw [reachedMetrics, reachedWidth, reachedHeight]
  decide

end Screen
end CellScreen
