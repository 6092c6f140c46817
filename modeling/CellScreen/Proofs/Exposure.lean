import CellScreen.Proofs.Shown

/-! Cells that a resize exposes. They are committed as blank at once, but until a flush paints them
they have the background of the surface. A screen is watched together with the part of its grid
that has been there since the last flush; all that lies outside that part is exposed. -/
namespace CellScreen

/-- A screen, and the size that its grid has had at least since the last flush. -/
structure Watched where
  screen : Screen
  columns : Nat
  rows : Nat

namespace Watched

def new (screen : Screen) : Watched := ⟨screen, 0, 0⟩

def flushed (screen : Screen) : Watched := ⟨screen, screen.display.width, screen.display.height⟩

def step (watched : Watched) (request : Request) : Watched :=
  let screen := watched.screen.step request
  match request with
  | .resize columns rows => ⟨screen, min watched.columns columns, min watched.rows rows⟩
  | .flushOperations | .flush | .join => flushed screen
  | _ => ⟨screen, watched.columns, watched.rows⟩

def run (watched : Watched) (requests : List Request) : Watched := requests.foldl step watched

def Painted (watched : Watched) (row column : Nat) : Prop :=
  row < watched.rows ∧ column < watched.columns

instance (watched : Watched) (row column : Nat) : Decidable (watched.Painted row column) :=
  inferInstanceAs (Decidable (_ ∧ _))

def Exposes (watched : Watched) : Prop :=
  ∃ row column sourceRow sourceColumn : Nat,
    watched.screen.display.pending.get? row column = some (.copy sourceRow sourceColumn) ∧
      watched.screen.display.moves row column ∧ ¬ watched.Painted sourceRow sourceColumn

structure Tracks (watched : Watched) (background : Rgb) : Prop where
  laid : watched.screen.Laid
  background_eq : watched.screen.surface.background = background
  columns_le : watched.columns ≤ watched.screen.display.width
  rows_le : watched.rows ≤ watched.screen.display.height
  exposed : ∀ {row column : Nat},
    row < watched.screen.display.height ∧ column < watched.screen.display.width →
    ¬ watched.Painted row column →
      watched.screen.display.committed.get? row column = some (.blank .default) ∧
        watched.screen.surface.pending.box watched.screen.display.metrics row column =
          watched.screen.display.metrics.plain background

def Waiting (watched : Watched) : Prop :=
  ∀ row column, ¬ watched.Painted row column →
    watched.screen.display.pending.get? row column ≠ some .unchanged

def Shown (watched : Watched) : Prop :=
  ∀ row column, watched.Painted row column →
    watched.screen.display.Shows watched.screen.surface.pending row column

variable {watched : Watched} {background : Rgb}

@[simp] theorem screen_step (watched : Watched) (request : Request) :
    (watched.step request).screen = watched.screen.step request := by
  cases request <;> rfl

theorem screen_run (watched : Watched) (requests : List Request) :
    (watched.run requests).screen = watched.screen.run requests := by
  unfold run Screen.run
  induction requests generalizing watched with
  | nil => rfl
  | cons request requests ih => rw [List.foldl_cons, List.foldl_cons, ih, screen_step]

theorem run_append (watched : Watched) (requests more : List Request) :
    watched.run (requests ++ more) = (watched.run requests).run more := List.foldl_append ..

theorem step_of_quiet (watched : Watched) {request : Request} (quiet : request.draws = false) :
    watched.step request = ⟨watched.screen.step request, watched.columns, watched.rows⟩ := by
  cases request with
  | resize | flushOperations | flush | join => cases quiet
  | _ => rfl

theorem tracks_recorded (tracks : watched.Tracks background) {request : Request}
    (quiet : request.draws = false) (keeps : request.keepsLook)
    (bounded : request.Bounded watched.screen.display.metrics) :
    (watched.step request).Tracks background := by
  obtain ⟨-, committed, canvas, surfaceBackground⟩ := watched.screen.step_recorded quiet
  have keepsFont := Request.keepsFont_of_keepsLook keeps
  have width_eq : (watched.screen.step request).display.width = watched.screen.display.width :=
    congrArg Grid.width committed
  have height_eq : (watched.screen.step request).display.height = watched.screen.display.height :=
    congrArg Grid.height committed
  rw [step_of_quiet watched quiet]
  refine ⟨Screen.laid_step tracks.laid keepsFont bounded, ?_, ?_, ?_, ?_⟩
  · exact surfaceBackground.trans tracks.background_eq
  · exact le_of_le_of_eq tracks.columns_le width_eq.symm
  · exact le_of_le_of_eq tracks.rows_le height_eq.symm
  · intro row column inside unpainted
    dsimp only at inside ⊢
    rw [width_eq, height_eq] at inside
    rw [committed, canvas, watched.screen.metrics_step request keepsFont]
    exact tracks.exposed inside unpainted

theorem tracks_resize (tracks : watched.Tracks background) {columns rows : Nat}
    (bounded : (Request.resize columns rows).Bounded watched.screen.display.metrics) :
    (watched.step (.resize columns rows)).Tracks background := by
  have display_eq := watched.screen.display_of_resize columns rows
  refine ⟨Screen.laid_step tracks.laid rfl bounded, ?_, ?_, ?_, ?_⟩
  · exact (watched.screen.background_step _).trans tracks.background_eq
  · rw [screen_step, display_eq, Display.width_resize]
    exact Nat.min_le_right ..
  · rw [screen_step, display_eq, Display.height_resize]
    exact Nat.min_le_right ..
  · intro row column inside unpainted
    rw [screen_step] at inside ⊢
    rw [display_eq, Display.width_resize, Display.height_resize] at inside
    have box_eq := Screen.box_resize tracks.laid bounded inside
    rw [watched.screen.metrics_step _ rfl, display_eq, Display.committed_resize,
      Grid.get?_tabulate, if_pos inside, box_eq, tracks.background_eq]
    -- A cell is exposed by this resize, or has been since an earlier one.
    by_cases stays : row < watched.screen.display.height ∧ column < watched.screen.display.width
    · have before : ¬ watched.Painted row column := fun painted =>
        unpainted ⟨Nat.lt_min.mpr ⟨painted.1, inside.1⟩, Nat.lt_min.mpr ⟨painted.2, inside.2⟩⟩
      have exposed := tracks.exposed stays before
      rw [if_pos stays, exposed.1, Option.getD_some]
      exact ⟨rfl, exposed.2⟩
    · rw [if_neg stays, (Grid.get?_eq_none_iff _ _ _).mpr stays, Option.getD_none]
      exact ⟨rfl, rfl⟩

theorem tracks_flushed {screen : Screen} (laid : screen.Laid)
    (background_eq : screen.surface.background = background) :
    (flushed screen).Tracks background :=
  ⟨laid, background_eq, Nat.le_refl _, Nat.le_refl _, fun inside unpainted =>
    absurd inside unpainted⟩

theorem waiting_recorded (waiting : watched.Waiting) {request : Request}
    (quiet : request.draws = false) : (watched.step request).Waiting := by
  have pending := (watched.screen.step_recorded quiet).pending
  intro row column unpainted unchanged
  rw [step_of_quiet watched quiet] at unpainted unchanged
  rw [pending] at unchanged
  rcases Pending.mem_or_get?_of_recordAll unchanged with recorded | before
  · exact Request.recordable_of_mem_changes recorded
  · exact waiting row column unpainted before

theorem waiting_resize (painted : watched.columns = watched.screen.display.width ∧
      watched.rows = watched.screen.display.height) (columns rows : Nat) :
    (watched.step (.resize columns rows)).Waiting := by
  intro row column unpainted unchanged
  rw [screen_step, Screen.display_of_resize, Display.get?_pending_resize] at unchanged
  split at unchanged
  · next inside =>
    split at unchanged
    · next stays =>
      rw [← painted.1, ← painted.2] at stays
      exact unpainted ⟨Nat.lt_min.mpr ⟨stays.1, inside.1⟩, Nat.lt_min.mpr ⟨stays.2, inside.2⟩⟩
    · cases unchanged
  · cases unchanged

theorem waiting_flushed (screen : Screen) (consistent : screen.display.Consistent) :
    (flushed screen).Waiting := by
  intro row column unpainted unchanged
  exact unpainted (Display.inside_of_slot consistent unchanged)

theorem shown_recorded (shown : watched.Shown) {request : Request}
    (quiet : request.draws = false) (keeps : request.keepsLook) :
    (watched.step request).Shown := by
  obtain ⟨-, committed, canvas, -⟩ := watched.screen.step_recorded quiet
  have alike := watched.screen.looksLike_step keeps
  rw [step_of_quiet watched quiet]
  intro row column painted cell found whole
  rw [committed] at found
  rw [canvas, alike.metrics_eq, alike.drawing_eq]
  exact shown row column painted cell found whole

theorem shown_resize (shown : watched.Shown)
    (solid : 0 < watched.screen.display.metrics.width ∧ 0 < watched.screen.display.metrics.height)
    (columns_le : watched.columns ≤ watched.screen.display.width)
    (rows_le : watched.rows ≤ watched.screen.display.height) {columns rows : Nat}
    (bounded : (Request.resize columns rows).Bounded watched.screen.display.metrics) :
    (watched.step (.resize columns rows)).Shown := by
  intro row column painted
  have before : watched.Painted row column :=
    ⟨Nat.lt_of_lt_of_le painted.1 (Nat.min_le_left ..),
      Nat.lt_of_lt_of_le painted.2 (Nat.min_le_left ..)⟩
  have stays : row < watched.screen.display.height ∧ column < watched.screen.display.width :=
    ⟨Nat.lt_of_lt_of_le before.1 rows_le, Nat.lt_of_lt_of_le before.2 columns_le⟩
  exact Screen.shows_resize solid bounded stays (shown row column before)

/-- A flush shows all that waits and all that was shown, unless it moves exposed pixels of another
color than blank cells have. -/
theorem shown_flush (tracks : watched.Tracks background) (waiting : watched.Waiting)
    (shown : watched.Shown)
    (safe : background = watched.screen.display.defaultBackground ∨ ¬ watched.Exposes) :
    (watched.step .flush).Shown := by
  have consistent := tracks.laid.consistent
  intro row column painted
  have inside : row < watched.screen.display.height ∧ column < watched.screen.display.width := by
    have place : row < watched.screen.display.flushOperations.1.height ∧
        column < watched.screen.display.flushOperations.1.width := painted
    rwa [Display.height_flushOperations, Display.width_flushOperations] at place
  obtain ⟨slot, recorded⟩ := Display.exists_slot consistent inside
  obtain ⟨cell, resolves⟩ := Display.exists_resolveSlot consistent recorded
  refine (Screen.shows_flush_iff tracks.laid recorded resolves).mpr fun whole => ?_
  cases slot with
  | set new =>
    cases resolves
    rfl
  | unchanged =>
    by_cases before : watched.Painted row column
    · exact shown row column before cell resolves whole
    · exact absurd recorded (waiting row column before)
  | copy sourceRow sourceColumn =>
    rw [Display.flushedBox]
    change watched.screen.display.committed.get? sourceRow sourceColumn = some cell at resolves
    split
    · next moves =>
      -- An exposed source is blank, so its color decides whether it is shown where it moves to.
      by_cases before : watched.Painted sourceRow sourceColumn
      · exact shown sourceRow sourceColumn before cell resolves whole
      · have exposes : watched.Exposes :=
          ⟨row, column, sourceRow, sourceColumn, recorded, moves, before⟩
        have exposed := tracks.exposed (Grid.inside_of_get? resolves) before
        cases exposed.1.symm.trans resolves
        rw [exposed.2, Display.drawing_blank, safe.resolve_right (not_not_intro exposes)]
    · rw [resolves, Option.getD_some]

/-- Exposed pixels that a flush moves are shown in place of a blank cell. -/
theorem not_shown_flush (tracks : watched.Tracks background) (exposes : watched.Exposes)
    (other : background ≠ watched.screen.display.defaultBackground) :
    ¬ (watched.step .flush).Shown := by
  intro shown
  obtain ⟨row, column, sourceRow, sourceColumn, recorded, moves, unpainted⟩ := exposes
  have consistent := tracks.laid.consistent
  have source : sourceRow < watched.screen.display.height ∧
      sourceColumn < watched.screen.display.width := by
    rw [← consistent.height_eq, ← consistent.width_eq]
    exact consistent.valid.sourced recorded
  have exposed := tracks.exposed source unpainted
  have painted : (watched.step .flush).Painted row column := by
    have inside := Display.inside_of_slot consistent recorded
    rw [← Display.height_flushOperations, ← Display.width_flushOperations] at inside
    exact inside
  have drawn := (Screen.shows_flush_iff tracks.laid recorded exposed.1).mp
    (shown row column painted) rfl
  rw [Display.flushedBox, if_pos moves, exposed.2, Display.drawing_blank,
    CellMetrics.plain_eq_iff ⟨tracks.laid.wide, tracks.laid.high⟩] at drawn
  exact other drawn

theorem shown_flushed_iff (screen : Screen) :
    (flushed screen).Shown ↔
      ∀ row column, screen.display.Shows screen.surface.pending row column := by
  constructor
  · intro shown row column cell found
    exact shown row column (Grid.inside_of_get? found) cell found
  · intro shows row column painted
    exact shows row column

theorem shown_new (screen : Screen) : (new screen).Shown := by
  intro row column painted
  exact absurd painted.1 (Nat.not_lt_zero row)

/-- All cells of a new screen are exposed and wait for the first flush. -/
theorem tracks_new {screen : Screen} {fonts : FontSource} {config : Config}
    (made : Screen.new (.ofBackground background) fonts config = .ok screen)
    (solid : 0 < screen.display.metrics.width ∧ 0 < screen.display.metrics.height)
    (bounded : (Request.resize config.columns config.rows).Bounded screen.display.metrics) :
    (new screen).Tracks background ∧ (new screen).Waiting := by
  obtain ⟨start, laid, background_eq, noColumns, noRows, metrics_eq, rfl⟩ :=
    Screen.exists_laid_start made solid
  rw [← metrics_eq] at bounded
  have tracks : (new start).Tracks background := by
    refine ⟨laid, background_eq, Nat.zero_le _, Nat.zero_le _, ?_⟩
    intro row column inside unpainted
    have below : row < start.display.height := inside.1
    rw [noRows] at below
    exact absurd below (Nat.not_lt_zero row)
  have painted : (new start).columns = start.display.width ∧
      (new start).rows = start.display.height := ⟨noColumns.symm, noRows.symm⟩
  have step_eq : (new start).step (.resize config.columns config.rows) =
      new (start.step (.resize config.columns config.rows)) := by
    rw [step, new, new, Nat.zero_min, Nat.zero_min]
  rw [← step_eq]
  exact ⟨tracks_resize tracks bounded, waiting_resize painted config.columns config.rows⟩

end Watched

/-- The first flush of a new screen shows all cells. -/
theorem showsAll_of_new {screen : Screen} {background : Rgb} {fonts : FontSource}
    {config : Config} (made : Screen.new (.ofBackground background) fonts config = .ok screen)
    (solid : 0 < screen.display.metrics.width ∧ 0 < screen.display.metrics.height)
    (bounded : (Request.resize config.columns config.rows).Bounded screen.display.metrics) :
    (screen.step .flush).ShowsAll := by
  obtain ⟨tracks, waiting⟩ := Watched.tracks_new made solid bounded
  have unmoved : ¬ (Watched.new screen).Exposes := by
    rintro ⟨row, column, sourceRow, sourceColumn, recorded, -, -⟩
    obtain ⟨start, -, -, -, rfl⟩ := Screen.exists_start made
    have slot := (start.get?_pending_resize config.columns config.rows row column).symm.trans
      recorded
    split at slot
    · split at slot <;> cases slot
    · cases slot
  have flushed : (Watched.flushed (screen.step .flush)).Shown :=
    Watched.shown_flush tracks waiting (Watched.shown_new screen) (.inr unmoved)
  rw [Watched.shown_flushed_iff] at flushed
  exact flushed

end CellScreen
