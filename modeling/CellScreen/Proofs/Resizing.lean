import CellScreen.Proofs.PixelCells
import CellScreen.Proofs.Exposure

/-! Resizes without a flush between them. Each drops what is pending, and waits only with the cells
that were not on the grid right before it; so a cell that an earlier resize exposed is painted by
the next flush only if the last resize has exposed it again. -/
namespace CellScreen

def Request.resizeTo (size : Nat × Nat) : Request := .resize size.1 size.2

def Holds (size : Nat × Nat) (row column : Nat) : Prop := row < size.2 ∧ column < size.1

instance (size : Nat × Nat) (row column : Nat) : Decidable (Holds size row column) :=
  inferInstanceAs (Decidable (_ ∧ _))

/-- A cell that the last resize did not expose but an earlier one did. -/
def Forgotten (start : Nat × Nat) (sizes : List (Nat × Nat)) (last : Nat × Nat)
    (row column : Nat) : Prop :=
  (Holds last row column ∧ Holds (sizes.getLastD start) row column) ∧
    ∃ size ∈ start :: sizes, ¬ Holds size row column

namespace Watched

variable {watched : Watched} {background : Rgb}

private theorem painted_resizes (watched : Watched) (sizes : List (Nat × Nat)) (row column : Nat) :
    (watched.run (sizes.map Request.resizeTo)).Painted row column ↔
      watched.Painted row column ∧ ∀ size ∈ sizes, Holds size row column := by
  induction sizes generalizing watched with
  | nil => simp [run]
  | cons size sizes ih =>
    have here : (watched.step (Request.resizeTo size)).Painted row column ↔
        watched.Painted row column ∧ Holds size row column := by
      change (row < min watched.rows size.2 ∧ column < min watched.columns size.1) ↔
        (row < watched.rows ∧ column < watched.columns) ∧ row < size.2 ∧ column < size.1
      omega
    rw [List.map_cons, List.forall_mem_cons, ← and_assoc, ← here]
    exact ih _

private theorem shown_resizes (shown : watched.Shown)
    (solid : 0 < watched.screen.display.metrics.width ∧ 0 < watched.screen.display.metrics.height)
    (columns_le : watched.columns ≤ watched.screen.display.width)
    (rows_le : watched.rows ≤ watched.screen.display.height) {sizes : List (Nat × Nat)}
    (bounded : ∀ size ∈ sizes, (Request.resizeTo size).Bounded watched.screen.display.metrics) :
    (watched.run (sizes.map Request.resizeTo)).Shown := by
  induction sizes generalizing watched with
  | nil => exact shown
  | cons size sizes ih =>
    obtain ⟨now, later⟩ := List.forall_mem_cons.mp bounded
    have metrics_eq : (watched.step (.resizeTo size)).screen.display.metrics =
        watched.screen.display.metrics := watched.screen.metrics_step (.resizeTo size) rfl
    have shownNext : (watched.step (.resizeTo size)).Shown :=
      shown_resize shown solid columns_le rows_le now
    rw [← metrics_eq] at solid later
    apply ih shownNext solid _ _ later
    · exact le_of_le_of_eq (Nat.min_le_right ..) (watched.screen.display.width_resize ..).symm
    · exact le_of_le_of_eq (Nat.min_le_right ..) (watched.screen.display.height_resize ..).symm

private theorem tracks_resizes (tracks : watched.Tracks background) {sizes : List (Nat × Nat)}
    (bounded : ∀ size ∈ sizes, (Request.resizeTo size).Bounded watched.screen.display.metrics) :
    (watched.run (sizes.map Request.resizeTo)).Tracks background := by
  induction sizes generalizing watched with
  | nil => exact tracks
  | cons size sizes ih =>
    obtain ⟨now, later⟩ := List.forall_mem_cons.mp bounded
    have metrics_eq : (watched.step (.resizeTo size)).screen.display.metrics =
        watched.screen.display.metrics := watched.screen.metrics_step (.resizeTo size) rfl
    rw [← metrics_eq] at later
    exact ih (tracks_resize tracks now) later

end Watched

namespace Screen

private theorem size_resizes (screen : Screen) (sizes : List (Nat × Nat)) :
    ((screen.run (sizes.map Request.resizeTo)).display.width,
      (screen.run (sizes.map Request.resizeTo)).display.height) =
        sizes.getLastD (screen.display.width, screen.display.height) := by
  induction sizes generalizing screen with
  | nil => rfl
  | cons size sizes ih =>
    have rest := ih (screen.step (.resizeTo size))
    rw [List.getLastD_cons]
    refine rest.trans (congrArg _ ?_)
    exact Prod.ext (screen.display.width_resize ..) (screen.display.height_resize ..)

private theorem shows_flush_resize_iff {screen : Screen} {size : Nat × Nat}
    (solid : 0 < screen.display.metrics.width ∧ 0 < screen.display.metrics.height)
    (bounded : (Request.resizeTo size).Bounded screen.display.metrics) {row column : Nat} :
    ((screen.step (.resizeTo size)).step .flush).display.Shows
        ((screen.step (.resizeTo size)).step .flush).surface.pending row column ↔
      (Holds (screen.display.width, screen.display.height) row column →
        (screen.step (.resizeTo size)).display.Shows
          (screen.step (.resizeTo size)).surface.pending row column) := by
  have laid : (screen.step (.resizeTo size)).Laid := laid_resize solid bounded
  have slot_eq : (screen.step (.resizeTo size)).display.pending.get? row column = _ :=
    screen.display.get?_pending_resize size.1 size.2 row column
  have width_eq : (screen.step (.resizeTo size)).display.width = size.1 :=
    screen.display.width_resize ..
  have height_eq : (screen.step (.resizeTo size)).display.height = size.2 :=
    screen.display.height_resize ..
  generalize screen.step (.resizeTo size) = resized at laid slot_eq width_eq height_eq ⊢
  by_cases inside : row < size.2 ∧ column < size.1
  · rw [if_pos inside] at slot_eq
    by_cases stays : row < screen.display.height ∧ column < screen.display.width
    · rw [if_pos stays] at slot_eq
      obtain ⟨cell, found⟩ := Display.exists_resolveSlot laid.consistent slot_eq
      rw [shows_flush_iff laid slot_eq found, Display.shows_iff found]
      exact ⟨fun drawn _ => drawn, fun drawn => drawn stays⟩
    · rw [if_neg stays] at slot_eq
      rw [shows_flush_iff laid slot_eq rfl]
      exact ⟨fun _ held => absurd held stays, fun _ _ => rfl⟩
  · have outside : ¬ (row < resized.display.height ∧ column < resized.display.width) := by
      rwa [width_eq, height_eq]
    have outsideFlushed : ¬ (row < (resized.step .flush).display.height ∧
        column < (resized.step .flush).display.width) := by
      rwa [resized.display_of_flushes rfl, Display.width_flushOperations,
        Display.height_flushOperations]
    exact ⟨fun _ _ => Display.shows_of_outside outside,
      fun _ => Display.shows_of_outside outsideFlushed⟩

private theorem looksLike_resizes (screen : Screen) (sizes : List (Nat × Nat)) :
    (screen.run (sizes.map Request.resizeTo)).display.LooksLike screen.display := by
  apply looksLike_run
  intro request member
  obtain ⟨size, -, rfl⟩ := List.mem_map.mp member
  rfl

section

variable {screen : Screen} {sizes : List (Nat × Nat)} {last : Nat × Nat}

/-- What a run of resizes has left shown: the cells that were on the grid all the time. -/
theorem shows_resizes (solid : 0 < screen.display.metrics.width ∧ 0 < screen.display.metrics.height)
    (shown : (Watched.flushed screen).Shown)
    (bounded : ∀ size ∈ sizes, (Request.resizeTo size).Bounded screen.display.metrics)
    {row column : Nat}
    (stays : ∀ size ∈ (screen.display.width, screen.display.height) :: sizes,
      Holds size row column) :
    (screen.run (sizes.map Request.resizeTo)).display.Shows
      (screen.run (sizes.map Request.resizeTo)).surface.pending row column := by
  have shownRun := Watched.shown_resizes shown solid (Nat.le_refl _) (Nat.le_refl _) bounded
  have painted := (Watched.painted_resizes (.flushed screen) sizes row column).mpr
    (List.forall_mem_cons.mp stays)
  have shows := shownRun row column painted
  rwa [Watched.screen_run] at shows

/-- A run of resizes leaves the color of the surface where a cell was exposed. -/
theorem shows_resizes_iff_of_exposed (laid : screen.Laid)
    (bounded : ∀ size ∈ sizes, (Request.resizeTo size).Bounded screen.display.metrics)
    {row column : Nat} (held : Holds (sizes.getLastD (screen.display.width, screen.display.height))
      row column)
    (exposed : ∃ size ∈ (screen.display.width, screen.display.height) :: sizes,
      ¬ Holds size row column) :
    (screen.run (sizes.map Request.resizeTo)).display.Shows
        (screen.run (sizes.map Request.resizeTo)).surface.pending row column ↔
      screen.surface.background = screen.display.defaultBackground := by
  have tracks := Watched.tracks_resizes (Watched.tracks_flushed laid rfl) bounded
  have unpainted : ¬ ((Watched.flushed screen).run (sizes.map Request.resizeTo)).Painted row
      column := by
    rw [Watched.painted_resizes]
    obtain ⟨size, member, outside⟩ := exposed
    intro painted
    have stays : ∀ size ∈ (screen.display.width, screen.display.height) :: sizes,
        Holds size row column := List.forall_mem_cons.mpr painted
    exact outside (stays size member)
  have screen_eq : ((Watched.flushed screen).run (sizes.map Request.resizeTo)).screen =
      screen.run (sizes.map Request.resizeTo) := Watched.screen_run ..
  have inside : row < (screen.run (sizes.map Request.resizeTo)).display.height ∧
      column < (screen.run (sizes.map Request.resizeTo)).display.width := by
    rw [← size_resizes] at held
    exact held
  rw [← screen_eq] at inside ⊢
  obtain ⟨blank, box_eq⟩ := tracks.exposed inside unpainted
  have alike := looksLike_resizes screen sizes
  rw [← screen_eq] at alike
  rw [Display.shows_iff blank, box_eq, Display.drawing_blank,
    CellMetrics.plain_eq_iff ⟨tracks.laid.wide, tracks.laid.high⟩, alike.background_eq]
  exact ⟨fun same => same rfl, fun same _ => same⟩

private theorem shows_resizes_flush_iff
    (solid : 0 < screen.display.metrics.width ∧ 0 < screen.display.metrics.height)
    (bounded : (Request.resizeTo last).Bounded screen.display.metrics) {row column : Nat} :
    (screen.run ((sizes ++ [last]).map Request.resizeTo ++ [.flush])).display.Shows
        (screen.run ((sizes ++ [last]).map Request.resizeTo ++ [.flush])).surface.committed
        row column ↔
      (Holds (sizes.getLastD (screen.display.width, screen.display.height)) row column →
        (screen.run ((sizes ++ [last]).map Request.resizeTo)).display.Shows
          (screen.run ((sizes ++ [last]).map Request.resizeTo)).surface.pending row column) := by
  have metrics_eq := (looksLike_resizes screen sizes).metrics_eq
  have resized_eq : screen.run ((sizes ++ [last]).map Request.resizeTo) =
      (screen.run (sizes.map Request.resizeTo)).step (.resizeTo last) := by
    rw [List.map_append, run_append]
    rfl
  have flushed_eq : screen.run ((sizes ++ [last]).map Request.resizeTo ++ [.flush]) =
      ((screen.run (sizes.map Request.resizeTo)).step (.resizeTo last)).step .flush := by
    rw [run_append, resized_eq]
    rfl
  rw [← metrics_eq] at solid bounded
  rw [flushed_eq, resized_eq, committed_flush, shows_flush_resize_iff solid bounded, size_resizes]

private theorem shows_of_remembered
    (solid : 0 < screen.display.metrics.width ∧ 0 < screen.display.metrics.height)
    (shown : (Watched.flushed screen).Shown)
    (bounded : ∀ size ∈ sizes ++ [last], (Request.resizeTo size).Bounded screen.display.metrics)
    {row column : Nat} (remembered : ¬ Forgotten (screen.display.width, screen.display.height)
      sizes last row column) :
    (screen.run ((sizes ++ [last]).map Request.resizeTo ++ [.flush])).display.Shows
      (screen.run ((sizes ++ [last]).map Request.resizeTo ++ [.flush])).surface.committed
      row column := by
  have lastBounded := bounded last (List.mem_append_right _ (List.mem_singleton_self _))
  rw [shows_resizes_flush_iff solid lastBounded]
  intro held
  by_cases inside : Holds last row column
  · apply shows_resizes solid shown bounded
    intro size member
    rw [← List.cons_append, List.mem_append, List.mem_singleton] at member
    rcases member with earlier | rfl
    · exact Decidable.byContradiction fun outside =>
        remembered ⟨⟨inside, held⟩, size, earlier, outside⟩
    · exact inside
  · apply Display.shows_of_outside
    have size_eq := size_resizes screen (sizes ++ [last])
    rw [List.getLastD_concat] at size_eq
    rwa [← size_eq] at inside

private theorem shows_iff_of_forgotten (laid : screen.Laid)
    (bounded : ∀ size ∈ sizes ++ [last], (Request.resizeTo size).Bounded screen.display.metrics)
    {row column : Nat} (forgotten : Forgotten (screen.display.width, screen.display.height)
      sizes last row column) :
    (screen.run ((sizes ++ [last]).map Request.resizeTo ++ [.flush])).display.Shows
        (screen.run ((sizes ++ [last]).map Request.resizeTo ++ [.flush])).surface.committed
        row column ↔
      screen.surface.background = screen.display.defaultBackground := by
  obtain ⟨⟨inside, held⟩, size, earlier, outside⟩ := forgotten
  have lastBounded := bounded last (List.mem_append_right _ (List.mem_singleton_self _))
  have holds : Holds ((sizes ++ [last]).getLastD (screen.display.width, screen.display.height))
      row column := by
    rwa [List.getLastD_concat]
  have exposed : ∃ size ∈ (screen.display.width, screen.display.height) :: (sizes ++ [last]),
      ¬ Holds size row column := ⟨size, List.mem_append_left _ earlier, outside⟩
  rw [shows_resizes_flush_iff ⟨laid.wide, laid.high⟩ lastBounded,
    ← shows_resizes_iff_of_exposed laid bounded holds exposed]
  exact ⟨fun shows => shows held, fun shows _ => shows⟩

end

end Screen

/-- Let a flushed screen show all its cells, and let it be resized several times before the next
flush. Then every cell is shown again that was not exposed by an earlier resize than the last; those
that were are shown in the color of the surface. -/
theorem shows_after_resizes {screen : Screen}
    (solid : 0 < screen.display.metrics.width ∧ 0 < screen.display.metrics.height)
    (flushed : screen.surface.committed = screen.surface.pending) (shows : screen.ShowsAll)
    {sizes : List (Nat × Nat)} {last : Nat × Nat}
    (bounded : ∀ size ∈ sizes ++ [last],
      (Request.resizeTo size).Bounded screen.display.metrics) :
    let start := (screen.display.width, screen.display.height)
    let final := screen.run ((sizes ++ [last]).map Request.resizeTo ++ [.flush])
    (∀ row column, ¬ Forgotten start sizes last row column →
      final.display.Shows final.surface.committed row column) ∧
    (screen.Laid → (final.ShowsAll ↔
      screen.surface.background = screen.display.defaultBackground ∨
        ∀ row column, ¬ Forgotten start sizes last row column)) := by
  intro start final
  have shown : (Watched.flushed screen).Shown := by
    rw [Watched.shown_flushed_iff, ← flushed]
    exact shows
  have kept (row column : Nat) (remembered : ¬ Forgotten start sizes last row column) :
      final.display.Shows final.surface.committed row column :=
    Screen.shows_of_remembered solid shown bounded remembered
  refine ⟨kept, fun laid => ⟨?_, ?_⟩⟩
  · intro showsFinal
    by_cases same : screen.surface.background = screen.display.defaultBackground
    · exact .inl same
    · refine .inr fun row column forgotten => same ?_
      exact (Screen.shows_iff_of_forgotten laid bounded forgotten).mp (showsFinal row column)
  · intro safe row column
    rcases safe with same | remembered
    · by_cases forgotten : Forgotten start sizes last row column
      · exact (Screen.shows_iff_of_forgotten laid bounded forgotten).mpr same
      · exact kept row column forgotten
    · exact kept row column (remembered row column)

/-- A screen of one cell on a white surface that is widened, and resized once more. -/
theorem shows_after_two_resizes :
    let start := (Screen.ofPixels (.ofBackground .white) 1 1).step .flush
    start.ShowsAll ∧
    let final := start.run ([(2, 1), (2, 1)].map Request.resizeTo ++ [.flush])
    (∀ row column, ¬ Forgotten (1, 1) [(2, 1)] (2, 1) row column →
      final.display.Shows final.surface.committed row column) ∧
    (final.ShowsAll ↔ start.surface.background = start.display.defaultBackground ∨
      ∀ row column, ¬ Forgotten (1, 1) [(2, 1)] (2, 1) row column) := by
  intro start
  have laid : start.Laid := Screen.laid_step (Screen.laid_ofPixels _ (by decide)) rfl trivial
  have shows : start.ShowsAll := Screen.showsAll_ofPixels _ (by decide)
  have metrics_eq : start.display.metrics = ⟨1, 1, 1⟩ :=
    (Screen.metrics_step _ .flush rfl).trans (Screen.metrics_ofPixels ..)
  have bounded : ∀ size ∈ [(2, 1)] ++ [(2, 1)],
      (Request.resizeTo size).Bounded start.display.metrics := by
    rw [metrics_eq]
    decide
  have size_eq : (start.display.width, start.display.height) = (1, 1) := by
    rw [Screen.display_of_flushes _ rfl, Display.width_flushOperations,
      Display.height_flushOperations, Screen.width_ofPixels, Screen.height_ofPixels]
  obtain ⟨kept, shown⟩ := shows_after_resizes ⟨laid.wide, laid.high⟩ (Screen.committed_flush _)
    shows bounded
  rw [size_eq] at kept shown
  exact ⟨shows, kept, shown laid⟩

/-- A cell that was exposed before the last resize is shown in the color of the surface. -/
theorem not_showsAll_of_two_resizes :
    let start := (Screen.ofPixels (.ofBackground .white) 1 1).step .flush
    start.ShowsAll ∧ ¬ (start.run [.resize 2 1, .resize 2 1, .flush]).ShowsAll := by
  refine ⟨Screen.showsAll_ofPixels _ (by decide), fun shows => ?_⟩
  have drawn := shows 0 1 (.blank .default) (by decide +kernel) rfl
  revert drawn
  decide +kernel

end CellScreen
