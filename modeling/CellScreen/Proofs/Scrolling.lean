import CellScreen.Proofs.PixelCells
import CellScreen.Proofs.Exposure

/-! Scrolling on a screen that is resized. Copies come before fills in a flush, so a copy from a
cell that the same flush is to paint moves the background of the surface. That is the only way in
which a cell can come to be shown by anything but its drawing. -/
namespace CellScreen

namespace Request

def edits : Request → Bool
  | .setColumns .. | .copyColumns .. | .copyRows .. | .resize .. | .select .. | .clearSelect
  | .flush => true
  | _ => false

/-- No two resizes without a flush between them; the flag tells whether there has been a flush
since the last one. -/
def separated : Bool → List Request → Bool
  | _, [] => true
  | fresh, .resize .. :: more => fresh && separated false more
  | _, .flush :: more => separated true more
  | fresh, _ :: more => separated fresh more

private theorem keepsLook_of_edits {request : Request} (edits : request.edits) :
    request.keepsLook := by
  cases request with
  | setFont | assignColor | resetPalette => cases edits
  | _ => rfl

private theorem eq_flush_of_edits {request : Request} (edits : request.edits)
    (flushes : request.flushes) : request = .flush := by
  cases request with
  | flush => rfl
  | flushOperations | join => cases edits
  | _ => cases flushes

private theorem separated_of_quiet {request : Request} {more : List Request} {fresh : Bool}
    (quiet : request.draws = false) :
    separated fresh (request :: more) = separated fresh more := by
  cases request with
  | resize | flushOperations | flush | join => cases quiet
  | _ => rfl

private theorem separated_of_append {requests more : List Request} {fresh : Bool}
    (apart : separated fresh (requests ++ more)) : separated fresh requests := by
  induction requests generalizing fresh with
  | nil => rfl
  | cons request requests ih =>
    cases request with
    | resize columns rows =>
      rw [List.cons_append, separated, Bool.and_eq_true] at apart
      rw [separated, apart.1, ih apart.2]
      rfl
    | _ => exact ih apart

end Request

namespace Watched

variable {watched : Watched} {background blank : Rgb} {metrics : CellMetrics} {fresh : Bool}

structure Followed (watched : Watched) (background blank : Rgb) (metrics : CellMetrics)
    (fresh : Bool) : Prop where
  tracks : watched.Tracks background
  waiting : watched.Waiting
  painted : fresh → watched.columns = watched.screen.display.width ∧
    watched.rows = watched.screen.display.height
  blank_eq : watched.screen.display.defaultBackground = blank
  metrics_eq : watched.screen.display.metrics = metrics

theorem followed_step (followed : watched.Followed background blank metrics fresh)
    {request : Request} {more : List Request} (edits : request.edits)
    (bounded : request.Bounded metrics) (apart : Request.separated fresh (request :: more)) :
    ∃ next, (watched.step request).Followed background blank metrics next ∧
      Request.separated next more := by
  obtain ⟨tracks, waiting, painted, blank_eq, rfl⟩ := followed
  have keeps := Request.keepsLook_of_edits edits
  have alike := watched.screen.looksLike_step keeps
  have blank_eq' : (watched.step request).screen.display.defaultBackground = blank := by
    rw [screen_step, alike.background_eq, blank_eq]
  have metrics_eq : (watched.step request).screen.display.metrics =
      watched.screen.display.metrics := by
    rw [screen_step, alike.metrics_eq]
  rcases request.quiet_or_resize_or_flushes with quiet | ⟨columns, rows, rfl⟩ | flushes
  · rw [Request.separated_of_quiet quiet] at apart
    refine ⟨fresh, ⟨tracks_recorded tracks quiet keeps bounded, waiting_recorded waiting quiet, ?_,
      blank_eq', metrics_eq⟩, apart⟩
    intro isFresh
    have committed := (watched.screen.step_recorded quiet).committed
    rw [step_of_quiet watched quiet, Display.width, Display.height, committed]
    exact painted isFresh
  · rw [Request.separated, Bool.and_eq_true] at apart
    refine ⟨false, ⟨tracks_resize tracks bounded, waiting_resize (painted apart.1) columns rows, ?_,
      blank_eq', metrics_eq⟩, apart.2⟩
    intro isFresh
    cases isFresh
  · cases Request.eq_flush_of_edits edits flushes
    have laid : (watched.screen.step .flush).Laid := Screen.laid_step tracks.laid rfl bounded
    refine ⟨true, ⟨tracks_flushed laid ?_, waiting_flushed _ laid.consistent, ?_, blank_eq',
      metrics_eq⟩, apart⟩
    · exact (watched.screen.background_step _).trans tracks.background_eq
    · exact fun _ => ⟨rfl, rfl⟩

theorem followed_run (followed : watched.Followed background blank metrics fresh)
    {requests : List Request}
    (edits : ∀ request ∈ requests, request.edits ∧ request.Bounded metrics)
    (apart : Request.separated fresh requests) :
    ∃ next, (watched.run requests).Followed background blank metrics next := by
  unfold run
  induction requests generalizing watched fresh with
  | nil => exact ⟨fresh, followed⟩
  | cons request requests ih =>
    obtain ⟨now, later⟩ := List.forall_mem_cons.mp edits
    obtain ⟨next, stillFollowed, stillApart⟩ := followed_step followed now.1 now.2 apart
    exact ih stillFollowed later stillApart

theorem shown_step (followed : watched.Followed background blank metrics fresh)
    (shown : watched.Shown) {request : Request} (edits : request.edits)
    (bounded : request.Bounded metrics)
    (safe : request = .flush → background = blank ∨ ¬ watched.Exposes) :
    (watched.step request).Shown := by
  obtain ⟨tracks, waiting, -, blank_eq, rfl⟩ := followed
  rcases request.quiet_or_resize_or_flushes with quiet | ⟨columns, rows, rfl⟩ | flushes
  · exact shown_recorded shown quiet (Request.keepsLook_of_edits edits)
  · exact shown_resize shown ⟨tracks.laid.wide, tracks.laid.high⟩ tracks.columns_le tracks.rows_le
      bounded
  · cases Request.eq_flush_of_edits edits flushes
    apply shown_flush tracks waiting shown
    rw [blank_eq]
    exact safe rfl

/-- Along a run all painted cells are shown, if no flush of the run moves exposed pixels. -/
theorem shown_run (followed : watched.Followed background blank metrics fresh)
    (shown : watched.Shown) {requests : List Request}
    (edits : ∀ request ∈ requests, request.edits ∧ request.Bounded metrics)
    (apart : Request.separated fresh requests)
    (safe : background = blank ∨
      ∀ before, before ++ [.flush] <+: requests → ¬ (watched.run before).Exposes) :
    (watched.run requests).Shown := by
  induction requests generalizing watched fresh with
  | nil => exact shown
  | cons request requests ih =>
    obtain ⟨now, later⟩ := List.forall_mem_cons.mp edits
    obtain ⟨next, stillFollowed, stillApart⟩ := followed_step followed now.1 now.2 apart
    have shownNext : (watched.step request).Shown := by
      apply shown_step followed shown now.1 now.2
      rintro rfl
      exact safe.imp_right fun unmoved => unmoved [] ⟨requests, rfl⟩
    have safeNext : background = blank ∨ ∀ before, before ++ [.flush] <+: requests →
        ¬ ((watched.step request).run before).Exposes :=
      safe.imp_right fun unmoved before initial =>
        unmoved (request :: before) (List.cons_prefix_cons.mpr ⟨rfl, initial⟩)
    exact ih stillFollowed shownNext later stillApart safeNext

private theorem showsAll_iff_shown (screen : Screen) (before : List Request) :
    (screen.run (before ++ [.flush])).ShowsAll ↔
      ((new screen).run (before ++ [.flush])).Shown := by
  have run_eq : (new screen).run (before ++ [.flush]) =
      flushed (screen.run (before ++ [.flush])) := by
    rw [run_append, Screen.run_append]
    change flushed (((new screen).run before).screen.step .flush) = _
    rw [screen_run]
    rfl
  rw [run_eq, shown_flushed_iff, Screen.ShowsAll, Screen.run_append]
  rfl

theorem followed_new {screen : Screen} {fonts : FontSource} {config : Config}
    (made : Screen.new (.ofBackground background) fonts config = .ok screen)
    (solid : 0 < screen.display.metrics.width ∧ 0 < screen.display.metrics.height)
    (bounded : (Request.resize config.columns config.rows).Bounded screen.display.metrics) :
    (new screen).Followed background screen.display.defaultBackground screen.display.metrics
      false := by
  obtain ⟨tracks, waiting⟩ := tracks_new made solid bounded
  exact ⟨tracks, waiting, Bool.noConfusion, rfl, rfl⟩

end Watched

/-- On a run whose resizes are separated by flushes, every flush shows all cells by their drawing
exactly if blank cells have the color of the surface, or no flush moves pixels from a cell that it
is to paint itself. -/
theorem showsAll_iff_of_separated {screen : Screen} {background : Rgb} {fonts : FontSource}
    {config : Config} (made : Screen.new (.ofBackground background) fonts config = .ok screen)
    (solid : 0 < screen.display.metrics.width ∧ 0 < screen.display.metrics.height)
    {requests : List Request}
    (edits : ∀ request ∈ .resize config.columns config.rows :: requests,
      request.edits ∧ request.Bounded screen.display.metrics)
    (apart : Request.separated false requests) :
    (∀ before, before ++ [.flush] <+: requests → (screen.run (before ++ [.flush])).ShowsAll) ↔
      background = screen.display.defaultBackground ∨
        ∀ before, before ++ [.flush] <+: requests →
          ¬ ((Watched.new screen).run before).Exposes := by
  obtain ⟨first, later⟩ := List.forall_mem_cons.mp edits
  have followed := Watched.followed_new made solid first.2
  constructor
  · intro shows
    by_cases same : background = screen.display.defaultBackground
    · exact .inl same
    · refine .inr fun before initial exposes => ?_
      have shown := (Watched.showsAll_iff_shown screen before).mp (shows before initial)
      obtain ⟨after, split⟩ := initial
      rw [← split, List.append_assoc] at apart later
      obtain ⟨fresh, reached⟩ := Watched.followed_run followed (List.forall_mem_append.mp later).1
        (Request.separated_of_append apart)
      rw [Watched.run_append] at shown
      rw [← reached.blank_eq] at same
      exact Watched.not_shown_flush reached.tracks exposes same shown
  · intro safe before initial
    rw [Watched.showsAll_iff_shown]
    obtain ⟨after, split⟩ := initial
    rw [← split] at apart later
    apply Watched.shown_run followed (Watched.shown_new screen) (List.forall_mem_append.mp later).1
      (Request.separated_of_append apart)
    refine safe.imp_right fun unmoved earlier shorter => unmoved earlier ?_
    exact shorter.trans ⟨after, split⟩

/-- Two runs of flushes, one that copies a cell which it is to paint and one that does not. -/
theorem showsAll_iff_of_two_flushes :
    let screen := Screen.ofPixels (.ofBackground .white) 2 1
    screen.display.metrics = ⟨1, 1, 1⟩ ∧
    ∀ requests ∈ [[.copyColumns 0 0 0 1, .flush],
        [.setColumns 0 0 1 (.ofChar 'a' {}), .flush, .copyColumns 0 0 0 1, .resize 2 2, .flush]],
      (∀ before, before ++ [.flush] <+: requests → (screen.run (before ++ [.flush])).ShowsAll) ↔
        Rgb.white = screen.display.defaultBackground ∨
          ∀ before, before ++ [.flush] <+: requests →
            ¬ ((Watched.new screen).run before).Exposes := by
  intro screen
  have made := Screen.new_ofPixels (.ofBackground .white) 2 1
  have solid := Screen.solid_ofPixels (.ofBackground .white) 2 1
  refine ⟨Screen.metrics_ofPixels .., ?_⟩
  rw [List.forall_mem_cons, List.forall_mem_cons]
  refine ⟨showsAll_iff_of_separated made solid ?_ rfl,
    showsAll_iff_of_separated made solid ?_ rfl, fun _ member => absurd member List.not_mem_nil⟩
  all_goals rw [Screen.metrics_ofPixels]
  all_goals decide

/-- A blank cell that is copied before it was painted is shown in the color of the surface. -/
theorem not_showsAll_of_scrolled_blank :
    Request.separated false [.copyColumns 0 0 0 1, .flush] ∧
    ¬ ((Screen.ofPixels (.ofBackground .white) 2 1).run
      [.copyColumns 0 0 0 1, .flush]).ShowsAll := by
  refine ⟨rfl, fun shows => ?_⟩
  have drawn := shows 0 1 (.blank .default) (by decide +kernel) rfl
  revert drawn
  decide +kernel

end CellScreen
