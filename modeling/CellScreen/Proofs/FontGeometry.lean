import CellScreen.Font.Proportional
import CellScreen.Proofs.Request

/-! The geometry that a font gives a display. The metrics of a cell are at all times those that the
fonts answer for the font and the resolution. The margin stays as the display was made, so after a
change of the resolution it may be another length than two millimeters. -/
namespace CellScreen

private theorem eq_ok_of_mapError {ε ζ α : Type} {describe : ε → ζ} {answer : Except ε α}
    {value : α} (mapped : answer.mapError describe = .ok value) : answer = .ok value := by
  cases answer with
  | error fault => cases mapped
  | ok answered =>
    cases mapped
    rfl

namespace Display

structure Measured (fonts : FontSource) (margin : Nat) (display : Display) : Prop where
  fonts_eq : display.fonts = fonts
  metrics : fonts display.font display.dpi = .ok display.metrics
  margin_eq : display.margin = margin

variable {display : Display} {fonts : FontSource} {margin : Nat}

private theorem Measured.resize (measured : display.Measured fonts margin) (width height : Nat) :
    (display.resize width height).1.Measured fonts margin := by
  obtain ⟨fonts_eq, metrics, margin_eq⟩ := measured
  simp only [Display.resize]
  split <;> exact ⟨fonts_eq, metrics, margin_eq⟩

private theorem Measured.flushOperations (measured : display.Measured fonts margin) :
    display.flushOperations.1.Measured fonts margin := by
  obtain ⟨fonts_eq, metrics, margin_eq⟩ := measured
  unfold Display.flushOperations
  split <;> exact ⟨fonts_eq, metrics, margin_eq⟩

end Display

namespace Screen

variable {screen : Screen} {fonts : FontSource} {margin : Nat}

theorem measured_step (measured : screen.display.Measured fonts margin) (request : Request) :
    (screen.step request).display.Measured fonts margin := by
  cases request with
  | resize columns rows => exact measured.resize columns rows
  | flushOperations | flush | join => exact measured.flushOperations
  | setFont family size dpi =>
    obtain ⟨font, resolution, metrics, answered, set⟩ := screen.step_setFont family size dpi
    rw [set]
    refine ⟨measured.fonts_eq, ?_, measured.margin_eq⟩
    -- Where the change failed, the fonts have answered for the font that stays.
    rcases answered with answered | ⟨rfl, rfl, rfl⟩
    · rw [measured.fonts_eq] at answered
      exact answered
    · exact measured.metrics
  | assignColor index color =>
    obtain ⟨palette, set⟩ := screen.step_assignColor index color
    rw [set]
    exact ⟨measured.fonts_eq, measured.metrics, measured.margin_eq⟩
  | _ => exact ⟨measured.fonts_eq, measured.metrics, measured.margin_eq⟩

theorem measured_run (measured : screen.display.Measured fonts margin) (requests : List Request) :
    (screen.run requests).display.Measured fonts margin := by
  apply run_induction (motive := fun reached => reached.display.Measured fonts margin) measured
  intro reached measured request member
  exact measured_step measured request

theorem measured_new {surface : Surface} {config : Config}
    (made : Screen.new surface fonts config = .ok screen) :
    screen.display.Measured fonts (millimetersToPixels marginMillimeters config.dpi) := by
  obtain ⟨⟨display, calls⟩, built, made⟩ := exists_ok_of_bind made
  obtain ⟨scheme, -, built⟩ := exists_ok_of_bind built
  obtain ⟨metrics, measures, built⟩ := exists_ok_of_bind built
  cases Except.ok.inj made
  have resized : _ = display := congrArg Prod.fst (Except.ok.inj built)
  change display.Measured _ _
  have answered : fonts config.font config.dpi = .ok metrics := eq_ok_of_mapError measures
  rw [← resized]
  apply Display.Measured.resize
  exact ⟨rfl, answered, rfl⟩

/-- Through every run the metrics are those that the fonts answer for the font and the resolution,
and a change of the font that fails changes nothing. The margin follows the configured resolution
only. -/
theorem metrics_follow_font {surface : Surface} {config : Config}
    (made : Screen.new surface fonts config = .ok screen) (requests : List Request) :
    let reached := screen.run requests
    fonts reached.display.font reached.display.dpi = .ok reached.display.metrics ∧
      reached.display.margin = millimetersToPixels marginMillimeters config.dpi ∧
      ∀ family size dpi fault, reached.display.setFont family size dpi = .error fault →
        reached.step (.setFont family size dpi) = reached := by
  intro reached
  have measured := measured_run (measured_new made) requests
  refine ⟨measured.metrics, measured.margin_eq, ?_⟩
  intro family size dpi fault failed
  simp only [step, failed]

/-- A display on which the font fails to change, changes its family only, and changes its size at
another resolution. -/
theorem metrics_follow_font_of_finer : ∃ screen : Screen,
    Screen.new .empty (proportionalFonts (builtInFamilies ["Serif"])) { columns := 2, rows := 1 } =
      .ok screen ∧
    let requests : List Request := [.setFont (some "sans") none 96,
      .setFont (some "serif") none 300, .setColumns 0 0 0 (.ofChar 'a' {}), .flush,
      .setFont none (some (.ofNat 12)) 192, .resize 3 1]
    let reached := screen.run requests
    proportionalFonts (builtInFamilies ["Serif"]) reached.display.font reached.display.dpi =
        .ok reached.display.metrics ∧
      reached.display.margin = millimetersToPixels marginMillimeters 96 ∧
      reached.display.setFont (some "sans") none 0 = .error (.unknownFamily "sans") ∧
      reached.step (.setFont (some "sans") none 0) = reached := by
  obtain ⟨screen, made⟩ : ∃ screen : Screen,
      Screen.new .empty (proportionalFonts (builtInFamilies ["Serif"]))
        { columns := 2, rows := 1 } = .ok screen := ⟨_, rfl⟩
  refine ⟨screen, made, ?_⟩
  intro requests reached
  have follows := metrics_follow_font made requests
  have unknown (size : Number.Single) (dpi : Nat) :
      proportionalFonts (builtInFamilies ["Serif"]) ⟨"sans", size⟩ dpi =
        .error (.unknownFamily "sans") := by
    have absent : (builtInFamilies ["Serif"]).contains (Text.lowercase "sans") = false := by
      decide +kernel
    simp only [proportionalFonts, absent, Bool.false_eq_true, if_false]
  have failed : reached.display.setFont (some "sans") none 0 = .error (.unknownFamily "sans") := by
    have fonts_eq : reached.display.fonts = _ :=
      (measured_run (measured_new made) requests).fonts_eq
    rw [Display.setFont, fonts_eq, Option.getD_some, unknown]
    rfl
  exact ⟨follows.1, follows.2.1, failed, follows.2.2 _ _ _ _ failed⟩

/-- At twice the resolution the margin stays at half the length. -/
theorem margin_ne_of_finer : ∃ screen : Screen,
    Screen.new .empty (proportionalFonts (builtInFamilies [])) { columns := 2, rows := 1 } =
      .ok screen ∧
    let reached := screen.run [.setFont none (some (.ofNat 12)) 192]
    reached.display.dpi = 192 ∧
      reached.display.margin ≠ millimetersToPixels marginMillimeters reached.display.dpi := by
  refine ⟨_, rfl, ?_⟩
  decide +kernel

end Screen
end CellScreen
