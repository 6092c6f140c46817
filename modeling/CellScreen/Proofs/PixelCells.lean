import CellScreen.Font.Proportional
import CellScreen.Proofs.Exposure

/-! New screens with cells of one pixel. Fixed runs are evaluated on them. -/
namespace CellScreen

def Display.pixels : Display where
  fonts := proportionalFonts (builtInFamilies [])
  pending := .empty 0 0
  committed := .replicate 0 0 (.blank .default)
  margin := millimetersToPixels marginMillimeters 96
  font := ⟨"monospace", Number.Single.ofRatio false 1 2⟩
  dpi := 96
  metrics := ⟨1, 1, 1⟩
  palette := .ofDefaults none
  defaultForeground := ⟨0x99, 0x99, 0x99⟩
  defaultBackground := .black
  glyphForeground := ⟨0x99, 0x99, 0x99⟩
  glyphBackground := .black
  selection := none
  unflushedSet := false

namespace Screen

@[irreducible] def ofPixels (surface : Surface) (columns rows : Nat) : Screen :=
  step ⟨.pixels, surface⟩ (.resize columns rows)

variable (surface : Surface) (background : Rgb) (columns rows : Nat)

theorem new_ofPixels : new surface (proportionalFonts (builtInFamilies []))
    { columns, rows, fontSize := Number.Single.ofRatio false 1 2 } =
      .ok (ofPixels surface columns rows) := by
  have scheme : Scheme.ofSpec "gray-black" = .ok ⟨⟨0x99, 0x99, 0x99⟩, .black, none⟩ := rfl
  have metrics : proportionalFonts (builtInFamilies [])
      ⟨"monospace", Number.Single.ofRatio false 1 2⟩ 96 = .ok ⟨1, 1, 1⟩ := rfl
  simp only [new, Display.new, Config.scheme, Config.font, scheme, metrics, ofPixels]
  rfl

theorem metrics_ofPixels : (ofPixels surface columns rows).display.metrics = ⟨1, 1, 1⟩ := by
  rw [ofPixels, metrics_step _ _ rfl]
  rfl

theorem width_ofPixels : (ofPixels surface columns rows).display.width = columns := by
  rw [ofPixels, display_of_resize, Display.width_resize]

theorem height_ofPixels : (ofPixels surface columns rows).display.height = rows := by
  rw [ofPixels, display_of_resize, Display.height_resize]

theorem solid_ofPixels : 0 < (ofPixels surface columns rows).display.metrics.width ∧
    0 < (ofPixels surface columns rows).display.metrics.height := by
  rw [metrics_ofPixels]
  decide

theorem consistent_run_ofPixels (requests : List Request) :
    ((ofPixels surface columns rows).run requests).display.Consistent :=
  consistent_run_of_new (new_ofPixels surface columns rows) requests

section

variable {columns rows : Nat} (small : columns < 2 ^ 31 ∧ rows < 2 ^ 31)
include small

private theorem bounded_ofPixels : (Request.resize columns rows).Bounded
    (ofPixels surface columns rows).display.metrics := by
  rw [metrics_ofPixels, Request.Bounded, Nat.mul_one, Nat.mul_one]
  exact small

theorem laid_ofPixels : (ofPixels surface columns rows).Laid := by
  have bounded := bounded_ofPixels surface small
  rw [metrics_ofPixels] at bounded
  rw [ofPixels]
  exact laid_resize ⟨Nat.one_pos, Nat.one_pos⟩ bounded

theorem pixelSize_ofPixels :
    (ofPixels surface columns rows).display.pixelSize = (columns, rows) := by
  rw [Display.pixelSize, metrics_ofPixels, width_ofPixels, height_ofPixels,
    extent_of_bounded (by rw [Nat.mul_one]; exact small.1),
    extent_of_bounded (by rw [Nat.mul_one]; exact small.2), Nat.mul_one, Nat.mul_one]

theorem canvas_ofPixels : ((ofPixels surface columns rows).surface.pending.width,
    (ofPixels surface columns rows).surface.pending.height) = (columns, rows) := by
  have laid := laid_ofPixels surface small
  rw [laid.width_eq, laid.height_eq, metrics_ofPixels, width_ofPixels, height_ofPixels,
    Nat.mul_one, Nat.mul_one]

theorem showsAll_ofPixels :
    ((ofPixels (.ofBackground background) columns rows).step .flush).ShowsAll :=
  showsAll_of_new (new_ofPixels ..) (solid_ofPixels ..) (bounded_ofPixels _ small)

end

end Screen
end CellScreen
