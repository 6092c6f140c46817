import CellScreen.Canvas

/-! What drawing does to a canvas, pixel by pixel. No drawing changes the size; a copy moves the
pixels of its source as they were, and a glyph is its box, an underline and one pixel of ink. -/
namespace CellScreen

def TextRun.boxOf (run : TextRun) (x : Int) (glyph : Glyph) : Rect :=
  ⟨x, run.y, glyph.columns.toNat * run.cellWidth, run.cellHeight⟩

def TextRun.underlineOf (run : TextRun) (x : Int) (glyph : Glyph) : Rect :=
  ⟨x, (run.boxOf x glyph).bottom - 1, glyph.columns.toNat * run.cellWidth, 1⟩

namespace Canvas

theorem pixel?_natCast (canvas : Canvas) (x y : Nat) : canvas.pixel? x y = canvas.get? y x := by
  rw [pixel?, if_pos (by omega), Int.toNat_natCast, Int.toNat_natCast]

theorem exists_pixel? {canvas : Canvas} {x y : Int}
    (inside : 0 ≤ x ∧ x < canvas.width ∧ 0 ≤ y ∧ y < canvas.height) :
    ∃ pixel, canvas.pixel? x y = some pixel := by
  rw [pixel?, if_pos (by omega)]
  exact Grid.exists_get? (by omega)

@[simp] theorem width_fill (canvas : Canvas) (rect : Rect) (pixel : Pixel) :
    (canvas.fill rect pixel).width = canvas.width := width_setPixels ..

@[simp] theorem height_fill (canvas : Canvas) (rect : Rect) (pixel : Pixel) :
    (canvas.fill rect pixel).height = canvas.height := height_setPixels ..

@[simp] theorem width_copy (canvas : Canvas) (source : Rect) (x y : Int) :
    (canvas.copy source x y).width = canvas.width := width_setPixels ..

@[simp] theorem height_copy (canvas : Canvas) (source : Rect) (x y : Int) :
    (canvas.copy source x y).height = canvas.height := height_setPixels ..

@[simp] theorem width_drawGlyph (canvas : Canvas) (run : TextRun) (x : Int) (glyph : Glyph) :
    (canvas.drawGlyph run x glyph).width = canvas.width := by
  simp only [drawGlyph]
  split <;> split <;> simp

@[simp] theorem height_drawGlyph (canvas : Canvas) (run : TextRun) (x : Int) (glyph : Glyph) :
    (canvas.drawGlyph run x glyph).height = canvas.height := by
  simp only [drawGlyph]
  split <;> split <;> simp

theorem mem_movedPixels {canvas : Canvas} {source : Rect} {x y toX toY : Int} {pixel : Pixel} :
    (toX, toY, pixel) ∈ canvas.movedPixels source x y ↔
      (toX - (x - source.x), toY - (y - source.y)) ∈ canvas.points source ∧
        canvas.pixel? (toX - (x - source.x)) (toY - (y - source.y)) = some pixel := by
  simp only [movedPixels, List.mem_filterMap, Option.map_eq_some_iff, Prod.mk.injEq]
  constructor
  · rintro ⟨⟨fromX, fromY⟩, placed, old, found, rfl, rfl, rfl⟩
    rw [Int.add_sub_cancel, Int.add_sub_cancel]
    exact ⟨placed, found⟩
  · rintro ⟨placed, found⟩
    exact ⟨_, placed, pixel, found, Int.sub_add_cancel .., Int.sub_add_cancel .., rfl⟩

/-- A copy takes every pixel from where it stood, if that is in the source and on the canvas. -/
theorem pixel?_copy (canvas : Canvas) (source : Rect) (x y : Int) {toX toY : Int}
    (inside : 0 ≤ toX ∧ toX < canvas.width ∧ 0 ≤ toY ∧ toY < canvas.height) :
    (canvas.copy source x y).pixel? toX toY =
      if (toX - (x - source.x), toY - (y - source.y)) ∈ canvas.points source
      then canvas.pixel? (toX - (x - source.x)) (toY - (y - source.y))
      else canvas.pixel? toX toY := by
  unfold copy
  split
  · next placed =>
    obtain ⟨pixel, found⟩ := exists_pixel? (mem_points.mp placed).2
    rw [found]
    apply pixel?_setPixels_of_mem _ _ (mem_movedPixels.mpr ⟨placed, found⟩) _ inside
    intro other listed
    have found' := (mem_movedPixels.mp listed).2
    exact Option.some.inj (found'.symm.trans found)
  · next outside =>
    apply pixel?_setPixels_of_not_mem
    rintro ⟨otherX, otherY, other⟩ listed ⟨rfl, rfl⟩
    exact outside (mem_movedPixels.mp listed).1

theorem pixel?_fill_of_inside (canvas : Canvas) (rect : Rect) (pixel : Pixel) {x y : Int}
    (inside : 0 ≤ x ∧ x < canvas.width ∧ 0 ≤ y ∧ y < canvas.height) :
    (canvas.fill rect pixel).pixel? x y =
      if rect.contains x y then some pixel else canvas.pixel? x y := by
  rw [pixel?_fill]
  simp only [inside, and_true]

/-- A glyph puts ink on its origin, unless it is a space, over the underline and the box. -/
theorem pixel?_drawGlyph (canvas : Canvas) (run : TextRun) (glyph : Glyph) {x toX toY : Int}
    (small : coordinate x = x)
    (inside : 0 ≤ toX ∧ toX < canvas.width ∧ 0 ≤ toY ∧ toY < canvas.height) :
    (canvas.drawGlyph run x glyph).pixel? toX toY =
      if (x = toX ∧ run.y = toY) ∧ glyph.char ≠ ' ' then
        some ⟨run.style.foreground, some glyph.char⟩
      else if (run.style.underline && 0 < run.cellHeight) ∧
          (run.underlineOf x glyph).contains toX toY then
        some (.paint run.style.foreground)
      else if (run.boxOf x glyph).contains toX toY then some (.paint run.style.background)
      else canvas.pixel? toX toY := by
  let painted := canvas.fill (run.boxOf x glyph) (.paint run.style.background)
  let lined := if run.style.underline && 0 < run.cellHeight then
    painted.fill (run.underlineOf x glyph) (.paint run.style.foreground) else painted
  have drawn : canvas.drawGlyph run x glyph = if glyph.char = ' ' then lined else
      lined.setPixel x run.y ⟨run.style.foreground, some glyph.char⟩ := by
    simp only [drawGlyph, small]
    rfl
  have paintedAt : painted.pixel? toX toY = if (run.boxOf x glyph).contains toX toY then
      some (.paint run.style.background) else canvas.pixel? toX toY :=
    pixel?_fill_of_inside _ _ _ inside
  have linedAt : lined.pixel? toX toY = if (run.style.underline && 0 < run.cellHeight) ∧
      (run.underlineOf x glyph).contains toX toY then some (.paint run.style.foreground)
      else painted.pixel? toX toY := by
    by_cases underlined : (run.style.underline && 0 < run.cellHeight) = true
    · simp only [lined, underlined, if_true, true_and]
      exact pixel?_fill_of_inside _ _ _ (by simpa [painted] using inside)
    · simp [lined, underlined]
  have size : lined.width = canvas.width ∧ lined.height = canvas.height := by
    simp only [lined, painted]
    split <;> simp
  rw [drawn, ← paintedAt, ← linedAt]
  by_cases blank : glyph.char = ' '
  · simp [blank]
  · by_cases here : x = toX ∧ run.y = toY
    · obtain ⟨rfl, rfl⟩ := here
      rw [if_neg blank, pixel?_setPixel, if_pos ⟨rfl, rfl, by rwa [size.1, size.2]⟩,
        if_pos ⟨⟨rfl, rfl⟩, blank⟩]
    · rw [if_neg blank, pixel?_setPixel, if_neg fun all => here ⟨all.1, all.2.1⟩,
        if_neg fun all => here all.1]

end Canvas
end CellScreen
