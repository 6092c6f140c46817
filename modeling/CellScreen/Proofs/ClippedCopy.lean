import CellScreen.Proofs.Canvas
import CellScreen.Surface

/-! A copy of pixels, clipped at both ends. Source and destination may overlap and may reach beyond
the canvas: every pixel has what stood at its place of origin before the copy, and in which order
the pixels are written makes no difference. -/
namespace CellScreen

private theorem Rect.contains_of_extents {rect : Rect}
    (extents : rect.width < 2 ^ 31 ∧ rect.height < 2 ^ 31) (x y : Int) :
    rect.contains x y ↔ (rect.x ≤ x ∧ x < rect.x + rect.width) ∧
      rect.y ≤ y ∧ y < rect.y + rect.height := by
  have across : coordinate rect.width = rect.width :=
    coordinate_of_small (by omega) (by omega)
  have down : coordinate rect.height = rect.height :=
    coordinate_of_small (by omega) (by omega)
  simp only [contains, right, bottom, across, down, Bool.and_eq_true, decide_eq_true_eq, and_assoc]

namespace Canvas

/-- Writing pixels that agree on every place makes the same of a canvas in any order. -/
theorem setPixels_perm {pixels others : List (Int × Int × Pixel)} (canvas : Canvas)
    (perm : others.Perm pixels) (agreed : ∀ {x y : Int} {pixel other : Pixel},
      (x, y, pixel) ∈ pixels → (x, y, other) ∈ pixels → other = pixel) :
    canvas.setPixels others = canvas.setPixels pixels := by
  refine Grid.ext_get? (by simp) (by simp) fun row column => ?_
  rw [← pixel?_natCast, ← pixel?_natCast]
  by_cases listed : ∃ pixel, ((column : Int), (row : Int), pixel) ∈ pixels
  · obtain ⟨pixel, listed⟩ := listed
    by_cases inside : row < canvas.height ∧ column < canvas.width
    · rw [pixel?_setPixels_of_mem _ _ (perm.mem_iff.mpr listed)
          (fun other member => agreed listed (perm.mem_iff.mp member)) (by omega),
        pixel?_setPixels_of_mem _ _ listed (fun other member => agreed listed member) (by omega)]
    · have absent (written : List (Int × Int × Pixel)) :
          (canvas.setPixels written).pixel? column row = none := by
        rw [pixel?_natCast, Grid.get?_eq_none_iff, width_setPixels, height_setPixels]
        exact inside
      rw [absent, absent]
  · have unlisted : ∀ entry ∈ pixels, ¬ (entry.1 = column ∧ entry.2.1 = row) := by
      rintro ⟨x, y, pixel⟩ member ⟨rfl, rfl⟩
      exact listed ⟨pixel, member⟩
    rw [pixel?_setPixels_of_not_mem _ _ fun entry member => unlisted entry (perm.mem_iff.mp member),
      pixel?_setPixels_of_not_mem _ _ unlisted]

private theorem eq_of_mem_movedPixels {canvas : Canvas} {source : Rect} {x y toX toY : Int}
    {pixel other : Pixel} (one : (toX, toY, pixel) ∈ canvas.movedPixels source x y)
    (another : (toX, toY, other) ∈ canvas.movedPixels source x y) : other = pixel := by
  have found := (mem_movedPixels.mp one).2
  exact Option.some.inj ((mem_movedPixels.mp another).2.symm.trans found)

end Canvas

namespace Surface

/-- A copy keeps the size of the canvas. Every pixel gets what the canvas had at its place of origin
before the copy, if that is both in the source and on the canvas, and else stays as it was; the
pixels can be written in any order. Extents are below `2 ^ 31`, as those of any rectangle are whose
edges do not overflow coordinates. -/
theorem copy_as_read_before_written (surface : Surface) (source : Rect) (x y : Int)
    (extents : source.width < 2 ^ 31 ∧ source.height < 2 ^ 31) :
    let before := surface.pending
    let after := (surface.apply (.copy source x y)).pending
    (after.width = before.width ∧ after.height = before.height) ∧
    (∀ toX toY : Int, (0 ≤ toX ∧ toX < before.width ∧ 0 ≤ toY ∧ toY < before.height) →
      let fromX := toX - x + source.x
      let fromY := toY - y + source.y
      after.pixel? toX toY =
        if ((source.x ≤ fromX ∧ fromX < source.x + source.width) ∧
            source.y ≤ fromY ∧ fromY < source.y + source.height) ∧
          0 ≤ fromX ∧ fromX < before.width ∧ 0 ≤ fromY ∧ fromY < before.height
        then before.pixel? fromX fromY else before.pixel? toX toY) ∧
    ∀ writes : List (Int × Int × Pixel), writes.Perm (before.movedPixels source x y) →
      before.setPixels writes = after := by
  intro before after
  have copied : after = before.copy source x y := rfl
  refine ⟨?_, fun toX toY inside => ?_, fun writes perm => ?_⟩
  · rw [copied]
    exact ⟨Canvas.width_copy .., Canvas.height_copy ..⟩
  · have fromX : toX - (x - source.x) = toX - x + source.x := by omega
    have fromY : toY - (y - source.y) = toY - y + source.y := by omega
    rw [copied, Canvas.pixel?_copy _ _ _ _ inside, fromX, fromY]
    simp only [Canvas.mem_points, Rect.contains_of_extents extents]
  · exact before.setPixels_perm perm Canvas.eq_of_mem_movedPixels

/-- Five pixels that are moved to the right onto themselves, by a source that starts to the left of
the canvas and ends below it. -/
theorem copy_as_read_before_written_of_overlap :
    let surface := empty.applyAll [.resize 5 1, .fill ⟨0, 0, 1, 1⟩ .white]
    let source : Rect := ⟨-1, 0, 4, 2⟩
    (source.width < 2 ^ 31 ∧ source.height < 2 ^ 31) ∧
    let after := (surface.apply (.copy source 1 0)).pending
    (after.width = 5 ∧ after.height = 1) ∧
    after.pixel? 0 0 = some (.paint .white) ∧ after.pixel? 2 0 = some (.paint .white) ∧
    after.pixel? 3 0 = some (.paint .black) ∧
    ∀ writes : List (Int × Int × Pixel), writes.Perm (surface.pending.movedPixels source 1 0) →
      surface.pending.setPixels writes = after := by
  refine ⟨by decide, ?_⟩
  obtain ⟨size, pixels, orders⟩ := copy_as_read_before_written
    (empty.applyAll [.resize 5 1, .fill ⟨0, 0, 1, 1⟩ .white]) ⟨-1, 0, 4, 2⟩ 1 0 (by decide)
  refine ⟨size, ?_, ?_, ?_, orders⟩
  · rw [pixels 0 0 (by decide)]
    decide
  · rw [pixels 2 0 (by decide)]
    decide
  · rw [pixels 3 0 (by decide)]
    decide

end Surface
end CellScreen
