import CellScreen.Drawing
import CellScreen.Grid

/-! Canvases of pixels and what drawing does to them. Everything is clipped to the canvas. -/
namespace CellScreen

abbrev Canvas := Grid Pixel

namespace Canvas

def blank (width height : Nat) (background : Rgb) : Canvas :=
  .replicate width height (.paint background)

def pixel? (canvas : Canvas) (x y : Int) : Option Pixel :=
  if 0 ≤ x ∧ 0 ≤ y then canvas.get? y.toNat x.toNat else none

def setPixel (canvas : Canvas) (x y : Int) (pixel : Pixel) : Canvas :=
  if 0 ≤ x ∧ 0 ≤ y then canvas.set y.toNat x.toNat pixel else canvas

def setPixels (canvas : Canvas) (pixels : List (Int × Int × Pixel)) : Canvas :=
  pixels.foldl (fun canvas (x, y, pixel) => canvas.setPixel x y pixel) canvas

def resize (canvas : Canvas) (width height : Nat) (background : Rgb) : Canvas :=
  .tabulate width height fun row column => (canvas.get? row column).getD (.paint background)

def points (canvas : Canvas) (rect : Rect) : List (Int × Int) :=
  let left := max rect.x 0
  let top := max rect.y 0
  let width := (min rect.right canvas.width - left).toNat
  let height := (min rect.bottom canvas.height - top).toNat
  (Grid.places width height).map fun (row, column) => (left + column, top + row)

def fill (canvas : Canvas) (rect : Rect) (pixel : Pixel) : Canvas :=
  canvas.setPixels ((canvas.points rect).map fun (x, y) => (x, y, pixel))

def movedPixels (canvas : Canvas) (source : Rect) (x y : Int) : List (Int × Int × Pixel) :=
  (canvas.points source).filterMap fun (sourceX, sourceY) =>
    (canvas.pixel? sourceX sourceY).map fun pixel =>
      (sourceX + (x - source.x), sourceY + (y - source.y), pixel)

/-- Copies a rectangle; all of it is read before anything is written. -/
def copy (canvas : Canvas) (source : Rect) (x y : Int) : Canvas :=
  canvas.setPixels (canvas.movedPixels source x y)

def drawGlyph (canvas : Canvas) (run : TextRun) (x : Int) (glyph : Glyph) : Canvas :=
  let width := glyph.columns.toNat * run.cellWidth
  let box : Rect := ⟨coordinate x, run.y, width, run.cellHeight⟩
  let painted := canvas.fill box (.paint run.style.background)
  let underlined :=
    if run.style.underline && 0 < run.cellHeight then
      painted.fill ⟨box.x, box.bottom - 1, width, 1⟩ (.paint run.style.foreground)
    else painted
  if glyph.char = ' ' then underlined
  else underlined.setPixel x run.y ⟨run.style.foreground, some glyph.char⟩

def drawGlyphs (canvas : Canvas) (run : TextRun) (x : Int) : List Glyph → Canvas
  | [] => canvas
  | glyph :: glyphs =>
    drawGlyphs (canvas.drawGlyph run x glyph) run
      (x + (glyph.columns.toNat * run.cellWidth : Nat)) glyphs

def draw (canvas : Canvas) (run : TextRun) : Canvas := canvas.drawGlyphs run run.x run.glyphs

def putImage (canvas : Canvas) (rect : Rect) (pixels : List Pixel) : Canvas :=
  if rect.width = 0 then canvas
  else canvas.setPixels (pixels.zipIdx.map fun (pixel, i) =>
    (rect.x + (i % rect.width : Nat), rect.y + (i / rect.width : Nat), pixel))

theorem mem_points {canvas : Canvas} {rect : Rect} {x y : Int} :
    (x, y) ∈ canvas.points rect ↔
      rect.contains x y ∧ 0 ≤ x ∧ x < canvas.width ∧ 0 ≤ y ∧ y < canvas.height := by
  simp only [points, List.mem_map, Prod.mk.injEq, Rect.contains, Bool.and_eq_true,
    decide_eq_true_eq]
  constructor
  · rintro ⟨place, member, rfl, rfl⟩
    have bounds := Grid.mem_places.mp member
    omega
  · rintro ⟨inside, bounds⟩
    exact ⟨((y - max rect.y 0).toNat, (x - max rect.x 0).toNat),
      Grid.mem_places.mpr ⟨by omega, by omega⟩, by omega, by omega⟩

@[simp] theorem width_setPixel (canvas : Canvas) (x y : Int) (pixel : Pixel) :
    (canvas.setPixel x y pixel).width = canvas.width := by
  unfold setPixel
  split
  · exact Grid.width_set ..
  · rfl

@[simp] theorem height_setPixel (canvas : Canvas) (x y : Int) (pixel : Pixel) :
    (canvas.setPixel x y pixel).height = canvas.height := by
  unfold setPixel
  split
  · exact Grid.height_set ..
  · rfl

@[simp] theorem width_setPixels (canvas : Canvas) (pixels : List (Int × Int × Pixel)) :
    (canvas.setPixels pixels).width = canvas.width :=
  foldl_keeps (fun canvas (x, y, pixel) => width_setPixel canvas x y pixel) pixels canvas

@[simp] theorem height_setPixels (canvas : Canvas) (pixels : List (Int × Int × Pixel)) :
    (canvas.setPixels pixels).height = canvas.height :=
  foldl_keeps (fun canvas (x, y, pixel) => height_setPixel canvas x y pixel) pixels canvas

theorem pixel?_setPixel (canvas : Canvas) (x y : Int) (pixel : Pixel) (otherX otherY : Int) :
    (canvas.setPixel x y pixel).pixel? otherX otherY =
      if x = otherX ∧ y = otherY ∧ 0 ≤ x ∧ x < canvas.width ∧ 0 ≤ y ∧ y < canvas.height
      then some pixel else canvas.pixel? otherX otherY := by
  by_cases natural : 0 ≤ x ∧ 0 ≤ y
  · by_cases otherNatural : 0 ≤ otherX ∧ 0 ≤ otherY
    · simp only [setPixel, pixel?, natural, otherNatural, and_self, if_true, Grid.get?_set]
      have same : (y.toNat = otherY.toNat ∧ x.toNat = otherX.toNat ∧ y.toNat < canvas.height ∧
          x.toNat < canvas.width) ↔ (x = otherX ∧ y = otherY ∧ 0 ≤ x ∧ x < canvas.width ∧
          0 ≤ y ∧ y < canvas.height) := by omega
      simp only [same]
      simp only [natural, true_and]
    · have different : ¬ (x = otherX ∧ y = otherY ∧ 0 ≤ x ∧ x < canvas.width ∧ 0 ≤ y ∧
          y < canvas.height) := by omega
      rw [if_neg different, pixel?, pixel?, if_neg otherNatural, if_neg otherNatural]
  · have outside : ¬ (x = otherX ∧ y = otherY ∧ 0 ≤ x ∧ x < canvas.width ∧ 0 ≤ y ∧
        y < canvas.height) := by omega
    rw [if_neg outside, setPixel, if_neg natural]

theorem pixel?_setPixels_of_not_mem (canvas : Canvas) (pixels : List (Int × Int × Pixel))
    {x y : Int} (untouched : ∀ entry ∈ pixels, ¬ (entry.1 = x ∧ entry.2.1 = y)) :
    (canvas.setPixels pixels).pixel? x y = canvas.pixel? x y := by
  unfold setPixels
  induction pixels generalizing canvas with
  | nil => rfl
  | cons first more ih =>
    have apart := untouched first (List.mem_cons_self ..)
    have rest := fun entry member => untouched entry (List.mem_cons_of_mem _ member)
    rw [List.foldl_cons, ih _ rest, pixel?_setPixel, if_neg]
    exact fun all => apart ⟨all.1, all.2.1⟩

theorem pixel?_setPixels_of_mem (canvas : Canvas) (pixels : List (Int × Int × Pixel)) {x y : Int}
    {pixel : Pixel} (listed : (x, y, pixel) ∈ pixels)
    (agreed : ∀ other, (x, y, other) ∈ pixels → other = pixel)
    (inside : 0 ≤ x ∧ x < canvas.width ∧ 0 ≤ y ∧ y < canvas.height) :
    (canvas.setPixels pixels).pixel? x y = some pixel := by
  induction pixels generalizing canvas with
  | nil => exact absurd listed List.not_mem_nil
  | cons first more ih =>
    have step : canvas.setPixels (first :: more) =
        (canvas.setPixel first.1 first.2.1 first.2.2).setPixels more := rfl
    rw [step]
    by_cases again : (x, y, pixel) ∈ more
    · exact ih _ again (fun other later => agreed other (List.mem_cons_of_mem _ later))
        (by simpa using inside)
    · have here : first = (x, y, pixel) := ((List.mem_cons.mp listed).resolve_right again).symm
      rw [here, pixel?_setPixels_of_not_mem, pixel?_setPixel, if_pos ⟨rfl, rfl, inside⟩]
      rintro ⟨otherX, otherY, other⟩ later ⟨rfl, rfl⟩
      have same := agreed other (List.mem_cons_of_mem _ later)
      exact again (same ▸ later)

theorem mem_painted {canvas : Canvas} {rect : Rect} {pixel other : Pixel} {x y : Int} :
    (x, y, other) ∈ ((canvas.points rect).map fun (x, y) => (x, y, pixel)) ↔
      (x, y) ∈ canvas.points rect ∧ other = pixel := by
  simp only [List.mem_map, Prod.mk.injEq]
  constructor
  · rintro ⟨place, placed, rfl, rfl, rfl⟩
    exact ⟨placed, rfl⟩
  · rintro ⟨placed, rfl⟩
    exact ⟨(x, y), placed, rfl, rfl, rfl⟩

theorem pixel?_fill (canvas : Canvas) (rect : Rect) (pixel : Pixel) (x y : Int) :
    (canvas.fill rect pixel).pixel? x y =
      if rect.contains x y ∧ 0 ≤ x ∧ x < canvas.width ∧ 0 ≤ y ∧ y < canvas.height
      then some pixel else canvas.pixel? x y := by
  unfold fill
  split
  · next inside =>
    exact pixel?_setPixels_of_mem _ _ (mem_painted.mpr ⟨mem_points.mpr inside, rfl⟩)
      (fun _ listed => (mem_painted.mp listed).2) inside.2
  · next outside =>
    apply pixel?_setPixels_of_not_mem
    rintro ⟨otherX, otherY, other⟩ listed ⟨rfl, rfl⟩
    exact outside (mem_points.mp (mem_painted.mp listed).1)

end Canvas
end CellScreen
