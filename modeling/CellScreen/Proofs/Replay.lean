import CellScreen.Proofs.Canvas
import CellScreen.Screen

/-! Viewers that join. The instructions that a joining viewer is sent leave nothing of what it has
received before on its canvas: it gets the size and every pixel of the committed canvas anew. -/
namespace CellScreen

namespace Canvas

private theorem mem_imagePixels {canvas : Canvas} {row column : Nat} (inRow : column < canvas.width)
    {pixel : Pixel} :
    ((column : Int), (row : Int), pixel) ∈ canvas.entries.toList.zipIdx.map (fun (pixel, i) =>
        ((0 : Int) + (i % canvas.width : Nat), (0 : Int) + (i / canvas.width : Nat), pixel)) ↔
      canvas.get? row column = some pixel := by
  rw [Grid.get?, if_pos inRow, ← Array.getElem?_toList]
  simp only [List.mem_map, Int.zero_add, Prod.mk.injEq, Int.natCast_inj]
  constructor
  · rintro ⟨⟨written, i⟩, member, rfl, rfl, rfl⟩
    rw [Nat.mul_comm, Nat.div_add_mod]
    exact List.mem_zipIdx_iff_getElem?.mp member
  · intro entry
    exact ⟨(pixel, row * canvas.width + column), List.mem_zipIdx_iff_getElem?.mpr entry,
      Grid.index_mod inRow, Grid.index_div inRow, rfl⟩

private theorem putImage_entries {canvas other : Canvas} (width_eq : other.width = canvas.width)
    (height_eq : other.height = canvas.height) :
    other.putImage ⟨0, 0, canvas.width, canvas.height⟩ canvas.entries.toList = canvas := by
  unfold putImage
  split
  -- Without columns neither canvas has pixels.
  · next noColumns =>
    change canvas.width = 0 at noColumns
    refine Grid.ext_get? width_eq height_eq fun row column => ?_
    rw [Grid.get?, Grid.get?, if_neg (by omega), if_neg (by omega)]
  · refine Grid.ext_get? (by rw [width_setPixels, width_eq]) (by rw [height_setPixels, height_eq])
      fun row column => ?_
    by_cases inside : row < canvas.height ∧ column < canvas.width
    · obtain ⟨pixel, found⟩ := Grid.exists_get? inside
      rw [found, ← pixel?_natCast]
      apply pixel?_setPixels_of_mem _ _ ((mem_imagePixels inside.2).mpr found)
      · intro another listed
        have again := (mem_imagePixels inside.2).mp listed
        exact Option.some.inj (again.symm.trans found)
      · omega
    · rw [(Grid.get?_eq_none_iff canvas row column).mpr inside, Grid.get?_eq_none_iff,
        width_setPixels, height_setPixels, width_eq, height_eq]
      exact inside

end Canvas

namespace Surface

/-- A viewer that gets the instructions of a surface has its committed canvas before it. -/
theorem receive_replayInstructions (viewer surface : Surface) :
    surface.replayInstructions.foldl receive viewer = { viewer with pending := surface.committed } := by
  have image : (viewer.pending.resize surface.committed.width surface.committed.height
      viewer.background).putImage ⟨0, 0, surface.committed.width, surface.committed.height⟩
        surface.committed.entries.toList = surface.committed :=
    Canvas.putImage_entries rfl rfl
  simp only [replayInstructions, List.foldl_cons, List.foldl_nil, receive, image]

theorem receive_fills (viewer : Surface) (color : Rgba) (rects : List Rect) :
    (rects.map (fun rect => Instruction.fill .selection rect color)).foldl receive viewer =
      { viewer with highlighted := viewer.highlighted ++ rects } := by
  induction rects generalizing viewer with
  | nil => rw [List.append_nil]; rfl
  | cons rect rects ih =>
    rw [List.map_cons, List.foldl_cons, ih, receive, List.append_assoc, List.singleton_append]

end Surface

namespace Screen

/-- What a viewer makes of the instructions that bring it up to date. It keeps the rectangles that
it has highlighted, unless there is nothing to highlight any more. -/
theorem receive_viewerInstructions (screen : Screen) (viewer : Surface) :
    screen.viewerInstructions.foldl Surface.receive viewer =
      { viewer with
        background := screen.display.defaultBackground
        pending := screen.surface.committed
        committed := screen.surface.committed
        highlighted := if screen.display.highlightRects.isEmpty then []
          else viewer.highlighted ++ screen.display.highlightRects } := by
  simp only [viewerInstructions, List.foldl_append, List.foldl_cons, List.foldl_nil,
    Surface.receive, Surface.receive_replayInstructions]
  cases rects : screen.display.highlightRects with
  | nil => rfl
  | cons first more =>
    simp only [List.isEmpty_cons, Bool.false_eq_true, if_false, List.foldl_nil]
    rw [Surface.receive_fills]

/-- Whatever a viewer has received, once it has joined it shows the committed canvas, and nothing
is left pending on the surface. -/
theorem committed_replay_join (screen : Screen) (received : List Instruction) :
    (Surface.replay (received ++ screen.join.2)).committed = screen.join.1.surface.committed ∧
      screen.join.1.surface.committed = screen.join.1.surface.pending := by
  have sent : screen.join.2 = screen.join.1.viewerInstructions := rfl
  refine ⟨?_, rfl⟩
  rw [sent, Surface.replay, List.foldl_append, receive_viewerInstructions]

end Screen
end CellScreen
