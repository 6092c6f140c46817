import CellScreen.Proofs.Fills
import CellScreen.Proofs.PaintedOnce
import CellScreen.Proofs.PixelCells
import CellScreen.Proofs.Tiling

/-! How many fills a flush makes. The fills tile the cells that wait for them, taken row by row:
each block is as wide as what is left of its run, and goes down as far as all of its columns have
its color. That saves a fill where a run is left to blocks from above, and costs one where a block
from above cuts a run in two. -/
namespace CellScreen

namespace Display

def waitingColor (display : Display) (slots : Grid Slot) (row column : Nat) : Option Rgb :=
  (slots.get? row column).bind display.fillColor

def FillsTile (display : Display) (colors : Nat → Nat → Option Rgb) (fill : PixelFill)
    (tile : Block) : Prop :=
  fill.rect = display.blockRect tile ∧ colors tile.row tile.column = some fill.color

variable {display : Display} {start slots : Grid Slot} {pass : FillPass} {tiles : List Block}
  {row column : Nat} {color : Rgb}

private theorem inside_of_waitingColor (waits : display.waitingColor slots row column ≠ none) :
    row < slots.height ∧ column < slots.width := by
  obtain ⟨color, waits⟩ := Option.ne_none_iff_exists'.mp waits
  obtain ⟨slot, found, -⟩ := Option.bind_eq_some_iff.mp waits
  exact Grid.inside_of_get? found

private theorem waitingColor_write (block : Block) (slots : Grid Slot) (row column : Nat) :
    display.waitingColor (block.write slots fun _ _ => .unchanged) row column =
      if (row, column) ∈ block.cells then none else display.waitingColor slots row column := by
  unfold waitingColor
  by_cases inside : row < slots.height ∧ column < slots.width
  · rw [Block.get?_write _ _ _ inside]
    split <;> rfl
  · have absent := (slots.get?_eq_none_iff row column).mpr inside
    have written := ((block.write slots fun _ _ => .unchanged).get?_eq_none_iff row column).mpr
      (by rwa [Block.height_write, Block.width_write])
    rw [absent, written]
    split <;> rfl

def fillBlock (display : Display) (slots : Grid Slot) (row column : Nat) (color : Rgb) : Block :=
  .grown slots.width slots.height row column fun r c =>
    display.waitingColor slots r c == some color

section

variable {block : Block} (grows : display.fillBlock slots row column color = block)
include grows

private theorem mem_fillBlock {r c : Nat} : (r, c) ∈ block.cells ↔
    (row ≤ r ∧ r < row + block.rows) ∧ column ≤ c ∧ c < column + block.columns := by
  subst grows
  exact Block.mem_cells

private theorem place_fillBlock : block.row = row ∧ block.column = column := by
  subst grows
  exact ⟨rfl, rfl⟩

private theorem size_fillBlock : 0 < block.rows ∧ 0 < block.columns := by
  subst grows
  exact ⟨Nat.succ_pos _, Nat.succ_pos _⟩

private theorem waitingColor_of_mem_fillBlock
    (found : display.waitingColor slots row column = some color)
    {r c : Nat} (member : (r, c) ∈ block.cells) : display.waitingColor slots r c = some color := by
  subst grows
  let fitting := fun r c => display.waitingColor slots r c == some color
  have start : fitting row column := beq_iff_eq.mpr found
  have fits : fitting r c := Block.fits_of_mem_grown start member
  exact beq_iff_eq.mp fits

private theorem fillBlock_ends :
    display.waitingColor slots row (column + block.columns) ≠ some color := by
  subst grows
  intro waits
  have inner := (inside_of_waitingColor (waits ▸ Option.some_ne_none color)).2
  have stopped := Block.grown_ends inner
  rw [beq_eq_false_iff_ne] at stopped
  exact stopped waits

private theorem fillBlock_stops : ∃ c, (column ≤ c ∧ c < column + block.columns) ∧
    display.waitingColor slots (row + block.rows) c ≠ some color := by
  by_cases inner : row + block.rows < slots.height
  · subst grows
    obtain ⟨c, within, stopped⟩ := Block.grown_stops inner
    exact ⟨c, within, beq_eq_false_iff_ne.mp stopped⟩
  · have size := size_fillBlock grows
    refine ⟨column, by omega, fun waits => inner ?_⟩
    exact (inside_of_waitingColor (waits ▸ Option.some_ne_none color)).1

end

private theorem fillStep_of_waiting {block : Block}
    (grows : display.fillBlock pass.slots row column color = block)
    (found : display.waitingColor pass.slots row column = some color) :
    display.fillStep pass (row, column) = ⟨block.write pass.slots fun _ _ => .unchanged,
      pass.fills ++ [⟨display.blockRect block, color⟩]⟩ := by
  subst grows
  unfold waitingColor at found
  unfold fillStep
  dsimp only
  rw [found]
  rfl

private theorem fillStep_of_none (absent : display.waitingColor pass.slots row column = none) :
    display.fillStep pass (row, column) = pass := by
  unfold waitingColor at absent
  unfold fillStep
  dsimp only
  rw [absent]

/-- What a pass has filled of the slots that it started with is cut into tiles, one for each fill,
and all else waits as it did. -/
structure FillPass.Tiled (display : Display) (start : Grid Slot) (pass : FillPass)
    (tiles : List Block) : Prop where
  width_eq : pass.slots.width = start.width
  height_eq : pass.slots.height = start.height
  fills : List.Forall₂ (display.FillsTile (display.waitingColor start)) pass.fills tiles
  tiling : Tiling (display.waitingColor start) tiles
  waits : ∀ {row column : Nat} {color : Rgb},
    display.waitingColor pass.slots row column = some color ↔
      display.waitingColor start row column = some color ∧
        ∀ tile ∈ tiles, (row, column) ∉ tile.cells

private theorem tiled_start (start : Grid Slot) : FillPass.Tiled display start ⟨start, []⟩ [] where
  width_eq := rfl
  height_eq := rfl
  fills := .nil
  tiling := .nil
  waits := by simp

namespace FillPass.Tiled

variable (tiled : pass.Tiled display start tiles)
include tiled

private theorem covered (waited : display.waitingColor start row column = some color)
    (done : display.waitingColor pass.slots row column ≠ some color) :
    ∃ tile ∈ tiles, (row, column) ∈ tile.cells := by
  by_contra! free
  exact done (tiled.waits.mpr ⟨waited, free⟩)

variable (earlier : ∀ tile ∈ tiles, Grid.Earlier (tile.row, tile.column) (row, column))
  (found : display.waitingColor pass.slots row column = some color)
include earlier found

private theorem fromAbove {c : Nat} (beside : column ≤ c)
    (waited : display.waitingColor start row c = some color)
    (done : display.waitingColor pass.slots row c ≠ some color) : FromAbove tiles row c := by
  obtain ⟨tile, member, inTile⟩ := tiled.covered waited done
  have free := (tiled.waits.mp found).2 tile member
  have before := earlier tile member
  unfold Grid.Earlier at before
  rw [Block.mem_cells] at inTile free
  refine ⟨tile, member, ?_, Block.mem_cells.mpr inTile⟩
  omega

private theorem begins (settled : ∀ {r c : Nat}, Grid.Earlier (r, c) (row, column) →
      display.waitingColor pass.slots r c = none) :
    Row.Begins (display.waitingColor start row) column ∨ FromAbove tiles row (column - 1) := by
  obtain ⟨waited, free⟩ := tiled.waits.mp found
  have present : display.waitingColor start row column ≠ none := waited ▸ Option.some_ne_none color
  cases column with
  | zero => exact .inl ⟨present, present.symm⟩
  | succ left =>
    by_cases same : display.waitingColor start row left = some color
    · have done : display.waitingColor pass.slots row left = none :=
        settled (.inr ⟨rfl, Nat.lt_succ_self left⟩)
      obtain ⟨tile, member, inTile⟩ := tiled.covered same (by simp [done])
      have place := Block.mem_cells.mp inTile
      rcases earlier tile member with above | ⟨sameRow, before⟩
      · exact .inr ⟨tile, member, above, inTile⟩
      · -- A tile of the same row ended here because of another color.
        have apart := free tile member
        rw [Block.mem_cells] at apart
        dsimp only at sameRow before
        have ended : tile.column + tile.columns = left + 1 := by omega
        rcases (tiled.tiling.placed tile member).ends with ends | ⟨upper, upperMember, _, inUpper⟩
        · rw [ended, sameRow] at ends
          exact absurd (waited.trans same.symm) ends.2
        · rw [ended, sameRow] at inUpper
          exact absurd inUpper (free upper upperMember)
    · exact .inl ⟨present, fun goesOn => same (goesOn.trans waited)⟩

variable {block : Block} (grows : display.fillBlock pass.slots row column color = block)
include grows

private theorem ends : Row.Ends (display.waitingColor start row) (column + block.columns - 1) ∨
    FromAbove tiles row (column + block.columns) := by
  have size := size_fillBlock grows
  by_cases goesOn : display.waitingColor start row (column + block.columns) = some color
  · exact .inr (tiled.fromAbove earlier found (Nat.le_add_right ..) goesOn
      (fillBlock_ends grows))
  · have last : (row, column + block.columns - 1) ∈ block.cells := by
      rw [mem_fillBlock grows]
      omega
    have waited := (tiled.waits.mp (waitingColor_of_mem_fillBlock grows found last)).1
    have next_eq : column + block.columns - 1 + 1 = column + block.columns := by omega
    refine .inl ⟨waited ▸ Option.some_ne_none color, ?_⟩
    rwa [next_eq, waited]

private theorem stops : ∃ c, (column ≤ c ∧ c < column + block.columns) ∧
    display.waitingColor start (row + block.rows) c ≠ display.waitingColor start row column := by
  have size := size_fillBlock grows
  obtain ⟨waited, free⟩ := tiled.waits.mp found
  obtain ⟨c, within, stopped⟩ := fillBlock_stops grows
  refine ⟨c, within, fun same => ?_⟩
  obtain ⟨tile, member, inTile⟩ := tiled.covered (same.trans waited) stopped
  -- A tile that has the cell below the block has also the one in its last row.
  have inBlock : (row + block.rows - 1, c) ∈ block.cells := by
    rw [mem_fillBlock grows]
    omega
  have apart := (tiled.waits.mp (waitingColor_of_mem_fillBlock grows found inBlock)).2 tile member
  have before := earlier tile member
  unfold Grid.Earlier at before
  rw [Block.mem_cells] at inTile apart
  dsimp only at before
  omega

private theorem placed (settled : ∀ {r c : Nat}, Grid.Earlier (r, c) (row, column) →
      display.waitingColor pass.slots r c = none) :
    Placed (display.waitingColor start) tiles block := by
  obtain ⟨row_eq, column_eq⟩ := place_fillBlock grows
  refine ⟨?_, ⟨color, fun member => ?_⟩, ?_, ?_, ?_⟩
  · have size := size_fillBlock grows
    rw [Block.mem_cells]
    omega
  · exact (tiled.waits.mp (waitingColor_of_mem_fillBlock grows found member)).1
  · rw [row_eq, column_eq]
    exact tiled.begins earlier found settled
  · rw [row_eq, column_eq]
    exact tiled.ends earlier found grows
  · rw [row_eq, column_eq]
    exact tiled.stops earlier found grows

private theorem fill (settled : ∀ {r c : Nat}, Grid.Earlier (r, c) (row, column) →
      display.waitingColor pass.slots r c = none) :
    FillPass.Tiled display start ⟨block.write pass.slots fun _ _ => .unchanged,
      pass.fills ++ [⟨display.blockRect block, color⟩]⟩ (tiles ++ [block]) := by
  obtain ⟨row_eq, column_eq⟩ := place_fillBlock grows
  have free {r c : Nat} (member : (r, c) ∈ block.cells) :=
    tiled.waits.mp (waitingColor_of_mem_fillBlock grows found member)
  refine ⟨?_, ?_, ?_, ?_, ?_⟩
  · rw [Block.width_write, tiled.width_eq]
  · rw [Block.height_write, tiled.height_eq]
  · refine List.rel_append tiled.fills (.cons ⟨rfl, ?_⟩ .nil)
    rw [row_eq, column_eq]
    exact (tiled.waits.mp found).1
  · refine tiled.tiling.append_singleton (tiled.placed earlier found grows settled) ?_
    intro tile member place inTile inBlock
    exact (free inBlock).2 tile member inTile
  · intro r c other
    rw [waitingColor_write, List.forall_mem_append, List.forall_mem_singleton]
    split
    · next inBlock => simp [inBlock]
    · next outside =>
      rw [tiled.waits]
      exact and_congr_right fun _ => (and_iff_left outside).symm

end FillPass.Tiled

structure FillPass.Advanced (display : Display) (start : Grid Slot) (done : List (Nat × Nat))
    (pass : FillPass) (tiles : List Block) : Prop where
  tiled : pass.Tiled display start tiles
  within : ∀ tile ∈ tiles, (tile.row, tile.column) ∈ done
  settled : ∀ place ∈ done, pass.Settled display place

/-- A step of the fills adds the tile that begins at its place, if one does. -/
theorem advanced_fillStep {done rest : List (Nat × Nat)}
    (split : Grid.places start.width start.height = done ++ (row, column) :: rest)
    (advanced : pass.Advanced display start done tiles) :
    ∃ more, (display.fillStep pass (row, column)).Advanced display start (done ++ [(row, column)])
      (tiles ++ more) := by
  have tiled := advanced.tiled
  have earlier : ∀ tile ∈ tiles, Grid.Earlier (tile.row, tile.column) (row, column) :=
    fun tile member => ((Grid.mem_before_iff split).mp (advanced.within tile member)).2
  have settled {r c : Nat} (before : Grid.Earlier (r, c) (row, column)) :
      display.waitingColor pass.slots r c = none := by
    by_contra waits
    have inside := inside_of_waitingColor waits
    rw [tiled.width_eq, tiled.height_eq] at inside
    exact waits (advanced.settled (r, c) ((Grid.mem_before_iff split).mpr ⟨inside, before⟩))
  have after : ∀ place ∈ done ++ [(row, column)],
      (display.fillStep pass (row, column)).Settled display place := by
    intro place member
    refine settled_fillStep place (row, column) pass ?_
    rcases List.mem_append.mp member with before | here
    · exact .inr (advanced.settled place before)
    · exact .inl (List.mem_singleton.mp here).symm
  suffices next : ∃ more, (display.fillStep pass (row, column)).Tiled display start
      (tiles ++ more) ∧ ∀ tile ∈ more, (tile.row, tile.column) = (row, column) by
    obtain ⟨more, next, here⟩ := next
    refine ⟨more, next, fun tile member => ?_, after⟩
    rcases List.mem_append.mp member with before | now
    · exact List.mem_append_left _ (advanced.within tile before)
    · exact List.mem_append_right _ (List.mem_singleton.mpr (here tile now))
  cases found : display.waitingColor pass.slots row column with
  | none =>
    refine ⟨[], ?_, fun _ member => absurd member List.not_mem_nil⟩
    rwa [List.append_nil, fillStep_of_none found]
  | some color =>
    obtain ⟨block, grows⟩ : ∃ block, display.fillBlock pass.slots row column color = block :=
      ⟨_, rfl⟩
    refine ⟨[block], ?_, fun tile member => ?_⟩
    · rw [fillStep_of_waiting grows found]
      exact tiled.fill earlier found grows settled
    · cases List.mem_singleton.mp member
      exact Prod.ext (place_fillBlock grows).1 (place_fillBlock grows).2

/-- The fills of a pass are those of a tiling of the cells that wait for them. -/
theorem exists_tiled_fillPass (display : Display) (slots : Grid Slot) :
    ∃ tiles, (display.fillPass slots).Tiled display slots tiles ∧
      Tiling.Complete slots.width slots.height (display.waitingColor slots) tiles := by
  obtain ⟨tiles, advanced⟩ : ∃ tiles, (display.fillPass slots).Advanced display slots
      (Grid.places slots.width slots.height) tiles := by
    unfold fillPass
    apply foldl_prefix_induction (motive := fun done (pass : FillPass) =>
      ∃ tiles, pass.Advanced display slots done tiles)
    · exact ⟨[], tiled_start slots, by simp, by simp⟩
    · intro done rest ⟨row, column⟩ pass split ⟨tiles, advanced⟩
      obtain ⟨more, next⟩ := advanced_fillStep split advanced
      exact ⟨tiles ++ more, next⟩
  refine ⟨tiles, advanced.tiled, inside_of_waitingColor, fun {row column} waits => ?_⟩
  obtain ⟨color, waited⟩ := Option.ne_none_iff_exists'.mp waits
  have done : display.waitingColor (display.fillPass slots).slots row column = none :=
    advanced.settled (row, column) (Grid.mem_places.mpr (inside_of_waitingColor waits))
  exact advanced.tiled.covered waited (by simp [done])

private theorem copyPass_of_isEmpty (valid : display.pending.Valid)
    (isEmpty : display.pending.isEmpty) (next : Grid Cell) :
    display.copyPass next display.pending.slots = ⟨display.pending.slots, []⟩ := by
  unfold copyPass
  apply List.foldlRecOn (motive := fun pass : CopyPass => pass = ⟨display.pending.slots, []⟩)
  · rfl
  · rintro pass rfl ⟨row, column⟩ -
    unfold copyStep
    dsimp only
    split
    · next found => cases Pending.eq_unchanged_of_isEmpty valid isEmpty found
    · rfl

/-- The fills of a flush are those of a tiling, also where it draws nothing. -/
theorem exists_tiling_flushPlan (valid : display.pending.Valid) :
    let slots := (display.copyPass display.next display.pending.slots).slots
    let colors := display.waitingColor slots
    ∃ tiles, List.Forall₂ (display.FillsTile colors) display.flushPlan.fills tiles ∧
      Tiling colors tiles ∧ Tiling.Complete slots.width slots.height colors tiles := by
  intro slots colors
  unfold flushPlan
  split
  · next isEmpty =>
    refine ⟨[], .nil, .nil, inside_of_waitingColor, fun {row column} waits => absurd ?_ waits⟩
    cases found : slots.get? row column with
    | none => simp only [colors, waitingColor, found, Option.bind_none]
    | some slot =>
      have recorded := found
      simp only [slots, copyPass_of_isEmpty valid isEmpty] at recorded
      cases Pending.eq_unchanged_of_isEmpty valid isEmpty recorded
      simp only [colors, waitingColor, found, Option.bind_some, fillColor]
  · obtain ⟨tiles, tiled, complete⟩ := exists_tiled_fillPass display slots
    exact ⟨tiles, tiled.fills, tiled.tiling, complete⟩

end Display

private theorem FlushPlan.countP_fills (plan : FlushPlan) :
    plan.calls.countP (·.pass? = some .fill) = plan.fills.length := by
  have kinds := congrArg (List.countP (· = some Pass.fill)) plan.map_pass?_calls
  rw [List.countP_map] at kinds
  simpa [List.countP_append, List.countP_replicate, Function.comp_def] using kinds

namespace Screen

/-- The fill calls of a flush and the runs of cells that wait for one color when the fills begin.
The fills tile the cells; there is one less than runs for each run that begins with a cell of a tile
from above, and one more for each tile that begins inside a run, so there are at most as many fills
as runs exactly if no more runs are cut than joined. A run is cut only where one ends short of a row
next to it, so that the fills are at most three times the runs. -/
theorem fills_le_runs_iff {screen : Screen} (valid : screen.display.pending.Valid) :
    let display := screen.display
    let slots := (display.copyPass display.next display.pending.slots).slots
    let colors := display.waitingColor slots
    let plan := screen.flushOperations.2
    let fills := plan.calls.countP (·.pass? = some .fill)
    let runs := countRuns slots.width slots.height colors
    let short := countShort slots.width slots.height colors
    screen.flushOperations.1.surface.calls.toList = screen.surface.calls.toList ++ plan.calls ∧
    (∃ tiles, List.Forall₂ (display.FillsTile colors) plan.fills tiles ∧ Tiling colors tiles ∧
      Tiling.Complete slots.width slots.height colors tiles ∧
      let joined := countJoined slots.width slots.height colors tiles
      let cut := countCut colors tiles
      fills + joined = runs + cut ∧ (fills ≤ runs ↔ cut ≤ joined) ∧ cut ≤ short) ∧
    fills ≤ runs + short ∧ fills ≤ 3 * runs := by
  intro display slots colors plan fills runs short
  have plan_eq : plan = display.flushPlan := display.plan_flushOperations
  obtain ⟨tiles, painted, tiling, complete⟩ := Display.exists_tiling_flushPlan valid
  rw [← plan_eq] at painted
  have counted : fills = tiles.length := plan.countP_fills.trans painted.length_eq
  have balance : fills + countJoined slots.width slots.height colors tiles =
      runs + countCut colors tiles := by
    rw [counted]
    exact tiling.length_add_countJoined complete
  have cuts : countCut colors tiles ≤ short := tiling.countCut_le complete
  have beyond (row : Nat) : colors row slots.width = none := by
    by_contra waits
    exact Nat.lt_irrefl _ (complete.inside waits).2
  have shorts : short ≤ 2 * runs := countShort_le beyond
  refine ⟨Surface.calls_applyAll .., ⟨tiles, painted, tiling, complete, balance, ?_, cuts⟩, ?_, ?_⟩
  · omega
  · omega
  · omega

/-- A cell that is drawn again, since it changes places with its neighbor, above two rows that are
set: its fill cuts the first of them in two, and begins neither. -/
theorem fills_le_runs_iff_of_redrawn :
    let waiting := (ofPixels (.ofBackground .white) 4 3).run [.flush, .copyColumns 0 1 1 1,
      .copyColumns 0 2 2 (-1), .setColumns 1 0 3 (.blank .default),
      .setColumns 2 0 3 (.blank .default)]
    let display := waiting.display
    let slots := (display.copyPass display.next display.pending.slots).slots
    let colors := display.waitingColor slots
    let plan := waiting.flushOperations.2
    let fills := plan.calls.countP (·.pass? = some .fill)
    let runs := countRuns slots.width slots.height colors
    let short := countShort slots.width slots.height colors
    (display.pending.Valid ∧ fills = 3 ∧ runs = 3 ∧ short = 1) ∧
    waiting.flushOperations.1.surface.calls.toList = waiting.surface.calls.toList ++ plan.calls ∧
    (∃ tiles, List.Forall₂ (display.FillsTile colors) plan.fills tiles ∧ Tiling colors tiles ∧
      Tiling.Complete slots.width slots.height colors tiles ∧
      let joined := countJoined slots.width slots.height colors tiles
      let cut := countCut colors tiles
      fills + joined = runs + cut ∧ (fills ≤ runs ↔ cut ≤ joined) ∧ cut ≤ short) ∧
    fills ≤ runs + short ∧ fills ≤ 3 * runs := by
  intro waiting display slots colors plan fills runs short
  have valid : display.pending.Valid := (consistent_run_ofPixels ..).valid
  exact ⟨⟨valid, by decide +kernel, by decide +kernel, by decide +kernel⟩, fills_le_runs_iff valid⟩

/-- A row of cells with a single cell above it, which is filled together with the one below it: the
row takes two more fills, where it would have taken one. -/
theorem not_fills_le_runs_of_comb :
    let waiting := (ofPixels (.ofBackground .white) 3 2).run [.flush,
      .setColumns 0 1 1 (.blank .default), .setColumns 1 0 2 (.blank .default)]
    let display := waiting.display
    let slots := (display.copyPass display.next display.pending.slots).slots
    let plan := waiting.flushOperations.2
    let fills := plan.calls.countP (·.pass? = some .fill)
    let runs := countRuns slots.width slots.height (display.waitingColor slots)
    waiting.flushOperations.1.surface.calls.toList = waiting.surface.calls.toList ++ plan.calls ∧
    fills = 3 ∧ runs = 2 ∧ ¬ fills ≤ runs :=
  ⟨Surface.calls_applyAll .., by decide +kernel, by decide +kernel, by decide +kernel⟩

end Screen
end CellScreen
