import CellScreen.Proofs.Block
import CellScreen.Proofs.ColorRuns
import Mathlib.Data.List.Nodup
import Mathlib.Data.List.Perm.Subperm

/-! Blocks of one color. A tiling cuts the colored cells of a table into blocks, each as far to the
right and then as far down as it can be. Where a block goes on into the next row it may be what a
run begins with, or it may cut a run that is longer, which takes another block then. How often that
happens is bounded by how many runs end short of a row next to them. -/
namespace CellScreen

section

variable {β γ : Type} {entries : List β} {others : List γ} {p : β → Bool} {q : γ → Bool}
  (image : β → γ) (nodup : entries.Nodup)
  (injective : ∀ entry ∈ entries, ∀ other ∈ entries, p entry → p other →
    image entry = image other → entry = other)
include nodup injective

private theorem nodup_map_filter : ((entries.filter p).map image).Nodup := by
  refine (nodup.filter p).map_on fun entry member other otherMember same => ?_
  rw [List.mem_filter] at member otherMember
  exact injective entry member.1 other otherMember.1 member.2 otherMember.2 same

private theorem countP_le_of_injOn
    (maps : ∀ entry ∈ entries, p entry → image entry ∈ others ∧ q (image entry)) :
    entries.countP p ≤ others.countP q := by
  have among : (entries.filter p).map image ⊆ others.filter q := by
    intro target member
    obtain ⟨entry, chosen, rfl⟩ := List.mem_map.mp member
    rw [List.mem_filter] at chosen
    exact List.mem_filter.mpr (maps entry chosen.1 chosen.2)
  have length := (List.subperm_of_subset (nodup_map_filter image nodup injective) among).length_le
  rwa [List.length_map, ← List.countP_eq_length_filter, ← List.countP_eq_length_filter] at length

private theorem countP_eq_of_injOn (otherNodup : others.Nodup) (maps : ∀ target,
      (target ∈ others ∧ q target) ↔ ∃ entry ∈ entries, p entry ∧ image entry = target) :
    entries.countP p = others.countP q := by
  have same : ((entries.filter p).map image).Perm (others.filter q) := by
    rw [List.perm_ext_iff_of_nodup (nodup_map_filter image nodup injective) (otherNodup.filter q)]
    intro target
    rw [List.mem_filter, maps]
    simp [and_assoc]
  rw [List.countP_eq_length_filter, List.countP_eq_length_filter, ← same.length_eq,
    List.length_map]

end

variable {α : Type}

def FromAbove (tiles : List Block) (row column : Nat) : Prop :=
  ∃ tile ∈ tiles, tile.row < row ∧ (row, column) ∈ tile.cells

instance (tiles : List Block) (row column : Nat) : Decidable (FromAbove tiles row column) :=
  inferInstanceAs (Decidable (∃ tile ∈ tiles, tile.row < row ∧ (row, column) ∈ tile.cells))

section

variable [DecidableEq α]

def countJoined (width height : Nat) (colors : Nat → Nat → Option α) (tiles : List Block) : Nat :=
  (Grid.places width height).countP fun place =>
    Row.Begins (colors place.1) place.2 ∧ FromAbove tiles place.1 place.2

def countCut (colors : Nat → Nat → Option α) (tiles : List Block) : Nat :=
  tiles.countP fun tile => ¬ Row.Begins (colors tile.row) tile.column

end

/-- A block of one color among others. Beside its first row there is another color or a cell of a
block that begins above, and the row below it has not its color throughout. -/
structure Placed (colors : Nat → Nat → Option α) (tiles : List Block) (tile : Block) : Prop where
  start : (tile.row, tile.column) ∈ tile.cells
  colored : ∃ color, ∀ {row column : Nat}, (row, column) ∈ tile.cells →
    colors row column = some color
  begins : Row.Begins (colors tile.row) tile.column ∨ FromAbove tiles tile.row (tile.column - 1)
  ends : Row.Ends (colors tile.row) (tile.column + tile.columns - 1) ∨
    FromAbove tiles tile.row (tile.column + tile.columns)
  stops : ∃ column, (tile.column ≤ column ∧ column < tile.column + tile.columns) ∧
    colors (tile.row + tile.rows) column ≠ colors tile.row tile.column

structure Tiling (colors : Nat → Nat → Option α) (tiles : List Block) : Prop where
  apart : tiles.Pairwise fun tile other => tile.cells.Disjoint other.cells
  placed : ∀ tile ∈ tiles, Placed colors tiles tile

structure Tiling.Complete (width height : Nat) (colors : Nat → Nat → Option α)
    (tiles : List Block) : Prop where
  inside : ∀ {row column : Nat}, colors row column ≠ none → row < height ∧ column < width
  covered : ∀ {row column : Nat}, colors row column ≠ none →
    ∃ tile ∈ tiles, (row, column) ∈ tile.cells

variable {width height : Nat} {colors : Nat → Nat → Option α} {tiles : List Block}

private theorem FromAbove.append {row column : Nat} (above : FromAbove tiles row column)
    (more : List Block) : FromAbove (tiles ++ more) row column := by
  obtain ⟨tile, member, higher, inTile⟩ := above
  exact ⟨tile, List.mem_append_left _ member, higher, inTile⟩

private theorem Placed.append {tile : Block} (placed : Placed colors tiles tile)
    (more : List Block) :
    Placed colors (tiles ++ more) tile :=
  ⟨placed.start, placed.colored, placed.begins.imp_right (·.append more),
    placed.ends.imp_right (·.append more), placed.stops⟩

theorem Tiling.nil : Tiling colors [] :=
  ⟨List.Pairwise.nil, fun _ member => absurd member List.not_mem_nil⟩

theorem Tiling.append_singleton (tiling : Tiling colors tiles) {tile : Block}
    (placed : Placed colors tiles tile)
    (apart : ∀ other ∈ tiles, other.cells.Disjoint tile.cells) :
    Tiling colors (tiles ++ [tile]) := by
  refine ⟨List.pairwise_append.mpr ⟨tiling.apart, List.pairwise_singleton .., ?_⟩, ?_⟩
  · intro other member next nextMember
    cases List.mem_singleton.mp nextMember
    exact apart other member
  · intro other member
    rcases List.mem_append.mp member with before | here
    · exact (tiling.placed other before).append [tile]
    · cases List.mem_singleton.mp here
      exact placed.append [tile]

namespace Tiling

variable (tiling : Tiling colors tiles) {tile other : Block} {row column : Nat}
include tiling

private theorem eq_of_mem (member : tile ∈ tiles) (otherMember : other ∈ tiles)
    (inTile : (row, column) ∈ tile.cells) (inOther : (row, column) ∈ other.cells) :
    tile = other := by
  by_contra different
  have : Std.Symm fun tile other : Block => tile.cells.Disjoint other.cells :=
    ⟨fun _ _ => List.disjoint_symm⟩
  exact tiling.apart.forall member otherMember different inTile inOther

private theorem nodup : tiles.Nodup := by
  refine tiling.apart.imp_of_mem fun {tile other} member _ apart same => ?_
  have start := (tiling.placed tile member).start
  exact apart start (same ▸ start)

private theorem color_eq (member : tile ∈ tiles) {otherRow otherColumn : Nat}
    (inTile : (row, column) ∈ tile.cells) (alsoInTile : (otherRow, otherColumn) ∈ tile.cells) :
    colors row column = colors otherRow otherColumn := by
  obtain ⟨color, colored⟩ := (tiling.placed tile member).colored
  rw [colored inTile, colored alsoInTile]

private theorem color_ne_none (member : tile ∈ tiles) (inTile : (row, column) ∈ tile.cells) :
    colors row column ≠ none := by
  obtain ⟨color, colored⟩ := (tiling.placed tile member).colored
  rw [colored inTile]
  exact Option.some_ne_none color

/-- The cells where a run begins, and which no tile has from above, are those where a tile begins
that begins a run. -/
theorem start_iff (complete : Complete width height colors tiles) :
    (Row.Begins (colors row) column ∧ ¬ FromAbove tiles row column) ↔
      ∃ tile ∈ tiles, Row.Begins (colors tile.row) tile.column ∧
        (tile.row, tile.column) = (row, column) := by
  constructor
  · rintro ⟨begins, apart⟩
    obtain ⟨tile, member, inTile⟩ := complete.covered begins.1
    have place := Block.mem_cells.mp inTile
    have sameRow : tile.row = row := by
      by_contra different
      exact apart ⟨tile, member, by omega, inTile⟩
    have sameColumn : tile.column = column := by
      by_contra different
      obtain ⟨left, rfl⟩ : ∃ left, column = left + 1 := ⟨column - 1, by omega⟩
      have beside : (row, left) ∈ tile.cells := by
        rw [Block.mem_cells]
        omega
      exact begins.2 (tiling.color_eq member beside inTile)
    exact ⟨tile, member, by rwa [sameRow, sameColumn], by rw [sameRow, sameColumn]⟩
  · rintro ⟨tile, member, begins, same⟩
    obtain ⟨rfl, rfl⟩ := Prod.mk.inj same
    refine ⟨begins, ?_⟩
    rintro ⟨upper, upperMember, above, inUpper⟩
    cases tiling.eq_of_mem member upperMember (tiling.placed tile member).start inUpper
    exact Nat.lt_irrefl _ above

private theorem eq_of_start (member : tile ∈ tiles) (otherMember : other ∈ tiles)
    (sameRow : tile.row = other.row) (sameColumn : tile.column = other.column) : tile = other := by
  have start := (tiling.placed other otherMember).start
  rw [← sameRow, ← sameColumn] at start
  exact tiling.eq_of_mem member otherMember (tiling.placed tile member).start start

private theorem last_mem (member : tile ∈ tiles) :
    (tile.row, tile.column + tile.columns - 1) ∈ tile.cells := by
  have start := Block.mem_cells.mp (tiling.placed tile member).start
  rw [Block.mem_cells]
  omega

private theorem short_of_stopped {above : Nat} (member : tile ∈ tiles) (otherMember : other ∈ tiles)
    (below : tile.row = above + 1) (bottom : other.row + other.rows = above + 1)
    (column_eq : other.column = tile.column)
    (same : colors tile.row tile.column = colors other.row other.column) :
    Row.EndsShort (colors tile.row) (colors above) (tile.column + tile.columns - 1) := by
  have first := Block.mem_cells.mp (tiling.placed tile member).start
  have otherFirst := Block.mem_cells.mp (tiling.placed other otherMember).start
  have lastInTile := tiling.last_mem member
  have color_last := tiling.color_eq member lastInTile (tiling.placed tile member).start
  obtain ⟨stop, inOther, differs⟩ := (tiling.placed other otherMember).stops
  have beyond : tile.column + tile.columns ≤ stop := by
    by_contra within
    have inTile : (tile.row, stop) ∈ tile.cells := by
      rw [Block.mem_cells]
      omega
    rw [bottom, ← below, tiling.color_eq member inTile (tiling.placed tile member).start] at differs
    exact differs same
  have overLast : (above, tile.column + tile.columns - 1) ∈ other.cells := by
    rw [Block.mem_cells]
    omega
  have overNext : (above, tile.column + tile.columns - 1 + 1) ∈ other.cells := by
    rw [Block.mem_cells]
    omega
  have color_above {column : Nat} (inOther : (above, column) ∈ other.cells) :
      colors above column = colors tile.row (tile.column + tile.columns - 1) := by
    rw [color_last, same]
    exact tiling.color_eq otherMember inOther (tiling.placed other otherMember).start
  refine ⟨?_, color_above overLast, color_above overNext⟩
  -- No tile from above has the next cell: it would be the one that stops.
  refine (tiling.placed tile member).ends.resolve_right ?_
  rintro ⟨upper, upperMember, higher, inUpper⟩
  have next_eq : tile.column + tile.columns = tile.column + tile.columns - 1 + 1 := by omega
  rw [next_eq] at inUpper
  have place := Block.mem_cells.mp inUpper
  have overUpper : (above, tile.column + tile.columns - 1 + 1) ∈ upper.cells := by
    rw [Block.mem_cells]
    omega
  cases tiling.eq_of_mem otherMember upperMember overNext overUpper
  omega

/-- A tile that begins inside a run does so behind a run above that ends short of it, or its own run
ends short of the one above. -/
theorem short_of_cut (complete : Complete width height colors tiles) (member : tile ∈ tiles)
    (cut : ¬ Row.Begins (colors tile.row) tile.column) :
    ∃ above left, tile.row = above + 1 ∧ tile.column = left + 1 ∧
      (Row.EndsShort (colors above) (colors tile.row) left ∨
        Row.EndsShort (colors tile.row) (colors above) (tile.column + tile.columns - 1)) := by
  have start := (tiling.placed tile member).start
  obtain ⟨upper, upperMember, higher, inUpper⟩ :=
    (tiling.placed tile member).begins.resolve_left cut
  obtain ⟨above, row_eq⟩ : ∃ above, tile.row = above + 1 := ⟨tile.row - 1, by omega⟩
  obtain ⟨left, column_eq⟩ : ∃ left, tile.column = left + 1 := by
    refine Nat.exists_eq_add_one_of_ne_zero fun first => cut ⟨tiling.color_ne_none member start, ?_⟩
    rw [first] at start ⊢
    exact (tiling.color_ne_none member start).symm
  have runs_on : colors tile.row left = colors tile.row tile.column := by
    by_contra different
    refine cut ⟨tiling.color_ne_none member start, ?_⟩
    rwa [column_eq, preceding, ← column_eq]
  rw [column_eq, Nat.add_sub_cancel] at inUpper
  have place := Block.mem_cells.mp inUpper
  have overLeft : (above, left) ∈ upper.cells := by
    rw [Block.mem_cells]
    omega
  have color_left : colors tile.row left = colors above left :=
    tiling.color_eq upperMember inUpper overLeft
  refine ⟨above, left, row_eq, column_eq, ?_⟩
  by_cases beside : colors above (left + 1) = colors above left
  · right
    have present : colors above (left + 1) ≠ none :=
      beside ▸ tiling.color_ne_none upperMember overLeft
    obtain ⟨other, otherMember, overStart⟩ := complete.covered present
    have otherPlace := Block.mem_cells.mp overStart
    have apart : other ≠ upper := by
      rintro rfl
      have inOther : (tile.row, tile.column) ∈ other.cells := by
        rw [Block.mem_cells]
        omega
      cases tiling.eq_of_mem member otherMember start inOther
      omega
    have bottom : other.row + other.rows = above + 1 := by
      by_contra longer
      have inOther : (tile.row, tile.column) ∈ other.cells := by
        rw [Block.mem_cells]
        omega
      cases tiling.eq_of_mem member otherMember start inOther
      omega
    have first : other.column = tile.column := by
      by_contra wider
      have inOther : (above, left) ∈ other.cells := by
        rw [Block.mem_cells]
        omega
      exact apart (tiling.eq_of_mem otherMember upperMember inOther overLeft)
    refine tiling.short_of_stopped member otherMember row_eq bottom first ?_
    rw [← runs_on, color_left, ← beside]
    exact tiling.color_eq otherMember overStart (tiling.placed other otherMember).start
  · left
    exact ⟨⟨tiling.color_ne_none upperMember overLeft, beside⟩, color_left,
      by rw [← column_eq, ← runs_on, color_left]⟩

variable [DecidableEq α]

/-- There are as many tiles as runs, less one for each run that begins with a cell of a tile from
above, and one more for each tile that begins inside a run. -/
theorem length_add_countJoined (complete : Complete width height colors tiles) :
    tiles.length + countJoined width height colors tiles =
      countRuns width height colors + countCut colors tiles := by
  have begun : tiles.countP (fun tile => Row.Begins (colors tile.row) tile.column) =
      (Grid.places width height).countP fun place =>
        Row.Begins (colors place.1) place.2 ∧ ¬ FromAbove tiles place.1 place.2 := by
    refine countP_eq_of_injOn (fun tile => (tile.row, tile.column)) tiling.nodup ?_
      (Grid.nodup_places width height) ?_
    · intro tile member other otherMember _ _ same
      exact tiling.eq_of_start member otherMember (Prod.mk.inj same).1 (Prod.mk.inj same).2
    · rintro ⟨row, column⟩
      simp only [decide_eq_true_eq]
      rw [tiling.start_iff complete, and_iff_right_of_imp]
      rintro ⟨tile, member, begins, same⟩
      obtain ⟨rfl, rfl⟩ := Prod.mk.inj same
      exact Grid.mem_places.mpr (complete.inside begins.1)
  rw [List.length_eq_countP_add_countP (fun tile => Row.Begins (colors tile.row) tile.column),
    countRuns_eq, countJoined, countCut, begun,
    List.countP_eq_countP_filter_add (Grid.places width height)
      (fun place => Row.Begins (colors place.1) place.2)
      (fun place => FromAbove tiles place.1 place.2), List.countP_filter, List.countP_filter]
  simp only [Bool.decide_and, decide_not, Bool.decide_eq_true]
  omega

/-- Every tile that begins inside a run is counted where a run ends short. -/
theorem countCut_le (complete : Complete width height colors tiles) :
    countCut colors tiles ≤ countShort width height colors := by
  rw [countCut, List.countP_eq_countP_filter_add tiles _ fun tile =>
    Row.EndsShort (colors (tile.row - 1)) (colors tile.row) (tile.column - 1), countShort,
    List.countP_filter, List.countP_filter]
  refine Nat.add_le_add ?_ ?_
  · refine countP_le_of_injOn (fun tile => (tile.row - 1, tile.column - 1)) tiling.nodup ?_ ?_
    · intro tile member other otherMember chosen otherChosen same
      simp only [Bool.and_eq_true, decide_eq_true_eq] at chosen otherChosen
      obtain ⟨above, left, row_eq, column_eq, -⟩ := tiling.short_of_cut complete member chosen.1
      obtain ⟨_, _, otherRow, otherColumn, -⟩ :=
        tiling.short_of_cut complete otherMember otherChosen.1
      have rows := (Prod.mk.inj same).1
      have columns := (Prod.mk.inj same).2
      exact tiling.eq_of_start member otherMember (by omega) (by omega)
    · intro tile member chosen
      simp only [Bool.and_eq_true, decide_eq_true_eq] at chosen ⊢
      obtain ⟨above, left, row_eq, -, -⟩ := tiling.short_of_cut complete member chosen.1
      refine ⟨Grid.mem_places.mpr (complete.inside chosen.2.1.1), ?_⟩
      have below : tile.row - 1 + 1 = tile.row := by omega
      rw [below]
      exact chosen.2
  · refine countP_le_of_injOn (fun tile => (tile.row, tile.column + tile.columns - 1))
      tiling.nodup ?_ ?_
    · intro tile member other otherMember _ _ same
      have last := tiling.last_mem otherMember
      rw [← (Prod.mk.inj same).1, ← (Prod.mk.inj same).2] at last
      exact tiling.eq_of_mem member otherMember (tiling.last_mem member) last
    · intro tile member chosen
      simp only [Bool.and_eq_true, Bool.not_eq_true', decide_eq_true_eq,
        decide_eq_false_iff_not] at chosen ⊢
      obtain ⟨above, left, row_eq, column_eq, short⟩ :=
        tiling.short_of_cut complete member chosen.1
      have inside := complete.inside (tiling.color_ne_none member (tiling.last_mem member))
      refine ⟨Grid.mem_places.mpr inside, ?_⟩
      rw [row_eq] at short chosen ⊢
      rw [column_eq] at chosen
      exact short.resolve_left chosen.2

end Tiling

end CellScreen
