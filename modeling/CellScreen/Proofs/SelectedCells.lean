import CellScreen.Selection

/-! Which cells the spans of a selection cover. They are the selected cells of the grid; a range
that starts to the right of the grid has the last cell of its first line instead. -/
namespace CellScreen

private theorem Point.isBefore_iff (first second : Point) : first.isBefore second ↔
    first.row < second.row ∨ first.row = second.row ∧ first.column < second.column := by
  unfold isBefore
  split
  · next same => simp [same]
  · next apart => simp [apart]

namespace Span

def Covers (span : Span) (row column : Nat) : Prop :=
  (span.top ≤ row ∧ row ≤ span.bottom) ∧ span.left ≤ column ∧ column ≤ span.right

def Within (span : Span) (columns rows : Nat) : Prop :=
  (span.top ≤ span.bottom ∧ span.bottom < rows) ∧ span.left ≤ span.right ∧ span.right < columns

def Precedes (first second : Span) : Prop :=
  ∀ row column otherRow otherColumn, first.Covers row column →
    second.Covers otherRow otherColumn → (Point.mk row column).isBefore ⟨otherRow, otherColumn⟩

private theorem precedes_of_above {first second : Span} (above : first.bottom < second.top) :
    first.Precedes second := by
  intro row column otherRow otherColumn one other
  have rows : row < otherRow := Nat.lt_of_le_of_lt one.1.2 (Nat.lt_of_lt_of_le above other.1.1)
  exact (Point.isBefore_iff _ _).mpr (.inl rows)

private theorem Precedes.disjoint {first second : Span} (precedes : first.Precedes second)
    (row column : Nat) : ¬ (first.Covers row column ∧ second.Covers row column) := by
  rintro ⟨one, other⟩
  have before := precedes row column row column one other
  rw [Point.isBefore_iff] at before
  dsimp only at before
  omega

private theorem Within.counts {span : Span} {columns rows : Nat}
    (within : span.Within columns rows) :
    span.left + span.columns = span.right + 1 ∧ span.top + span.rows = span.bottom + 1 := by
  obtain ⟨⟨down, -⟩, across, -⟩ := within
  rw [Span.columns, Span.rows]
  omega

end Span

namespace Selection

private theorem not_isBefore_normalized (selection : Selection) :
    ¬ selection.normalized.2.isBefore selection.normalized.1 := by
  unfold normalized
  split
  · next swapped =>
    rw [Point.isBefore_iff] at swapped ⊢
    dsimp only
    omega
  · next ordered => exact ordered

/-- A selection has the cells from its first to its last one in reading order. -/
theorem contains_iff (selection : Selection) (row column : Nat) :
    selection.contains row column ↔
      ¬ (Point.mk row column).isBefore selection.normalized.1 ∧
        ¬ selection.normalized.2.isBefore ⟨row, column⟩ := by
  rw [Point.isBefore_iff, Point.isBefore_iff]
  simp only [contains, Bool.and_eq_true, Bool.or_eq_true, bne_iff_ne, decide_eq_true_eq]
  omega

structure Clamped (start finish : Point) (columns rows bottom left right : Nat) : Prop where
  on_grid : 0 < columns ∧ start.row < rows
  bottom_eq : bottom = min finish.row (rows - 1)
  left_eq : left = min start.column (columns - 1)
  right_eq : right = if finish.row = bottom then min finish.column (columns - 1) else columns - 1

namespace Clamped

variable {start finish : Point} {columns rows bottom left right column : Nat}

private theorem right_lt (clamped : Clamped start finish columns rows bottom left right) :
    right < columns := by
  have on_grid := clamped.on_grid
  rw [clamped.right_eq]
  split <;> omega

private theorem le_right_iff (clamped : Clamped start finish columns rows bottom left right)
    (inRow : column < columns) : column ≤ right ↔ bottom < finish.row ∨ column ≤ finish.column := by
  have bottom_eq := clamped.bottom_eq
  rw [clamped.right_eq]
  split <;> omega

end Clamped

inductive Spanned (start finish : Point) (columns rows : Nat) : List Span → Prop
  | outside (beyond : columns = 0 ∨ rows ≤ start.row) : Spanned start finish columns rows []
  | line {bottom left right : Nat} (clamped : Clamped start finish columns rows bottom left right)
      (one : start.row = bottom) :
      Spanned start finish columns rows [⟨start.row, left, start.row, max right left⟩]
  | adjacent {bottom left right : Nat}
      (clamped : Clamped start finish columns rows bottom left right)
      (two : start.row + 1 = bottom) : Spanned start finish columns rows
        [⟨start.row, left, start.row, columns - 1⟩, ⟨bottom, 0, bottom, right⟩]
  | lines {bottom left right : Nat} (clamped : Clamped start finish columns rows bottom left right)
      (more : start.row + 1 < bottom) : Spanned start finish columns rows
        [⟨start.row, left, start.row, columns - 1⟩, ⟨start.row + 1, 0, bottom - 1, columns - 1⟩,
          ⟨bottom, 0, bottom, right⟩]

private theorem spanned_spans (selection : Selection) (columns rows : Nat) :
    Spanned selection.normalized.1 selection.normalized.2 columns rows
      (selection.spans columns rows) := by
  have ordered := selection.not_isBefore_normalized
  rw [Point.isBefore_iff] at ordered
  simp only [spans]
  split
  · next beyond => exact .outside beyond
  · next within =>
    have clamped : Clamped selection.normalized.1 selection.normalized.2 columns rows _ _ _ :=
      ⟨by omega, rfl, rfl, rfl⟩
    split
    · next one => exact .line clamped one
    · next several =>
      split
      · next more => exact .lines clamped more
      · next two => exact .adjacent clamped (by omega)

namespace Spanned

variable {start finish : Point} {columns rows : Nat} {spans : List Span}

private theorem length_le (spanned : Spanned start finish columns rows spans) :
    spans.length ≤ 3 := by
  cases spanned <;> simp

private theorem within (spanned : Spanned start finish columns rows spans) :
    ∀ span ∈ spans, span.Within columns rows := by
  cases spanned with
  | outside beyond => exact nofun
  | line clamped one | adjacent clamped two | lines clamped more =>
    have right_lt := clamped.right_lt
    obtain ⟨on_grid, bottom_eq, left_eq, -⟩ := clamped
    simp only [List.forall_mem_cons, List.not_mem_nil, false_implies, implies_true, and_true,
      Span.Within]
    omega

private theorem above (spanned : Spanned start finish columns rows spans) :
    spans.Pairwise (·.bottom < ·.top) := by
  cases spanned with
  | outside beyond => exact .nil
  | line clamped one => exact List.pairwise_singleton ..
  | adjacent clamped two | lines clamped more =>
    simp only [List.pairwise_cons, List.forall_mem_cons, List.not_mem_nil, false_implies,
      implies_true, and_true, List.Pairwise.nil]
    omega

private theorem covers_iff (spanned : Spanned start finish columns rows spans)
    (ordered : ¬ finish.isBefore start) {row column : Nat} (below : row < rows)
    (inRow : column < columns) : (∃ span ∈ spans, span.Covers row column) ↔
      (¬ (Point.mk row column).isBefore start ∧ ¬ finish.isBefore ⟨row, column⟩) ∨
        columns ≤ start.column ∧ row = start.row ∧ column + 1 = columns := by
  rw [Point.isBefore_iff] at ordered ⊢
  rw [Point.isBefore_iff]
  cases spanned with
  | outside beyond =>
    simp only [List.not_mem_nil, false_and, exists_false, false_iff]
    omega
  | line clamped one | adjacent clamped two | lines clamped more =>
    have right_iff := clamped.le_right_iff inRow
    obtain ⟨on_grid, bottom_eq, left_eq, -⟩ := clamped
    simp only [List.mem_cons, List.not_mem_nil, or_false, exists_eq_or_imp, exists_eq_left,
      Span.Covers]
    omega

end Spanned

/-- On a grid of any size a selection has at most three spans. They lie on the grid, share no cell
and follow each other in reading order. Together they have exactly the selected cells of the grid,
and the last cell of the first line where the selection starts to the right of it. -/
theorem spans_cover_selected (selection : Selection) (columns rows : Nat) :
    let spans := selection.spans columns rows
    let start := selection.normalized.1
    spans.length ≤ 3 ∧
    (∀ span ∈ spans, span.Within columns rows ∧
      span.left + span.columns = span.right + 1 ∧ span.top + span.rows = span.bottom + 1) ∧
    spans.Pairwise (fun first second => first.Precedes second ∧
      ∀ row column, ¬ (first.Covers row column ∧ second.Covers row column)) ∧
    ∀ row < rows, ∀ column < columns, (∃ span ∈ spans, span.Covers row column) ↔
      selection.contains row column ∨
        columns ≤ start.column ∧ row = start.row ∧ column = columns - 1 := by
  intro spans start
  have spanned := selection.spanned_spans columns rows
  refine ⟨spanned.length_le, fun span member => ?_, ?_, fun row below column inRow => ?_⟩
  · have within := spanned.within span member
    exact ⟨within, within.counts⟩
  · refine spanned.above.imp fun above => ?_
    have precedes := Span.precedes_of_above above
    exact ⟨precedes, precedes.disjoint⟩
  · have last : column = columns - 1 ↔ column + 1 = columns := by omega
    rw [selection.contains_iff, last]
    exact spanned.covers_iff selection.not_isBefore_normalized below inRow

example : Selection.spans ⟨⟨22, 100⟩, ⟨40, 100⟩⟩ 80 24 =
    [⟨22, 79, 22, 79⟩, ⟨23, 0, 23, 79⟩] := by decide

end Selection
end CellScreen
