import CellScreen.Proofs.Places
import Mathlib.Data.List.SplitBy

/-! Runs of one color: the longest parts of the rows of a table that have one color each. A run has
a first and a last cell, and it may end beside a run of its color, in a row next to its own, that
goes on. -/
namespace CellScreen

def preceding {β : Type} (start : β) (entries : Nat → β) : Nat → β
  | 0 => start
  | index + 1 => entries index

namespace Row

variable {α : Type}

def Begins (line : Nat → Option α) (column : Nat) : Prop :=
  line column ≠ none ∧ preceding none line column ≠ line column

def Ends (line : Nat → Option α) (column : Nat) : Prop :=
  line column ≠ none ∧ line (column + 1) ≠ line column

/-- A run ends where another row goes on with its color. -/
def EndsShort (line other : Nat → Option α) (column : Nat) : Prop :=
  Ends line column ∧ other column = line column ∧ other (column + 1) = line column

variable [DecidableEq α]

instance (line : Nat → Option α) : DecidablePred (Begins line) :=
  fun _ => inferInstanceAs (Decidable (_ ∧ _))

instance (line : Nat → Option α) : DecidablePred (Ends line) :=
  fun _ => inferInstanceAs (Decidable (_ ∧ _))

instance (line other : Nat → Option α) : DecidablePred (EndsShort line other) :=
  fun _ => inferInstanceAs (Decidable (_ ∧ _))

def runs (width : Nat) (line : Nat → Option α) : List (List (Option α)) :=
  (((List.range width).map line).splitBy (· == ·)).filter (·.all Option.isSome)

def begun : Option α → List (Option α) → Nat
  | _, [] => 0
  | previous, entry :: entries =>
    (if entry ≠ none ∧ previous ≠ entry then 1 else 0) + begun entry entries

private theorem countP_loop (entries : List (Option α)) (first : Option α) (taken : Nat)
    (parts : List (List (Option α))) :
    (List.splitBy.loop (· == ·) entries first (.replicate taken first) parts).countP
        (·.all Option.isSome) =
      parts.countP (·.all Option.isSome) + (if first ≠ none then 1 else 0) +
        begun first entries := by
  have part (first : Option α) (taken : Nat) :
      (first :: List.replicate taken first).reverse.all Option.isSome = decide (first ≠ none) := by
    rw [← List.replicate_succ, List.reverse_replicate, List.all_replicate]
    cases first <;> simp
  induction entries generalizing first taken parts with
  | nil =>
    rw [List.splitBy.loop, List.countP_reverse, List.countP_cons, part]
    simp [begun]
  | cons entry entries ih =>
    rw [List.splitBy.loop, begun]
    split
    · next same =>
      obtain rfl := beq_iff_eq.mp same
      rw [← List.replicate_succ, ih first (taken + 1)]
      simp
    · next different =>
      rw [beq_eq_false_iff_ne] at different
      rw [← List.replicate_zero, ih entry 0, List.countP_cons, part]
      simp [different, Nat.add_assoc]

private theorem begun_map_range (width : Nat) (line : Nat → Option α) (previous : Option α) :
    begun previous ((List.range width).map line) = (List.range width).countP fun column =>
      line column ≠ none ∧ preceding previous line column ≠ line column := by
  induction width generalizing line previous with
  | zero => rfl
  | succ width ih =>
    rw [List.range_succ_eq_map, List.map_cons, List.map_map, begun, ih, List.countP_cons,
      List.countP_map, Nat.add_comm]
    congr 1
    · refine List.countP_congr fun column _ => ?_
      cases column <;> rfl
    · exact if_congr decide_eq_true_iff.symm rfl rfl

/-- Every run is counted where it begins. -/
theorem length_runs (width : Nat) (line : Nat → Option α) :
    (runs width line).length = (List.range width).countP (Begins line) := by
  have counted := begun_map_range width line none
  rw [runs, ← List.countP_eq_length_filter]
  revert counted
  cases (List.range width).map line with
  | nil => exact id
  | cons first entries =>
    intro counted
    rw [begun] at counted
    have parts := countP_loop entries first 0 []
    rw [List.countP_nil, Nat.zero_add] at parts
    refine (parts.trans ?_).trans counted
    simp [eq_comm]

/-- As many runs end as begin, where the row does not go on behind its last column. -/
theorem countP_ends (width : Nat) (line : Nat → Option α) (last : line width = none) :
    (List.range width).countP (Ends line) = (List.range width).countP (Begins line) := by
  have balance (count : Nat) : (List.range count).countP (Begins line) =
      (List.range count).countP (Ends line) +
        if line count ≠ none ∧ preceding none line count = line count then 1 else 0 := by
    induction count with
    | zero => simp [preceding, eq_comm]
    | succ count ih =>
      have here : (if line count ≠ none ∧ preceding none line count = line count then 1 else 0) +
          (if Begins line count then 1 else 0) = if line count ≠ none then 1 else 0 := by
        by_cases goesOn : preceding none line count = line count <;> simp [Begins, goesOn]
      have next : (if Ends line count then 1 else 0) +
          (if line (count + 1) ≠ none ∧ line count = line (count + 1) then 1 else 0) =
          if line count ≠ none then 1 else 0 := by
        by_cases goesOn : line (count + 1) = line count
        · simp [Ends, goesOn]
        · simp [Ends, goesOn, Ne.symm goesOn]
      rw [List.range_succ, List.countP_append, List.countP_append, List.countP_singleton,
        List.countP_singleton, ih]
      simp only [decide_eq_true_eq]
      rw [Nat.add_assoc, here, Nat.add_assoc]
      exact congrArg _ next.symm
  rw [balance, if_neg (fun goesOn => goesOn.1 last), Nat.add_zero]

end Row

variable {α : Type} [DecidableEq α] {width height : Nat} {colors : Nat → Nat → Option α}

def countRuns (width height : Nat) (colors : Nat → Nat → Option α) : Nat :=
  ((List.range height).map fun row => (Row.runs width (colors row)).length).sum

/-- How many runs end short of the row below them, and how many of the row above them. -/
def countShort (width height : Nat) (colors : Nat → Nat → Option α) : Nat :=
  (Grid.places width height).countP (fun place =>
    Row.EndsShort (colors place.1) (colors (place.1 + 1)) place.2) +
  (Grid.places width height).countP (fun place =>
    Row.EndsShort (colors place.1) (preceding (fun _ => none) colors place.1) place.2)

theorem countRuns_eq (width height : Nat) (colors : Nat → Nat → Option α) :
    countRuns width height colors =
      (Grid.places width height).countP fun place => Row.Begins (colors place.1) place.2 := by
  simp only [countRuns, Row.length_runs]
  exact Grid.sum_map_countP width height fun row column => Row.Begins (colors row) column

/-- A run has one end, which is short of two rows at most. -/
theorem countShort_le (beyond : ∀ row, colors row width = none) :
    countShort width height colors ≤ 2 * countRuns width height colors := by
  have ends : (Grid.places width height).countP
      (fun place => Row.Ends (colors place.1) place.2) = countRuns width height colors := by
    rw [← Grid.sum_map_countP width height fun row column => Row.Ends (colors row) column,
      countRuns]
    refine congrArg List.sum (List.map_congr_left fun row _ => ?_)
    rw [Row.countP_ends width _ (beyond row), Row.length_runs]
  have short (other : Nat → Nat → Option α) : (Grid.places width height).countP
      (fun place => Row.EndsShort (colors place.1) (other place.1) place.2) ≤
        countRuns width height colors := by
    rw [← ends]
    refine List.countP_mono_left fun place _ endsShort => ?_
    rw [decide_eq_true_iff] at endsShort ⊢
    exact endsShort.1
  rw [countShort, Nat.two_mul]
  exact Nat.add_le_add (short fun row => colors (row + 1))
    (short (preceding (fun _ => none) colors))

end CellScreen
