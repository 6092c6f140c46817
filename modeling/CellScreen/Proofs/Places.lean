import CellScreen.Grid
import CellScreen.Number.Instances

/-! The places of a grid in their order, row by row, and folds over them. -/
namespace CellScreen

/-- What each step makes true of the entries so far and of the state, a fold makes true of all of
them. -/
theorem foldl_prefix_induction {σ α : Type} {step : σ → α → σ} {motive : List α → σ → Prop}
    {entries : List α} {state : σ} (start : motive [] state)
    (next : ∀ {done rest : List α} {entry : α} {state : σ}, entries = done ++ entry :: rest →
      motive done state → motive (done ++ [entry]) (step state entry)) :
    motive entries (entries.foldl step state) := by
  suffices general : ∀ rest done state, entries = done ++ rest → motive done state →
      motive entries (rest.foldl step state) from general entries [] state rfl start
  intro rest
  induction rest with
  | nil =>
    intro done state split reached
    rwa [split, List.append_nil]
  | cons entry rest ih =>
    intro done state split reached
    exact ih (done ++ [entry]) _ (by simp [split]) (next split reached)

namespace Grid

def Earlier (place other : Nat × Nat) : Prop :=
  place.1 < other.1 ∨ place.1 = other.1 ∧ place.2 < other.2

theorem ordered_places (width height : Nat) : (places width height).Pairwise Earlier := by
  rw [places, List.pairwise_map]
  refine List.pairwise_lt_range.imp fun {index other} before => ?_
  have ascends : index / width ≤ other / width := Nat.div_le_div_right (Nat.le_of_lt before)
  rcases Nat.lt_or_eq_of_le ascends with above | same
  · exact .inl above
  · have first := Nat.div_add_mod index width
    have second := Nat.div_add_mod other width
    rw [← same] at second
    exact .inr ⟨same, by omega⟩

theorem nodup_places (width height : Nat) : (places width height).Nodup := by
  refine (ordered_places width height).imp fun earlier same => ?_
  rw [same] at earlier
  unfold Earlier at earlier
  omega

/-- The places before an entry of the list of all places are those that come earlier. -/
theorem mem_before_iff {width height : Nat} {done rest : List (Nat × Nat)} {place other : Nat × Nat}
    (split : places width height = done ++ place :: rest) :
    other ∈ done ↔ (other.1 < height ∧ other.2 < width) ∧ Earlier other place := by
  have ordered := ordered_places width height
  rw [split, List.pairwise_append, List.pairwise_cons] at ordered
  rw [← mem_places, split, List.mem_append, List.mem_cons]
  constructor
  · intro member
    exact ⟨.inl member, ordered.2.2 other member place (List.mem_cons_self ..)⟩
  · rintro ⟨member | rfl | later, earlier⟩
    · exact member
    · unfold Earlier at earlier
      omega
    · have after := ordered.2.1.1 other later
      unfold Earlier at earlier after
      omega

theorem places_succ (width height : Nat) : places width (height + 1) =
    places width height ++ (List.range width).map fun column => (height, column) := by
  simp only [places, Nat.mul_succ, List.range_add, List.map_append, List.map_map]
  congr 1
  refine List.map_congr_left fun column member => ?_
  have inRow := List.mem_range.mp member
  rw [Function.comp_apply, Nat.mul_comm, index_div inRow, index_mod inRow]

theorem sum_map_countP (width height : Nat) (p : Nat → Nat → Bool) :
    ((List.range height).map fun row => (List.range width).countP (p row)).sum =
      (places width height).countP fun place => p place.1 place.2 := by
  induction height with
  | zero => rfl
  | succ height ih =>
    rw [List.range_succ, List.map_append, List.sum_append, ih, places_succ, List.countP_append,
      List.countP_map]
    simp [Function.comp_def]

end Grid
end CellScreen
