import CellScreen.Number.Digits
import CellScreen.Number.Instances
import Mathlib.Data.List.Forall2
import Mathlib.Data.Nat.Digits.Defs
import Mathlib.Tactic.Ring

/-! The digits of a text and the number that they write, most significant digit first. -/
namespace CellScreen.Number

def IsDigit (c : Char) (d : Nat) : Prop :=
  d < 16 ∧ (c = Nat.digitChar d ∨ c = (Nat.digitChar d).toUpper)

def Writes (base : Nat) (cs : List Char) (n : Nat) : Prop :=
  cs ≠ [] ∧ ∃ ds, List.Forall₂ IsDigit cs ds ∧ (∀ d ∈ ds, d < base) ∧
    Nat.ofDigits base ds.reverse = n

private theorem le_toNat_iff (low c : Char) : low ≤ c ↔ low.toNat ≤ c.toNat :=
  UInt32.le_iff_toNat_le

private theorem eq_of_range {c : Char} {start count : Nat} {written : Nat → Char}
    (same : ∀ d < count, Char.ofNat (start + d) = written d) (above : start ≤ c.toNat)
    (below : c.toNat < start + count) : c = written (c.toNat - start) := by
  rw [← same _ (Nat.sub_lt_left_of_lt_add above below), Nat.add_sub_cancel' above, Char.ofNat_toNat]

private theorem isDigit_of_hexValue? {c : Char} {d : Nat} (found : hexValue? c = some d) :
    IsDigit c d := by
  have digit : ∀ d < 10, Char.ofNat (48 + d) = Nat.digitChar d := by decide
  have small : ∀ d < 6, Char.ofNat (97 + d) = Nat.digitChar (10 + d) := by decide
  have large : ∀ d < 6, Char.ofNat (65 + d) = (Nat.digitChar (10 + d)).toUpper := by decide
  unfold hexValue? at found
  simp only [le_toNat_iff] at found
  split at found
  · next inside =>
    obtain ⟨above, below⟩ : 48 ≤ c.toNat ∧ c.toNat ≤ 57 := inside
    have value : c.toNat - 48 = d := Option.some.inj found
    exact ⟨by omega, .inl (value ▸ eq_of_range digit above (Nat.lt_succ_of_le below))⟩
  split at found
  · next inside =>
    obtain ⟨above, below⟩ : 97 ≤ c.toNat ∧ c.toNat ≤ 102 := inside
    have value : c.toNat - 87 = d := Option.some.inj found
    have same := eq_of_range small above (Nat.lt_succ_of_le below)
    rw [show 10 + (c.toNat - 97) = d by omega] at same
    exact ⟨by omega, .inl same⟩
  split at found
  · next inside =>
    obtain ⟨above, below⟩ : 65 ≤ c.toNat ∧ c.toNat ≤ 70 := inside
    have value : c.toNat - 55 = d := Option.some.inj found
    have same := eq_of_range large above (Nat.lt_succ_of_le below)
    rw [show 10 + (c.toNat - 65) = d by omega] at same
    exact ⟨by omega, .inr same⟩
  · cases found

theorem hexValue?_eq_some_iff {c : Char} {d : Nat} : hexValue? c = some d ↔ IsDigit c d := by
  refine ⟨isDigit_of_hexValue?, ?_⟩
  have lower : ∀ d < 16, hexValue? (Nat.digitChar d) = some d := by decide
  have upper : ∀ d < 16, hexValue? (Nat.digitChar d).toUpper = some d := by decide
  rintro ⟨below, rfl | rfl⟩
  · exact lower d below
  · exact upper d below

theorem appendDigit?_eq_some_iff {base n next : Nat} {c : Char} :
    appendDigit? base n c = some next ↔ ∃ d, IsDigit c d ∧ d < base ∧ n * base + d = next := by
  unfold appendDigit?
  constructor
  · intro found
    split at found
    · next d digit =>
      split at found
      · next below => exact ⟨d, hexValue?_eq_some_iff.mp digit, below, Option.some.inj found⟩
      · cases found
    · cases found
  · rintro ⟨d, digit, below, rfl⟩
    rw [hexValue?_eq_some_iff.mpr digit]
    exact if_pos below

theorem foldlM_appendDigit?_eq_some_iff {base start n : Nat} {cs : List Char} :
    cs.foldlM (appendDigit? base) start = some n ↔ ∃ ds, List.Forall₂ IsDigit cs ds ∧
      (∀ d ∈ ds, d < base) ∧ start * base ^ ds.length + Nat.ofDigits base ds.reverse = n := by
  -- What was read so far is the start of the digits that follow.
  induction cs generalizing start with
  | nil => simp [List.forall₂_nil_left_iff]
  | cons c cs ih =>
    have more (d : Nat) (ds : List Nat) : (start * base + d) * base ^ ds.length +
        Nat.ofDigits base ds.reverse =
          start * base ^ (d :: ds).length + Nat.ofDigits base (d :: ds).reverse := by
      rw [Nat.ofDigits_reverse_cons, List.length_cons]
      ring
    rw [List.foldlM_cons, Option.bind_eq_bind, Option.bind_eq_some_iff]
    constructor
    · rintro ⟨next, appended, rest⟩
      obtain ⟨d, digit, below, rfl⟩ := appendDigit?_eq_some_iff.mp appended
      obtain ⟨ds, digits, allBelow, rfl⟩ := ih.mp rest
      exact ⟨d :: ds, .cons digit digits, List.forall_mem_cons.mpr ⟨below, allBelow⟩,
        (more d ds).symm⟩
    · rintro ⟨ds, digits, allBelow, rfl⟩
      obtain ⟨d, ds, digit, rest, rfl⟩ := List.forall₂_cons_left_iff.mp digits
      obtain ⟨below, allBelow⟩ := List.forall_mem_cons.mp allBelow
      exact ⟨_, appendDigit?_eq_some_iff.mpr ⟨d, digit, below, rfl⟩,
        ih.mpr ⟨ds, rest, allBelow, more d ds⟩⟩

theorem ofText?_eq_some_iff {base n : Nat} {cs : List Char} :
    ofText? base cs = some n ↔ Writes base cs n := by
  rw [ofText?, Writes, ← List.isEmpty_eq_false_iff]
  cases empty : cs.isEmpty with
  | true => simp
  | false => simp [foldlM_appendDigit?_eq_some_iff]

theorem Writes.isDigit {base n : Nat} {cs : List Char} (writes : Writes base cs n) {c : Char}
    (member : c ∈ cs) : ∃ d, IsDigit c d := by
  obtain ⟨-, ds, digits, -⟩ := writes
  induction digits with
  | nil => cases member
  | @cons first d cs ds digit digits ih =>
    rcases List.mem_cons.mp member with rfl | later
    · exact ⟨d, digit⟩
    · exact ih later

theorem Writes.lt {base n : Nat} {cs : List Char} (writes : Writes base cs n) (large : 1 < base) :
    n < base ^ cs.length := by
  obtain ⟨-, ds, digits, below, rfl⟩ := writes
  rw [digits.length_eq, ← List.length_reverse]
  exact Nat.ofDigits_lt_base_pow_length large fun d member => below d (List.mem_reverse.mp member)

end CellScreen.Number
