import Mathlib.Algebra.Order.Field.Power
import Mathlib.Tactic.FieldSimp
import Mathlib.Tactic.Linarith
import Mathlib.Tactic.NormNum
import Mathlib.Tactic.Positivity
import Mathlib.Tactic.Ring
import CellScreen.Number.Single

/-! Rounding to nearest. What is rounded is a number of the format; a quotient that lies closer than
a quarter of a unit to a number of the format is rounded to that number; and where there is room, a
quotient changes by at most half a unit of its last place. -/
namespace CellScreen.Number

section

variable {base : Nat}

theorem zpow_eq_div (positive : 0 < base) (power : Int) :
    (base : ℚ) ^ power = base ^ power.toNat / base ^ (-power).toNat := by
  have nonzero : (base : ℚ) ≠ 0 := by positivity
  rcases Int.le_total 0 power with natural | negative
  · obtain ⟨n, rfl⟩ := Int.eq_ofNat_of_zero_le natural
    simp
  · obtain ⟨n, n_eq⟩ := Int.eq_ofNat_of_zero_le (Int.neg_nonneg_of_nonpos negative)
    obtain rfl : power = -n := by omega
    simp

private theorem scaled_le_scaled_iff (positive : 0 < base) {num den : Nat} (solid : 0 < den)
    (power : Int) :
    den * base ^ power.toNat ≤ num * base ^ (-power).toNat ↔ (base : ℚ) ^ power ≤ num / den := by
  have solidCast : (0 : ℚ) < den := by exact_mod_cast solid
  have unit : (0 : ℚ) < base ^ (-power).toNat := by positivity
  rw [zpow_eq_div positive, div_le_div_iff₀ unit solidCast, mul_comm (_ ^ power.toNat : ℚ)]
  exact_mod_cast Iff.rfl

theorem powers_around (large : 1 < base) {num den high low : Nat} (solid : 0 < den)
    (numAbove : base ^ high ≤ num) (numBelow : num < base ^ (high + 1))
    (denAbove : base ^ low ≤ den) (denBelow : den < base ^ (low + 1)) {guess : Int}
    (guessed : guess = high - low) :
    let power := if den * base ^ guess.toNat ≤ num * base ^ (-guess).toNat then guess else guess - 1
    (base : ℚ) ^ power ≤ num / den ∧ (num : ℚ) / den < base ^ (power + 1) := by
  have positive : 0 < base := Nat.zero_lt_of_lt large
  have nonzero : (base : ℚ) ≠ 0 := by positivity
  have solidCast : (0 : ℚ) < den := by exact_mod_cast solid
  have numLow : (base : ℚ) ^ (high : Int) ≤ num := by exact_mod_cast numAbove
  have numHigh : (num : ℚ) < base ^ ((high : Int) + 1) := by exact_mod_cast numBelow
  have denLow : (base : ℚ) ^ (low : Int) ≤ den := by exact_mod_cast denAbove
  have denHigh : (den : ℚ) < base ^ ((low : Int) + 1) := by exact_mod_cast denBelow
  have above : (num : ℚ) / den < base ^ (guess + 1) := by
    rw [div_lt_iff₀ solidCast]
    calc (num : ℚ) < base ^ ((high : Int) + 1) := numHigh
      _ = base ^ (guess + 1) * base ^ (low : Int) := by
        rw [← zpow_add₀ nonzero, guessed]
        congr 1
        omega
      _ ≤ base ^ (guess + 1) * den := by gcongr
  have below : (base : ℚ) ^ (guess - 1) ≤ num / den := by
    rw [le_div_iff₀ solidCast]
    calc (base : ℚ) ^ (guess - 1) * den ≤ base ^ (guess - 1) * base ^ ((low : Int) + 1) := by gcongr
      _ = base ^ (high : Int) := by
        rw [← zpow_add₀ nonzero, guessed]
        congr 1
        omega
      _ ≤ num := numLow
  dsimp only
  split
  · next reached => exact ⟨(scaled_le_scaled_iff positive solid guess).mp reached, above⟩
  · next beyond =>
    rw [scaled_le_scaled_iff positive solid, not_le] at beyond
    rw [Int.sub_add_cancel]
    exact ⟨below, beyond⟩

end

theorem floorLog2_spec {num den : Nat} (positive : 0 < num) (solid : 0 < den) :
    (2 : ℚ) ^ floorLog2 num den ≤ num / den ∧ (num : ℚ) / den < 2 ^ (floorLog2 num den + 1) := by
  have spec := powers_around one_lt_two solid (Nat.log2_self_le positive.ne')
    Nat.lt_log2_self (Nat.log2_self_le solid.ne') Nat.lt_log2_self rfl
  rw [Nat.cast_ofNat] at spec
  exact spec

private theorem abs_roundDiv_sub_le (num : Nat) {den : Nat} (solid : 0 < den) :
    |(roundDiv num den : ℚ) - num / den| ≤ 1 / 2 := by
  have solidCast : (0 : ℚ) < den := by exact_mod_cast solid
  obtain ⟨above, below⟩ := roundDiv_near num den solid
  have aboveCast : 2 * ((roundDiv num den : ℚ) * den) ≤ 2 * num + den := by exact_mod_cast above
  have belowCast : 2 * (num : ℚ) ≤ 2 * (roundDiv num den * den) + den := by exact_mod_cast below
  have split : (num : ℚ) = num / den * den := by field_simp
  rw [abs_le]
  constructor <;> nlinarith

namespace Format

variable {format : Format}

structure Holds (format : Format) (mantissa : Nat) (exponent : Int) : Prop where
  bounded : mantissa < 2 ^ format.precision
  lowest_le : format.lowest ≤ exponent
  le_highest : exponent ≤ format.highest
  normal : 2 ^ (format.precision - 1) ≤ mantissa ∨ exponent = format.lowest

def unitOf (format : Format) (num den : Nat) : Int :=
  max format.lowest (floorLog2 num den - (format.precision - 1))

def unitsOf (format : Format) (num den : Nat) : Nat :=
  roundDiv (num * 2 ^ (-format.unitOf num den).toNat) (den * 2 ^ (format.unitOf num den).toNat)

private theorem round_of_carry {num den : Nat} (positive : 0 < num)
    (full : format.unitsOf num den = 2 ^ format.precision)
    (inRange : format.unitOf num den + 1 ≤ format.highest) : format.round num den =
      .finite (2 ^ (format.precision - 1)) (format.unitOf num den + 1) := by
  simp only [unitsOf, unitOf] at full inRange
  simp only [round, positive.ne', if_false, full, if_true, not_lt.mpr inRange, unitOf]

private theorem round_of_not_carry {num den : Nat} (positive : 0 < num)
    (room : format.unitsOf num den ≠ 2 ^ format.precision)
    (inRange : format.unitOf num den ≤ format.highest) : format.round num den =
      .finite (format.unitsOf num den) (format.unitOf num den) := by
  simp only [unitsOf, unitOf] at room inRange ⊢
  simp only [round, positive.ne', if_false, room, not_lt.mpr inRange]

private theorem abs_unitsOf_sub_le (format : Format) (num : Nat) {den : Nat} (solid : 0 < den) :
    |(format.unitsOf num den : ℚ) - num / den / 2 ^ format.unitOf num den| ≤ 1 / 2 := by
  have scaled : (num : ℚ) / den / 2 ^ format.unitOf num den =
      (num * 2 ^ (-format.unitOf num den).toNat : Nat) /
        (den * 2 ^ (format.unitOf num den).toNat : Nat) := by
    have power := zpow_eq_div two_pos (format.unitOf num den)
    push_cast at power ⊢
    rw [power]
    field_simp
  rw [scaled]
  exact abs_roundDiv_sub_le _ (by positivity)

private theorem units_around (format : Format) {num den : Nat} (positive : 0 < num)
    (solid : 0 < den) :
    (num : ℚ) / den / 2 ^ format.unitOf num den < 2 ^ format.precision ∧
      (format.unitOf num den = format.lowest ∨
        (2 : ℚ) ^ ((format.precision : Int) - 1) ≤ num / den / 2 ^ format.unitOf num den) := by
  obtain ⟨below, above⟩ := floorLog2_spec positive solid
  have unit : (0 : ℚ) < 2 ^ format.unitOf num den := by positivity
  constructor
  · rw [div_lt_iff₀ unit, ← zpow_natCast, ← zpow_add₀ two_ne_zero]
    refine lt_of_lt_of_le above (zpow_le_zpow_right₀ one_le_two ?_)
    unfold unitOf
    omega
  · rcases Int.le_total (floorLog2 num den - (format.precision - 1)) format.lowest with low | high
    · exact .inl (max_eq_left low)
    · right
      rw [le_div_iff₀ unit, ← zpow_add₀ two_ne_zero]
      refine le_trans (zpow_le_zpow_right₀ one_le_two ?_) below
      unfold unitOf
      omega

private theorem unitsOf_eq_of_near {num den units : Nat} (solid : 0 < den)
    (near : |(num : ℚ) / den / 2 ^ format.unitOf num den - units| < 1 / 2) :
    format.unitsOf num den = units := by
  have close := format.abs_unitsOf_sub_le num solid
  rw [abs_le] at close
  rw [abs_lt] at near
  have above : (format.unitsOf num den : ℚ) < units + 1 := by linarith
  have below : (units : ℚ) < format.unitsOf num den + 1 := by linarith
  norm_cast at above below
  omega

theorem holds_of_round {num den mantissa : Nat} {exponent : Int} (solid : 0 < den)
    (wide : 0 < format.precision) (ordered : format.lowest ≤ format.highest)
    (rounded : format.round num den = .finite mantissa exponent) :
    format.Holds mantissa exponent := by
  rcases Nat.eq_zero_or_pos num with rfl | positive
  · cases rounded
    exact ⟨Nat.two_pow_pos _, Int.le_refl _, ordered, .inr rfl⟩
  have close := abs_le.mp (format.abs_unitsOf_sub_le num solid)
  obtain ⟨above, below⟩ := format.units_around positive solid
  have lowest_le : format.lowest ≤ format.unitOf num den := le_max_left ..
  have half : 2 ^ (format.precision - 1) < 2 ^ format.precision :=
    Nat.pow_lt_pow_right (by decide) (by omega)
  by_cases full : format.unitsOf num den = 2 ^ format.precision
  · have inRange : format.unitOf num den + 1 ≤ format.highest := by
      refine not_lt.mp fun beyond => ?_
      simp only [unitsOf, unitOf] at full beyond
      simp only [round, positive.ne', if_false, full, if_true, beyond] at rounded
      cases rounded
    cases (round_of_carry positive full inRange).symm.trans rounded
    exact ⟨half, by omega, inRange, .inl (Nat.le_refl _)⟩
  · have inRange : format.unitOf num den ≤ format.highest := by
      refine not_lt.mp fun beyond => ?_
      simp only [unitsOf, unitOf] at full beyond
      simp only [round, positive.ne', if_false, full, beyond, if_true] at rounded
      cases rounded
    cases (round_of_not_carry positive full inRange).symm.trans rounded
    refine ⟨?_, lowest_le, inRange, ?_⟩
    · have most : (format.unitsOf num den : ℚ) < 2 ^ format.precision + 1 := by linarith
      norm_cast at most
      omega
    · refine below.symm.imp_left fun normal => ?_
      have least : (2 : ℚ) ^ (format.precision - 1) < format.unitsOf num den + 1 := by
        have same : ((format.precision - 1 : Nat) : Int) = format.precision - 1 := by omega
        rw [← same, zpow_natCast] at normal
        linarith
      norm_cast at least
      omega

section

variable {num den mantissa : Nat} {exponent : Int}

private theorem unitsOf_of_close (solid : 0 < den) {units : Nat}
    (close : |(num : ℚ) / den - units * 2 ^ format.unitOf num den| <
      2 ^ format.unitOf num den / 2) : format.unitsOf num den = units := by
  have unit : (0 : ℚ) < 2 ^ format.unitOf num den := by positivity
  obtain ⟨above, below⟩ := abs_lt.mp close
  apply unitsOf_eq_of_near solid
  rw [abs_lt]
  constructor
  · rw [lt_sub_iff_add_lt, lt_div_iff₀ unit]
    linarith
  · rw [sub_lt_iff_lt_add, div_lt_iff₀ unit]
    linarith

private theorem positive_of_near (nonzero : mantissa ≠ 0)
    (near : |(num : ℚ) / den - mantissa * 2 ^ exponent| < 2 ^ exponent / 4) : 0 < num := by
  have unit : (0 : ℚ) < 2 ^ exponent := by positivity
  have some : (1 : ℚ) ≤ mantissa := by exact_mod_cast Nat.one_le_iff_ne_zero.mpr nonzero
  refine Nat.pos_of_ne_zero fun none => ?_
  rw [none, Nat.cast_zero, zero_div, abs_lt] at near
  nlinarith

private theorem round_of_binade_below (solid : 0 < den) (wide : 0 < format.precision)
    (holds : format.Holds mantissa exponent) (high : exponent ≠ format.lowest)
    (near : |(num : ℚ) / den - mantissa * 2 ^ exponent| < 2 ^ exponent / 4)
    (below : (num : ℚ) / den < 2 ^ ((format.precision : Int) - 1 + exponent)) :
    format.round num den = .finite mantissa exponent := by
  have unit : (0 : ℚ) < 2 ^ exponent := by positivity
  have normal := holds.normal.resolve_right high
  have positive := positive_of_near (Nat.ne_zero_of_lt (lt_of_lt_of_le (Nat.two_pow_pos _) normal))
    near
  obtain ⟨powerBelow, powerAbove⟩ := floorLog2_spec positive solid
  obtain ⟨nearAbove, nearBelow⟩ := abs_lt.mp near
  have first : mantissa = 2 ^ (format.precision - 1) := by
    have same : (format.precision : Int) - 1 = ((format.precision - 1 : Nat) : Int) := by omega
    rw [zpow_add₀ two_ne_zero, same, zpow_natCast] at below
    have most : (mantissa : ℚ) < 2 ^ (format.precision - 1) + 1 := by nlinarith
    norm_cast at most
    omega
  have whole : (2 : ℚ) * mantissa = 2 ^ format.precision := by
    rw [first, Nat.cast_pow, Nat.cast_ofNat, ← pow_succ', Nat.sub_add_cancel wide]
  have power_lt : floorLog2 num den < (format.precision : Int) - 1 + exponent :=
    (zpow_lt_zpow_iff_right₀ (one_lt_two (α := ℚ))).mp (lt_of_le_of_lt powerBelow below)
  have le_power : (format.precision : Int) - 2 + exponent < floorLog2 num den + 1 := by
    refine (zpow_lt_zpow_iff_right₀ (one_lt_two (α := ℚ))).mp (lt_of_le_of_lt ?_ powerAbove)
    have split : (format.precision : Int) - 2 + exponent = format.precision + (exponent - 2) := by
      ring
    have quarter : (2 : ℚ) ^ (exponent - 2) = 2 ^ exponent / 4 := by
      rw [zpow_sub₀ two_ne_zero]
      norm_num
    have some : (1 : ℚ) ≤ mantissa := by
      rw [first]
      exact_mod_cast Nat.one_le_two_pow
    rw [split, zpow_add₀ two_ne_zero, zpow_natCast, ← whole, quarter]
    nlinarith
  have lowest_le := holds.lowest_le
  have le_highest := holds.le_highest
  have unit_eq : format.unitOf num den = exponent - 1 := by
    unfold unitOf
    omega
  have full : format.unitsOf num den = 2 ^ format.precision := by
    have lower : (2 : ℚ) ^ exponent = 2 * 2 ^ (exponent - 1) := by
      rw [← zpow_one_add₀ two_ne_zero, add_sub_cancel]
    apply unitsOf_of_close solid
    rw [unit_eq, Nat.cast_pow, Nat.cast_ofNat, ← whole, abs_lt]
    rw [lower] at nearAbove nearBelow
    constructor <;> linarith
  rw [round_of_carry positive full (by omega), unit_eq, first, Int.sub_add_cancel]

/-- A quotient closer than a quarter of a unit to a number of the format is rounded to it. -/
theorem round_of_near (solid : 0 < den) (wide : 0 < format.precision)
    (holds : format.Holds mantissa exponent) (nonzero : mantissa ≠ 0)
    (near : |(num : ℚ) / den - mantissa * 2 ^ exponent| < 2 ^ exponent / 4) :
    format.round num den = .finite mantissa exponent := by
  have unit : (0 : ℚ) < 2 ^ exponent := by positivity
  have positive := positive_of_near nonzero near
  obtain ⟨powerBelow, powerAbove⟩ := floorLog2_spec positive solid
  have power_lt : floorLog2 num den < format.precision + exponent := by
    have bounded : (mantissa : ℚ) + 1 ≤ 2 ^ format.precision := by exact_mod_cast holds.bounded
    have nearBelow := (abs_lt.mp near).2
    refine (zpow_lt_zpow_iff_right₀ (one_lt_two (α := ℚ))).mp (lt_of_le_of_lt powerBelow ?_)
    rw [zpow_add₀ two_ne_zero, zpow_natCast]
    nlinarith
  have of_unit (same : format.unitOf num den = exponent) :
      format.round num den = .finite mantissa exponent := by
    have units : format.unitsOf num den = mantissa := by
      apply unitsOf_of_close solid
      rw [same]
      linarith
    rw [round_of_not_carry positive (units ▸ holds.bounded.ne) (same ▸ holds.le_highest), units,
      same]
  have lowest_le := holds.lowest_le
  by_cases low : exponent = format.lowest
  · apply of_unit
    unfold unitOf
    omega
  · rcases le_or_gt ((2 : ℚ) ^ ((format.precision : Int) - 1 + exponent)) (num / den) with
      reached | below
    · have le_power : (format.precision : Int) - 1 + exponent < floorLog2 num den + 1 :=
        (zpow_lt_zpow_iff_right₀ (one_lt_two (α := ℚ))).mp (lt_of_le_of_lt reached powerAbove)
      apply of_unit
      unfold unitOf
      omega
    · exact round_of_binade_below solid wide holds low near below

end

/-- Where the format has room, rounding changes a quotient by at most half a unit of its last
place. -/
theorem exists_round (format : Format) {num den : Nat} (positive : 0 < num) (solid : 0 < den)
    (wide : 0 < format.precision)
    (low : (2 : ℚ) ^ (format.lowest + format.precision) ≤ num / den)
    (high : (num : ℚ) / den < 2 ^ (format.highest + format.precision - 1)) :
    ∃ mantissa exponent, format.round num den = .finite mantissa exponent ∧
      |(mantissa : ℚ) * 2 ^ exponent - num / den| ≤ num / den / 2 ^ format.precision := by
  obtain ⟨below, above⟩ := floorLog2_spec positive solid
  have le_power : format.lowest + format.precision < floorLog2 num den + 1 :=
    (zpow_lt_zpow_iff_right₀ (one_lt_two (α := ℚ))).mp (lt_of_le_of_lt low above)
  have power_lt : floorLog2 num den < format.highest + format.precision - 1 :=
    (zpow_lt_zpow_iff_right₀ (one_lt_two (α := ℚ))).mp (lt_of_le_of_lt below high)
  have unit_eq : format.unitOf num den = floorLog2 num den - (format.precision - 1) := by
    unfold unitOf
    omega
  have unit : (0 : ℚ) < 2 ^ format.unitOf num den := by positivity
  have error : |(format.unitsOf num den : ℚ) * 2 ^ format.unitOf num den - num / den| ≤
      num / den / 2 ^ format.precision := by
    have close := abs_le.mp (format.abs_unitsOf_sub_le num solid)
    have half : (2 : ℚ) ^ format.unitOf num den / 2 ≤ num / den / 2 ^ format.precision := by
      have split : floorLog2 num den = format.unitOf num den - 1 + format.precision := by omega
      rw [split, zpow_add₀ two_ne_zero, zpow_sub_one₀ two_ne_zero, zpow_natCast] at below
      rw [le_div_iff₀ (by positivity)]
      linarith
    have scaled : (num : ℚ) / den = num / den / 2 ^ format.unitOf num den *
        2 ^ format.unitOf num den := by
      rw [div_mul_cancel₀ _ unit.ne']
    rw [abs_le]
    constructor <;> nlinarith
  by_cases full : format.unitsOf num den = 2 ^ format.precision
  · refine ⟨_, _, round_of_carry positive full (by omega), ?_⟩
    have carried : ((2 ^ (format.precision - 1) : Nat) : ℚ) * 2 ^ (format.unitOf num den + 1) =
        format.unitsOf num den * 2 ^ format.unitOf num den := by
      rw [full, zpow_add_one₀ two_ne_zero, Nat.cast_pow, Nat.cast_pow, Nat.cast_ofNat,
        mul_comm (2 ^ format.unitOf num den) (2 : ℚ), ← mul_assoc, ← pow_succ,
        Nat.sub_add_cancel wide]
    rw [carried]
    exact error
  · exact ⟨_, _, round_of_not_carry positive full (by omega), error⟩

end Format
end CellScreen.Number
