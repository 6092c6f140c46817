import CellScreen.Number.Numeral
import CellScreen.Proofs.Rounding

/-! Decimals that are read. The digits of a numeral are kept exactly as long as they fit into 64
bits, double precision carries them with three roundings, and so a numeral whose first digits are
those of a single-precision number denotes that number. -/
namespace CellScreen.Number

theorem ofDigits_append (ds es : List Nat) :
    ofDigits (ds ++ es) = ofDigits ds * 10 ^ es.length + ofDigits es := by
  induction es using List.reverseRecOn with
  | nil => simp [ofDigits]
  | append_singleton es e ih =>
    rw [← List.append_assoc, ofDigits_append_singleton, ih, ofDigits_append_singleton,
      List.length_append, List.length_singleton, pow_succ]
    ring

namespace Numeral

private theorem appendDigits_of_fits (ds es : List Nat)
    (fits : ofDigits (ds ++ es) < significandLimit) :
    appendDigits (ofDigits ds) es = (ofDigits (ds ++ es), es.length) := by
  induction es generalizing ds with
  | nil => rw [appendDigits, List.append_nil, List.length_nil]
  | cons e es ih =>
    have regroup : ds ++ e :: es = (ds ++ [e]) ++ es := by simp
    have least : ofDigits (ds ++ [e]) ≤ ofDigits (ds ++ e :: es) := by
      rw [regroup, ofDigits_append (ds ++ [e])]
      exact Nat.le_add_right_of_le (Nat.le_mul_of_pos_right _ (Nat.pow_pos (by decide)))
    rw [appendDigits, ← ofDigits_append_singleton, if_pos (lt_of_le_of_lt least fits),
      ih _ (regroup ▸ fits), ← regroup, List.length_cons]

def allDigits (numeral : Numeral) : Nat := ofDigits (digits numeral.whole ++ numeral.fraction)

def lastPlace (numeral : Numeral) : Int := numeral.exponent.getD 0 - numeral.fraction.length

private theorem scaled_of_fits {numeral : Numeral} (fits : numeral.allDigits < significandLimit) :
    numeral.scaled = (numeral.allDigits, numeral.lastPlace) := by
  have whole_le : ofDigits (digits numeral.whole) ≤ numeral.allDigits := by
    rw [allDigits, ofDigits_append]
    exact Nat.le_add_right_of_le (Nat.le_mul_of_pos_right _ (Nat.pow_pos (by decide)))
  have whole := appendDigits_of_fits [] (digits numeral.whole) (lt_of_le_of_lt whole_le fits)
  have fraction := appendDigits_of_fits (digits numeral.whole) numeral.fraction fits
  rw [show ofDigits [] = 0 from rfl, List.nil_append] at whole
  simp only [scaled, whole, fraction, allDigits, lastPlace]
  congr 1
  omega

end Numeral

def Magnitude.Near (magnitude : Magnitude) (x part : ℚ) : Prop :=
  ∃ mantissa exponent, magnitude = .finite mantissa exponent ∧
    |(mantissa : ℚ) * 2 ^ exponent - x| ≤ x * part

theorem scaled_ratio (num den : Nat) (exponent : Int) :
    ((num * 2 ^ exponent.toNat : Nat) : ℚ) / (den * 2 ^ (-exponent).toNat : Nat) =
      num / den * 2 ^ exponent := by
  have power := zpow_eq_div two_pos exponent
  push_cast at power ⊢
  rw [power]
  exact mul_div_mul_comm ..

def slip : ℚ := 1 / 2 ^ 53

private theorem slip_pos : 0 < slip := by norm_num [slip]

private theorem slip_le : slip ≤ 1 / 9 := by norm_num [slip]

private theorem near_roundScaled {num den : Nat} {exponent : Int} (positive : 0 < num)
    (solid : 0 < den) (low : 2 ^ (-250 : Int) ≤ (num : ℚ) / den * 2 ^ exponent)
    (high : (num : ℚ) / den * 2 ^ exponent ≤ 2 ^ (250 : Int)) :
    (Format.double.roundScaled num den exponent).Near (num / den * 2 ^ exponent) slip := by
  have lowest : (2 : ℚ) ^ (Format.double.lowest + Format.double.precision) ≤ 2 ^ (-250 : Int) :=
    zpow_le_zpow_right₀ one_le_two (by decide)
  have highest : (2 : ℚ) ^ (250 : Int) <
      2 ^ (Format.double.highest + Format.double.precision - 1) :=
    zpow_lt_zpow_right₀ one_lt_two (by decide)
  rw [← scaled_ratio] at low high ⊢
  obtain ⟨mantissa, power, rounded, error⟩ := Format.double.exists_round
    (Nat.mul_pos positive (Nat.two_pow_pos _)) (Nat.mul_pos solid (Nat.two_pow_pos _)) (by decide)
    (le_trans lowest low) (lt_of_le_of_lt high highest)
  exact ⟨mantissa, power, rounded, by rwa [slip, mul_one_div]⟩

private theorem near_round_nat {n : Nat} (positive : 0 < n) (high : (n : ℚ) ≤ 2 ^ (250 : Int)) :
    (Format.double.round n 1).Near n slip := by
  have least : (1 : ℚ) ≤ n := by exact_mod_cast positive
  have low : (2 : ℚ) ^ (-250 : Int) ≤ n := le_trans (by norm_num) least
  have near := @near_roundScaled n 1 0 positive one_pos (by simpa)
    (by simpa)
  simpa [Format.roundScaled] using near

section

variable {a b x y : ℚ}

private theorem abs_mul_sub_le (positive : 0 < x) (other : 0 < y) (first : |a - x| ≤ x * slip)
    (second : |b - y| ≤ y * slip) : |a * b - x * y| ≤ x * y * (3 * slip) := by
  have unit := slip_pos
  have small := slip_le
  have size : |a| ≤ 2 * x := by
    calc |a| = |(a - x) + x| := by rw [sub_add_cancel]
      _ ≤ |a - x| + |x| := abs_add_le ..
      _ ≤ x * slip + x := by rw [abs_of_pos positive]; gcongr
      _ ≤ 2 * x := by nlinarith
  calc |a * b - x * y| = |a * (b - y) + y * (a - x)| := by ring_nf
    _ ≤ |a| * |b - y| + |y| * |a - x| := by
      rw [← abs_mul, ← abs_mul]
      exact abs_add_le ..
    _ ≤ 2 * x * (y * slip) + y * (x * slip) := by rw [abs_of_pos other]; gcongr
    _ = x * y * (3 * slip) := by ring

private theorem abs_div_sub_le (positive : 0 < x) (other : 0 < y) (first : |a - x| ≤ x * slip)
    (second : |b - y| ≤ y * slip) : |a / b - x / y| ≤ x / y * (3 * slip) := by
  have unit := slip_pos
  have small := slip_le
  have least : 2 / 3 * y ≤ b := by
    have below := (abs_le.mp second).1
    nlinarith
  have solid : 0 < b := by linarith
  have cross : |a * y - x * b| ≤ 2 * x * y * slip := by
    calc |a * y - x * b| = |y * (a - x) + -(x * (b - y))| := by ring_nf
      _ ≤ |y| * |a - x| + |x| * |b - y| := by
        rw [← abs_mul, ← abs_mul, ← abs_neg (x * (b - y))]
        exact abs_add_le ..
      _ ≤ y * (x * slip) + x * (y * slip) := by
        rw [abs_of_pos positive, abs_of_pos other]
        gcongr
      _ = 2 * x * y * slip := by ring
  rw [div_sub_div _ _ solid.ne' other.ne', abs_div, abs_of_pos (mul_pos solid other),
    mul_comm b x, div_le_iff₀ (mul_pos solid other)]
  calc |a * y - x * b| ≤ 2 * x * y * slip := cross
    _ = x / y * (3 * slip) * (2 / 3 * y * y) := by field_simp
    _ ≤ x / y * (3 * slip) * (b * y) := by gcongr

private theorem near_of_near {magnitude : Magnitude} (positive : 0 < x)
    (carried : |y - x| ≤ x * (3 * slip)) (near : magnitude.Near y slip) :
    magnitude.Near x (5 * slip) := by
  obtain ⟨mantissa, exponent, rounded, error⟩ := near
  have unit := slip_pos
  have small := slip_le
  refine ⟨mantissa, exponent, rounded, ?_⟩
  calc |(mantissa : ℚ) * 2 ^ exponent - x|
      ≤ |(mantissa : ℚ) * 2 ^ exponent - y| + |y - x| := abs_sub_le ..
    _ ≤ y * slip + x * (3 * slip) := by gcongr
    _ ≤ 2 * x * slip + x * (3 * slip) := by
      have above := (abs_le.mp carried).2
      have most : y ≤ 2 * x := by nlinarith
      gcongr
    _ = x * (5 * slip) := by ring

private theorem carried_bounds (low : 1 / 2 ^ 248 ≤ x) (high : x ≤ 2 ^ 248)
    (carried : |y - x| ≤ x * (3 * slip)) : 2 ^ (-250 : Int) ≤ y ∧ y ≤ 2 ^ (250 : Int) := by
  have unit := slip_pos
  have small := slip_le
  have positive : 0 < x := lt_of_lt_of_le (by positivity) low
  obtain ⟨below, above⟩ := abs_le.mp carried
  constructor
  · calc (2 : ℚ) ^ (-250 : Int) ≤ 2 / 3 * (1 / 2 ^ 248) := by norm_num
      _ ≤ 2 / 3 * x := by gcongr
      _ ≤ y := by nlinarith
  · calc y ≤ 2 * x := by nlinarith
      _ ≤ 2 * 2 ^ 248 := by gcongr
      _ ≤ 2 ^ (250 : Int) := by norm_num

end

namespace Numeral

variable {first second : Magnitude} {x y : ℚ}

private theorem near_times (positive : 0 < x) (other : 0 < y) (low : 1 / 2 ^ 248 ≤ x * y)
    (high : x * y ≤ 2 ^ 248) (near : first.Near x slip) (nearOther : second.Near y slip) :
    (times first second).Near (x * y) (5 * slip) := by
  obtain ⟨m, e, rfl, error⟩ := near
  obtain ⟨n, f, rfl, errorOther⟩ := nearOther
  have carried := abs_mul_sub_le positive other error errorOther
  have product : (m : ℚ) * 2 ^ e * (n * 2 ^ f) = (m * n : Nat) / (1 : Nat) * 2 ^ (e + f) := by
    rw [zpow_add₀ two_ne_zero]
    push_cast
    ring
  obtain ⟨least, most⟩ := carried_bounds low high carried
  rw [product] at carried least most
  refine near_of_near (mul_pos positive other) carried (near_roundScaled ?_ one_pos least most)
  refine Nat.pos_of_ne_zero fun none => ?_
  rw [none] at least
  norm_num at least

private theorem near_dividedBy (positive : 0 < x) (other : 0 < y) (low : 1 / 2 ^ 248 ≤ x / y)
    (high : x / y ≤ 2 ^ 248) (near : first.Near x slip) (nearOther : second.Near y slip) :
    (dividedBy first second).Near (x / y) (5 * slip) := by
  obtain ⟨m, e, rfl, error⟩ := near
  obtain ⟨n, f, rfl, errorOther⟩ := nearOther
  have carried := abs_div_sub_le positive other error errorOther
  have quotient : (m : ℚ) * 2 ^ e / (n * 2 ^ f) = m / n * 2 ^ (e - f) := by
    rw [zpow_sub₀ two_ne_zero]
    exact mul_div_mul_comm ..
  obtain ⟨least, most⟩ := carried_bounds low high carried
  rw [quotient] at carried least most
  have nonzero : m ≠ 0 ∧ n ≠ 0 := by
    constructor
    all_goals
      rintro rfl
      norm_num at least
  exact near_of_near (div_pos positive other) carried
    (near_roundScaled (Nat.pos_of_ne_zero nonzero.1) (Nat.pos_of_ne_zero nonzero.2) least most)

/-- A decimal of at most 64 bits and moderate size passes double precision almost unchanged. -/
theorem near_doubleOf {significand : Nat} {exponent : Int} (positive : 0 < significand)
    (fits : significand < significandLimit) (low : -54 ≤ exponent) (high : exponent ≤ 54) :
    ∃ magnitude, doubleOf significand exponent = some magnitude ∧
      magnitude.Near (significand * 10 ^ exponent) (5 * slip) := by
  have least : (1 : ℚ) ≤ significand := by exact_mod_cast positive
  have most : (significand : ℚ) ≤ 2 ^ 64 := by
    rw [significandLimit] at fits
    exact_mod_cast fits.le
  have solid : (0 : ℚ) < significand := by linarith
  have start := near_round_nat positive (le_trans most (by norm_num))
  have power {n : Nat} (small : n ≤ 54) :
      (1 : ℚ) ≤ 10 ^ n ∧ (10 : ℚ) ^ n ≤ 2 ^ 180 ∧ (tenPower n).Near (10 ^ n) slip := by
    have one_le : (1 : ℚ) ≤ 10 ^ n := one_le_pow₀ (by norm_num)
    have few : (10 : ℚ) ^ n ≤ 2 ^ 180 :=
      le_trans (pow_le_pow_right₀ (by norm_num) small) (by norm_num)
    have rounded := near_round_nat (n := 10 ^ n) (Nat.pow_pos (by decide)) (by
      push_cast
      exact le_trans few (by norm_num))
    push_cast at rounded
    exact ⟨one_le, few, rounded⟩
  rw [doubleOf, if_neg positive.ne', if_neg (by omega)]
  split
  · next natural =>
    obtain ⟨n, rfl⟩ := Int.eq_ofNat_of_zero_le natural
    obtain ⟨one_le, few, ten⟩ := power (n := n) (by omega)
    have product := near_times solid (by linarith : (0 : ℚ) < 10 ^ n)
      (by calc (1 : ℚ) / 2 ^ 248 ≤ 1 * 1 := by norm_num
            _ ≤ significand * 10 ^ n := by gcongr)
      (by calc (significand : ℚ) * 10 ^ n ≤ 2 ^ 64 * 2 ^ 180 := by gcongr
            _ ≤ 2 ^ 248 := by norm_num)
      start ten
    obtain ⟨mantissa, place, rounded, error⟩ := product
    refine ⟨.finite mantissa place, ?_, mantissa, place, rfl, ?_⟩
    · rw [Int.toNat_natCast, rounded]
    · rwa [zpow_natCast]
  · next negative =>
    rw [if_pos (by omega)]
    obtain ⟨n, n_eq⟩ := Int.eq_ofNat_of_zero_le (a := -exponent) (by omega)
    obtain rfl : exponent = -n := by omega
    obtain ⟨one_le, few, ten⟩ := power (n := n) (by omega)
    have quotient := near_dividedBy solid (by linarith : (0 : ℚ) < 10 ^ n)
      (by calc (1 : ℚ) / 2 ^ 248 ≤ 1 / 2 ^ 180 := by norm_num
            _ ≤ (significand : ℚ) / 10 ^ n := by gcongr)
      (by calc (significand : ℚ) / 10 ^ n ≤ 2 ^ 64 / 1 := by gcongr
            _ ≤ 2 ^ 248 := by norm_num)
      start ten
    refine ⟨_, rfl, ?_⟩
    rwa [n_eq, Int.toNat_natCast, zpow_neg, zpow_natCast, ← div_eq_mul_inv]

/-- A numeral denotes the single-precision number with which it agrees in eight digits. -/
theorem toSingle?_of_near {numeral : Numeral} {mantissa : Nat} {exponent : Int}
    (broken : numeral.isWhole = false) (fits : numeral.allDigits < significandLimit)
    (low : -54 ≤ numeral.lastPlace) (high : numeral.lastPlace ≤ 54)
    (holds : Format.single.Holds mantissa exponent) (nonzero : mantissa ≠ 0)
    (near : |(numeral.allDigits : ℚ) * 10 ^ numeral.lastPlace - mantissa * 2 ^ exponent| ≤
      mantissa * 2 ^ exponent / 10 ^ 8) :
    numeral.toSingle? = some (.finite numeral.negative mantissa exponent) := by
  have unit : (0 : ℚ) < 2 ^ exponent := by positivity
  have one_le : (1 : ℚ) ≤ mantissa := by exact_mod_cast Nat.one_le_iff_ne_zero.mpr nonzero
  have bounded : (mantissa : ℚ) < 2 ^ 24 := by exact_mod_cast holds.bounded
  obtain ⟨below, above⟩ := abs_le.mp near
  have positive : 0 < numeral.allDigits := by
    refine Nat.pos_of_ne_zero fun none => ?_
    rw [none] at below
    nlinarith
  obtain ⟨magnitude, carried, m, e, rfl, error⟩ := near_doubleOf positive fits low high
  have close : |(m : ℚ) * 2 ^ e - mantissa * 2 ^ exponent| < 2 ^ exponent / 4 := by
    have positivePart : 0 ≤ 5 * slip := by norm_num [slip]
    have part : 5 * slip ≤ 1 / 10 ^ 9 := by norm_num [slip]
    have most : (numeral.allDigits : ℚ) * 10 ^ numeral.lastPlace ≤
        2 * (mantissa * 2 ^ exponent) := by nlinarith
    calc |(m : ℚ) * 2 ^ e - mantissa * 2 ^ exponent|
        ≤ _ + |(numeral.allDigits : ℚ) * 10 ^ numeral.lastPlace - mantissa * 2 ^ exponent| :=
          abs_sub_le _ ((numeral.allDigits : ℚ) * 10 ^ numeral.lastPlace) _
      _ ≤ numeral.allDigits * 10 ^ numeral.lastPlace * (5 * slip) +
          mantissa * 2 ^ exponent / 10 ^ 8 := by gcongr
      _ ≤ 2 * (mantissa * 2 ^ exponent) * (1 / 10 ^ 9) + mantissa * 2 ^ exponent / 10 ^ 8 := by
        gcongr
      _ = mantissa * (2 ^ exponent * (12 / 10 ^ 9)) := by ring
      _ < 2 ^ 24 * (2 ^ exponent * (12 / 10 ^ 9)) := by gcongr
      _ ≤ 2 ^ exponent / 4 := by nlinarith
  have rounded : Format.single.roundScaled m 1 e = .finite mantissa exponent := by
    apply Format.round_of_near (by positivity) (by decide) holds nonzero
    rwa [scaled_ratio, Nat.cast_one, div_one]
  rw [toSingle?, isExact, broken, Bool.false_and, if_neg Bool.false_ne_true, toDouble?,
    scaled_of_fits fits]
  simp only [carried, Option.map_some, narrow, rounded, Single.ofMagnitude]

end Numeral
end CellScreen.Number
