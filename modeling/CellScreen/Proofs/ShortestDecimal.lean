import Mathlib.Algebra.Order.Floor.Semifield
import Mathlib.Data.Rat.Floor
import CellScreen.Number.Shortest
import CellScreen.Proofs.DecimalReading

/-! The numeral written for a single-precision number is read as that number. Nine digits are always
enough: what they cut off is less than a part in a hundred million. -/
namespace CellScreen.Number

private theorem exists_length_digits {n : Nat} (positive : 0 < n) :
    ∃ power, (digits n).length = power + 1 ∧ 10 ^ power ≤ n ∧ n < 10 ^ (power + 1) := by
  induction n using digits.induct with
  | case1 n small =>
    rw [digits, if_pos small]
    exact ⟨0, rfl, positive, small⟩
  | case2 n large ih =>
    obtain ⟨power, length, least, most⟩ := ih (by omega)
    rw [digits, if_neg large, List.length_append, length]
    refine ⟨power + 1, rfl, ?_, ?_⟩
    · rw [pow_succ]
      omega
    · rw [pow_succ]
      omega

theorem floorLog10_spec {num den : Nat} (positive : 0 < num) (solid : 0 < den) :
    (10 : ℚ) ^ floorLog10 num den ≤ num / den ∧
      (num : ℚ) / den < 10 ^ (floorLog10 num den + 1) := by
  obtain ⟨high, numLength, numAbove, numBelow⟩ := exists_length_digits positive
  obtain ⟨low, denLength, denAbove, denBelow⟩ := exists_length_digits solid
  have guessed : ((digits num).length : Int) - (digits den).length = high - low := by omega
  have spec := powers_around (by decide : 1 < 10) solid numAbove numBelow denAbove denBelow
    guessed
  rw [Nat.cast_ofNat] at spec
  exact spec

namespace Decimal

def value (decimal : Decimal) : ℚ := decimal.significand * 10 ^ decimal.exponent

theorem stripped_spec (fuel : Nat) {decimal : Decimal} (positive : 0 < decimal.significand) :
    (decimal.stripped fuel).value = decimal.value ∧ 0 < (decimal.stripped fuel).significand ∧
      (decimal.stripped fuel).significand ≤ decimal.significand ∧
      decimal.exponent ≤ (decimal.stripped fuel).exponent ∧
      (decimal.stripped fuel).exponent ≤ decimal.exponent + fuel := by
  induction fuel generalizing decimal with
  | zero => simp [stripped, positive]
  | succ fuel ih =>
    rw [stripped]
    split
    · next zero =>
      have positiveTail : 0 < decimal.significand / 10 := by omega
      obtain ⟨same, solid, least, low, high⟩ :=
        @ih ⟨decimal.significand / 10, decimal.exponent + 1⟩ positiveTail
      dsimp only at least low high
      refine ⟨?_, solid, by omega, by omega, by omega⟩
      have whole : decimal.significand = decimal.significand / 10 * 10 := by omega
      have wholeCast : (decimal.significand : ℚ) = (decimal.significand / 10 : Nat) * 10 := by
        exact_mod_cast whole
      rw [same, value, value, wholeCast, zpow_add_one₀ (by norm_num)]
      ring
    · exact ⟨rfl, positive, Nat.le_refl _, Int.le_refl _, by omega⟩

variable (negative : Bool) (decimal : Decimal)

private theorem isWhole_toNumeral : (decimal.toNumeral negative).isWhole = false := by
  simp only [toNumeral]
  split
  · rw [Numeral.isWhole]
    split
    · rfl
    · next given =>
      rw [Bool.eq_false_iff.mpr given, Bool.false_and]
  · split <;> simp [Numeral.isWhole]

private theorem toNumeral_eq :
    decimal.toNumeral negative = { decimal.toNumeral false with negative := negative } := by
  simp only [toNumeral]
  split
  · rfl
  · split <;> rfl

theorem toNumeral_fraction_lt : ∀ d ∈ (decimal.toNumeral negative).fraction, d < 10 := by
  have replicated (count : Nat) : ∀ d ∈ List.replicate count 0, d < 10 := by
    intro d member
    rw [List.eq_of_mem_replicate member]
    decide
  simp only [toNumeral]
  split
  · split
    · simp
    · simp only [places]
      split
      · simp
      · intro d member
        rcases List.mem_append.mp member with filled | inside
        · exact replicated _ d filled
        · exact digits_lt_ten _ d inside
  · have small := digits_lt_ten decimal.significand
    split
    · simp
    · next first more written =>
      rw [written] at small
      exact (List.forall_mem_cons.mp small).2

variable {decimal}

private theorem ofDigits_zeros_append (count : Nat) (ds : List Nat) :
    ofDigits (List.replicate count 0 ++ ds) = ofDigits ds := by
  have zeros : ofDigits (List.replicate count 0) = 0 := by
    induction count with
    | zero => rfl
    | succ count ih => rw [List.replicate_succ', ofDigits_append_singleton, ih]
  rw [ofDigits_append, zeros, Nat.zero_mul, Nat.zero_add]

private theorem length_digits_le {n count : Nat} (some : 0 < count) (small : n < 10 ^ count) :
    (digits n).length ≤ count := by
  rcases Nat.eq_zero_or_pos n with rfl | positive
  · rw [digits, if_pos (by decide)]
    exact some
  · obtain ⟨power, length, least, -⟩ := exists_length_digits positive
    rw [length]
    exact (Nat.pow_lt_pow_iff_right (by decide)).mp (lt_of_le_of_lt least small)

private theorem places_of_neg (broken : decimal.exponent < 0) :
    decimal.places.2.length = (-decimal.exponent).toNat ∧
      ofDigits (digits decimal.places.1 ++ decimal.places.2) = decimal.significand := by
  have count_pos : 0 < (-decimal.exponent).toNat := by omega
  have tail_le := length_digits_le count_pos
    (Nat.mod_lt decimal.significand (Nat.pow_pos (n := (-decimal.exponent).toNat) (by decide)))
  have filled : decimal.places.2.length = (-decimal.exponent).toNat := by
    simp only [places, not_le.mpr broken, if_false]
    rw [List.length_append, List.length_replicate, Nat.sub_add_cancel tail_le]
  refine ⟨filled, ?_⟩
  rw [ofDigits_append, filled]
  simp only [places, not_le.mpr broken, if_false]
  rw [ofDigits_zeros_append, ofDigits_digits, ofDigits_digits, Nat.div_add_mod']

/-- The numeral of a decimal has its value, and no more digits than 64 bits hold. -/
theorem toNumeral_spec (positive : 0 < decimal.significand)
    (short : decimal.significand < 10 ^ digitLimit) :
    ((decimal.toNumeral negative).allDigits : ℚ) * 10 ^ (decimal.toNumeral negative).lastPlace =
        decimal.value ∧
      (decimal.toNumeral negative).allDigits < Numeral.significandLimit ∧
      ((decimal.toNumeral negative).lastPlace = decimal.exponent ∨
        (decimal.toNumeral negative).lastPlace = -1) := by
  have limit : 10 ^ digitLimit < Numeral.significandLimit := by decide
  obtain ⟨power, length, least, most⟩ := exists_length_digits positive
  have moved (numeral : Numeral) (same : numeral.allDigits = decimal.significand)
      (place : numeral.lastPlace = decimal.exponent) :
      (numeral.allDigits : ℚ) * 10 ^ numeral.lastPlace = decimal.value ∧
        numeral.allDigits < Numeral.significandLimit ∧
        (numeral.lastPlace = decimal.exponent ∨ numeral.lastPlace = -1) := by
    rw [same, place]
    exact ⟨rfl, lt_trans short limit, .inl rfl⟩
  simp only [toNumeral, leading, length]
  split
  · next moderate =>
    rcases Int.lt_or_le decimal.exponent 0 with broken | natural
    · obtain ⟨filled, same⟩ := places_of_neg broken
      have given : decimal.places.2.isEmpty = false := by
        rw [List.isEmpty_eq_false_iff_exists_mem]
        exact List.exists_mem_of_length_pos (by omega)
      simp only [given, Bool.false_eq_true, if_false]
      apply moved ⟨negative, decimal.places.1, decimal.places.2, none⟩ same
      simp only [Numeral.lastPlace, filled, Option.getD_none]
      omega
    · obtain ⟨n, n_eq⟩ := Int.eq_ofNat_of_zero_le natural
      rw [value, n_eq]
      simp only [places, n_eq, Int.natCast_nonneg, if_true, Int.toNat_natCast, List.isEmpty_nil,
        Numeral.allDigits, Numeral.lastPlace, ofDigits_append_singleton, ofDigits_digits,
        List.length_singleton, Option.getD_none]
      refine ⟨?_, ?_, .inr rfl⟩
      · push_cast
        rw [zpow_natCast]
        norm_num
        ring
      · have bounded : decimal.significand * 10 ^ n < 10 ^ 13 := by
          calc decimal.significand * 10 ^ n < 10 ^ (power + 1) * 10 ^ n := by gcongr
            _ = 10 ^ (power + 1 + n) := (pow_add ..).symm
            _ ≤ 10 ^ 13 := Nat.pow_le_pow_right (by decide) (by omega)
        rw [Numeral.significandLimit]
        omega
  · split
    · next none => exact absurd none (digits_ne_nil _)
    · next first more written =>
      have small : first < 10 := digits_lt_ten decimal.significand first (by simp [written])
      have same : digits first ++ more = digits decimal.significand := by
        rw [digits, if_pos small, written, List.singleton_append]
      rw [written, List.length_cons] at length
      apply moved
      · simp only [Numeral.allDigits, same, ofDigits_digits]
      · simp only [Numeral.lastPlace, Option.getD_some]
        omega

end Decimal

/-- The nine digits of a quotient are among the candidates. -/
theorem exists_candidate (tie : Tie) {num den : Nat} (positive : 0 < num) (solid : 0 < den) :
    ∃ decimal ∈ candidates tie num den,
      decimal.exponent = floorLog10 num den - 8 ∧ 0 < decimal.significand ∧
      decimal.significand < 10 ^ digitLimit ∧
      |decimal.value - num / den| ≤ num / den / 10 ^ 8 := by
  obtain ⟨below, above⟩ := floorLog10_spec positive solid
  have member : (⟨num * 10 ^ (-(floorLog10 num den - 8)).toNat /
      (den * 10 ^ (floorLog10 num den - 8).toNat), floorLog10 num den - 8⟩ : Decimal) ∈
      candidates tie num den := by
    have either (lowFirst : Bool) (low high : Decimal) :
        low ∈ if lowFirst then [low, high] else [high, low] := by
      cases lowFirst <;> simp
    exact List.mem_flatMap.mpr ⟨8, by decide, either _ _ _⟩
  have unit : (0 : ℚ) < 10 ^ (floorLog10 num den - 8) := by positivity
  have units : ((num * 10 ^ (-(floorLog10 num den - 8)).toNat : Nat) : ℚ) /
      (den * 10 ^ (floorLog10 num den - 8).toNat : Nat) =
      num / den / 10 ^ (floorLog10 num den - 8) := by
    have power := zpow_eq_div (by decide : 0 < 10) (floorLog10 num den - 8)
    push_cast at power ⊢
    rw [power]
    field_simp
  have eight : (10 : ℚ) ^ floorLog10 num den = 10 ^ 8 * 10 ^ (floorLog10 num den - 8) := by
    rw [← zpow_natCast, ← zpow_add₀ (by norm_num)]
    congr 1
    omega
  have nine : (10 : ℚ) ^ (floorLog10 num den + 1) = 10 ^ 9 * 10 ^ (floorLog10 num den - 8) := by
    rw [← zpow_natCast, ← zpow_add₀ (by norm_num)]
    congr 1
    omega
  have least : (10 : ℚ) ^ 8 ≤ num / den / 10 ^ (floorLog10 num den - 8) := by
    rwa [le_div_iff₀ unit, ← eight]
  have most : (num : ℚ) / den / 10 ^ (floorLog10 num den - 8) < 10 ^ 9 := by
    rwa [div_lt_iff₀ unit, ← nine]
  refine ⟨_, member, rfl, ?_⟩
  rw [← Nat.floor_div_eq_div (K := ℚ), units, Decimal.value]
  generalize (num : ℚ) / den = x at *
  have floored : ((⌊x / 10 ^ (floorLog10 num den - 8)⌋₊ : Nat) : ℚ) ≤
      x / 10 ^ (floorLog10 num den - 8) := Nat.floor_le (le_trans (by norm_num) least)
  have next := Nat.lt_floor_add_one (x / 10 ^ (floorLog10 num den - 8))
  refine ⟨?_, ?_, ?_⟩
  · exact Nat.floor_pos.mpr (le_trans (by norm_num) least)
  · rw [Nat.floor_lt (le_trans (by norm_num) least), digitLimit]
    exact_mod_cast most
  · rw [le_div_iff₀ unit] at floored
    rw [div_lt_iff₀ unit] at next
    rw [eight] at below
    rw [abs_le]
    constructor <;> linarith

namespace Single

open Numeral

private theorem toSingle?_negative {numeral : Numeral} (broken : numeral.isWhole = false)
    {mantissa : Nat} {exponent : Int} {sign : Bool}
    (read : numeral.toSingle? = some (.finite sign mantissa exponent)) (negative : Bool) :
    toSingle? { numeral with negative := negative } =
      some (.finite negative mantissa exponent) := by
  simp only [toSingle?, isExact, isWhole] at broken read ⊢
  simp only [broken, Bool.false_and, Bool.false_eq_true, if_false] at read ⊢
  obtain ⟨magnitude, double, narrowed⟩ := Option.map_eq_some_iff.mp read
  refine Option.map_eq_some_iff.mpr ⟨magnitude, double, ?_⟩
  cases magnitude with
  | infinite => cases narrowed
  | finite m e =>
    simp only [narrow] at narrowed ⊢
    cases rounded : Format.single.roundScaled m 1 e with
    | infinite =>
      rw [rounded] at narrowed
      cases narrowed
    | finite units power =>
      rw [rounded] at narrowed
      cases narrowed
      rfl

theorem exists_candidate_read (tie : Tie) {mantissa : Nat} {exponent : Int}
    (holds : Format.single.Holds mantissa exponent) (nonzero : mantissa ≠ 0) :
    ∃ decimal ∈ candidates tie (mantissa * 2 ^ exponent.toNat) (2 ^ (-exponent).toNat),
      ((decimal.stripped digitLimit).toNumeral false).toSingle? =
        some (.finite false mantissa exponent) := by
  have positive : 0 < mantissa * 2 ^ exponent.toNat :=
    Nat.mul_pos (Nat.pos_of_ne_zero nonzero) (Nat.two_pow_pos _)
  have solid : 0 < 2 ^ (-exponent).toNat := Nat.two_pow_pos _
  obtain ⟨decimal, member, place, some, short, near⟩ := exists_candidate tie positive solid
  obtain ⟨same, positiveTail, least, low, high⟩ := Decimal.stripped_spec digitLimit some
  obtain ⟨denotes, fits, last⟩ := Decimal.toNumeral_spec false positiveTail
    (lt_of_le_of_lt least short)
  obtain ⟨below, above⟩ := floorLog10_spec positive solid
  have ratio : ((mantissa * 2 ^ exponent.toNat : Nat) : ℚ) / (2 ^ (-exponent).toNat : Nat) =
      mantissa * 2 ^ exponent := by
    simpa using scaled_ratio mantissa 1 exponent
  rw [ratio] at below above near
  have unit : (0 : ℚ) < 2 ^ exponent := by positivity
  have lower : -45 < floorLog10 (mantissa * 2 ^ exponent.toNat) (2 ^ (-exponent).toNat) + 1 := by
    refine (zpow_lt_zpow_iff_right₀ (by norm_num : (1 : ℚ) < 10)).mp (lt_of_le_of_lt ?_ above)
    have one_le : (1 : ℚ) ≤ mantissa := by exact_mod_cast Nat.one_le_iff_ne_zero.mpr nonzero
    have lowest : (2 : ℚ) ^ (-149 : Int) ≤ 2 ^ exponent :=
      zpow_le_zpow_right₀ one_le_two holds.lowest_le
    calc (10 : ℚ) ^ (-45 : Int) ≤ 1 * 2 ^ (-149 : Int) := by norm_num
      _ ≤ mantissa * 2 ^ exponent := by gcongr
  have upper : floorLog10 (mantissa * 2 ^ exponent.toNat) (2 ^ (-exponent).toNat) < 39 := by
    refine (zpow_lt_zpow_iff_right₀ (by norm_num : (1 : ℚ) < 10)).mp (lt_of_le_of_lt below ?_)
    have bounded : (mantissa : ℚ) < 2 ^ 24 := by exact_mod_cast holds.bounded
    have highest : (2 : ℚ) ^ exponent ≤ 2 ^ (104 : Int) :=
      zpow_le_zpow_right₀ one_le_two holds.le_highest
    calc (mantissa : ℚ) * 2 ^ exponent < 2 ^ 24 * 2 ^ exponent := by gcongr
      _ ≤ 2 ^ 24 * 2 ^ (104 : Int) := by gcongr
      _ ≤ 10 ^ (39 : Int) := by norm_num
  rw [show ((digitLimit : Nat) : Int) = 9 from rfl] at high
  rw [← same, ← denotes] at near
  have read := toSingle?_of_near (Decimal.isWhole_toNumeral ..) fits (by omega) (by omega) holds
    nonzero near
  rw [Decimal.toNumeral_eq] at read
  exact ⟨decimal, member, by rwa [Decimal.toNumeral_eq]⟩

/-- The shortest decimal of a number is read as the number, with either sign. -/
theorem toSingle?_shortest (tie : Tie) {mantissa : Nat} {exponent : Int}
    (holds : Format.single.Holds mantissa exponent) (negative : Bool) :
    ((shortest tie mantissa exponent).toNumeral negative).toSingle? =
      some (.finite negative mantissa exponent) := by
  have unsigned : ((shortest tie mantissa exponent).toNumeral false).toSingle? =
      some (.finite false mantissa exponent) := by
    rcases Nat.eq_zero_or_pos mantissa with rfl | positive
    · have lowest := holds.normal.resolve_left (by decide)
      rw [lowest]
      simp [shortest, zeroDecimal, Decimal.toNumeral, Decimal.leading, Decimal.places, digits,
        toSingle?, isExact, isWhole, toDouble?, scaled, appendDigits, significandLimit, doubleOf,
        Format.round, narrow, Format.roundScaled, ofMagnitude]
    · obtain ⟨decimal, member, read⟩ := exists_candidate_read tie holds positive.ne'
      simp only [shortest, positive.ne', if_false]
      rcases found : List.find? _ _ with _ | chosen
      · rw [List.find?_eq_none] at found
        exact absurd (beq_iff_eq.mpr read) (found decimal member)
      · have back := List.find?_some found
        exact beq_iff_eq.mp back
  rw [Decimal.toNumeral_eq]
  exact toSingle?_negative (Decimal.isWhole_toNumeral ..) unsigned negative

def Proper : Single → Prop
  | .nan => False
  | .infinite _ => True
  | .finite _ mantissa exponent => Format.single.Holds mantissa exponent

theorem proper_round (negative : Bool) (num : Nat) {den : Nat} (solid : 0 < den) :
    (ofMagnitude negative (Format.single.round num den)).Proper := by
  cases rounded : Format.single.round num den with
  | infinite => trivial
  | finite mantissa exponent =>
    exact Format.holds_of_round solid (by decide) (by decide) rounded

theorem proper_of_toSingle? {numeral : Numeral} {x : Single} (read : numeral.toSingle? = some x) :
    x.Proper := by
  rw [toSingle?] at read
  split at read
  · cases read
    exact proper_round _ _ one_pos
  · obtain ⟨magnitude, -, rfl⟩ := Option.map_eq_some_iff.mp read
    cases magnitude with
    | infinite => trivial
    | finite mantissa exponent => exact proper_round _ _ (by positivity)

end Single
end CellScreen.Number
