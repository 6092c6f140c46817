import CellScreen.Number.Instances

/-! Binary formats with a fixed precision, and exact rounding into them: to the nearest
number of the format, a half to the even one, and beyond the largest to infinity. -/
namespace CellScreen.Number

/-- Numbers of `precision` bits whose unit is a power of two between `lowest` and `highest`. -/
structure Format where
  precision : Nat
  lowest : Int
  highest : Int

namespace Format

def single : Format := ⟨24, -149, 104⟩

def double : Format := ⟨53, -1074, 971⟩

end Format

/-- The quotient rounded to the nearest whole number, a half to the even one. -/
def roundDiv (num den : Nat) : Nat :=
  if 2 * (num % den) < den then num / den
  else if den < 2 * (num % den) then num / den + 1
  else num / den + (num / den) % 2

theorem roundDiv_near (num den : Nat) (positive : 0 < den) :
    2 * (roundDiv num den * den) ≤ 2 * num + den ∧ 2 * num ≤ 2 * (roundDiv num den * den) + den := by
  have whole := Nat.div_add_mod num den
  have remainder := Nat.mod_lt num positive
  have commuted : num / den * den = den * (num / den) := Nat.mul_comm _ _
  simp only [roundDiv]
  split
  · rw [commuted]; omega
  · split
    · rw [Nat.add_mul, Nat.one_mul, commuted]; omega
    · rw [Nat.add_mul, commuted]
      rcases Nat.mod_two_eq_zero_or_one (num / den) with even | odd
      · rw [even]; omega
      · rw [odd]; omega

inductive Magnitude where
  | finite (mantissa : Nat) (exponent : Int)
  | infinite
deriving DecidableEq, Repr

def floorLog2 (num den : Nat) : Int :=
  let guess : Int := (num.log2 : Int) - (den.log2 : Int)
  if den * 2 ^ guess.toNat ≤ num * 2 ^ (-guess).toNat then guess else guess - 1

namespace Format

def round (format : Format) (num den : Nat) : Magnitude :=
  if num = 0 then .finite 0 format.lowest
  else
    let exponent := max format.lowest (floorLog2 num den - (format.precision - 1))
    let mantissa := roundDiv (num * 2 ^ (-exponent).toNat) (den * 2 ^ exponent.toNat)
    let (mantissa, exponent) :=
      if mantissa = 2 ^ format.precision then (2 ^ (format.precision - 1), exponent + 1)
      else (mantissa, exponent)
    if format.highest < exponent then .infinite else .finite mantissa exponent

def roundScaled (format : Format) (num den : Nat) (exponent : Int) : Magnitude :=
  format.round (num * 2 ^ exponent.toNat) (den * 2 ^ (-exponent).toNat)

end Format
end CellScreen.Number
