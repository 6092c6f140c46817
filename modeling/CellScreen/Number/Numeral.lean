import CellScreen.Number.Digits
import CellScreen.Number.Single

/-! Numerals as they are written: a sign, a whole part without leading zeros, the digits
after the point and a power of ten; and the numbers they denote. -/
namespace CellScreen.Number

structure Numeral where
  negative : Bool
  whole : Nat
  fraction : List Nat
  exponent : Option Int
deriving DecidableEq, Repr

namespace Numeral

def ofNat (n : Nat) : Numeral := ⟨false, n, [], none⟩

def ofInt (i : Int) : Numeral := ⟨i < 0, i.natAbs, [], none⟩

def isWhole (numeral : Numeral) : Bool :=
  numeral.fraction.isEmpty && numeral.exponent.isNone

def toNat? (limit : Nat) (numeral : Numeral) : Option Nat :=
  if numeral.isWhole && !numeral.negative && numeral.whole < limit then some numeral.whole
  else none

def toInt? (bits : Nat) (numeral : Numeral) : Option Int :=
  if numeral.isWhole then
    if numeral.negative then
      if 0 < numeral.whole && numeral.whole ≤ 2 ^ bits then some (-(numeral.whole : Int)) else none
    else if numeral.whole < 2 ^ bits then some numeral.whole
    else none
  else none

theorem toNat?_ofNat {limit n : Nat} (small : n < limit) : (ofNat n).toNat? limit = some n := by
  simp [toNat?, ofNat, isWhole, small]

theorem toInt?_ofInt {bits : Nat} {i : Int} (low : -2 ^ bits ≤ i) (high : i < 2 ^ bits) :
    (ofInt i).toInt? bits = some i := by
  have limit : ((2 ^ bits : Nat) : Int) = 2 ^ bits := by norm_cast
  have isWhole : (ofInt i).isWhole := rfl
  have whole : (ofInt i).whole = i.natAbs := rfl
  by_cases negative : i < 0
  · have sign : (ofInt i).negative := decide_eq_true negative
    have bounds : 0 < i.natAbs ∧ i.natAbs ≤ 2 ^ bits := by omega
    have value : -(i.natAbs : Int) = i := by omega
    rw [toInt?, if_pos isWhole, if_pos sign, whole, value, if_pos]
    simpa only [Bool.and_eq_true, decide_eq_true_eq] using bounds
  · have sign : ¬ (ofInt i).negative := by simpa only [ofInt, decide_eq_true_eq] using negative
    have bound : i.natAbs < 2 ^ bits := by omega
    have value : (i.natAbs : Int) = i := by omega
    rw [toInt?, if_pos isWhole, if_neg sign, whole, if_pos bound, value]

def significandLimit : Nat := 2 ^ 64

def appendDigits : Nat → List Nat → Nat × Nat
  | significand, [] => (significand, 0)
  | significand, d :: ds =>
    if significand * 10 + d < significandLimit then
      let (result, count) := appendDigits (significand * 10 + d) ds
      (result, count + 1)
    else (significand, 0)

/-- A significand of at most 64 bits and the power of ten that scales it. Digits that no
longer fit are dropped. -/
def scaled (numeral : Numeral) : Nat × Int :=
  let ds := digits numeral.whole
  let (whole, kept) := appendDigits 0 ds
  let (significand, places) := appendDigits whole numeral.fraction
  (significand, (ds.length : Int) - kept - places + numeral.exponent.getD 0)

def tenPower (n : Nat) : Magnitude := Format.double.round (10 ^ n) 1

def times : Magnitude → Magnitude → Magnitude
  | .finite m e, .finite n f => Format.double.roundScaled (m * n) 1 (e + f)
  | _, _ => .infinite

def dividedBy : Magnitude → Magnitude → Magnitude
  | .finite m e, .finite n f => Format.double.roundScaled m n (e - f)
  | other, _ => other

/-- The double-precision magnitude of `significand * 10 ^ exponent`, in one step for the powers
up to `10 ^ 308` and in two below; nothing above the largest number. -/
def doubleOf (significand : Nat) (exponent : Int) : Option Magnitude :=
  let start := Format.double.round significand 1
  if significand = 0 then some start
  else if 308 < exponent then none
  else if 0 ≤ exponent then
    match times start (tenPower exponent.toNat) with
    | .infinite => none
    | product => some product
  else if -308 ≤ exponent then some (dividedBy start (tenPower (-exponent).toNat))
  else if -616 ≤ exponent then
    some (dividedBy (dividedBy start (tenPower 308)) (tenPower (-exponent - 308).toNat))
  else some (.finite 0 Format.double.lowest)

def toDouble? (numeral : Numeral) : Option Magnitude :=
  let (significand, exponent) := numeral.scaled
  doubleOf significand exponent

def isExact (numeral : Numeral) : Bool :=
  numeral.isWhole &&
    if numeral.negative then 0 < numeral.whole && numeral.whole ≤ 2 ^ 63
    else numeral.whole < significandLimit

def narrow (negative : Bool) : Magnitude → Single
  | .infinite => .infinite negative
  | .finite mantissa exponent =>
    Single.ofMagnitude negative (Format.single.roundScaled mantissa 1 exponent)

/-- The single-precision number that a numeral denotes: an exact whole number rounds once,
every other by way of double precision. None if it is too large for double precision. -/
def toSingle? (numeral : Numeral) : Option Single :=
  if numeral.isExact then some (Single.ofRatio numeral.negative numeral.whole 1)
  else numeral.toDouble?.map (narrow numeral.negative)

def toSingleByDouble? (numeral : Numeral) : Option Single :=
  if numeral.isExact then some (narrow numeral.negative (Format.double.round numeral.whole 1))
  else numeral.toDouble?.map (narrow numeral.negative)

end Numeral
end CellScreen.Number
