import CellScreen.Number.Numeral

/-! The fewest decimal digits that read back as a given number, and the two ways to lay
them out: for data, with a power of ten at the extremes, and for messages, without one. -/
namespace CellScreen.Number

structure Decimal where
  significand : Nat
  exponent : Int
deriving DecidableEq, Repr

inductive Tie where
  | even
  | up
deriving DecidableEq, Repr

def floorLog10 (num den : Nat) : Int :=
  let guess : Int := ((digits num).length : Int) - ((digits den).length : Int)
  if den * 10 ^ guess.toNat ≤ num * 10 ^ (-guess).toNat then guess else guess - 1

def neighbours (tie : Tie) (num den count : Nat) : List Decimal :=
  let place := floorLog10 num den - ((count : Int) - 1)
  let scaledNum := num * 10 ^ (-place).toNat
  let scaledDen := den * 10 ^ place.toNat
  let below := scaledNum / scaledDen
  let excess := 2 * (scaledNum % scaledDen)
  let lowFirst :=
    if excess = scaledDen then tie == .even && below % 2 == 0
    else excess < scaledDen
  if lowFirst then [⟨below, place⟩, ⟨below + 1, place⟩] else [⟨below + 1, place⟩, ⟨below, place⟩]

/-- Nine digits tell all single-precision numbers apart. -/
def digitLimit : Nat := 9

def candidates (tie : Tie) (num den : Nat) : List Decimal :=
  (List.range digitLimit).flatMap fun n => neighbours tie num den (n + 1)

namespace Decimal

def stripped : Nat → Decimal → Decimal
  | 0, decimal => decimal
  | fuel + 1, decimal =>
    if decimal.significand % 10 = 0 ∧ decimal.significand ≠ 0 then
      stripped fuel ⟨decimal.significand / 10, decimal.exponent + 1⟩
    else decimal

def leading (decimal : Decimal) : Int :=
  decimal.exponent + (((digits decimal.significand).length : Int) - 1)

def places (decimal : Decimal) : Nat × List Nat :=
  if 0 ≤ decimal.exponent then (decimal.significand * 10 ^ decimal.exponent.toNat, [])
  else
    let count := (-decimal.exponent).toNat
    let unit := 10 ^ count
    let tail := digits (decimal.significand % unit)
    (decimal.significand / unit, List.replicate (count - tail.length) 0 ++ tail)

/-- Positional between `10 ^ -6` and `10 ^ 13`, with at least one digit after the point;
otherwise one digit before the point and a power of ten. -/
def toNumeral (negative : Bool) (decimal : Decimal) : Numeral :=
  let lead := decimal.leading
  if -6 ≤ lead ∧ lead ≤ 12 then
    let (whole, fraction) := decimal.places
    ⟨negative, whole, if fraction.isEmpty then [0] else fraction, none⟩
  else
    match digits decimal.significand with
    | [] => ⟨negative, 0, [], some lead⟩
    | first :: more => ⟨negative, first, more, some lead⟩

end Decimal

namespace Single

def zeroDecimal : Decimal := ⟨0, 0⟩

def shortest (tie : Tie) (mantissa : Nat) (exponent : Int) : Decimal :=
  if mantissa = 0 then zeroDecimal
  else
    let num := mantissa * 2 ^ exponent.toNat
    let den := 2 ^ (-exponent).toNat
    let all := candidates tie num den
    let back := fun (decimal : Decimal) =>
      ((decimal.stripped digitLimit).toNumeral false).toSingle? == some (.finite false mantissa exponent)
    ((all.find? back).getD zeroDecimal).stripped digitLimit

def toNumeral? : Single → Option Numeral
  | .finite negative mantissa exponent =>
    some ((shortest .even mantissa exponent).toNumeral negative)
  | _ => none

def message : Single → String
  | .nan => "NaN"
  | .infinite negative => if negative then "-inf" else "inf"
  | .finite negative mantissa exponent =>
    let (whole, fraction) := (shortest .up mantissa exponent).places
    let tail := if fraction.isEmpty then [] else '.' :: digitText fraction
    String.ofList ((if negative then ['-'] else []) ++ decimal whole ++ tail)

end Single
end CellScreen.Number
