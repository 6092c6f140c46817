import CellScreen.Number.Binary

/-! Single-precision numbers: their operations round once from the exact result. -/
namespace CellScreen.Number

inductive Single where
  | nan
  | infinite (negative : Bool)
  | finite (negative : Bool) (mantissa : Nat) (exponent : Int)
deriving DecidableEq, Repr

namespace Single

def ofMagnitude (negative : Bool) : Magnitude → Single
  | .infinite => .infinite negative
  | .finite mantissa exponent => .finite negative mantissa exponent

def ofRatio (negative : Bool) (num den : Nat) : Single :=
  ofMagnitude negative (Format.single.round num den)

def ofNat (n : Nat) : Single := ofRatio false n 1

def ofInt (i : Int) : Single := ofRatio (i < 0) i.natAbs 1

def mul : Single → Single → Single
  | .nan, _ => .nan
  | _, .nan => .nan
  | .infinite s, .infinite t => .infinite (s != t)
  | .infinite s, .finite t m _ => if m = 0 then .nan else .infinite (s != t)
  | .finite s m _, .infinite t => if m = 0 then .nan else .infinite (s != t)
  | .finite s m e, .finite t n f =>
    ofMagnitude (s != t) (Format.single.roundScaled (m * n) 1 (e + f))

def div : Single → Single → Single
  | .nan, _ => .nan
  | _, .nan => .nan
  | .infinite _, .infinite _ => .nan
  | .infinite s, .finite t _ _ => .infinite (s != t)
  | .finite s _ _, .infinite t => .finite (s != t) 0 Format.single.lowest
  | .finite s m e, .finite t n f =>
    if n = 0 then if m = 0 then .nan else .infinite (s != t)
    else ofMagnitude (s != t) (Format.single.roundScaled m n (e - f))

instance : Mul Single := ⟨mul⟩
instance : Div Single := ⟨div⟩

def isFinite : Single → Bool
  | .finite .. => true
  | _ => false

def isPositive : Single → Bool
  | .nan => false
  | .infinite negative => !negative
  | .finite negative mantissa _ => !negative && mantissa != 0

def ceil : Single → Single
  | .finite negative mantissa exponent =>
    let num := mantissa * 2 ^ exponent.toNat
    let den := 2 ^ (-exponent).toNat
    ofRatio negative (if negative then num / den else (num + den - 1) / den) 1
  | other => other

def wordLimit : Nat := 2 ^ 32 - 1

def toWord : Single → Nat
  | .nan => 0
  | .infinite negative => if negative then 0 else wordLimit
  | .finite negative mantissa exponent =>
    if negative then 0
    else min wordLimit (mantissa * 2 ^ exponent.toNat / 2 ^ (-exponent).toNat)

def bits : Single → Nat
  | .nan => 0x7FC00000
  | .infinite negative => (if negative then 2 ^ 31 else 0) + 0x7F800000
  | .finite negative mantissa exponent =>
    (if negative then 2 ^ 31 else 0) +
      if mantissa < 2 ^ 23 then mantissa
      else (exponent - Format.single.lowest + 1).toNat * 2 ^ 23 + (mantissa - 2 ^ 23)

end Single
end CellScreen.Number
