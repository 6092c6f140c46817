import CellScreen.Number.Instances

/-! Pixel geometry. Coordinates are 32-bit numbers with sign, extents 32-bit counts; within
those bounds the arithmetic is that of the integers. -/
namespace CellScreen

def coordinate (distance : Int) : Int := Int.bmod distance (2 ^ 32)

theorem coordinate_of_small {distance : Int} (low : -2 ^ 31 ≤ distance) (high : distance < 2 ^ 31) :
    coordinate distance = distance := by
  unfold coordinate
  rw [Int.bmod_eq_of_le] <;> omega

def extent (cells unit : Nat) : Nat := cells % 2 ^ 32 * unit

theorem extent_of_small {cells unit : Nat} (small : cells < 2 ^ 32) :
    extent cells unit = cells * unit := by
  rw [extent, Nat.mod_eq_of_lt small]

structure CellMetrics where
  width : Nat
  height : Nat
  ascent : Nat
deriving DecidableEq, Repr

def gridSizeFor (pixelWidth pixelHeight margin : Nat) (metrics : CellMetrics) : Nat × Nat :=
  (max ((pixelWidth - 2 * margin) / max metrics.width 1) 1,
    max ((pixelHeight - 2 * margin) / max metrics.height 1) 1)

structure Rect where
  x : Int
  y : Int
  width : Nat
  height : Nat
deriving DecidableEq, Repr

namespace Rect

def right (rect : Rect) : Int := rect.x + coordinate rect.width

def bottom (rect : Rect) : Int := rect.y + coordinate rect.height

def isEmpty (rect : Rect) : Bool := rect.width == 0 || rect.height == 0

def intersects (first second : Rect) : Bool :=
  !first.isEmpty && !second.isEmpty &&
    decide (first.x < second.right) && decide (second.x < first.right) &&
    decide (first.y < second.bottom) && decide (second.y < first.bottom)

def contains (rect : Rect) (x y : Int) : Bool :=
  decide (rect.x ≤ x) && decide (x < rect.right) && decide (rect.y ≤ y) && decide (y < rect.bottom)

end Rect
end CellScreen
