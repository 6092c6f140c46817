import CellScreen.Font.Bytes

/-! Character maps by groups of codes. The codes of a group have glyphs that follow on each
other, or all have one glyph. -/
namespace CellScreen

structure CodeGroup where
  first : Nat
  last : Nat
  glyph : Nat
deriving DecidableEq, Repr

namespace CodeGroup

def contains (group : CodeGroup) (code : Nat) : Bool :=
  decide (group.first ≤ code) && decide (code ≤ group.last)

def readAll? (data : Bytes) : Option (Array CodeGroup) := do
  let count ← data.number? 12 4
  if data.size < 16 + 12 * count then none
  (Array.range count).mapM fun i => do
    return ⟨← data.number? (16 + 12 * i) 4, ← data.number? (20 + 12 * i) 4,
      ← data.number? (24 + 12 * i) 4⟩

def locate (groups : Array CodeGroup) (code base size : Nat) : Nat :=
  if 1 < size then
    let half := size / 2
    let later := groups[base + half]?.any fun group => group.first ≤ code
    locate groups code (if later then base + half else base) (size - half)
  else base
termination_by size

def consecutive? (groups : Array CodeGroup) (code : Nat) : Option Nat := do
  let group ← groups[locate groups code 0 groups.size]?
  let glyph := group.glyph + code - group.first
  if group.contains code ∧ group.glyph + code < 2 ^ 32 ∧ glyph < 2 ^ 16 then return glyph
  else none

def constant? (groups : Array CodeGroup) (code : Nat) : Option Nat := do
  let group ← groups.find? (·.contains code)
  if group.glyph < 2 ^ 16 then return group.glyph else none

/-- Codes with all glyphs of the consecutive kind: a group of more codes has no glyph for the
others. -/
def consecutiveCodes (groups : Array CodeGroup) : List Nat :=
  groups.toList.flatMap fun group =>
    List.range' group.first (min (group.last + 1 - group.first) (2 ^ 16))

/-- Codes with all glyphs of the constant kind: the least code of a group that no group before
it has is its first one or follows on the last one of another. -/
def constantCodes (groups : Array CodeGroup) : List Nat :=
  groups.toList.flatMap fun group => [group.first, group.last + 1]

end CodeGroup
end CellScreen
