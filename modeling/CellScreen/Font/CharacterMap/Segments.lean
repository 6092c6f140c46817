import CellScreen.Font.Bytes

/-! Character maps by segments: the codes of a segment have their glyphs at one distance, or in a
list that the data hold. -/
namespace CellScreen

structure CodeSegment where
  first : Nat
  last : Nat
  delta : Nat
  place : Nat
  offset : Nat
deriving DecidableEq, Repr

structure SegmentMap where
  segments : Array CodeSegment
  data : Bytes
deriving DecidableEq, Repr

namespace CodeSegment

def isClosing (segment : CodeSegment) : Bool := segment.first == 0xFFFF && segment.last == 0xFFFF

def contains (segment : CodeSegment) (code : Nat) : Bool :=
  decide (segment.first ≤ code) && decide (code ≤ segment.last)

def find? (segments : Array CodeSegment) (code low high : Nat) : Option CodeSegment :=
  if low < high then
    let middle := (low + high) / 2
    match segments[middle]? with
    | none => none
    | some segment =>
      if segment.last < code then find? segments code (middle + 1) high
      else if code < segment.first then find? segments code low middle
      else some segment
  else none
termination_by high - low

/-- The glyph of a code of the segment. Sums keep 16 bits; a glyph out of the list keeps 15. -/
def glyph? (segment : CodeSegment) (data : Bytes) (code : Nat) : Option Nat :=
  let distance := 2 * (code - segment.first)
  if segment.offset = 0 then some ((code + segment.delta) % 2 ^ 16)
  else if segment.offset = 0xFFFF ∨ 2 ^ 16 ≤ distance then none
  else
    match data.number? ((segment.place + distance + segment.offset) % 2 ^ 16) 2 with
    | none => none
    | some listed =>
      let glyph := (listed + segment.delta) % 2 ^ 16
      if listed = 0 ∨ 2 ^ 15 ≤ glyph then none else some glyph

end CodeSegment

namespace SegmentMap

def read? (data : Bytes) : Option SegmentMap := do
  let count := (← data.number? 6 2) / 2
  if count = 0 then none
  let lasts ← data.numbers? 14 count
  let firsts ← data.numbers? (16 + 2 * count) count
  let deltas ← data.numbers? (16 + 4 * count) count
  let offsets ← data.numbers? (16 + 6 * count) count
  let segments ← (Array.range count).mapM fun i => do
    return { first := ← firsts[i]?, last := ← lasts[i]?, delta := ← deltas[i]?
             place := 16 + 6 * count + 2 * i, offset := ← offsets[i]? : CodeSegment }
  return ⟨segments, data⟩

def opened (map : SegmentMap) : List CodeSegment :=
  map.segments.toList.takeWhile (!·.isClosing)

def lists (map : SegmentMap) (code : Nat) : Bool := map.opened.any (·.contains code)

def codes (map : SegmentMap) : List Nat :=
  map.opened.flatMap fun segment => List.range' segment.first (segment.last + 1 - segment.first)

def lookup? (map : SegmentMap) (code : Nat) : Option Nat := do
  (← CodeSegment.find? map.segments code 0 map.segments.size).glyph? map.data code

end SegmentMap
end CellScreen
