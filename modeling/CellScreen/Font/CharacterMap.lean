import CellScreen.Font.CharacterMap.ByteRows
import CellScreen.Font.CharacterMap.Groups
import CellScreen.Font.CharacterMap.Segments

/-! Character maps: the glyphs of character codes, in the formats that a font file has for
them. -/
namespace CellScreen

inductive CharacterMap where
  /-- The glyphs of codes that follow on each other. -/
  | table (first : Nat) (glyphs : Array Nat)
  | byteRows (map : ByteRowMap)
  | segments (map : SegmentMap)
  | consecutive (groups : Array CodeGroup)
  | constant (groups : Array CodeGroup)
deriving DecidableEq, Repr

namespace CharacterMap

def read? (data : Bytes) : Option CharacterMap := do
  match ← data.number? 0 2 with
  | 0 => return .table 0 ((← data.slice? 6 256).map UInt8.toNat)
  | 2 => return .byteRows (← ByteRowMap.read? data)
  | 4 => return .segments (← SegmentMap.read? data)
  | 6 =>
    let first ← data.number? 6 2
    return .table first ((← data.counted? 8).take (2 ^ 16 - first))
  | 8 => return .table 0 #[]
  | 10 =>
    let first ← data.number? 12 4
    return .table first ((← data.numbers? 20 (← data.number? 16 4)).take (2 ^ 32 - first))
  | 12 => return .consecutive (← CodeGroup.readAll? data)
  | 13 => return .constant (← CodeGroup.readAll? data)
  | 14 => do
    let _ ← data.slice? 10 (11 * (← data.number? 6 4))
    return .table 0 #[]
  | _ => none

def readAll (table : Bytes) : List CharacterMap :=
  let count := (table.number? 2 2).getD 0
  if table.size < 4 + 8 * count then []
  else readWhile (fun i => do
    let platform ← table.number? (4 + 8 * i) 2
    if 4 < platform then none
    read? (← table.from? (← table.number? (8 + 8 * i) 4))) (List.range count)

def lists (map : CharacterMap) (code : Nat) : Bool :=
  match map with
  | .table first glyphs => decide (first ≤ code) && decide (code < first + glyphs.size)
  | .byteRows map => map.lists code
  | .segments map => map.lists code
  | .consecutive groups => groups.any (·.contains code)
  | .constant groups => groups.any (·.contains code)

def lookup? (map : CharacterMap) (code : Nat) : Option Nat :=
  match map with
  | .table first glyphs => glyphs[code - first]?
  | .byteRows map => map.lookup? code
  | .segments map => map.lookup? code
  | .consecutive groups => CodeGroup.consecutive? groups code
  | .constant groups => CodeGroup.constant? groups code

/-- Listed codes that have between them all glyphs of the map. -/
def codes (map : CharacterMap) : List Nat :=
  match map with
  | .table first glyphs => List.range' first glyphs.size
  | .byteRows map => map.codes
  | .segments map => map.codes
  | .consecutive groups => CodeGroup.consecutiveCodes groups
  | .constant groups => CodeGroup.constantCodes groups

def glyph? (map : CharacterMap) (code : Nat) : Option Nat :=
  if map.lists code then (map.lookup? code).filter (· != 0) else none

def glyphs (map : CharacterMap) : List Nat := map.codes.filterMap map.lookup?

end CharacterMap
end CellScreen
