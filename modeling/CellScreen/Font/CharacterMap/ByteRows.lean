import CellScreen.Font.Bytes

/-! Character maps for codes of one or two bytes: the first byte selects a row, the last one a
glyph in it. -/
namespace CellScreen

structure ByteRow where
  first : Nat
  count : Nat
  delta : Int
  place : Nat
deriving DecidableEq, Repr

structure ByteRowMap where
  keys : Array Nat
  rows : Array ByteRow
  data : Bytes
deriving DecidableEq, Repr

def ByteRow.glyph? (row : ByteRow) (data : Bytes) (byte : Nat) : Option Nat := do
  let past := row.first + row.count
  if 2 ^ 16 ≤ past ∨ byte < row.first ∨ past ≤ byte then none
  let listed ← data.number? (row.place + 2 * (byte - row.first)) 2
  if listed = 0 ∨ listed + row.delta < 0 then none
  return (listed + row.delta).toNat % 2 ^ 16

namespace ByteRowMap

def read? (data : Bytes) : Option ByteRowMap := do
  let keys := (← data.numbers? 6 256).map (· / 8)
  let count := keys.foldl max 0 + 1
  let rows ← (Array.range count).mapM fun i => do
    let start := 518 + 8 * i
    return { first := ← data.number? start 2, count := ← data.number? (start + 2) 2
             delta := ← data.signed? (start + 4)
             place := start + 6 + (← data.number? (start + 6) 2) : ByteRow }
  return ⟨keys, rows, data⟩

/-- The first code for a first byte, and how many follow on each other; none when the codes
leave 16 bits. -/
def block? (map : ByteRowMap) (byte : Nat) : Option (Nat × Nat) := do
  let key ← map.keys[byte]?
  let row ← map.rows[key]?
  let past := row.first + row.count
  if key = 0 then
    if 2 ^ 16 ≤ past then none
    return (byte, if row.first ≤ byte ∧ byte < past then 1 else 0)
  else
    let start := row.first + 256 * byte
    if 2 ^ 16 ≤ start then none
    return (start, row.count)

def codes (map : ByteRowMap) : List Nat :=
  ((readWhile map.block? (List.range 256)).flatMap fun (start, count) =>
    List.range' start count).takeWhile (· < 2 ^ 16)

def lists (map : ByteRowMap) (code : Nat) : Bool := map.codes.contains code

def lookup? (map : ByteRowMap) (code : Nat) : Option Nat := do
  let key ← if code < 0xFF then some 0 else map.keys[code / 256]?
  (← map.rows[key]?).glyph? map.data (code % 256)

end ByteRowMap
end CellScreen
