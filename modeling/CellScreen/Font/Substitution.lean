import CellScreen.Font.Bytes

/-! Substitution tables: lists of lookups, each with subtables that replace glyphs by others. Of
them the glyphs that may come in as replacements are read. -/
namespace CellScreen.Substitution

def readCoverage (data : Bytes) : Option (List Nat) := do
  match ← data.number? 0 2 with
  | 1 => return (← data.counted? 2).toList
  | 2 =>
    let count ← data.number? 2 2
    let fields ← data.numbers? 4 (3 * count)
    return (List.range count).flatMap fun i =>
      let first := fields.getD (3 * i) 0
      List.range' first (fields.getD (3 * i + 1) 0 + 1 - first)
  | _ => none

def coverage? (data : Bytes) : Option (List Nat) := do
  readCoverage (← data.from? (← data.number? 2 2))

def parts {α : Type} (read : Bytes → Option α) (data : Bytes) (offsets : Array Nat) : List α :=
  readWhile (fun offset => if offset = 0 then none else (data.from? offset).bind read)
    offsets.toList

def readSingle (data : Bytes) : Option (List Nat) := do
  let format ← data.number? 0 2
  let covered ← coverage? data
  match format with
  | 1 =>
    let delta ← data.number? 4 2
    return covered.map fun glyph => (glyph + delta) % 2 ^ 16
  | 2 => return (← data.counted? 4).toList
  | _ => none

def readParts (part : Bytes → Option (List Nat)) (data : Bytes) : Option (List Nat) := do
  if (← data.number? 0 2) ≠ 1 then none
  let _ ← coverage? data
  return (parts part data (← data.counted? 4)).flatten

def readSequence (data : Bytes) : Option (List Nat) := do return (← data.counted? 0).toList

def readLigature (data : Bytes) : Option Nat := do
  let count ← data.number? 2 2
  if count = 0 then none
  let _ ← data.numbers? 4 (count - 1)
  data.number? 0 2

def readLigatures (data : Bytes) : Option (List Nat) := do
  return parts readLigature data (← data.counted? 0)

def readReversed (data : Bytes) : Option (List Nat) := do
  if (← data.number? 0 2) ≠ 1 then none
  let _ ← coverage? data
  let before ← data.counted? 4
  let next := 6 + 2 * before.size
  let after ← data.counted? next
  return (← data.counted? (next + 2 + 2 * after.size)).toList

def readSubtable (kind : Nat) (data : Bytes) : Nat → Option (List Nat)
  | 0 => none
  | depth + 1 =>
    match kind with
    | 1 => readSingle data
    | 2 => readParts readSequence data
    | 3 => readParts readSequence data
    | 4 => readParts readLigatures data
    | 5 => some []
    | 6 => some []
    | 7 => do
      if (← data.number? 0 2) ≠ 1 then none
      readSubtable (← data.number? 2 2) (← data.from? (← data.number? 4 4)) depth
    | 8 => readReversed data
    | _ => none

def readLookup (data : Bytes) : Option (List Nat) := do
  let kind ← data.number? 0 2
  let flags ← data.number? 2 2
  let offsets ← data.counted? 4
  let filtered := flags.testBit 4
  if filtered && (data.number? (6 + 2 * offsets.size) 2).isNone then none
  return (readWhile (fun offset => do
    let subtable ← data.from? offset
    readSubtable kind subtable (subtable.size + 1)) offsets.toList).flatten

def recordCount? (table : Bytes) (offset : Nat) : Option Nat := do
  let list ← table.from? offset
  let count ← list.number? 0 2
  let _ ← list.slice? 2 (6 * count)
  return count

def read? (table : Bytes) : Option (List Nat) := do
  let version ← table.number? 0 4
  if version ≠ 0x00010000 ∧ version ≠ 0x00010001 then none
  let _ ← recordCount? table (← table.number? 4 2)
  let _ ← recordCount? table (← table.number? 6 2)
  let lookups ← table.from? (← table.number? 8 2)
  if version = 0x00010001 ∧ (table.number? 10 4).isNone then none
  return (parts readLookup lookups (← lookups.counted? 0)).flatten

end CellScreen.Substitution
