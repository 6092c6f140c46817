import CellScreen.Font.Face
import CellScreen.Font.Substitution

/-! Font files: a directory of tagged tables, of which the ones with metrics, with character maps
and with substitutions are read. -/
namespace CellScreen

namespace FaceTables

def collectionTag : Nat := 0x74746366

def faceTags : List Nat := [0x00010000, 0x74727565, 0x4F54544F]

def directoryOffset (bytes : Bytes) : Except FaceFault Nat := do
  let some tag := bytes.number? 0 4 | throw .unknownMagic
  if faceTags.contains tag then return 4
  if tag != collectionTag then throw .unknownMagic
  let some count := bytes.number? 8 4 | throw .outOfBounds
  let some _ := bytes.slice? 12 (4 * count) | throw .outOfBounds
  if count = 0 then throw .noSuchFace
  let some offset := bytes.number? 12 4 | throw .outOfBounds
  if offset < 12 + 4 * count ∨ bytes.size < offset then throw .outOfBounds
  let some tag := bytes.number? offset 4 | throw .unknownMagic
  if faceTags.contains tag then return offset + 4 else throw .unknownMagic

def directory (bytes : Bytes) (offset : Nat) : Except FaceFault (List (Nat × Option Bytes)) := do
  let some count := bytes.number? offset 2 | throw .outOfBounds
  let some records := bytes.slice? (offset + 8) (16 * count) | throw .outOfBounds
  return (List.range count).filterMap fun i => do
    let tag ← Bytes.number? records (16 * i) 4
    let start ← Bytes.number? records (16 * i + 8) 4
    let length ← Bytes.number? records (16 * i + 12) 4
    return (tag, bytes.slice? start length)

def tagOf (name : String) : Nat := name.toList.foldl (fun n c => n * 256 + c.toNat) 0

def table? (tables : List (Nat × Option Bytes)) (name : String) : Option Bytes :=
  (tables.reverse.lookup (tagOf name)).join

def readUnitsPerEm (table : Bytes) : Option Nat := do
  let _ ← table.slice? 0 54
  let locationFormat ← table.number? 50 2
  if locationFormat ≤ 1 then table.number? 18 2 else none

def readMeasures (table : Bytes) (offset : Nat) : Option LineMeasures := do
  return ⟨← table.signed? offset, ← table.signed? (offset + 2), ← table.signed? (offset + 4)⟩

def readLine (table : Bytes) : Option LineMeasures := do
  let _ ← table.slice? 0 36
  readMeasures table 4

def readGlyphCount (table : Bytes) : Option Nat := do
  let version ← table.number? 0 4
  if version = 0x00005000 ∨ version = 0x00010000 then table.number? 4 2 else none

def readAdvances (count : Nat) (table : Bytes) : List Nat :=
  if 4 * count ≤ table.size then
    (List.range count).filterMap fun i => table.number? (4 * i) 2
  else []

def layoutLength? : Nat → Option Nat
  | 0 => some 78
  | 1 => some 86
  | 2 => some 96
  | 3 => some 96
  | 4 => some 96
  | 5 => some 100
  | _ => none

def readLayout (table : Bytes) : Option LayoutMeasures := do
  let version ← table.number? 0 2
  let _ ← table.slice? 0 (← layoutLength? version)
  let flags ← table.number? 62 2
  return {
    preferred := decide (4 ≤ version) && flags.testBit 7
    line := ← readMeasures table 68
    top := ← table.signed? 74
    bottom := Int.bmod (-(← table.number? 76 2)) (2 ^ 16) }

def read (bytes : Bytes) : Except FaceFault FaceTables := do
  let table? := table? (← directory bytes (← directoryOffset bytes))
  let header := (table? "hhea").getD #[]
  return {
    unitsPerEm := (table? "head").bind readUnitsPerEm
    line := readLine header
    glyphCount := (table? "maxp").bind readGlyphCount
    advances := readAdvances ((Bytes.number? header 34 2).getD 0) ((table? "hmtx").getD #[])
    maps := ((table? "cmap").map CharacterMap.readAll).getD []
    layout := (table? "OS/2").bind readLayout
    replacements := ((table? "GSUB").bind Substitution.read?).getD [] }

end FaceTables

def Face.read (bytes : Bytes) : Except FaceFault Face := do
  Face.ofTables (← FaceTables.read bytes)

end CellScreen
