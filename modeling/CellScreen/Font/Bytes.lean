import CellScreen.Number.Instances

/-! Bytes of a file with offsets into them. Numbers are big-endian. -/
namespace CellScreen

abbrev Bytes := Array UInt8

namespace Bytes

def number? (bytes : Bytes) (offset size : Nat) : Option Nat :=
  if offset + size ≤ bytes.size then
    some ((bytes.extract offset (offset + size)).foldl (fun n byte => n * 256 + byte.toNat) 0)
  else none

def signed? (bytes : Bytes) (offset : Nat) : Option Int :=
  (bytes.number? offset 2).map fun n => Int.bmod n (2 ^ 16)

def numbers? (bytes : Bytes) (offset count : Nat) : Option (Array Nat) :=
  if offset + 2 * count ≤ bytes.size then
    (Array.range count).mapM fun i => bytes.number? (offset + 2 * i) 2
  else none

def counted? (bytes : Bytes) (offset : Nat) : Option (Array Nat) := do
  bytes.numbers? (offset + 2) (← bytes.number? offset 2)

def slice? (bytes : Bytes) (offset length : Nat) : Option Bytes :=
  if offset + length ≤ bytes.size then some (bytes.extract offset (offset + length)) else none

def from? (bytes : Bytes) (offset : Nat) : Option Bytes :=
  if offset ≤ bytes.size then some (bytes.extract offset bytes.size) else none

end Bytes

def readWhile {α β : Type} (read : α → Option β) : List α → List β
  | [] => []
  | item :: rest =>
    match read item with
    | some value => value :: readWhile read rest
    | none => []

end CellScreen
