import CellScreen.Codec.Cell
import CellScreen.Json.Printer
import CellScreen.Json.Reader
import CellScreen.Snapshot

/-! Snapshots as JSON text. -/
namespace CellScreen
namespace Codec

open Json

def snapshot (snapshot : Snapshot) : Json :=
  .record [("cols", .nat snapshot.columns), ("rows", .nat snapshot.rows),
    ("char_width", .nat snapshot.charWidth), ("char_height", .nat snapshot.charHeight),
    ("margin", .nat snapshot.margin),
    ("grid", .array (snapshot.grid.map fun row => .array (row.map briefCell))),
    ("selection", .orNull selection snapshot.selection),
    ("palette", .array (snapshot.palette.map rgb)),
    ("default_foreground", rgb snapshot.defaultForeground),
    ("default_background", rgb snapshot.defaultBackground)]

def snapshot? (json : Json) : Option Snapshot :=
  match json.fields? ["cols", "rows", "char_width", "char_height", "margin", "grid", "selection",
      "palette", "default_foreground", "default_background"] false with
  | some [columns, rows, charWidth, charHeight, margin, grid, selection, palette, foreground,
      background] => do
    return {
      columns := ← columns.bind size?
      rows := ← rows.bind size?
      charWidth := ← charWidth.bind word?
      charHeight := ← charHeight.bind word?
      margin := ← margin.bind word?
      grid := ← grid.bind (list? (list? briefCell?))
      selection := ← match selection with
        | none => some none
        | some selection => option? selection? selection
      palette := ← palette.bind (list? rgb?)
      defaultForeground := ← foreground.bind rgb?
      defaultBackground := ← background.bind rgb? }
  | _ => none

end Codec

namespace Snapshot

def toText (snapshot : Snapshot) : String := (Codec.snapshot snapshot).prettyText

def ofText? (text : String) : Option Snapshot := (Json.read? text).bind Codec.snapshot?

end Snapshot
end CellScreen
