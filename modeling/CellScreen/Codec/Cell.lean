import CellScreen.Cell
import CellScreen.Json.Record
import CellScreen.Palette
import CellScreen.Selection

/-! Colors, cells and selections in JSON: each encoder beside its decoder. -/
namespace CellScreen.Codec

open Json

def flag (value : Bool) : Json := .bool value

def byte (value : UInt8) : Json := .nat value.toNat

def rgb (color : Rgb) : Json :=
  .record [("red", byte color.red), ("green", byte color.green), ("blue", byte color.blue)]

def rgb? (json : Json) : Option Rgb :=
  match json.fields? ["red", "green", "blue"] false with
  | some [red, green, blue] => do
    return ⟨← red.bind byte?, ← green.bind byte?, ← blue.bind byte?⟩
  | _ => none

def rgba (color : Rgba) : Json :=
  .record [("red", byte color.color.red), ("green", byte color.color.green),
    ("blue", byte color.color.blue), ("alpha", byte color.alpha)]

def rgba? (json : Json) : Option Rgba :=
  match json.fields? ["red", "green", "blue", "alpha"] false with
  | some [red, green, blue, alpha] => do
    return ⟨⟨← red.bind byte?, ← green.bind byte?, ← blue.bind byte?⟩, ← alpha.bind byte?⟩
  | _ => none

def color : Color → Json
  | .default => .text "Default"
  | .indexed index => .record [("Indexed", byte index)]
  | .rgb color => .record [("Rgb", .array [byte color.red, byte color.green, byte color.blue])]

def components? (json : Json) : Option Rgb :=
  match json with
  | .array [red, green, blue] => do return ⟨← red.byte?, ← green.byte?, ← blue.byte?⟩
  | _ => none

def color? (json : Json) : Option Color :=
  match json.variant? with
  | some ("Default", content) => if isEmptyContent content then some .default else none
  | some ("Indexed", some content) => content.byte?.map .indexed
  | some ("Rgb", some content) => (components? content).map .rgb
  | _ => none

def attributes (attributes : Attributes) : Json :=
  .record [("bold", flag attributes.bold), ("half_bright", flag attributes.halfBright),
    ("reverse", flag attributes.reverse), ("cursor", flag attributes.cursor),
    ("underscore", flag attributes.underscore), ("foreground", color attributes.foreground),
    ("background", color attributes.background)]

def attributes? (json : Json) : Option Attributes :=
  match json.fields? ["bold", "half_bright", "reverse", "cursor", "underscore", "foreground",
      "background"] false with
  | some [bold, halfBright, reverse, cursor, underscore, foreground, background] => do
    return {
      bold := ← bold.bind bool?
      halfBright := ← halfBright.bind bool?
      reverse := ← reverse.bind bool?
      cursor := ← cursor.bind bool?
      underscore := ← underscore.bind bool?
      foreground := ← foreground.bind color?
      background := ← background.bind color? }
  | _ => none

def char (c : Char) : Json := .text (String.singleton c)

def cell (cell : Cell) : Json :=
  .record [("ch", char cell.char), ("attributes", attributes cell.attributes),
    ("width", byte cell.width)]

def briefCell (cell : Cell) : Json :=
  .record ([("ch", char cell.char)] ++
    (if cell.attributes = {} then [] else [("attributes", attributes cell.attributes)]) ++
    [("width", byte cell.width)])

def briefCell? (json : Json) : Option Cell :=
  match json.fields? ["ch", "attributes", "width"] false with
  | some [ch, attributes, width] => do
    return {
      char := ← ch.bind char?
      attributes := ← match attributes with
        | none => some {}
        | some attributes => attributes? attributes
      width := ← width.bind byte? }
  | _ => none

def point (point : Point) : Json := .record [("row", .nat point.row), ("col", .nat point.column)]

def point? (json : Json) : Option Point :=
  match json.fields? ["row", "col"] false with
  | some [row, column] => do return ⟨← row.bind size?, ← column.bind size?⟩
  | _ => none

def selection (selection : Selection) : Json :=
  .record [("start", point selection.start), ("end", point selection.finish)]

def selection? (json : Json) : Option Selection :=
  match json.fields? ["start", "end"] false with
  | some [start, finish] => do return ⟨← start.bind point?, ← finish.bind point?⟩
  | _ => none

end CellScreen.Codec
