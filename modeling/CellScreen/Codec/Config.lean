import CellScreen.Config
import CellScreen.Json.Printer
import CellScreen.Json.Reader
import CellScreen.Json.Record

/-! Configurations as JSON text and in files. -/
namespace CellScreen
namespace Codec

def config (config : Config) : Json :=
  .record [("font_family", .text config.fontFamily), ("font_size", .single config.fontSize),
    ("dpi", .nat config.dpi), ("columns", .nat config.columns), ("rows", .nat config.rows),
    ("color_scheme", .text config.colorScheme)]

def fieldOr {α : Type} (default : α) (value? : Json → Option α) : Option Json → Option α
  | none => some default
  | some json => value? json

def config? (json : Json) : Option Config :=
  let default : Config := {}
  match json.fields? ["font_family", "font_size", "dpi", "columns", "rows", "color_scheme"] true with
  | some [fontFamily, fontSize, dpi, columns, rows, colorScheme] => do
    return {
      fontFamily := ← fieldOr default.fontFamily Json.text? fontFamily
      fontSize := ← fieldOr default.fontSize Json.single? fontSize
      dpi := ← fieldOr default.dpi Json.word? dpi
      columns := ← fieldOr default.columns Json.size? columns
      rows := ← fieldOr default.rows Json.size? rows
      colorScheme := ← fieldOr default.colorScheme Json.text? colorScheme }
  | _ => none

end Codec

namespace Config

def ofText (text : String) : Except ConfigError Config :=
  match (Json.read? text).bind Codec.config? with
  | none => .error .malformed
  | some config => do
    let _ ← config.scheme
    return config

def toText (config : Config) : String := (Codec.config config).prettyText

def load (file : Option ByteArray) : Except ConfigError Config :=
  match file.bind String.fromUTF8? with
  | none => .error .unreadable
  | some text => ofText text

end Config
end CellScreen
