import CellScreen.Codec.Cell
import CellScreen.Drawing
import CellScreen.Json.Printer
import CellScreen.Json.Reader

/-! Instructions as JSON text. -/
namespace CellScreen
namespace Codec

open Json

def rect (rect : Rect) : Json :=
  .record [("x", .int rect.x), ("y", .int rect.y), ("width", .nat rect.width),
    ("height", .nat rect.height)]

def rect? (json : Json) : Option Rect :=
  match json.fields? ["x", "y", "width", "height"] false with
  | some [x, y, width, height] => do
    return ⟨← x.bind int?, ← y.bind int?, ← width.bind word?, ← height.bind word?⟩
  | _ => none

def glyph (glyph : Glyph) : Json :=
  .record [("ch", char glyph.char), ("columns", byte glyph.columns)]

def glyph? (json : Json) : Option Glyph :=
  match json.fields? ["ch", "columns"] false with
  | some [ch, columns] => do return ⟨← ch.bind char?, ← columns.bind byte?⟩
  | _ => none

def style (style : Style) : Json :=
  .record [("foreground", rgb style.foreground), ("background", rgb style.background),
    ("bold", flag style.bold), ("underline", flag style.underline)]

def style? (json : Json) : Option Style :=
  match json.fields? ["foreground", "background", "bold", "underline"] false with
  | some [foreground, background, bold, underline] => do
    return ⟨← foreground.bind rgb?, ← background.bind rgb?, ← bold.bind bool?,
      ← underline.bind bool?⟩
  | _ => none

def textRun (run : TextRun) : Json :=
  .record [("x", .int run.x), ("y", .int run.y), ("cell_width", .nat run.cellWidth),
    ("cell_height", .nat run.cellHeight), ("glyphs", .array (run.glyphs.map glyph)),
    ("style", style run.style)]

def textRun? (json : Json) : Option TextRun :=
  match json.fields? ["x", "y", "cell_width", "cell_height", "glyphs", "style"] false with
  | some [x, y, cellWidth, cellHeight, glyphs, style] => do
    return {
      x := ← x.bind int?
      y := ← y.bind int?
      cellWidth := ← cellWidth.bind word?
      cellHeight := ← cellHeight.bind word?
      glyphs := ← glyphs.bind (list? glyph?)
      style := ← style.bind style? }
  | _ => none

def pixel (pixel : Pixel) : Json :=
  .record [("color", rgb pixel.color), ("glyph", .orNull char pixel.glyph)]

def pixel? (json : Json) : Option Pixel :=
  match json.fields? ["color", "glyph"] false with
  | some [color, glyph] => do
    return ⟨← color.bind rgb?, ← match glyph with
      | none => some none
      | some glyph => option? char? glyph⟩
  | _ => none

def layer : Layer → Json
  | .terminal => .text "Terminal"
  | .selection => .text "Selection"

def layer? (json : Json) : Option Layer :=
  match json.variant? with
  | some ("Terminal", content) => if isEmptyContent content then some .terminal else none
  | some ("Selection", content) => if isEmptyContent content then some .selection else none
  | _ => none

def variant (name : String) (members : List (String × Json)) : Json :=
  .record [(name, .record members)]

def instruction : Instruction → Json
  | .palette colors => .record [("Palette", .array (colors.map rgb))]
  | .defaultColors foreground background =>
    variant "DefaultColors" [("foreground", rgb foreground), ("background", rgb background)]
  | .size target width height =>
    variant "Size" [("layer", layer target), ("width", .nat width), ("height", .nat height)]
  | .fill target area color =>
    variant "Fill" [("layer", layer target), ("rect", rect area), ("color", rgba color)]
  | .copy target source x y =>
    variant "Copy" [("layer", layer target), ("source", rect source), ("x", .int x), ("y", .int y)]
  | .text target run => variant "Text" [("layer", layer target), ("run", textRun run)]
  | .image target area pixels =>
    variant "Image" [("layer", layer target), ("rect", rect area),
      ("pixels", .array (pixels.map pixel))]
  | .clear target => variant "Clear" [("layer", layer target)]
  | .sync => .text "Sync"

def instructionOf? (name : String) (content : Json) : Option Instruction :=
  match name with
  | "Palette" => (content.list? rgb?).map .palette
  | "DefaultColors" =>
    match content.fields? ["foreground", "background"] false with
    | some [foreground, background] => do
      return .defaultColors (← foreground.bind rgb?) (← background.bind rgb?)
    | _ => none
  | "Size" =>
    match content.fields? ["layer", "width", "height"] false with
    | some [target, width, height] => do
      return .size (← target.bind layer?) (← width.bind word?) (← height.bind word?)
    | _ => none
  | "Fill" =>
    match content.fields? ["layer", "rect", "color"] false with
    | some [target, area, color] => do
      return .fill (← target.bind layer?) (← area.bind rect?) (← color.bind rgba?)
    | _ => none
  | "Copy" =>
    match content.fields? ["layer", "source", "x", "y"] false with
    | some [target, source, x, y] => do
      return .copy (← target.bind layer?) (← source.bind rect?) (← x.bind int?) (← y.bind int?)
    | _ => none
  | "Text" =>
    match content.fields? ["layer", "run"] false with
    | some [target, run] => do return .text (← target.bind layer?) (← run.bind textRun?)
    | _ => none
  | "Image" =>
    match content.fields? ["layer", "rect", "pixels"] false with
    | some [target, area, pixels] => do
      return .image (← target.bind layer?) (← area.bind rect?) (← pixels.bind (list? pixel?))
    | _ => none
  | "Clear" =>
    match content.fields? ["layer"] false with
    | some [target] => do return .clear (← target.bind layer?)
    | _ => none
  | _ => none

def instruction? (json : Json) : Option Instruction :=
  match json.variant? with
  | some ("Sync", content) => if isEmptyContent content then some .sync else none
  | some (name, some content) => instructionOf? name content
  | _ => none

def instructions (list : List Instruction) : Json := .array (list.map instruction)

def instructions? (json : Json) : Option (List Instruction) := json.list? instruction?

end Codec

namespace Instruction

def toText (instruction : Instruction) : String := (Codec.instruction instruction).compactText

def ofText? (text : String) : Option Instruction := (Json.read? text).bind Codec.instruction?

def streamText (stream : List Instruction) : String := (Codec.instructions stream).compactText

def ofStreamText? (text : String) : Option (List Instruction) :=
  (Json.read? text).bind Codec.instructions?

end Instruction
end CellScreen
