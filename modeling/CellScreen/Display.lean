import CellScreen.Config
import CellScreen.Drawing
import CellScreen.Pending
import CellScreen.Selection
import CellScreen.Snapshot

/-! The display: the committed cells, the changes that wait for the next flush, and what cells
are drawn with. Operations give the new display and the calls that they make on its surface. -/
namespace CellScreen

structure Display where
  fonts : FontSource
  pending : Pending
  committed : Grid Cell
  margin : Nat
  font : Font
  dpi : Nat
  metrics : CellMetrics
  palette : Palette
  defaultForeground : Rgb
  defaultBackground : Rgb
  glyphForeground : Rgb
  glyphBackground : Rgb
  selection : Option Selection
  unflushedSet : Bool

inductive DisplayError where
  | font (error : FontError)
  | config (error : ConfigError)
deriving DecidableEq, Repr

def DisplayError.message : DisplayError → String
  | .font error => s!"Font error: {error.message}"
  | .config error => s!"Configuration error: {error.message}"

namespace Display

def selectionColor : Rgba := ⟨⟨0x00, 0x80, 0xff⟩, 0x60⟩

def width (display : Display) : Nat := display.committed.width

def height (display : Display) : Nat := display.committed.height

def pixelSize (display : Display) : Nat × Nat :=
  (extent display.width display.metrics.width, extent display.height display.metrics.height)

def cellRect (display : Display) (row column columns rows : Nat) : Rect where
  x := coordinate (extent column display.metrics.width)
  y := coordinate (extent row display.metrics.height)
  width := extent columns display.metrics.width
  height := extent rows display.metrics.height

def glyphStyle (display : Display) (attributes : Attributes) : Style :=
  let inkColor :=
    if attributes.bold then attributes.foreground.brightened else attributes.foreground
  let ink := display.palette.resolve inkColor display.defaultForeground
  let foreground := if attributes.halfBright && !attributes.bold then ink.dimmed else ink
  let background := display.palette.resolve attributes.background display.defaultBackground
  let swapped := attributes.reverse != attributes.cursor
  { foreground := if swapped then background else foreground
    background := if swapped then foreground else background
    bold := attributes.bold
    underline := attributes.underscore }

def setColumns (display : Display) (row first last : Int) (cell : Cell) : Display :=
  let (pending, recorded) := display.pending.setColumns row first last cell
  { display with pending, unflushedSet := display.unflushedSet || 0 < recorded }

def copyColumns (display : Display) (row first last offset : Int) : Display :=
  { display with pending := (display.pending.copyColumns row first last offset).1 }

def copyRows (display : Display) (first last offset : Int) : Display :=
  { display with pending := (display.pending.copyRows first last offset).1 }

def highlightRects (display : Display) : List Rect :=
  match display.selection with
  | none => []
  | some selection => (selection.spans display.width display.height).map fun span =>
    display.cellRect span.top span.left span.columns span.rows

def select (display : Display) (start finish : Point) : Display × List Call :=
  let display := { display with selection := some ⟨start, finish⟩ }
  (display, [.highlight display.highlightRects])

def clearSelect (display : Display) : Display × List Call :=
  ({ display with selection := none }, [.clearHighlight])

def exposedSlots (oldWidth oldHeight width height : Nat) : Grid Slot :=
  .tabulate width height fun row column =>
    if row < oldHeight ∧ column < oldWidth then .unchanged else .set (.blank .default)

/-- Gives the grid a new size. Committed cells stay where both sizes have them, pending changes
are dropped, and what is new waits to be made blank. A selection that no longer fits goes. -/
def resize (display : Display) (width height : Nat) : Display × List Call :=
  let pending := Pending.ofSlots (exposedSlots display.width display.height width height)
  let resized := { display with
    pending
    committed := .tabulate width height fun row column =>
      (display.committed.get? row column).getD (.blank .default)
    unflushedSet := !pending.isEmpty }
  let call := Call.resize resized.pixelSize.1 resized.pixelSize.2
  if display.selection.any (·.exceeds width height) then
    let (cleared, calls) := resized.clearSelect
    (cleared, call :: calls)
  else (resized, [call])

def new (fonts : FontSource) (config : Config) : Except DisplayError (Display × List Call) := do
  let scheme ← config.scheme.mapError .config
  let metrics ← (fonts config.font config.dpi).mapError .font
  let display : Display := {
    fonts
    pending := .empty 0 0
    committed := .replicate 0 0 (.blank .default)
    margin := millimetersToPixels marginMillimeters config.dpi
    font := config.font
    dpi := config.dpi
    metrics
    palette := .ofDefaults scheme.palette
    defaultForeground := scheme.foreground
    defaultBackground := scheme.background
    glyphForeground := scheme.foreground
    glyphBackground := scheme.background
    selection := none
    unflushedSet := false }
  return display.resize config.columns config.rows

/-- Changes the family or the size of the font; the resolution counts only with a new size.
The grid is neither resized nor drawn again. -/
def setFont (display : Display) (family : Option String) (size : Option Number.Single) (dpi : Nat) :
    Except FontError Display := do
  let font : Font := ⟨family.getD display.font.family, size.getD display.font.size⟩
  let dpi := if size.isSome then dpi else display.dpi
  let metrics ← display.fonts font dpi
  return { display with font, dpi, metrics }

def assignColor (display : Display) (index : Int) (color : Rgb) : Except PaletteError Display := do
  return { display with palette := ← display.palette.assign index color }

def resetPalette (display : Display) : Display :=
  { display with palette := display.palette.reset }

def committedCell (display : Display) (row column : Nat) : Option Cell :=
  display.committed.get? row column

def gridSizeFor (display : Display) (pixelWidth pixelHeight : Nat) : Nat × Nat :=
  CellScreen.gridSizeFor pixelWidth pixelHeight display.margin display.metrics

def snapshot (display : Display) : Snapshot where
  columns := display.width
  rows := display.height
  charWidth := display.metrics.width
  charHeight := display.metrics.height
  margin := display.margin
  grid := Snapshot.gridOfCells display.committed.entries.toList display.width
  selection := display.selection
  palette := display.palette.colors.toList
  defaultForeground := display.defaultForeground
  defaultBackground := display.defaultBackground

end Display
end CellScreen
