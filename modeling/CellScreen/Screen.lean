import CellScreen.Display.Flush
import CellScreen.Surface

/-! A screen: a display together with the surface that it draws on. -/
namespace CellScreen

structure Screen where
  display : Display
  surface : Surface

namespace Screen

def new (surface : Surface) (fonts : FontSource) (config : Config) :
    Except DisplayError Screen := do
  let (display, calls) ← Display.new fonts config
  return ⟨display, surface.applyAll calls⟩

def perform (screen : Screen) (operation : Display → Display × List Call) : Screen :=
  let (display, calls) := operation screen.display
  ⟨display, screen.surface.applyAll calls⟩

def update (screen : Screen) (operation : Display → Display) : Screen :=
  { screen with display := operation screen.display }

def flushOperations (screen : Screen) : Screen × FlushPlan :=
  let (display, plan) := screen.display.flushOperations
  (⟨display, screen.surface.applyAll plan.calls⟩, plan)

def flush (screen : Screen) : Screen × FlushPlan :=
  let (drawn, plan) := screen.flushOperations
  ({ drawn with surface := drawn.surface.apply .flush }, plan)

def viewerInstructions (screen : Screen) : List Instruction :=
  let display := screen.display
  let rects := display.highlightRects
  [.palette display.palette.colors.toList,
    .defaultColors display.defaultForeground display.defaultBackground] ++
  screen.surface.replayInstructions ++
  [.size .selection display.pixelSize.1 display.pixelSize.2] ++
  (if rects.isEmpty then [.clear .selection] else []) ++
  rects.map (fun rect => .fill .selection rect Display.selectionColor) ++
  [.sync]

def join (screen : Screen) : Screen × List Instruction :=
  let (flushed, _) := screen.flush
  (flushed, flushed.viewerInstructions)

end Screen
end CellScreen
