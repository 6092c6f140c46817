import CellScreen.Color
import CellScreen.Geometry

/-! What is drawn on a surface: glyphs in runs, pixels, and the calls and instructions that
carry them. -/
namespace CellScreen

structure Glyph where
  char : Char
  columns : UInt8
deriving DecidableEq, Repr

structure Style where
  foreground : Rgb
  background : Rgb
  bold : Bool
  underline : Bool
deriving DecidableEq, Repr

structure TextRun where
  x : Int
  y : Int
  cellWidth : Nat
  cellHeight : Nat
  glyphs : List Glyph
  style : Style
deriving DecidableEq, Repr

namespace TextRun

def columns (run : TextRun) : Nat := (run.glyphs.map (·.columns.toNat)).sum

def bounds (run : TextRun) : Rect := ⟨run.x, run.y, run.columns * run.cellWidth, run.cellHeight⟩

def text (run : TextRun) : String := String.ofList (run.glyphs.map (·.char))

end TextRun

structure Pixel where
  color : Rgb
  glyph : Option Char
deriving DecidableEq, Repr

def Pixel.paint (color : Rgb) : Pixel := ⟨color, none⟩

inductive Layer where
  | terminal
  | selection
deriving DecidableEq, Repr

inductive Call where
  | resize (width height : Nat)
  | copy (source : Rect) (x y : Int)
  | fill (rect : Rect) (color : Rgb)
  | text (run : TextRun)
  | highlight (rects : List Rect)
  | clearHighlight
  | flush
deriving DecidableEq, Repr

inductive Instruction where
  | palette (colors : List Rgb)
  | defaultColors (foreground background : Rgb)
  | size (layer : Layer) (width height : Nat)
  | fill (layer : Layer) (rect : Rect) (color : Rgba)
  | copy (layer : Layer) (source : Rect) (x y : Int)
  | text (layer : Layer) (run : TextRun)
  | image (layer : Layer) (rect : Rect) (pixels : List Pixel)
  | clear (layer : Layer)
  | sync
deriving DecidableEq, Repr

end CellScreen
