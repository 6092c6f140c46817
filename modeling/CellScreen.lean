import CellScreen.Codec.Config
import CellScreen.Codec.Instruction
import CellScreen.Codec.Snapshot
import CellScreen.Font.Container
import CellScreen.Font.Library
import CellScreen.Font.Proportional
import CellScreen.Screen
import CellScreen.Proofs.Recording
import CellScreen.Proofs.Request
import CellScreen.Proofs.CellModel
import CellScreen.Proofs.Canvas
import CellScreen.Proofs.Box
import CellScreen.Proofs.Copies
import CellScreen.Proofs.Fills
import CellScreen.Proofs.Runs
import CellScreen.Proofs.Flush
import CellScreen.Proofs.Layout
import CellScreen.Proofs.Lines
import CellScreen.Proofs.ScreenText
import CellScreen.Proofs.Shown
import CellScreen.Proofs.Exposure
import CellScreen.Proofs.Scrolling
import CellScreen.Proofs.Resizing
import CellScreen.Proofs.Replay
import CellScreen.Proofs.Highlight
import CellScreen.Proofs.Painting
import CellScreen.Proofs.JsonText
import CellScreen.Proofs.Codec
import CellScreen.Proofs.SnapshotText
import CellScreen.Proofs.Rounding
import CellScreen.Proofs.DecimalReading
import CellScreen.Proofs.ShortestDecimal
import CellScreen.Proofs.ConfigText
import CellScreen.Proofs.Joining
import CellScreen.Proofs.PendingCalls
import CellScreen.Proofs.Checked
import CellScreen.Proofs.Clipping
import CellScreen.Proofs.Batches
import CellScreen.Proofs.Conveying
import CellScreen.Proofs.InstructionText
import CellScreen.Proofs.FontGeometry
import CellScreen.Proofs.UnflushedSet
import CellScreen.Proofs.Repainting
import CellScreen.Proofs.Coverage
import CellScreen.Proofs.Lettering
import CellScreen.Proofs.PaintedOnce
import CellScreen.Proofs.Fields
import CellScreen.Proofs.Numerals
import CellScreen.Proofs.SchemeEntries
import CellScreen.Proofs.SchemeText
import CellScreen.Proofs.SchemeGrammar
import CellScreen.Proofs.ClippedCopy
import CellScreen.Proofs.SelectedCells
import CellScreen.Proofs.ScrollingUp
import CellScreen.Proofs.KeptColors
import CellScreen.Proofs.PixelCells
import CellScreen.Proofs.Places
import CellScreen.Proofs.ColorRuns
import CellScreen.Proofs.Tiling
import CellScreen.Proofs.FillCount
