import CellScreen.Codec.Snapshot
import CellScreen.Proofs.Codec

/-! Snapshots are read back from their text. -/
namespace CellScreen

def Point.Sized (point : Point) : Prop := point.row < 2 ^ 64 ∧ point.column < 2 ^ 64

instance (point : Point) : Decidable point.Sized := inferInstanceAs (Decidable (_ ∧ _))

structure Snapshot.Sized (snapshot : Snapshot) : Prop where
  columns : snapshot.columns < 2 ^ 64
  rows : snapshot.rows < 2 ^ 64
  charWidth : snapshot.charWidth < 2 ^ 32
  charHeight : snapshot.charHeight < 2 ^ 32
  margin : snapshot.margin < 2 ^ 32
  selection : ∀ range ∈ snapshot.selection, range.start.Sized ∧ range.finish.Sized

namespace Codec

open Json

theorem encodes_selection {value : Selection} (sized : value.start.Sized ∧ value.finish.Sized) :
    Encodes selection? (selection value) value := by
  have start := encodes_point sized.1
  have finish := encodes_point sized.2
  constructor
  · apply Clear.record
    simp [start.clear, finish.clear]
  · simp [selection?, selection, fields?_record, List.lookup_cons, start.decodes, finish.decodes]

theorem encodes_snapshot {value : Snapshot} (sized : value.Sized) :
    Encodes snapshot? (snapshot value) value := by
  have columns := encodes_size sized.columns
  have rows := encodes_size sized.rows
  have charWidth := encodes_word sized.charWidth
  have charHeight := encodes_word sized.charHeight
  have margin := encodes_word sized.margin
  have grid : Encodes (list? (list? briefCell?))
      (.array (value.grid.map fun row => .array (row.map briefCell))) value.grid :=
    encodes_list fun row _ => encodes_list fun cell _ => encodes_briefCell cell
  have palette : Encodes (list? rgb?) (.array (value.palette.map rgb)) value.palette :=
    encodes_list fun color _ => encodes_rgb color
  have range : Encodes (option? selection?) (.orNull selection value.selection) value.selection :=
    encodes_orNull (fun range chosen => encodes_selection (sized.selection range chosen)) nofun
  constructor
  · apply Clear.record
    simp [columns.clear, rows.clear, charWidth.clear, charHeight.clear, margin.clear, grid.clear,
      range.clear, palette.clear, (encodes_rgb _).clear]
  · simp [snapshot?, snapshot, fields?_record, List.lookup_cons, columns.decodes, rows.decodes,
      charWidth.decodes, charHeight.decodes, margin.decodes, grid.decodes, range.decodes,
      palette.decodes, (encodes_rgb _).decodes]

end Codec

namespace Snapshot

/-- A snapshot is read back from its text. -/
theorem ofText?_toText {snapshot : Snapshot} (sized : snapshot.Sized) :
    ofText? snapshot.toText = some snapshot := by
  obtain ⟨clear, decodes⟩ := Codec.encodes_snapshot sized
  rw [ofText?, toText, Json.read?_prettyText clear, Option.bind_some, decodes]

/-- A snapshot with empty, quoted, coloured and wide cells, rows of different lengths and a
selection. -/
theorem ofText?_toText_of_quoted :
    let snapshot : Snapshot := {
      columns := 2, rows := 2, charWidth := 8, charHeight := 16, margin := 7
      grid := [
        [.empty, .ofChar '"' { underscore := true, foreground := .rgb ⟨1, 2, 3⟩ }],
        [.ofChar '\x1b' {}, .ofChar '😀' { background := .indexed 255 }, .continuation {}], []]
      selection := some ⟨⟨1, 0⟩, ⟨0, 2 ^ 64 - 1⟩⟩
      palette := [.white]
      defaultForeground := .white
      defaultBackground := ⟨0, 0, 0⟩ }
    snapshot.Sized ∧ ofText? snapshot.toText = some snapshot := by
  intro snapshot
  have sized : snapshot.Sized := by
    refine ⟨by decide, by decide, by decide, by decide, by decide, ?_⟩
    rintro range ⟨⟩
    decide
  exact ⟨sized, ofText?_toText sized⟩

end Snapshot
end CellScreen
