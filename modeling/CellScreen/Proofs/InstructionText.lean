import CellScreen.Codec.Instruction
import CellScreen.Proofs.Codec
import CellScreen.Surface

/-! Instructions are read back from their text, so a viewer may be sent the text in their place. -/
namespace CellScreen

def IsCoordinate (n : Int) : Prop := -2 ^ 31 ≤ n ∧ n < 2 ^ 31

instance (n : Int) : Decidable (IsCoordinate n) := inferInstanceAs (Decidable (_ ∧ _))

structure Rect.Sized (rect : Rect) : Prop where
  x : IsCoordinate rect.x
  y : IsCoordinate rect.y
  width : rect.width < 2 ^ 32
  height : rect.height < 2 ^ 32

instance Rect.decidableSized (rect : Rect) : Decidable rect.Sized :=
  decidable_of_iff
    (IsCoordinate rect.x ∧ IsCoordinate rect.y ∧ rect.width < 2 ^ 32 ∧ rect.height < 2 ^ 32)
    ⟨fun ⟨x, y, width, height⟩ => ⟨x, y, width, height⟩,
      fun ⟨x, y, width, height⟩ => ⟨x, y, width, height⟩⟩

structure TextRun.Sized (run : TextRun) : Prop where
  x : IsCoordinate run.x
  y : IsCoordinate run.y
  cellWidth : run.cellWidth < 2 ^ 32
  cellHeight : run.cellHeight < 2 ^ 32

instance TextRun.decidableSized (run : TextRun) : Decidable run.Sized :=
  decidable_of_iff
    (IsCoordinate run.x ∧ IsCoordinate run.y ∧ run.cellWidth < 2 ^ 32 ∧ run.cellHeight < 2 ^ 32)
    ⟨fun ⟨x, y, width, height⟩ => ⟨x, y, width, height⟩,
      fun ⟨x, y, width, height⟩ => ⟨x, y, width, height⟩⟩

def Instruction.Sized : Instruction → Prop
  | .size _ width height => width < 2 ^ 32 ∧ height < 2 ^ 32
  | .fill _ rect _ => rect.Sized
  | .copy _ source x y => source.Sized ∧ IsCoordinate x ∧ IsCoordinate y
  | .text _ run => run.Sized
  | .image _ rect _ => rect.Sized
  | .palette _ | .defaultColors .. | .clear _ | .sync => True

instance Instruction.decidableSized : DecidablePred Instruction.Sized
  | .size _ width height => inferInstanceAs (Decidable (width < 2 ^ 32 ∧ height < 2 ^ 32))
  | .fill _ rect _ => inferInstanceAs (Decidable rect.Sized)
  | .copy _ source x y =>
    inferInstanceAs (Decidable (source.Sized ∧ IsCoordinate x ∧ IsCoordinate y))
  | .text _ run => inferInstanceAs (Decidable run.Sized)
  | .image _ rect _ => inferInstanceAs (Decidable rect.Sized)
  | .palette _ | .defaultColors .. | .clear _ | .sync => inferInstanceAs (Decidable True)

namespace Codec

open Json

theorem encodes_coordinate {n : Int} (bounds : IsCoordinate n) : Encodes int? (.int n) n :=
  encodes_int bounds.1 bounds.2

theorem encodes_rgba (color : Rgba) : Encodes rgba? (rgba color) color := by
  constructor
  · apply Clear.record
    simp [(encodes_byte _).clear]
  · simp [rgba?, rgba, fields?_record, List.lookup_cons, (encodes_byte _).decodes]

theorem encodes_rect {value : Rect} (sized : value.Sized) : Encodes rect? (rect value) value := by
  have x := encodes_coordinate sized.x
  have y := encodes_coordinate sized.y
  have width := encodes_word sized.width
  have height := encodes_word sized.height
  constructor
  · apply Clear.record
    simp [x.clear, y.clear, width.clear, height.clear]
  · simp [rect?, rect, fields?_record, List.lookup_cons, x.decodes, y.decodes, width.decodes,
      height.decodes]

theorem encodes_glyph (value : Glyph) : Encodes glyph? (glyph value) value := by
  constructor
  · apply Clear.record
    simp [(encodes_char _).clear, (encodes_byte _).clear]
  · simp [glyph?, glyph, fields?_record, List.lookup_cons, (encodes_char _).decodes,
      (encodes_byte _).decodes]

theorem encodes_style (value : Style) : Encodes style? (style value) value := by
  constructor
  · apply Clear.record
    simp [flag, Clear.bool, (encodes_rgb _).clear]
  · simp [style?, style, fields?_record, List.lookup_cons, flag, (encodes_rgb _).decodes,
      (encodes_bool _).decodes]

theorem encodes_textRun {value : TextRun} (sized : value.Sized) :
    Encodes textRun? (textRun value) value := by
  have x := encodes_coordinate sized.x
  have y := encodes_coordinate sized.y
  have cellWidth := encodes_word sized.cellWidth
  have cellHeight := encodes_word sized.cellHeight
  have glyphs : Encodes (list? glyph?) (.array (value.glyphs.map glyph)) value.glyphs :=
    encodes_list fun glyph _ => encodes_glyph glyph
  constructor
  · apply Clear.record
    simp [x.clear, y.clear, cellWidth.clear, cellHeight.clear, glyphs.clear,
      (encodes_style _).clear]
  · simp [textRun?, textRun, fields?_record, List.lookup_cons, x.decodes, y.decodes,
      cellWidth.decodes, cellHeight.decodes, glyphs.decodes, (encodes_style _).decodes]

theorem encodes_pixel (value : Pixel) : Encodes pixel? (pixel value) value := by
  have ink : Encodes (option? char?) (.orNull char value.glyph) value.glyph :=
    encodes_orNull (fun c _ => encodes_char c) nofun
  constructor
  · apply Clear.record
    simp [(encodes_rgb _).clear, ink.clear]
  · simp [pixel?, pixel, fields?_record, List.lookup_cons, (encodes_rgb _).decodes, ink.decodes]

theorem encodes_layer (target : Layer) : Encodes layer? (layer target) target := by
  cases target with
  | terminal => exact ⟨.text _, rfl⟩
  | selection => exact ⟨.text _, rfl⟩

theorem encodes_variant {name : String} {members : List (String × Json)} {value : Instruction}
    (each : ∀ member ∈ members, member.2.Clear)
    (decodes : instructionOf? name (.record members) = some value) (named : name ≠ "Sync") :
    Encodes instruction? (variant name members) value := by
  constructor
  · apply Clear.record
    intro member inside
    rw [List.mem_singleton.mp inside]
    exact .record each
  · simpa [instruction?, variant, record, variant?] using decodes

theorem encodes_instruction {value : Instruction} (sized : value.Sized) :
    Encodes instruction? (instruction value) value := by
  cases value with
  | palette colors =>
    have entries : Encodes (list? rgb?) (.array (colors.map rgb)) colors :=
      encodes_list fun color _ => encodes_rgb color
    constructor
    · apply Clear.record
      simp [entries.clear]
    · simp [instruction?, instruction, record, variant?, instructionOf?, entries.decodes]
  | defaultColors foreground background =>
    apply encodes_variant
    · simp [(encodes_rgb _).clear]
    · simp [instructionOf?, fields?_record, List.lookup_cons, (encodes_rgb _).decodes]
    · decide
  | size target width height =>
    have width := encodes_word sized.1
    have height := encodes_word sized.2
    apply encodes_variant
    · simp [(encodes_layer _).clear, width.clear, height.clear]
    · simp [instructionOf?, fields?_record, List.lookup_cons, (encodes_layer _).decodes,
        width.decodes, height.decodes]
    · decide
  | fill target area color =>
    have area := encodes_rect sized
    apply encodes_variant
    · simp [(encodes_layer _).clear, area.clear, (encodes_rgba _).clear]
    · simp [instructionOf?, fields?_record, List.lookup_cons, (encodes_layer _).decodes,
        area.decodes, (encodes_rgba _).decodes]
    · decide
  | copy target source x y =>
    have source := encodes_rect sized.1
    have x := encodes_coordinate sized.2.1
    have y := encodes_coordinate sized.2.2
    apply encodes_variant
    · simp [(encodes_layer _).clear, source.clear, x.clear, y.clear]
    · simp [instructionOf?, fields?_record, List.lookup_cons, (encodes_layer _).decodes,
        source.decodes, x.decodes, y.decodes]
    · decide
  | text target run =>
    have run := encodes_textRun sized
    apply encodes_variant
    · simp [(encodes_layer _).clear, run.clear]
    · simp [instructionOf?, fields?_record, List.lookup_cons, (encodes_layer _).decodes,
        run.decodes]
    · decide
  | image target area pixels =>
    have area := encodes_rect sized
    have pixels : Encodes (list? pixel?) (.array (pixels.map pixel)) pixels :=
      encodes_list fun pixel _ => encodes_pixel pixel
    apply encodes_variant
    · simp [(encodes_layer _).clear, area.clear, pixels.clear]
    · simp [instructionOf?, fields?_record, List.lookup_cons, (encodes_layer _).decodes,
        area.decodes, pixels.decodes]
    · decide
  | clear target =>
    apply encodes_variant
    · simp [(encodes_layer _).clear]
    · simp [instructionOf?, fields?_record, List.lookup_cons, (encodes_layer _).decodes]
    · decide
  | sync => exact ⟨.text _, rfl⟩

theorem encodes_instructions {stream : List Instruction} (sized : ∀ sent ∈ stream, sent.Sized) :
    Encodes instructions? (instructions stream) stream :=
  encodes_list fun sent member => encodes_instruction (sized sent member)

end Codec

namespace Instruction

/-- A stream of instructions is read back from its text, and whoever replays the text has the same
surface before it. -/
theorem ofStreamText?_streamText {stream : List Instruction} (sized : ∀ sent ∈ stream, sent.Sized) :
    ofStreamText? (streamText stream) = some stream ∧
      (ofStreamText? (streamText stream)).map Surface.replay = some (Surface.replay stream) := by
  obtain ⟨clear, decodes⟩ := Codec.encodes_instructions sized
  have read : ofStreamText? (streamText stream) = some stream := by
    rw [ofStreamText?, streamText, Json.read?_compactText clear, Option.bind_some, decodes]
  rw [read]
  exact ⟨rfl, rfl⟩

/-- A stream of every kind of instruction, with the largest and the smallest numbers and with
characters that are escaped or lie beyond 16 bits. -/
theorem ofStreamText?_streamText_of_mixed :
    let stream : List Instruction := [.palette [.white, ⟨0, 128, 255⟩], .palette [],
      .defaultColors .white .black, .size .terminal 2 1, .size .selection 0 (2 ^ 32 - 1),
      .fill .selection ⟨-2 ^ 31, 2 ^ 31 - 1, 2 ^ 32 - 1, 0⟩ ⟨.white, 96⟩,
      .copy .terminal ⟨0, 0, 1, 1⟩ (-1) 0,
      .text .terminal ⟨-3, 0, 8, 16, [⟨'"', 1⟩, ⟨'\x00', 0⟩, ⟨'😀', 2⟩],
        ⟨.white, .black, true, false⟩⟩,
      .image .terminal ⟨0, 0, 2, 1⟩ [⟨.white, some '\\'⟩, .paint .black], .clear .terminal,
      .clear .selection, .sync]
    (∀ sent ∈ stream, sent.Sized) ∧ ofStreamText? (streamText stream) = some stream ∧
      (ofStreamText? (streamText stream)).map Surface.replay = some (Surface.replay stream) := by
  intro stream
  have sized : ∀ sent ∈ stream, sent.Sized := by decide
  exact ⟨sized, ofStreamText?_streamText sized⟩

end Instruction
end CellScreen
