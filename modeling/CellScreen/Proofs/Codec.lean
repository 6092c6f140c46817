import CellScreen.Codec.Cell
import CellScreen.Proofs.JsonText

/-! Documents that stand for values: clear ones that a decoder reads as the value. The decoder of a
record finds each field by its name, as long as no two members have the same. -/
namespace CellScreen

namespace Json

structure Encodes {α : Type} (decode : Json → Option α) (json : Json) (value : α) : Prop where
  clear : json.Clear
  decodes : decode json = some value

theorem encodes_bool (value : Bool) : Encodes bool? (.bool value) value := ⟨.bool value, rfl⟩

theorem encodes_nat {limit n : Nat} (small : n < limit) : Encodes (nat? limit) (.nat n) n :=
  ⟨.number (List.forall_mem_nil _), Number.Numeral.toNat?_ofNat small⟩

theorem encodes_word {n : Nat} (small : n < 2 ^ 32) : Encodes word? (.nat n) n := encodes_nat small

theorem encodes_size {n : Nat} (small : n < 2 ^ 64) : Encodes size? (.nat n) n := encodes_nat small

theorem encodes_int {i : Int} (low : -2 ^ 31 ≤ i) (high : i < 2 ^ 31) : Encodes int? (.int i) i :=
  ⟨.number (List.forall_mem_nil _), Number.Numeral.toInt?_ofInt low high⟩

theorem encodes_list {α : Type} {element? : Json → Option α} {encode : α → Json} {values : List α}
    (each : ∀ value ∈ values, Encodes element? (encode value) value) :
    Encodes (list? element?) (.array (values.map encode)) values := by
  constructor
  · apply Clear.array
    intro element member
    obtain ⟨value, inside, rfl⟩ := List.mem_map.mp member
    exact (each value inside).clear
  · rw [list?]
    induction values with
    | nil => rfl
    | cons value values ih =>
      obtain ⟨first, others⟩ := List.forall_mem_cons.mp each
      rw [List.map_cons, List.mapM_cons, first.decodes, ih others]
      rfl

theorem encodes_orNull {α : Type} {value? : Json → Option α} {encode : α → Json}
    {value : Option α} (each : ∀ content ∈ value, Encodes value? (encode content) content)
    (present : ∀ content, encode content ≠ .null) :
    Encodes (option? value?) (orNull encode value) value := by
  cases value with
  | none => exact ⟨.null, rfl⟩
  | some content =>
    obtain ⟨clear, decodes⟩ := each content rfl
    refine ⟨clear, ?_⟩
    rw [orNull, option?, decodes, Option.map_some]
    exact present content

private theorem lookup_record (name : String) (members : List (String × Json)) :
    lookup name (members.map fun (name, value) => (some name, value)) = members.lookup name := by
  induction members with
  | nil => rfl
  | cons member members ih =>
    obtain ⟨other, value⟩ := member
    rw [List.map_cons, lookup, ih]
    by_cases same : other = name
    · simp [same]
    · simp [same, List.lookup_cons, beq_eq_false_iff_ne.mpr (Ne.symm same)]

theorem fields?_record {members : List (String × Json)} (apart : (members.map (·.1)).Nodup)
    (names : List String) (mayStop : Bool) :
    (record members).fields? names mayStop =
      some (names.map fun name => members.lookup name) := by
  have clear : membersClear names (members.map fun (name, value) => (some name, value)) := by
    rw [membersClear, Bool.and_eq_true, List.all_eq_true, List.all_eq_true]
    constructor
    · intro member inside
      obtain ⟨original, -, rfl⟩ := List.mem_map.mp inside
      rfl
    · intro name member
      have once := List.nodup_iff_count.mp apart name
      rw [List.count, List.countP_map, List.countP_eq_length_filter] at once
      rw [decide_eq_true_eq, List.filter_map, List.length_map]
      exact once
  simp only [record, fields?, clear, if_true, lookup_record]

end Json

namespace Codec

open Json

theorem encodes_byte (value : UInt8) : Encodes byte? (byte value) value := by
  have read := encodes_nat (UInt8.toNat_lt value)
  refine ⟨read.clear, ?_⟩
  rw [byte?, byte, read.decodes, Option.map_some, UInt8.ofNat_toNat]

theorem encodes_rgb (color : Rgb) : Encodes rgb? (rgb color) color := by
  constructor
  · apply Clear.record
    simp [(encodes_byte _).clear]
  · simp [rgb?, rgb, fields?_record, List.lookup_cons, (encodes_byte _).decodes]

theorem encodes_color (value : Color) : Encodes color? (color value) value := by
  cases value with
  | default => exact ⟨.text _, rfl⟩
  | indexed index =>
    constructor
    · apply Clear.record
      simp [(encodes_byte index).clear]
    · simp [color?, color, record, variant?, (encodes_byte index).decodes]
  | rgb components =>
    constructor
    · apply Clear.record
      simp only [List.mem_singleton, forall_eq]
      apply Clear.array
      simp [(encodes_byte _).clear]
    · simp [color?, color, record, variant?, components?, (encodes_byte _).decodes]

theorem encodes_attributes (value : Attributes) :
    Encodes attributes? (attributes value) value := by
  constructor
  · apply Clear.record
    simp [flag, Clear.bool, (encodes_color _).clear]
  · simp [attributes?, attributes, fields?_record, List.lookup_cons, flag,
      (encodes_color _).decodes, (encodes_bool _).decodes]

theorem encodes_char (c : Char) : Encodes char? (char c) c := by
  refine ⟨.text _, ?_⟩
  simp [char?, char, text, text?]

theorem encodes_briefCell (value : Cell) : Encodes briefCell? (briefCell value) value := by
  obtain ⟨c, attributes, width⟩ := value
  by_cases bare : attributes = {}
  · constructor
    · apply Clear.record
      simp [bare, (encodes_char c).clear, (encodes_byte width).clear]
    · simp [briefCell?, briefCell, bare, fields?_record, List.lookup_cons, (encodes_char c).decodes,
        (encodes_byte width).decodes]
  · constructor
    · apply Clear.record
      simp [bare, (encodes_char c).clear, (encodes_byte width).clear, (encodes_attributes _).clear]
    · simp [briefCell?, briefCell, bare, fields?_record, List.lookup_cons, (encodes_char c).decodes,
        (encodes_byte width).decodes, (encodes_attributes _).decodes]

theorem encodes_point {value : Point} (small : value.row < 2 ^ 64 ∧ value.column < 2 ^ 64) :
    Encodes point? (point value) value := by
  have row := encodes_size small.1
  have column := encodes_size small.2
  constructor
  · apply Clear.record
    simp [row.clear, column.clear]
  · simp [point?, point, fields?_record, List.lookup_cons, row.decodes, column.decodes]

end Codec
end CellScreen
