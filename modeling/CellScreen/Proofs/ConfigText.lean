import Mathlib
import CellScreen.Codec.Config
import CellScreen.Proofs.Codec
import CellScreen.Proofs.ShortestDecimal

/-! Configurations that are saved and loaded again. A text gives a configuration whose numbers are
in the range of their fields, and all of them are written so that they are read back, except a font
size that is infinite. -/
namespace CellScreen

namespace Codec

open Json

theorem encodes_single {x : Number.Single} (proper : x.Proper) (finite : x.isFinite) :
    Encodes single? (.single x) x := by
  cases x with
  | nan => exact proper.elim
  | infinite => exact absurd finite Bool.false_ne_true
  | finite negative mantissa exponent =>
    exact ⟨.number (Number.Decimal.toNumeral_fraction_lt negative _),
      Number.Single.toSingle?_shortest .even proper negative⟩

private theorem single_of_not_isFinite {x : Number.Single} (infinite : x.isFinite = false) :
    Json.single x = .null := by
  cases x with
  | finite => exact absurd infinite.symm Bool.false_ne_true
  | nan => rfl
  | infinite => rfl

end Codec

namespace Config

structure Sized (config : Config) : Prop where
  fontSize : config.fontSize.Proper
  dpi : config.dpi < 2 ^ 32
  columns : config.columns < 2 ^ 64
  rows : config.rows < 2 ^ 64

end Config

namespace Codec

open Json

private theorem lt_of_nat? {limit n : Nat} {json : Json} (read : json.nat? limit = some n) :
    n < limit := by
  cases json with
  | number numeral =>
    simp only [nat?, Number.Numeral.toNat?] at read
    split at read
    · next small =>
      cases read
      simpa using (Bool.and_eq_true_iff.mp small).2
    · cases read
  | _ => cases read

private theorem of_fieldOr {α : Type} {p : α → Prop} {default value : α} {value? : Json → Option α}
    {field : Option Json} (usual : p default)
    (each : ∀ {json value}, value? json = some value → p value)
    (read : fieldOr default value? field = some value) : p value := by
  cases field with
  | none =>
    cases read
    exact usual
  | some json => exact each read

private theorem proper_of_single? {json : Json} {x : Number.Single} (read : json.single? = some x) :
    x.Proper := by
  cases json with
  | number numeral => exact Number.Single.proper_of_toSingle? read
  | _ => cases read

private theorem sized_of_config? {json : Json} {value : Config} (read : config? json = some value) :
    value.Sized := by
  rw [config?] at read
  split at read
  · simp only [Option.bind_eq_bind, Option.bind_eq_some_iff, Option.pure_def,
      Option.some.injEq] at read
    obtain ⟨_, -, _, fontSize, _, dpi, _, columns, _, rows, _, -, rfl⟩ := read
    exact ⟨of_fieldOr (Number.Single.proper_round false 12 one_pos) proper_of_single? fontSize,
      of_fieldOr (p := (· < 2 ^ 32)) (by decide) lt_of_nat? dpi,
      of_fieldOr (p := (· < 2 ^ 64)) (by decide) lt_of_nat? columns,
      of_fieldOr (p := (· < 2 ^ 64)) (by decide) lt_of_nat? rows⟩
  · cases read

theorem encodes_config {value : Config} (sized : value.Sized) (finite : value.fontSize.isFinite) :
    Encodes config? (config value) value := by
  have fontSize := encodes_single sized.fontSize finite
  have dpi := encodes_word sized.dpi
  have columns := encodes_size sized.columns
  have rows := encodes_size sized.rows
  constructor
  · apply Clear.record
    simp [fontSize.clear, dpi.clear, columns.clear, rows.clear, Clear.text]
  · simp [config?, config, fields?_record, List.lookup_cons, fieldOr, fontSize.decodes, dpi.decodes,
      columns.decodes, rows.decodes, text, text?]

private theorem config?_of_infinite {value : Config} (infinite : value.fontSize.isFinite = false) :
    (config value).Clear ∧ config? (config value) = none := by
  have written := single_of_not_isFinite infinite
  constructor
  · apply Clear.record
    simp [written, Clear.null, Clear.text, nat, Clear.number, Number.Numeral.ofNat]
  · simp [config?, config, fields?_record, List.lookup_cons, fieldOr, written, single?]

end Codec

namespace Config

private theorem sized_of_ofText {text : String} {config : Config}
    (loaded : ofText text = .ok config) :
    config.Sized ∧ ∃ scheme, config.scheme = .ok scheme := by
  rw [ofText] at loaded
  split at loaded
  · cases loaded
  · next value read =>
    obtain ⟨json, -, decoded⟩ := Option.bind_eq_some_iff.mp read
    cases good : value.scheme with
    | error problem =>
      rw [good] at loaded
      cases loaded
    | ok scheme =>
      rw [good] at loaded
      cases loaded
      exact ⟨Codec.sized_of_config? decoded, scheme, good⟩

private theorem ofText_of_read {text : String} {json : Json} {config : Config} {scheme : Scheme}
    (read : Json.read? text = some json) (decoded : Codec.config? json = some config)
    (good : config.scheme = .ok scheme) : ofText text = .ok config := by
  rw [ofText, read, Option.bind_some, decoded]
  simp only [good]
  rfl

private theorem scheme_of_usual {config : Config} (usual : config.colorScheme = "gray-black") :
    config.scheme = .ok .grayBlack := by
  rw [scheme, usual]
  rfl

/-- A configuration that was loaded is the one that its text gives, unless the font size is
infinite: then the text gives none. -/
theorem ofText_toText {text : String} {config : Config} (loaded : ofText text = .ok config) :
    ofText config.toText =
      if config.fontSize.isFinite then .ok config else .error .malformed := by
  obtain ⟨sized, scheme, good⟩ := sized_of_ofText loaded
  split
  · next finite =>
    obtain ⟨clear, decodes⟩ := Codec.encodes_config sized finite
    exact ofText_of_read (Json.read?_prettyText clear) decodes good
  · next infinite =>
    obtain ⟨clear, decodes⟩ := Codec.config?_of_infinite (Bool.eq_false_iff.mpr infinite)
    rw [ofText, toText, Json.read?_prettyText clear, Option.bind_some, decodes]

theorem ofText_toText_of_tenth :
    let config : Config := { fontSize := .finite false 13421773 (-27), dpi := 120 }
    ofText "\x7b\"dpi\": 120, \"font_size\": 0.1\x7d" = .ok config ∧
      ofText config.toText = .ok config := by
  intro config
  have read : Json.read? "\x7b\"dpi\": 120, \"font_size\": 0.1\x7d" =
      some (.record [("dpi", .nat 120), ("font_size", .number ⟨false, 0, [1], none⟩)]) := by cbv
  have scaled : Number.Numeral.scaled ⟨false, 0, [1], none⟩ = (1, -1) := by decide +kernel
  have size : Number.Numeral.toSingle? ⟨false, 0, [1], none⟩ = some config.fontSize := by
    rw [Number.Numeral.toSingle?, Number.Numeral.toDouble?, scaled]
    decide +kernel
  have dpi : Json.word? (.nat 120) = some 120 := (Json.encodes_word (by decide)).decodes
  have loaded : ofText "\x7b\"dpi\": 120, \"font_size\": 0.1\x7d" = .ok config := by
    refine ofText_of_read read ?_ (scheme_of_usual rfl)
    simp [Codec.config?, Json.fields?_record, List.lookup_cons, Codec.fieldOr, Json.single?, size,
      dpi, config]
  exact ⟨loaded, ofText_toText loaded⟩

/-- A font size beyond single precision is accepted and then saved as what is no number. -/
theorem ofText_toText_ne_of_large :
    let config : Config := { fontSize := .infinite false }
    ofText "\x7b\"font_size\": 1e39\x7d" = .ok config ∧ ofText config.toText ≠ .ok config := by
  intro config
  have read : Json.read? "\x7b\"font_size\": 1e39\x7d" =
      some (.record [("font_size", .number ⟨false, 1, [], some 39⟩)]) := by cbv
  have scaled : Number.Numeral.scaled ⟨false, 1, [], some 39⟩ = (1, 39) := by decide +kernel
  have size : Number.Numeral.toSingle? ⟨false, 1, [], some 39⟩ = some config.fontSize := by
    rw [Number.Numeral.toSingle?, Number.Numeral.toDouble?, scaled]
    decide +kernel
  constructor
  · refine ofText_of_read read ?_ (scheme_of_usual rfl)
    simp [Codec.config?, Json.fields?_record, List.lookup_cons, Codec.fieldOr, Json.single?, size,
      config]
  · have infinite : config.fontSize.isFinite = false := rfl
    obtain ⟨clear, decodes⟩ := Codec.config?_of_infinite infinite
    rw [ofText, toText, Json.read?_prettyText clear, Option.bind_some, decodes]
    exact fun same => by cases same

end Config
end CellScreen
