import Mathlib.Tactic.SplitIfs
import CellScreen.Json.Printer
import CellScreen.Json.Reader

/-! Reading numerals and strings back from their texts, whatever follows. A numeral ends before a
character that cannot continue it. -/
namespace CellScreen

namespace Number

private theorem digitValue_digitChar {d : Nat} (small : d < 10) : digitValue (digitChar d) = d := by
  have all : ∀ d < 10, digitValue (digitChar d) = d := by decide
  exact all d small

private theorem isDigit_digitChar {d : Nat} (small : d < 10) : (digitChar d).isDigit := by
  have all : ∀ d < 10, (digitChar d).isDigit := by decide
  exact all d small

private theorem hexValue?_hexDigit {n : Nat} (small : n < 16) :
    hexValue? (hexDigit n) = some n := by
  have all : ∀ n < 16, hexValue? (hexDigit n) = some n := by decide
  exact all n small

private theorem head_digits_ne_zero {n : Nat} (positive : 0 < n) : (digits n).head? ≠ some 0 := by
  induction n using digits.induct with
  | case1 n small =>
    rw [digits, if_pos small]
    simpa using Nat.ne_of_gt positive
  | case2 n large ih =>
    rw [digits, if_neg large, List.head?_append, Option.or_of_isSome]
    · exact ih (by omega)
    · exact List.isSome_head?.mpr (digits_ne_nil _)

end Number

namespace Json

open Number (Numeral digits digitText decimal digitValue digitChar ofDigits)

def EndsDigits (rest : List Char) : Prop := ∀ c ∈ rest.head?, c.isDigit = false

def Ends (rest : List Char) : Prop :=
  ∀ c ∈ rest.head?, c.isDigit = false ∧ c ≠ '.' ∧ c ≠ 'e' ∧ c ≠ 'E'

variable {rest : List Char}

private theorem Ends.endsDigits (ends : Ends rest) :
    EndsDigits rest := fun c first => (ends c first).1

private theorem readDigits_digitText {ds : List Nat} (small : ∀ d ∈ ds, d < 10)
    (ends : EndsDigits rest) :
    readDigits (digitText ds ++ rest) = (ds, rest) := by
  have written : ∀ c ∈ digitText ds, c.isDigit := by
    intro c member
    obtain ⟨d, inside, rfl⟩ := List.mem_map.mp member
    exact Number.isDigit_digitChar (small d inside)
  have none : rest.takeWhile Char.isDigit = [] ∧ rest.dropWhile Char.isDigit = rest := by
    cases rest with
    | nil => exact ⟨rfl, rfl⟩
    | cons c rest => simp [ends c rfl]
  have values : (digitText ds).map digitValue = ds := by
    rw [digitText, List.map_map]
    exact (List.map_congr_left fun d member =>
      Number.digitValue_digitChar (small d member)).trans (List.map_id ds)
  rw [readDigits, List.takeWhile_append_of_pos written, List.dropWhile_append_of_pos written,
    none.1, none.2, List.append_nil, values]

private theorem readDigits_decimal (n : Nat) (ends : EndsDigits rest) :
    readDigits (decimal n ++ rest) = (digits n, rest) :=
  readDigits_digitText (Number.digits_lt_ten n) ends

private theorem readPower_decimal (power : Int) (ends : EndsDigits rest) :
    readPower ((if power < 0 then '-' else '+') :: (decimal power.natAbs ++ rest)) =
      some (power, rest) := by
  have digits_eq := readDigits_decimal power.natAbs ends
  have value := Number.ofDigits_digits power.natAbs
  obtain ⟨d, ds, written⟩ := List.exists_cons_of_ne_nil (Number.digits_ne_nil power.natAbs)
  rw [written] at digits_eq value
  by_cases below : power < 0
  · rw [if_pos below]
    simp only [readPower, digits_eq, value, if_true]
    congr 2
    omega
  · rw [if_neg below]
    simp only [readPower, digits_eq, value, Bool.false_eq_true, if_false]
    congr 2
    omega

def fractionText (fraction : List Nat) : List Char :=
  if fraction.isEmpty then [] else '.' :: digitText fraction

def powerText : Option Int → List Char
  | none => []
  | some power => 'e' :: (if power < 0 then '-' else '+') :: decimal power.natAbs

theorem numeralText_eq (numeral : Numeral) : numeralText numeral =
    (if numeral.negative then ['-'] else []) ++ decimal numeral.whole ++
      fractionText numeral.fraction ++ powerText numeral.exponent := rfl

private theorem endsDigits_power (exponent : Option Int) (ends : Ends rest) :
    EndsDigits (powerText exponent ++ rest) ∧
      ∀ c ∈ (powerText exponent ++ rest).head?, c ≠ '.' := by
  cases exponent with
  | none => exact ⟨ends.endsDigits, fun c first => (ends c first).2.1⟩
  | some power =>
    constructor
    · rintro c ⟨⟩
      rfl
    · rintro c ⟨⟩
      decide

private theorem endsDigits_fraction (fraction : List Nat) (ends : EndsDigits rest) :
    EndsDigits (fractionText fraction ++ rest) := by
  cases fraction with
  | nil => exact ends
  | cons d ds =>
    rintro c ⟨⟩
    rfl

private theorem readExponent_powerText (exponent : Option Int) (ends : Ends rest) :
    readExponent (powerText exponent ++ rest) = some (exponent, rest) := by
  cases exponent with
  | none =>
    cases rest with
    | nil => rfl
    | cons c rest =>
      obtain ⟨-, -, lower, upper⟩ := ends c rfl
      simp [powerText, readExponent, lower, upper]
  | some power =>
    simp only [powerText, List.cons_append, readExponent, readPower_decimal power ends.endsDigits,
      Option.map_some]

private theorem readFraction_fractionText {fraction : List Nat} (small : ∀ d ∈ fraction, d < 10)
    (ends : EndsDigits rest) (noPoint : ∀ c ∈ rest.head?, c ≠ '.') :
    readFraction (fractionText fraction ++ rest) = some (fraction, rest) := by
  cases fraction with
  | nil =>
    cases rest with
    | nil => rfl
    | cons c rest => simp [fractionText, readFraction, noPoint c rfl]
  | cons d ds =>
    have read := readDigits_digitText small ends
    simp only [fractionText, List.isEmpty_cons, Bool.false_eq_true, if_false, List.cons_append,
      readFraction, read]

private theorem no_leading_zero (n : Nat) : ((digits n).isEmpty ||
    ((digits n).length > 1 && (digits n).head? == some 0)) = false := by
  rw [List.isEmpty_eq_false_iff.mpr (Number.digits_ne_nil n), Bool.false_or, Bool.and_eq_false_iff]
  cases n with
  | zero =>
    left
    rw [digits]
    rfl
  | succ n =>
    right
    exact beq_eq_false_iff_ne.mpr (Number.head_digits_ne_zero n.succ_pos)

private theorem readUnsigned_written {numeral : Numeral} (small : ∀ d ∈ numeral.fraction, d < 10)
    (ends : Ends rest) :
    readUnsigned numeral.negative (decimal numeral.whole ++ (fractionText numeral.fraction ++
      (powerText numeral.exponent ++ rest))) = some (numeral, rest) := by
  obtain ⟨endsPower, noPoint⟩ := endsDigits_power numeral.exponent ends
  have endsFraction := endsDigits_fraction numeral.fraction endsPower
  rw [readUnsigned, readDigits_decimal numeral.whole endsFraction]
  dsimp only
  rw [no_leading_zero, readFraction_fractionText small endsPower noPoint]
  dsimp only [Option.bind_eq_bind, Option.bind_some]
  rw [readExponent_powerText numeral.exponent ends, Number.ofDigits_digits]
  rfl

theorem exists_decimal_eq_cons (n : Nat) : ∃ c cs, decimal n = c :: cs ∧ c.isDigit := by
  obtain ⟨d, ds, written⟩ := List.exists_cons_of_ne_nil (Number.digits_ne_nil n)
  have small : d < 10 := Number.digits_lt_ten n d (written ▸ List.mem_cons_self)
  exact ⟨digitChar d, digitText ds, by rw [decimal, written]; rfl, Number.isDigit_digitChar small⟩

theorem readNumeral_numeralText {numeral : Numeral} (small : ∀ d ∈ numeral.fraction, d < 10)
    (ends : Ends rest) : readNumeral (numeralText numeral ++ rest) = some (numeral, rest) := by
  have read := readUnsigned_written small ends
  rw [numeralText_eq]
  simp only [List.append_assoc]
  cases negative : numeral.negative with
  | true =>
    rw [negative] at read
    exact read
  | false =>
    obtain ⟨c, cs, written, digit⟩ := exists_decimal_eq_cons numeral.whole
    have unsigned : c ≠ '-' := by
      rintro rfl
      cases digit
    rw [negative, written] at read
    rw [written, ← read]
    simp [readNumeral, unsigned]

private theorem escaped_cases (c : Char) :
    (∃ letter, escaped c = ['\\', letter] ∧ shortEscape? letter = some c) ∨
    (c.toNat < 0x20 ∧ escaped c =
      ['\\', 'u', '0', '0', Number.hexDigit (c.toNat / 16), Number.hexDigit (c.toNat % 16)]) ∨
    (c ≠ '"' ∧ c ≠ '\\' ∧ ¬ c.toNat < 0x20 ∧ escaped c = [c]) := by
  unfold escaped
  split_ifs with quote backslash backspace tab newLine formFeed carriageReturn control
  · exact .inl ⟨_, rfl, congrArg some quote.symm⟩
  · exact .inl ⟨_, rfl, congrArg some backslash.symm⟩
  · exact .inl ⟨_, rfl, congrArg some backspace.symm⟩
  · exact .inl ⟨_, rfl, congrArg some tab.symm⟩
  · exact .inl ⟨_, rfl, congrArg some newLine.symm⟩
  · exact .inl ⟨_, rfl, congrArg some formFeed.symm⟩
  · exact .inl ⟨_, rfl, congrArg some carriageReturn.symm⟩
  · exact .inr (.inl ⟨control, rfl⟩)
  · exact .inr (.inr ⟨quote, backslash, control, rfl⟩)

private theorem readEscape_short {letter c : Char} (short : shortEscape? letter = some c)
    (rest : List Char) : readEscape (letter :: rest) = some (some c, rest) := by
  have other : letter ≠ 'u' := by
    rintro rfl
    cases short
  rw [readEscape, short, Option.map_some]
  exact other

private theorem readEscape_control {c : Char} (control : c.toNat < 0x20) (rest : List Char) :
    readEscape ('u' :: '0' :: '0' :: Number.hexDigit (c.toNat / 16) ::
      Number.hexDigit (c.toNat % 16) :: rest) = some (some c, rest) := by
  have zero : Number.hexValue? '0' = some 0 := by decide
  have high : Number.hexValue? (Number.hexDigit (c.toNat / 16)) = some (c.toNat / 16) :=
    Number.hexValue?_hexDigit (by omega)
  have low : Number.hexValue? (Number.hexDigit (c.toNat % 16)) = some (c.toNat % 16) :=
    Number.hexValue?_hexDigit (by omega)
  have unit : ((0 * 16 + 0) * 16 + c.toNat / 16) * 16 + c.toNat % 16 = c.toNat := by omega
  have noHigh : isHighSurrogate c.toNat = false := by
    simp [isHighSurrogate]
    omega
  have noLow : isLowSurrogate c.toNat = false := by
    simp [isLowSurrogate]
    omega
  simp only [readEscape, readUnit, zero, high, low, unit, noHigh, noLow, Option.bind_eq_bind,
    Option.bind_some, Bool.false_eq_true, if_false, Char.ofNat_toNat]

private theorem readCharacters_escaped (c : Char) (budget : Nat) (rest : List Char) :
    readCharacters (budget + 1) (escaped c ++ rest) =
      (readCharacters budget rest).map fun (more, rest) => (more.map (c :: ·), rest) := by
  rcases escaped_cases c with ⟨letter, written, short⟩ | ⟨control, written⟩ |
    ⟨quote, backslash, plain, written⟩
  · rw [written]
    simp only [List.cons_append, List.nil_append, readCharacters, readEscape_short short]
    rfl
  · rw [written]
    simp only [List.cons_append, List.nil_append, readCharacters, readEscape_control control]
    rfl
  · rw [written]
    simp only [List.cons_append, List.nil_append, readCharacters, quote, backslash, plain, if_false]

private theorem readCharacters_flatMap_escaped (text : List Char) {budget : Nat}
    (enough : text.length < budget) (rest : List Char) :
    readCharacters budget (text.flatMap escaped ++ '"' :: rest) = some (some text, rest) := by
  induction text generalizing budget with
  | nil =>
    obtain ⟨budget, rfl⟩ := Nat.exists_eq_add_of_lt enough
    rfl
  | cons c text ih =>
    obtain ⟨budget, rfl⟩ := Nat.exists_eq_succ_of_ne_zero (Nat.ne_zero_of_lt enough)
    rw [List.flatMap_cons, List.append_assoc, readCharacters_escaped,
      ih (Nat.lt_of_succ_lt_succ enough)]
    rfl

theorem escaped_ne_nil (c : Char) : escaped c ≠ [] := by
  rcases escaped_cases c with ⟨letter, written, -⟩ | ⟨-, written⟩ | ⟨-, -, -, written⟩ <;>
    simp [written]

private theorem length_le_flatMap_escaped (text : List Char) :
    text.length ≤ (text.flatMap escaped).length := by
  induction text with
  | nil => exact Nat.le_refl 0
  | cons c text ih =>
    have positive := List.length_pos_iff.mpr (escaped_ne_nil c)
    rw [List.flatMap_cons, List.length_append, List.length_cons]
    omega

theorem readString_escaped (text : String) (rest : List Char) :
    readString (text.toList.flatMap escaped ++ '"' :: rest) = some (some text, rest) := by
  have enough : text.toList.length < (text.toList.flatMap escaped ++ '"' :: rest).length + 1 := by
    have le := length_le_flatMap_escaped text.toList
    rw [List.length_append]
    omega
  rw [readString, readCharacters_flatMap_escaped text.toList enough]
  simp

end Json
end CellScreen
