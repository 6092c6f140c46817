import CellScreen.Proofs.Fields
import CellScreen.Proofs.Numerals
import CellScreen.Scheme

/-! The entries of a color scheme. An entry gives a color to what its name stands for, or it is at
fault, and then the first of its parts that cannot be read decides the error. -/
namespace CellScreen.Scheme

open Number (Writes)
open Text (Trims)

def Reads (base : Nat) (cs : List Char) (n : Nat) : Prop :=
  Writes base cs n ∨ ∃ digits, cs = '+' :: digits ∧ Writes base digits n

def RefersTo (text : List Char) (index : UInt8) : Prop :=
  ∃ rest, text = "color".toList ++ rest ∧ Reads 10 rest index.toNat

def Misrefers (text : List Char) : Prop :=
  ∃ rest, text = "color".toList ++ rest ∧ ∀ n < 256, ¬ Reads 10 rest n

inductive Names (name : List Char) : Target → Prop
  | foreground (same : name = "foreground".toList) : Names name .foreground
  | background (same : name = "background".toList) : Names name .background
  | entry {index : UInt8} (refers : RefersTo name index) : Names name (.entry index)

inductive Misnames (name : List Char) : SchemeError → Prop
  | unknown (fresh : name ≠ "foreground".toList ∧ name ≠ "background".toList)
      (apart : ¬ "color".toList <+: name) : Misnames name (.unknownName (String.ofList name))
  | index (misrefers : Misrefers name) : Misnames name (.invalidIndex (String.ofList name))

def IsComponent (part : List Char) (level : UInt8) : Prop :=
  (String.ofList part).utf8ByteSize ≤ 2 ∧ Reads 16 part level.toNat

def IsColor (text : List Char) (color : Rgb) : Prop :=
  ∃ red green blue, text = "rgb:".toList ++ red ++ '/' :: green ++ '/' :: blue ∧
    IsComponent red color.red ∧ IsComponent green color.green ∧ IsComponent blue color.blue

inductive Shows (table : UInt8 → Rgb) (text : List Char) : Rgb → Prop
  | entry {index : UInt8} (refers : RefersTo text index) : Shows table text (table index)
  | components {color : Rgb} (isColor : IsColor text color) : Shows table text color

inductive Misshows (text : List Char) : SchemeError → Prop
  | index (misrefers : Misrefers text) : Misshows text (.invalidIndex (String.ofList text))
  | color (apart : ¬ "color".toList <+: text) (unread : ∀ color, ¬ IsColor text color) :
      Misshows text (.invalidColor (String.ofList text))

def Splits (entry name text : List Char) : Prop :=
  ∃ before after, entry = before ++ ':' :: after ∧ ':' ∉ before ∧ Trims before name ∧
    Trims after text ∧ ∀ c ∈ name, ¬ Text.isBlank c

def Unsplit (entry : List Char) : Prop :=
  ':' ∉ entry ∨ ∃ before after name, entry = before ++ ':' :: after ∧ ':' ∉ before ∧
    Trims before name ∧ ∃ c ∈ name, Text.isBlank c

def Assigns (table : UInt8 → Rgb) (entry : List Char) (target : Target) (color : Rgb) : Prop :=
  ∃ name text, Splits entry name text ∧ Names name target ∧ Shows table text color

/-- The error of an entry that cannot be read: its separator is looked at first, then its name, and
its value last. -/
inductive Faulty (entry : List Char) : SchemeError → Prop
  | separator (unsplit : Unsplit entry) : Faulty entry (.missingSeparator (String.ofList entry))
  | name {name text : List Char} {error : SchemeError} (splits : Splits entry name text)
      (misnames : Misnames name error) : Faulty entry error
  | value {name text : List Char} {target : Target} {error : SchemeError}
      (splits : Splits entry name text) (names : Names name target)
      (misshows : Misshows text error) : Faulty entry error

private theorem not_writes_plus {base n : Nat} {digits : List Char} :
    ¬ Writes base ('+' :: digits) n := by
  rintro ⟨-, ds, read, -⟩
  obtain ⟨d, -, digit, -⟩ := List.forall₂_cons_left_iff.mp read
  have none : Number.hexValue? '+' = some d := Number.hexValue?_eq_some_iff.mpr digit
  cases none

theorem plusNumber?_eq_some_iff {base n : Nat} {cs : List Char} :
    plusNumber? base cs = some n ↔ Reads base cs n := by
  unfold plusNumber? Reads
  split
  · next digits =>
    rw [Number.ofText?_eq_some_iff]
    constructor
    · exact fun written => .inr ⟨digits, rfl, written⟩
    · rintro (written | ⟨_, same, written⟩)
      · exact absurd written not_writes_plus
      · rwa [(List.cons.inj same).2]
  · next unsigned =>
    rw [Number.ofText?_eq_some_iff]
    constructor
    · exact .inl
    · rintro (written | ⟨digits, same, written⟩)
      · exact written
      · exact absurd same (unsigned digits)

theorem colorIndex?_eq_some_iff {cs : List Char} {index : UInt8} :
    colorIndex? cs = some index ↔ Reads 10 cs index.toNat := by
  rw [← plusNumber?_eq_some_iff, colorIndex?]
  constructor
  · intro found
    split at found
    · next n read =>
      split at found
      · next below =>
        rw [read, ← Option.some.inj found, UInt8.toNat_ofNat_of_lt' below]
      · cases found
    · cases found
  · intro read
    rw [read]
    exact (if_pos index.toNat_lt).trans (congrArg some index.ofNat_toNat)

private theorem reference?_of_refersTo {text : List Char} {index : UInt8}
    (refers : RefersTo text index) :
    reference? text = some (.ok index) := by
  obtain ⟨rest, same, read⟩ := refers
  rw [reference?, Text.after?_eq_some_iff.mpr same, Option.map_some,
    colorIndex?_eq_some_iff.mpr read]

private theorem reference?_of_misrefers {text : List Char} (misrefers : Misrefers text) :
    reference? text = some (.error (.invalidIndex (String.ofList text))) := by
  obtain ⟨rest, same, unread⟩ := misrefers
  have none : colorIndex? rest = none := by
    rw [Option.eq_none_iff_forall_ne_some]
    exact fun index found => unread _ index.toNat_lt (colorIndex?_eq_some_iff.mp found)
  rw [reference?, Text.after?_eq_some_iff.mpr same, Option.map_some, none]

private theorem reference?_of_apart {text : List Char} (apart : ¬ "color".toList <+: text) :
    reference? text = none := by
  rw [reference?, Option.map_eq_none_iff, Option.eq_none_iff_forall_ne_some]
  exact fun rest found => apart ⟨rest, (Text.after?_eq_some_iff.mp found).symm⟩

private theorem refersTo_cases (text : List Char) :
    (∃ index, RefersTo text index) ∨ Misrefers text ∨ ¬ "color".toList <+: text := by
  by_cases begins : "color".toList <+: text
  · obtain ⟨rest, same⟩ := begins
    by_cases read : ∃ n < 256, Reads 10 rest n
    · obtain ⟨n, below, read⟩ := read
      refine .inl ⟨UInt8.ofNat n, rest, same.symm, ?_⟩
      rwa [UInt8.toNat_ofNat_of_lt' below]
    · exact .inr (.inl ⟨rest, same.symm, fun n below reads => read ⟨n, below, reads⟩⟩)
  · exact .inr (.inr begins)

private theorem fresh_of_begins {name rest : List Char} (begins : name = "color".toList ++ rest) :
    name ≠ "foreground".toList ∧ name ≠ "background".toList := by
  rw [begins]
  exact ⟨by simp, by simp⟩

private theorem target_of_names {name : List Char} {target : Target} (names : Names name target) :
    Scheme.target name = .ok target := by
  cases names with
  | foreground same => exact if_pos same
  | background same =>
    rw [same]
    rfl
  | entry refers =>
    obtain ⟨rest, begins, reads⟩ := refers
    have fresh := fresh_of_begins begins
    rw [Scheme.target, if_neg fresh.1, if_neg fresh.2,
      reference?_of_refersTo ⟨rest, begins, reads⟩]
    rfl

private theorem target_of_misnames {name : List Char} {error : SchemeError}
    (misnames : Misnames name error) : Scheme.target name = .error error := by
  cases misnames with
  | unknown fresh apart =>
    rw [Scheme.target, if_neg fresh.1, if_neg fresh.2, reference?_of_apart apart]
  | index misrefers =>
    obtain ⟨rest, begins, unread⟩ := misrefers
    have fresh := fresh_of_begins begins
    rw [Scheme.target, if_neg fresh.1, if_neg fresh.2,
      reference?_of_misrefers ⟨rest, begins, unread⟩]
    rfl

private theorem names_cases (name : List Char) :
    (∃ target, Names name target) ∨ ∃ error, Misnames name error := by
  by_cases foreground : name = "foreground".toList
  · exact .inl ⟨_, .foreground foreground⟩
  by_cases background : name = "background".toList
  · exact .inl ⟨_, .background background⟩
  obtain ⟨index, refers⟩ | misrefers | apart := refersTo_cases name
  · exact .inl ⟨_, .entry refers⟩
  · exact .inr ⟨_, .index misrefers⟩
  · exact .inr ⟨_, .unknown ⟨foreground, background⟩ apart⟩

private theorem Reads.isDigit {base n : Nat} {cs : List Char} (reads : Reads base cs n) {c : Char}
    (member : c ∈ cs) : c = '+' ∨ ∃ d, Number.IsDigit c d := by
  rcases reads with written | ⟨digits, rfl, written⟩
  · exact .inr (written.isDigit member)
  · exact (List.mem_cons.mp member).imp_right written.isDigit

private theorem Reads.lt {base n : Nat} {cs : List Char} (reads : Reads base cs n)
    (large : 1 < base) :
    n < base ^ cs.length := by
  rcases reads with written | ⟨digits, rfl, written⟩
  · exact written.lt large
  · exact Nat.lt_of_lt_of_le (written.lt large)
      (Nat.pow_le_pow_right (Nat.zero_lt_of_lt large) (Nat.le_succ _))

theorem Reads.lt_of_short {n : Nat} {part : List Char} (reads : Reads 16 part n)
    (short : part.length ≤ 2) : n < 256 :=
  Nat.lt_of_lt_of_le (reads.lt (by decide)) (Nat.pow_le_pow_right (by decide) short)

theorem Reads.ascii {base n : Nat} {cs : List Char} (reads : Reads base cs n) :
    (String.ofList cs).utf8ByteSize = cs.length ∧ '/' ∉ cs := by
  have digits : ∀ d < 16, (Nat.digitChar d).utf8Size = 1 ∧ (Nat.digitChar d).toUpper.utf8Size = 1 ∧
      '/' ≠ Nat.digitChar d ∧ '/' ≠ (Nat.digitChar d).toUpper := by decide
  have single : ∀ c ∈ cs, c.utf8Size = 1 ∧ '/' ≠ c := by
    intro c member
    obtain rfl | ⟨d, below, rfl | rfl⟩ := reads.isDigit member
    · decide
    · exact ⟨(digits d below).1, (digits d below).2.2.1⟩
    · exact ⟨(digits d below).2.1, (digits d below).2.2.2⟩
  refine ⟨?_, fun slash => (single _ slash).2 rfl⟩
  clear reads
  induction cs with
  | nil => rfl
  | cons c cs ih =>
    obtain ⟨first, more⟩ := List.forall_mem_cons.mp single
    have rest := ih more
    simp [first.1, rest, Nat.add_comm]

theorem component?_eq_some_iff {part : List Char} {level : UInt8} :
    component? part = some level ↔ IsComponent part level := by
  unfold component? IsComponent
  constructor
  · intro found
    split at found
    · next short =>
      obtain ⟨n, read, rfl⟩ := Option.map_eq_some_iff.mp found
      have reads := plusNumber?_eq_some_iff.mp read
      rw [reads.ascii.1, UInt8.toNat_ofNat_of_lt' (reads.lt_of_short short)]
      exact ⟨short, reads⟩
    · cases found
  · rintro ⟨short, reads⟩
    rw [reads.ascii.1] at short
    rw [if_pos short, plusNumber?_eq_some_iff.mpr reads, Option.map_some, UInt8.ofNat_toNat]

private theorem intercalate_three (separator : Char) (first second third : List Char) :
    [separator].intercalate [first, second, third] =
      first ++ separator :: second ++ separator :: third := by
  simp [List.intercalate]

theorem components?_eq_some_iff {parts : List Char} {color : Rgb} :
    components? (Text.fields '/' parts) = some color ↔ ∃ red green blue,
      parts = red ++ '/' :: green ++ '/' :: blue ∧
      IsComponent red color.red ∧ IsComponent green color.green ∧ IsComponent blue color.blue := by
  simp only [← component?_eq_some_iff, Text.fields_eq_splitOn]
  constructor
  · intro found
    unfold components? at found
    split at found
    · next red green blue pieces =>
      have joined : ['/'].intercalate (parts.splitOn '/') = parts := List.intercalate_splitOn '/'
      rw [pieces, intercalate_three] at joined
      obtain ⟨r, isRed, found⟩ := Option.bind_eq_some_iff.mp found
      obtain ⟨g, isGreen, found⟩ := Option.bind_eq_some_iff.mp found
      obtain ⟨b, isBlue, found⟩ := Option.bind_eq_some_iff.mp found
      cases found
      exact ⟨red, green, blue, joined.symm, isRed, isGreen, isBlue⟩
    · cases found
  · rintro ⟨red, green, blue, rfl, isRed, isGreen, isBlue⟩
    have apart : ∀ part ∈ [red, green, blue], '/' ∉ part := by
      have of_component {part : List Char} {level : UInt8} (found : component? part = some level) :
          '/' ∉ part := (component?_eq_some_iff.mp found).2.ascii.2
      simp [of_component isRed, of_component isGreen, of_component isBlue]
    have pieces := List.splitOn_intercalate '/' apart (List.cons_ne_nil _ _)
    rw [intercalate_three] at pieces
    rw [pieces, components?, isRed, isGreen, isBlue]
    rfl

private theorem isColor_iff {text : List Char} {color : Rgb} : IsColor text color ↔
    ((Text.after? "rgb:".toList text).bind fun parts => components? (Text.fields '/' parts)) =
      some color := by
  rw [Option.bind_eq_some_iff]
  constructor
  · rintro ⟨red, green, blue, same, components⟩
    refine ⟨red ++ '/' :: green ++ '/' :: blue, ?_,
      components?_eq_some_iff.mpr ⟨red, green, blue, rfl, components⟩⟩
    rw [Text.after?_eq_some_iff, same]
    simp only [List.append_assoc]
  · rintro ⟨parts, begins, read⟩
    obtain ⟨red, green, blue, rfl, components⟩ := components?_eq_some_iff.mp read
    refine ⟨red, green, blue, ?_, components⟩
    rw [Text.after?_eq_some_iff.mp begins]
    simp only [List.append_assoc]

private theorem IsColor.apart {text : List Char} {color : Rgb} (isColor : IsColor text color) :
    ¬ "color".toList <+: text := by
  obtain ⟨red, green, blue, rfl, -⟩ := isColor
  simp

private theorem value_of_shows {table : ColorTable} {text : List Char} {color : Rgb}
    (shows : Shows table.get text color) : value table text = .ok color := by
  cases shows with
  | entry refers =>
    rw [value, reference?_of_refersTo refers]
    rfl
  | components isColor => rw [value, reference?_of_apart isColor.apart, isColor_iff.mp isColor]

private theorem value_of_misshows {table : ColorTable} {text : List Char} {error : SchemeError}
    (misshows : Misshows text error) : value table text = .error error := by
  cases misshows with
  | index misrefers =>
    rw [value, reference?_of_misrefers misrefers]
    rfl
  | color apart unread =>
    rw [value, reference?_of_apart apart,
      Option.eq_none_iff_forall_ne_some.mpr fun color read => unread color (isColor_iff.mpr read)]

private theorem shows_cases (table : UInt8 → Rgb) (text : List Char) :
    (∃ color, Shows table text color) ∨ ∃ error, Misshows text error := by
  obtain ⟨index, refers⟩ | misrefers | apart := refersTo_cases text
  · exact .inl ⟨_, .entry refers⟩
  · exact .inr ⟨_, .index misrefers⟩
  · by_cases read : ∃ color, IsColor text color
    · obtain ⟨color, isColor⟩ := read
      exact .inl ⟨_, .components isColor⟩
    · exact .inr ⟨_, .color apart (not_exists.mp read)⟩

private theorem nameAndValue_of_splits {entry name text : List Char}
    (splits : Splits entry name text) :
    nameAndValue entry = .ok (name, text) := by
  obtain ⟨before, after, rfl, apart, nameTrims, textTrims, solid⟩ := splits
  have none : ¬ name.any Text.isBlank := by
    rw [List.any_eq_true]
    exact fun ⟨c, member, blank⟩ => solid c member blank
  rw [nameAndValue, Text.cut_append apart]
  dsimp only
  rw [nameTrims.trim_eq, textTrims.trim_eq, if_neg none]

private theorem nameAndValue_of_unsplit {entry : List Char} (unsplit : Unsplit entry) :
    nameAndValue entry = .error (.missingSeparator (String.ofList entry)) := by
  rcases unsplit with apart | ⟨before, after, name, rfl, apart, trims, blank⟩
  · rw [nameAndValue, Text.cut_of_not_mem apart]
  · rw [nameAndValue, Text.cut_append apart]
    dsimp only
    rw [trims.trim_eq, if_pos (List.any_eq_true.mpr blank)]

private theorem splits_cases (entry : List Char) :
    (∃ name text, Splits entry name text) ∨ Unsplit entry := by
  obtain apart | ⟨before, after, same, apart⟩ := Text.cut_cases ':' entry
  · exact .inr (.inl apart)
  · by_cases blank : ∃ c ∈ Text.trim before, Text.isBlank c
    · exact .inr (.inr ⟨before, after, _, same, apart, Text.trims_trim before, blank⟩)
    · have solid : ∀ c ∈ Text.trim before, ¬ Text.isBlank c := fun c member white =>
        blank ⟨c, member, white⟩
      exact .inl ⟨_, _, before, after, same, apart, Text.trims_trim before,
        Text.trims_trim after, solid⟩

theorem assigns_cases (table : UInt8 → Rgb) (entry : List Char) :
    (∃ target color, Assigns table entry target color) ∨ ∃ error, Faulty entry error := by
  obtain ⟨name, text, splits⟩ | unsplit := splits_cases entry
  · obtain ⟨target, names⟩ | ⟨error, misnames⟩ := names_cases name
    · obtain ⟨color, shows⟩ | ⟨error, misshows⟩ := shows_cases table text
      · exact .inl ⟨target, color, name, text, splits, names, shows⟩
      · exact .inr ⟨error, .value splits names misshows⟩
    · exact .inr ⟨error, .name splits misnames⟩
  · exact .inr ⟨_, .separator unsplit⟩

variable {progress : Progress} {entry : List Char} {target : Target} {color : Rgb}
  {error : SchemeError}

private theorem assignEntry_of_splits {name text : List Char} (splits : Splits entry name text) :
    assignEntry progress entry = (Scheme.target name).bind fun target =>
      (value progress.table text).bind fun color => .ok (progress.assign target color) := by
  rw [assignEntry, nameAndValue_of_splits splits]
  rfl

theorem assignEntry_of_assigns (assigns : Assigns progress.table.get entry target color) :
    assignEntry progress entry = .ok (progress.assign target color) := by
  obtain ⟨name, text, splits, names, shows⟩ := assigns
  rw [assignEntry_of_splits splits, target_of_names names, Except.bind, value_of_shows shows,
    Except.bind]

theorem assignEntry_of_faulty (faulty : Faulty entry error) :
    assignEntry progress entry = .error error := by
  cases faulty with
  | separator unsplit =>
    rw [assignEntry, nameAndValue_of_unsplit unsplit]
    rfl
  | name splits misnames =>
    rw [assignEntry_of_splits splits, target_of_misnames misnames, Except.bind]
  | value splits names misshows =>
    rw [assignEntry_of_splits splits, target_of_names names, Except.bind,
      value_of_misshows misshows, Except.bind]

end CellScreen.Scheme
