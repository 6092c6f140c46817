import CellScreen.Proofs.SchemeText

/-! The documented form of color schemes. All texts of that form are read, and what else is read has
a plus sign before a number. -/
namespace CellScreen.Scheme

open Number (Writes IsDigit)
open Text (Trims)

def IsReference (text : List Char) : Prop :=
  ∃ digits n, text = "color".toList ++ digits ∧ Writes 10 digits n ∧ n < 256

def IsLevel (part : List Char) : Prop := part.length ≤ 2 ∧ ∃ n, Writes 16 part n

def IsHexColor (text : List Char) : Prop :=
  ∃ red green blue, text = "rgb:".toList ++ red ++ '/' :: green ++ '/' :: blue ∧
    IsLevel red ∧ IsLevel green ∧ IsLevel blue

def IsName (name : List Char) : Prop :=
  name = "foreground".toList ∨ name = "background".toList ∨ IsReference name

def IsValue (text : List Char) : Prop := IsReference text ∨ IsHexColor text

def Documented (entry : List Char) : Prop :=
  ∃ before after name text, entry = before ++ ':' :: after ∧ Trims before name ∧ Trims after text ∧
    IsName name ∧ IsValue text

/-- The documented form of a text: the name of a scheme, or entries of the documented form. -/
def DocumentedText (spec : String) : Prop :=
  String.ofList (Text.trim spec.toList) ∈ schemeNames ∨
    ∀ entry ∈ listed (Text.trim spec.toList), Documented entry

def IsLetter (c : Char) : Prop := c ≠ '+' ∧ c ≠ ':' ∧ ¬ Text.isBlank c

instance (c : Char) : Decidable (IsLetter c) := inferInstanceAs (Decidable (_ ∧ _ ∧ _))

private theorem isLetter_of_all {word : List Char} (all : word.all (IsLetter ·)) :
    ∀ c ∈ word, IsLetter c := fun c member => of_decide_eq_true (List.all_eq_true.mp all c member)

private theorem isLetter_of_writes {base n : Nat} {digits : List Char}
    (writes : Writes base digits n) :
    ∀ c ∈ digits, IsLetter c := by
  have all : ∀ d < 16, IsLetter (Nat.digitChar d) ∧ IsLetter (Nat.digitChar d).toUpper := by decide
  intro c member
  obtain ⟨d, below, rfl | rfl⟩ := writes.isDigit member
  · exact (all d below).1
  · exact (all d below).2

private theorem IsReference.isLetter {text : List Char} (isReference : IsReference text) :
    ∀ c ∈ text, IsLetter c := by
  obtain ⟨digits, n, rfl, writes, -⟩ := isReference
  have word : ∀ c ∈ "color".toList, IsLetter c := isLetter_of_all (by decide)
  intro c member
  exact (List.mem_append.mp member).elim (word c) (isLetter_of_writes writes c)

private theorem IsName.isLetter {name : List Char} (isName : IsName name) :
    ∀ c ∈ name, IsLetter c := by
  rcases isName with rfl | rfl | isReference
  · exact isLetter_of_all (by decide)
  · exact isLetter_of_all (by decide)
  · exact isReference.isLetter

private theorem IsValue.plus_not_mem {text : List Char} (isValue : IsValue text) : '+' ∉ text := by
  have level {part : List Char} (isLevel : IsLevel part) : '+' ∉ part := fun plus => by
    obtain ⟨-, n, writes⟩ := isLevel
    exact (isLetter_of_writes writes _ plus).1 rfl
  rcases isValue with isReference | ⟨red, green, blue, rfl, isRed, isGreen, isBlue⟩
  · exact fun plus => (isReference.isLetter _ plus).1 rfl
  · simp [level isRed, level isGreen, level isBlue]

private theorem Documented.plus_not_mem {entry : List Char} (documented : Documented entry) :
    '+' ∉ entry := by
  obtain ⟨before, after, name, text, rfl, nameTrims, textTrims, isName, isValue⟩ := documented
  have solid : ¬ Text.isBlank '+' := by decide
  intro plus
  rcases List.mem_append.mp plus with inName | rest
  · exact (isName.isLetter _ (nameTrims.mem_of_solid inName solid)).1 rfl
  · rcases List.mem_cons.mp rest with colon | inText
    · exact absurd colon (by decide)
    · exact isValue.plus_not_mem (textTrims.mem_of_solid inText solid)

private theorem IsReference.refersTo {text : List Char} (isReference : IsReference text) :
    ∃ index, RefersTo text index := by
  obtain ⟨digits, n, same, writes, below⟩ := isReference
  refine ⟨UInt8.ofNat n, digits, same, .inl ?_⟩
  rwa [UInt8.toNat_ofNat_of_lt' below]

private theorem IsLevel.isComponent {part : List Char} (isLevel : IsLevel part) :
    ∃ level, IsComponent part level := by
  obtain ⟨short, n, writes⟩ := isLevel
  have reads : Reads 16 part n := .inl writes
  refine ⟨UInt8.ofNat n, ?_, ?_⟩
  · rwa [reads.ascii.1]
  · rwa [UInt8.toNat_ofNat_of_lt' (reads.lt_of_short short)]

private theorem IsName.names {name : List Char} (isName : IsName name) :
    ∃ target, Names name target := by
  rcases isName with same | same | isReference
  · exact ⟨_, .foreground same⟩
  · exact ⟨_, .background same⟩
  · obtain ⟨index, refers⟩ := isReference.refersTo
    exact ⟨_, .entry refers⟩

private theorem IsValue.shows {text : List Char} (isValue : IsValue text) (table : UInt8 → Rgb) :
    ∃ color, Shows table text color := by
  rcases isValue with isReference | ⟨red, green, blue, same, isRed, isGreen, isBlue⟩
  · obtain ⟨index, refers⟩ := isReference.refersTo
    exact ⟨_, .entry refers⟩
  · obtain ⟨r, isRed⟩ := isRed.isComponent
    obtain ⟨g, isGreen⟩ := isGreen.isComponent
    obtain ⟨b, isBlue⟩ := isBlue.isComponent
    exact ⟨⟨r, g, b⟩, .components ⟨red, green, blue, same, isRed, isGreen, isBlue⟩⟩

/-- An entry of the documented form can be read. -/
theorem Documented.assigns {entry : List Char} (documented : Documented entry)
    (table : UInt8 → Rgb) : ∃ target color, Assigns table entry target color := by
  obtain ⟨before, after, name, text, same, nameTrims, textTrims, isName, isValue⟩ := documented
  obtain ⟨target, names⟩ := isName.names
  obtain ⟨color, shows⟩ := isValue.shows table
  have apart : ':' ∉ before := fun colon =>
    (isName.isLetter _ (nameTrims.mem_of_solid colon (by decide))).2.1 rfl
  have solid : ∀ c ∈ name, ¬ Text.isBlank c := fun c member => (isName.isLetter c member).2.2
  have splits : Splits entry name text := ⟨before, after, same, apart, nameTrims, textTrims, solid⟩
  exact ⟨target, color, name, text, splits, names, shows⟩

private theorem Reads.writes {base n : Nat} {cs : List Char} (reads : Reads base cs n)
    (plain : '+' ∉ cs) :
    Writes base cs n := by
  rcases reads with writes | ⟨digits, rfl, -⟩
  · exact writes
  · exact absurd List.mem_cons_self plain

private theorem RefersTo.isReference {text : List Char} {index : UInt8}
    (refers : RefersTo text index) (plain : '+' ∉ text) : IsReference text := by
  obtain ⟨digits, rfl, reads⟩ := refers
  have noPlus : '+' ∉ digits := fun plus => plain (List.mem_append_right _ plus)
  exact ⟨digits, _, rfl, reads.writes noPlus, index.toNat_lt⟩

private theorem IsComponent.isLevel {part : List Char} {level : UInt8}
    (isComponent : IsComponent part level) (plain : '+' ∉ part) : IsLevel part := by
  obtain ⟨short, reads⟩ := isComponent
  rw [reads.ascii.1] at short
  exact ⟨short, _, reads.writes plain⟩

private theorem Names.isName {name : List Char} {target : Target} (names : Names name target)
    (plain : '+' ∉ name) : IsName name := by
  cases names with
  | foreground same => exact .inl same
  | background same => exact .inr (.inl same)
  | entry refers => exact .inr (.inr (refers.isReference plain))

private theorem Shows.isValue {table : UInt8 → Rgb} {text : List Char} {color : Rgb}
    (shows : Shows table text color) (plain : '+' ∉ text) : IsValue text := by
  cases shows with
  | entry refers => exact .inl (refers.isReference plain)
  | components isColor =>
    obtain ⟨red, green, blue, rfl, isRed, isGreen, isBlue⟩ := isColor
    simp only [List.mem_append, List.mem_cons, not_or] at plain
    refine .inr ⟨red, green, blue, rfl, isRed.isLevel ?_, isGreen.isLevel ?_, isBlue.isLevel ?_⟩
    · tauto
    · tauto
    · tauto

/-- An entry that can be read and has no plus sign is of the documented form. -/
theorem Assigns.documented {table : UInt8 → Rgb} {entry : List Char} {target : Target} {color : Rgb}
    (assigns : Assigns table entry target color) (plain : '+' ∉ entry) : Documented entry := by
  obtain ⟨name, text, ⟨before, after, rfl, apart, nameTrims, textTrims, solid⟩, names, shows⟩ :=
    assigns
  simp only [List.mem_append, List.mem_cons, not_or] at plain
  exact ⟨before, after, name, text, rfl, nameTrims, textTrims,
    names.isName fun plus => plain.1 (nameTrims.mem_of_mem plus),
    shows.isValue fun plus => plain.2.2 (textTrims.mem_of_mem plus)⟩

private theorem mem_listed_iff {core : List Char} {c : Char} (other : c ≠ ';')
    (solid : ¬ Text.isBlank c) : (∃ entry ∈ listed core, c ∈ entry) ↔ c ∈ core := by
  have joined : [';'].intercalate (core.splitOn ';') = core := List.intercalate_splitOn ';'
  have split : c ∈ core ↔ ∃ piece ∈ core.splitOn ';', c ∈ piece := by
    rw [← Text.mem_intercalate other, joined]
  rw [split]
  constructor
  · rintro ⟨entry, member, inside⟩
    obtain ⟨piece, among, rfl⟩ := List.mem_map.mp (List.mem_of_mem_filter member)
    exact ⟨piece, among, (Text.trims_trim piece).mem_of_mem inside⟩
  · rintro ⟨piece, among, inside⟩
    have kept := (Text.trims_trim piece).mem_of_solid inside solid
    have nonempty : (!(Text.trim piece).isEmpty) = true := by
      cases trimmed : Text.trim piece with
      | nil => exact absurd (trimmed ▸ kept) List.not_mem_nil
      | cons => rfl
    exact ⟨_, List.mem_filter.mpr ⟨List.mem_map_of_mem among, nonempty⟩, kept⟩

private theorem Logs.assigns {entries : List (List Char)} {log : List (Target × Rgb)}
    (logs : Logs entries log) {entry : List Char} (member : entry ∈ entries) :
    ∃ table target color, Assigns table entry target color := by
  induction logs with
  | nil => cases member
  | snoc logs assigns ih =>
    rcases List.mem_append.mp member with before | last
    · exact ih before
    · rw [List.mem_singleton.mp last]
      exact ⟨_, _, _, assigns⟩

private theorem exists_logs_of_documented {entries : List (List Char)}
    (documented : ∀ entry ∈ entries, Documented entry) : ∃ log, Logs entries log := by
  induction entries using List.reverseRecOn with
  | nil => exact ⟨[], .nil⟩
  | append_singleton entries entry ih =>
    obtain ⟨log, logs⟩ := ih fun earlier member =>
      documented earlier (List.mem_append_left _ member)
    have last : entry ∈ entries ++ [entry] := List.mem_append_right _ List.mem_cons_self
    obtain ⟨target, color, assigns⟩ := (documented entry last).assigns (entryColor log)
    exact ⟨_, logs.snoc assigns⟩

private theorem ok_of_named {spec : String}
    (named : String.ofList (Text.trim spec.toList) ∈ schemeNames) :
    ∃ scheme, ofSpec spec = .ok scheme := by
  rw [ofSpec]
  cases found : named? (String.ofList (Text.trim spec.toList)) with
  | some scheme => exact ⟨scheme, rfl⟩
  | none => exact absurd named (named?_eq_none_iff.mp found)

/-- The texts of the documented form are those that can be read and have no plus sign in them. -/
theorem documented_iff (spec : String) :
    DocumentedText spec ↔ (∃ scheme, ofSpec spec = .ok scheme) ∧ '+' ∉ spec.toList := by
  let core := Text.trim spec.toList
  have solid : ¬ Text.isBlank '+' := by decide
  have plus_iff : '+' ∈ spec.toList ↔ ∃ entry ∈ listed core, '+' ∈ entry := by
    rw [mem_listed_iff (by decide) solid]
    exact ⟨fun plus => (Text.trims_trim _).mem_of_solid plus solid, (Text.trims_trim _).mem_of_mem⟩
  by_cases named : String.ofList core ∈ schemeNames
  · have plain : ∀ name ∈ schemeNames, '+' ∉ name.toList := by decide
    have noPlus := plain _ named
    rw [String.toList_ofList, ← mem_listed_iff (by decide) solid, ← plus_iff] at noPlus
    exact iff_of_true (.inl named) ⟨ok_of_named named, noPlus⟩
  · have read_iff := (ofSpec_iff (Text.trims_trim spec.toList) named).2
    constructor
    · rintro (listedName | documented)
      · exact absurd listedName named
      · obtain ⟨log, logs⟩ := exists_logs_of_documented documented
        refine ⟨⟨_, (read_iff _).mpr ⟨log, logs, describes_after log⟩⟩, fun plus => ?_⟩
        obtain ⟨entry, member, inside⟩ := plus_iff.mp plus
        exact (documented entry member).plus_not_mem inside
    · rintro ⟨⟨scheme, read⟩, plain⟩
      obtain ⟨log, logs, -⟩ := (read_iff scheme).mp read
      refine .inr fun entry member => ?_
      obtain ⟨table, target, color, assigns⟩ := logs.assigns member
      exact assigns.documented fun plus => plain (plus_iff.mpr ⟨entry, member, plus⟩)

/-- A component with a plus sign is read, though it is not of the documented form. -/
theorem ofSpec_ok_of_plus :
    (∃ scheme, ofSpec "foreground: rgb:+f/0/0" = .ok scheme) ∧
      ¬ DocumentedText "foreground: rgb:+f/0/0" := by
  have read : ofSpec "foreground: rgb:+f/0/0" = .ok ⟨⟨15, 0, 0⟩, .black, none⟩ := by rfl
  refine ⟨⟨_, read⟩, ?_⟩
  rintro (named | documented)
  · exact absurd named (by decide)
  · have listed : "foreground: rgb:+f/0/0".toList ∈
        listed (Text.trim "foreground: rgb:+f/0/0".toList) := by decide
    exact (documented _ listed).plus_not_mem (by decide)

end CellScreen.Scheme
