import CellScreen.Proofs.SchemeEntries
import Mathlib.Data.List.Induction

/-! The color scheme of a text of entries. The entries assign colors one after the other, and each
may refer to what was assigned before it. The first one that cannot be read decides the error; if
all can be read, what was assigned last makes the scheme. -/
namespace CellScreen

private theorem ColorTable.ext_get {table other : ColorTable}
    (same : ∀ index, table.get index = other.get index) : table = other := by
  obtain ⟨entries⟩ := table
  obtain ⟨otherEntries⟩ := other
  refine congrArg ColorTable.mk (Vector.ext fun index below => ?_)
  have entry := same (UInt8.ofNat index)
  simpa only [get, UInt8.toNat_ofNat_of_lt' below] using entry

namespace Scheme

open Text (Trims)

def entryColor (log : List (Target × Rgb)) (index : UInt8) : Rgb :=
  (log.reverse.lookup (.entry index)).getD (initialColor index)

inductive Logs : List (List Char) → List (Target × Rgb) → Prop
  | nil : Logs [] []
  | snoc {entries : List (List Char)} {log : List (Target × Rgb)} {entry : List Char}
      {target : Target} {color : Rgb} (logs : Logs entries log)
      (assigns : Assigns (entryColor log) entry target color) :
      Logs (entries ++ [entry]) (log ++ [(target, color)])

structure Describes (scheme : Scheme) (log : List (Target × Rgb)) : Prop where
  foreground_eq : scheme.foreground = (log.reverse.lookup .foreground).getD ⟨0x99, 0x99, 0x99⟩
  background_eq : scheme.background = (log.reverse.lookup .background).getD .black
  palette_isSome : scheme.palette.isSome ↔ ∃ index color, (.entry index, color) ∈ log
  get_eq : ∀ table ∈ scheme.palette, ∀ index, table.get index = entryColor log index

def Progress.after (log : List (Target × Rgb)) : Progress :=
  log.foldl (fun progress (target, color) => progress.assign target color) .start

private theorem Progress.after_append (log : List (Target × Rgb)) (target : Target) (color : Rgb) :
    after (log ++ [(target, color)]) = (after log).assign target color := List.foldl_append ..

private theorem getD_lookup_append (log : List (Target × Rgb)) (target other : Target)
    (color otherwise : Rgb) :
    ((log ++ [(target, color)]).reverse.lookup other).getD otherwise =
      if other = target then color else (log.reverse.lookup other).getD otherwise := by
  rw [List.reverse_append, List.reverse_singleton, List.singleton_append, List.lookup_cons]
  by_cases same : other = target
  · rw [if_pos same, beq_iff_eq.mpr same]
    rfl
  · rw [if_neg same, beq_eq_false_iff_ne.mpr same]

private theorem Progress.foreground_assign (progress : Progress) (target : Target) (color : Rgb) :
    (progress.assign target color).foreground =
      if .foreground = target then color else progress.foreground := by
  cases target <;> rfl

private theorem Progress.background_assign (progress : Progress) (target : Target) (color : Rgb) :
    (progress.assign target color).background =
      if .background = target then color else progress.background := by
  cases target <;> rfl

private theorem Progress.get_assign (progress : Progress) (target : Target) (color : Rgb)
    (index : UInt8) :
    (progress.assign target color).table.get index =
      if .entry index = target then color else progress.table.get index := by
  cases target with
  | foreground => rfl
  | background => rfl
  | entry other => simp [assign, ColorTable.get_set, eq_comm]

private theorem Progress.overridden_assign (progress : Progress) (target : Target) (color : Rgb) :
    (progress.assign target color).overridden ↔
      progress.overridden ∨ ∃ index, target = .entry index := by
  cases target <;> simp [assign]

theorem Progress.after_spec (log : List (Target × Rgb)) :
    (after log).foreground = (log.reverse.lookup .foreground).getD ⟨0x99, 0x99, 0x99⟩ ∧
    (after log).background = (log.reverse.lookup .background).getD .black ∧
    ((after log).overridden ↔ ∃ index color, (.entry index, color) ∈ log) ∧
    ∀ index, (after log).table.get index = entryColor log index := by
  induction log using List.reverseRecOn with
  | nil =>
    refine ⟨rfl, rfl, ?_, ColorTable.get_initial⟩
    simp [after, start]
  | append_singleton log assigned ih =>
    obtain ⟨target, color⟩ := assigned
    obtain ⟨foreground_eq, background_eq, overridden_iff, get_eq⟩ := ih
    rw [after_append]
    refine ⟨?_, ?_, ?_, fun index => ?_⟩
    · rw [foreground_assign, getD_lookup_append, foreground_eq]
    · rw [background_assign, getD_lookup_append, background_eq]
    · rw [overridden_assign, overridden_iff]
      simp [exists_or, eq_comm]
    · rw [get_assign, entryColor, getD_lookup_append, get_eq, entryColor]

variable {entries before after : List (List Char)} {entry : List Char}
  {log : List (Target × Rgb)} {error : SchemeError}

private theorem Progress.get_after (log : List (Target × Rgb)) :
    (Progress.after log).table.get = entryColor log := funext (after_spec log).2.2.2

/-- Each entry sees the palette that the entries before it have left. -/
theorem foldlM_of_logs (logs : Logs entries log) :
    entries.foldlM assignEntry .start = .ok (.after log) := by
  induction logs with
  | nil => rfl
  | @snoc entries log entry target color logs assigns ih =>
    rw [← Progress.get_after] at assigns
    rw [List.foldlM_append, ih, Progress.after_append]
    change assignEntry (.after log) entry >>= pure = _
    rw [assignEntry_of_assigns assigns]
    rfl

private theorem foldlM_of_faulty (logs : Logs before log) (faulty : Faulty entry error) :
    (before ++ entry :: after).foldlM assignEntry .start = .error error := by
  rw [List.foldlM_append, foldlM_of_logs logs]
  change (assignEntry (.after log) entry >>= fun progress => after.foldlM assignEntry progress) = _
  rw [assignEntry_of_faulty faulty]
  rfl

/-- All entries can be read, or there is a first one that cannot. -/
theorem logs_cases (entries : List (List Char)) : (∃ log, Logs entries log) ∨
    ∃ before entry after log error, entries = before ++ entry :: after ∧ Logs before log ∧
      Faulty entry error := by
  induction entries using List.reverseRecOn with
  | nil => exact .inl ⟨[], .nil⟩
  | append_singleton entries last ih =>
    rcases ih with ⟨log, logs⟩ | ⟨before, entry, after, log, error, rfl, logs, faulty⟩
    · rcases assigns_cases (entryColor log) last with ⟨target, color, assigns⟩ | ⟨error, faulty⟩
      · exact .inl ⟨_, logs.snoc assigns⟩
      · exact .inr ⟨entries, last, [], log, error, rfl, logs, faulty⟩
    · refine .inr ⟨before, entry, after ++ [last], log, error, ?_, logs, faulty⟩
      rw [List.append_assoc, List.cons_append]

theorem describes_after (log : List (Target × Rgb)) :
    Describes (Progress.after log).scheme log := by
  obtain ⟨foreground_eq, background_eq, overridden_iff, get_eq⟩ := Progress.after_spec log
  refine ⟨foreground_eq, background_eq, ?_, ?_⟩
  · rw [← overridden_iff, Progress.scheme]
    split <;> simp_all
  · intro table found
    rw [Progress.scheme] at found
    dsimp only at found
    split at found
    · rw [← Option.some.inj found]
      exact get_eq
    · cases found

private theorem Describes.unique {scheme other : Scheme} (describes : Describes scheme log)
    (same : Describes other log) : scheme = other := by
  obtain ⟨foreground, background, palette⟩ := scheme
  obtain ⟨otherForeground, otherBackground, otherPalette⟩ := other
  have some_iff := describes.palette_isSome.trans same.palette_isSome.symm
  have palette_eq : palette = otherPalette := by
    cases palette with
    | none =>
      cases otherPalette with
      | none => rfl
      | some table => exact absurd (some_iff.mpr rfl) Bool.false_ne_true
    | some table =>
      obtain ⟨otherTable, rfl⟩ := Option.isSome_iff_exists.mp (some_iff.mp rfl)
      exact congrArg some (ColorTable.ext_get fun index =>
        (describes.get_eq table rfl index).trans (same.get_eq otherTable rfl index).symm)
  exact (Scheme.mk.injEq ..).mpr ⟨describes.foreground_eq.trans same.foreground_eq.symm,
    describes.background_eq.trans same.background_eq.symm, palette_eq⟩

/-- The names of schemes. The empty text stands for the first of them. -/
def schemeNames : List String := ["", "gray-black", "black-white", "green-black", "white-black"]

theorem named?_eq_none_iff {name : String} : named? name = none ↔ name ∉ schemeNames := by
  unfold named? schemeNames
  by_cases gray : name = "" ∨ name = "gray-black"
  · rcases gray with rfl | rfl <;> simp
  by_cases black : name = "black-white"
  · simp [black]
  by_cases green : name = "green-black"
  · simp [green]
  by_cases white : name = "white-black"
  · simp [white]
  · simp_all

def listed (core : List Char) : List (List Char) :=
  ((core.splitOn ';').map Text.trim).filter (!·.isEmpty)

private theorem ofSpec_of_trims {spec : String} {core : List Char} (trims : Trims spec.toList core)
    (unnamed : String.ofList core ∉ schemeNames) :
    ofSpec spec = ((listed core).foldlM assignEntry .start).map Progress.scheme := by
  have none : named? (String.ofList core) = none := named?_eq_none_iff.mpr unnamed
  have same : entries core = listed core := by
    rw [entries, listed, Text.fields_eq_splitOn]
  rw [ofSpec, trims.trim_eq, none, same]
  cases (listed core).foldlM assignEntry .start with
  | ok progress => rfl
  | error error => rfl

/-- A text that is no name is read entry by entry. Its first entry that cannot be read gives the
error; if there is none, it gives the scheme of the assignments that its entries make. -/
theorem ofSpec_iff {spec : String} {core : List Char} (trims : Trims spec.toList core)
    (unnamed : String.ofList core ∉ schemeNames) :
    (∀ error, ofSpec spec = .error error ↔ ∃ before entry after log,
      listed core = before ++ entry :: after ∧ Logs before log ∧ Faulty entry error) ∧
    ∀ scheme, ofSpec spec = .ok scheme ↔ ∃ log, Logs (listed core) log ∧ Describes scheme log := by
  rw [ofSpec_of_trims trims unnamed]
  constructor
  · intro error
    constructor
    · intro failed
      rcases logs_cases (listed core) with
        ⟨log, logs⟩ | ⟨before, entry, after, log, other, same, logs, faulty⟩
      · rw [foldlM_of_logs logs] at failed
        cases failed
      · rw [same, foldlM_of_faulty logs faulty] at failed
        cases failed
        exact ⟨before, entry, after, log, same, logs, faulty⟩
    · rintro ⟨before, entry, after, log, same, logs, faulty⟩
      rw [same, foldlM_of_faulty logs faulty]
      rfl
  · intro scheme
    constructor
    · intro read
      rcases logs_cases (listed core) with
        ⟨log, logs⟩ | ⟨before, entry, after, log, other, same, logs, faulty⟩
      · rw [foldlM_of_logs logs] at read
        cases read
        exact ⟨log, logs, describes_after log⟩
      · rw [same, foldlM_of_faulty logs faulty] at read
        cases read
    · rintro ⟨log, logs, describes⟩
      rw [foldlM_of_logs logs]
      exact congrArg Except.ok ((describes_after log).unique describes)

/-- A name that stands for nothing, after two entries of which one refers to the other. -/
theorem ofSpec_iff_of_unknown_name :
    let core := "color1: rgb:1/2/f; foreground: color1;; cursor: color9".toList
    Trims " color1: rgb:1/2/f; foreground: color1;; cursor: color9".toList core ∧
    String.ofList core ∉ schemeNames ∧
    ofSpec " color1: rgb:1/2/f; foreground: color1;; cursor: color9" =
      .error (.unknownName "cursor") ∧
    ∃ before entry after log, listed core = before ++ entry :: after ∧ Logs before log ∧
      Faulty entry (.unknownName "cursor") := by
  intro core
  have trims : Trims " color1: rgb:1/2/f; foreground: color1;; cursor: color9".toList core :=
    Text.trim_eq_iff.mp (by decide)
  have unnamed : String.ofList core ∉ schemeNames := by decide
  have failed : ofSpec " color1: rgb:1/2/f; foreground: color1;; cursor: color9" =
      .error (.unknownName "cursor") := by rfl
  exact ⟨trims, unnamed, failed, ((ofSpec_iff trims unnamed).1 _).mp failed⟩

end Scheme
end CellScreen
