import CellScreen.Text.Fields
import CellScreen.Text.WhiteSpace
import Mathlib.Data.List.TakeWhile

/-! Texts that are cut and trimmed. A trimmed text is what stands between white space and does not
begin or end with any; a cut is made at the first separator; and the fields are those that the
library splits a list into. -/
namespace CellScreen.Text

def Trims (cs core : List Char) : Prop :=
  ∃ left right, cs = left ++ core ++ right ∧ (∀ c ∈ left, isBlank c) ∧ (∀ c ∈ right, isBlank c) ∧
    (∀ c ∈ core.head?, ¬ isBlank c) ∧ ∀ c ∈ core.getLast?, ¬ isBlank c

private theorem dropWhile_append_of_head {drop : Char → Bool} {dropped kept : List Char}
    (all : ∀ c ∈ dropped, drop c) (head : ∀ c ∈ kept.head?, ¬ drop c) :
    (dropped ++ kept).dropWhile drop = kept := by
  rw [List.dropWhile_append_of_pos all]
  cases kept with
  | nil => rfl
  | cons c rest => exact List.dropWhile_cons_of_neg (head c rfl)

private theorem head_dropWhile {drop : Char → Bool} {cs : List Char} :
    ∀ c ∈ (cs.dropWhile drop).head?, ¬ drop c := by
  intro c first
  have kept := List.head?_dropWhile_not drop cs
  rw [Option.mem_def.mp first] at kept
  simpa using kept

private theorem dropEndWhile_append {drop : Char → Bool} (cs : List Char) :
    cs = dropEndWhile drop cs ++ (cs.reverse.takeWhile drop).reverse := by
  rw [dropEndWhile, ← List.reverse_append, List.takeWhile_append_dropWhile, List.reverse_reverse]

theorem trims_trim (cs : List Char) : Trims cs (trim cs) := by
  let rest := cs.dropWhile isBlank
  have kept : rest = trim cs ++ _ := dropEndWhile_append rest
  refine ⟨cs.takeWhile isBlank, (rest.reverse.takeWhile isBlank).reverse, ?_, ?_, ?_, ?_, ?_⟩
  · rw [List.append_assoc, ← kept, List.takeWhile_append_dropWhile]
  · exact fun c member => List.mem_takeWhile_imp member
  · exact fun c member => List.mem_takeWhile_imp (List.mem_reverse.mp member)
  · -- The first character that is left was the first one before the end was dropped.
    intro c first
    have before : c ∈ rest.head? := by
      rw [kept, List.head?_append, Option.mem_def.mp first]
      rfl
    exact head_dropWhile c before
  · intro c last
    rw [trim, trimEnd, dropEndWhile, List.getLast?_reverse] at last
    exact head_dropWhile c last

theorem Trims.trim_eq {cs core : List Char} (trims : Trims cs core) : trim cs = core := by
  obtain ⟨left, right, rfl, blankLeft, blankRight, head, last⟩ := trims
  cases core with
  | nil =>
    have blank : ∀ c ∈ left ++ right, isBlank c := fun c member =>
      (List.mem_append.mp member).elim (blankLeft c) (blankRight c)
    have nothing : (left ++ right ++ []).dropWhile isBlank = [] :=
      dropWhile_append_of_head blank nofun
    rw [List.append_nil] at nothing ⊢
    rw [trim, nothing]
    rfl
  | cons c core =>
    have rest : (left ++ (c :: core ++ right)).dropWhile isBlank = c :: core ++ right :=
      dropWhile_append_of_head blankLeft head
    rw [List.append_assoc, trim, rest, trimEnd, dropEndWhile, List.reverse_append,
      dropWhile_append_of_head, List.reverse_reverse]
    · exact fun c member => blankRight c (List.mem_reverse.mp member)
    · rwa [List.head?_reverse]

theorem trim_eq_iff {cs core : List Char} : trim cs = core ↔ Trims cs core :=
  ⟨fun same => same ▸ trims_trim cs, Trims.trim_eq⟩

theorem Trims.mem_of_mem {cs core : List Char} (trims : Trims cs core) {c : Char}
    (member : c ∈ core) : c ∈ cs := by
  obtain ⟨left, right, rfl, -⟩ := trims
  simp [member]

theorem Trims.mem_of_solid {cs core : List Char} (trims : Trims cs core) {c : Char}
    (member : c ∈ cs) (solid : ¬ isBlank c) : c ∈ core := by
  obtain ⟨left, right, rfl, blankLeft, blankRight, -⟩ := trims
  simp only [List.mem_append] at member
  rcases member with (before | inside) | after
  · exact absurd (blankLeft c before) solid
  · exact inside
  · exact absurd (blankRight c after) solid

theorem fields_eq_splitOn (separator : Char) (cs : List Char) :
    fields separator cs = cs.splitOn separator := by
  induction cs with
  | nil => rfl
  | cons c rest ih =>
    rw [fields, List.splitOn_cons_eq_if_modifyHead, ih]
    by_cases here : c = separator
    · rw [if_pos here, if_pos (beq_iff_eq.mpr here)]
    · rw [if_neg here, if_neg fun same => here (beq_iff_eq.mp same)]
      cases pieces : rest.splitOn separator with
      | nil => exact absurd (ih.trans pieces) (fields_ne_nil separator rest)
      | cons field more => rfl

theorem mem_intercalate {separator c : Char} (other : c ≠ separator) {pieces : List (List Char)} :
    c ∈ [separator].intercalate pieces ↔ ∃ piece ∈ pieces, c ∈ piece := by
  induction pieces with
  | nil => simp
  | cons piece pieces ih =>
    cases pieces with
    | nil => simp
    | cons second more => simp [List.intercalate_cons_cons, other, ih]

theorem cut_append {separator : Char} {before : List Char} (apart : separator ∉ before)
    (after : List Char) : cut separator (before ++ separator :: after) = (before, some after) := by
  induction before with
  | nil => rw [List.nil_append, cut, if_pos rfl]
  | cons c before ih =>
    obtain ⟨other, apart⟩ := List.ne_and_not_mem_of_not_mem_cons apart
    rw [List.cons_append, cut, if_neg other.symm, ih apart]

theorem cut_of_not_mem {separator : Char} {cs : List Char} (apart : separator ∉ cs) :
    cut separator cs = (cs, none) := by
  induction cs with
  | nil => rfl
  | cons c cs ih =>
    obtain ⟨other, apart⟩ := List.ne_and_not_mem_of_not_mem_cons apart
    rw [cut, if_neg other.symm, ih apart]

theorem cut_cases (separator : Char) (cs : List Char) :
    separator ∉ cs ∨ ∃ before after, cs = before ++ separator :: after ∧ separator ∉ before := by
  by_cases member : separator ∈ cs
  · obtain ⟨before, after, same, apart⟩ := List.eq_append_cons_of_mem member
    exact .inr ⟨before, after, same, apart⟩
  · exact .inl member

end CellScreen.Text
