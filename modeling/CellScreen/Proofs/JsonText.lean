import CellScreen.Proofs.JsonScalar

/-! Reading what was written. A grammar says which texts spell a document, with blanks between its
parts. The reader finds the document of every text that spells one, and the printer writes a text
that spells what it prints. -/
namespace CellScreen.Json

open Number (Numeral)

variable {rest : List Char}

inductive Part where
  | value (value : Json)
  | elements (elements : List Json)
  | members (members : List (Option String × Json))

def Blank (gap : List Char) : Prop := ∀ c ∈ gap, isSpace c

inductive Spells : Part → List Char → Prop
  | null : Spells (.value .null) "null".toList
  | true : Spells (.value (.bool true)) "true".toList
  | false : Spells (.value (.bool false)) "false".toList
  | number {numeral : Numeral} (small : ∀ d ∈ numeral.fraction, d < 10) :
    Spells (.value (.number numeral)) (numeralText numeral)
  | string (text : String) : Spells (.value (.string (some text))) (stringText (some text))
  | emptyArray : Spells (.value (.array [])) "[]".toList
  | emptyObject : Spells (.value (.object [])) ['\x7b', '\x7d']
  | array {elements : List Json} {gap cs : List Char} (blank : Blank gap)
    (inside : Spells (.elements elements) cs) :
    Spells (.value (.array elements)) ('[' :: (gap ++ cs))
  | object {members : List (Option String × Json)} {gap cs : List Char} (blank : Blank gap)
    (inside : Spells (.members members) cs) :
    Spells (.value (.object members)) ('\x7b' :: (gap ++ cs))
  | lastElement {value : Json} {cs gap : List Char} (spelled : Spells (.value value) cs)
    (blank : Blank gap) : Spells (.elements [value]) (cs ++ (gap ++ [']']))
  | element {value : Json} {more : List Json} {cs before after ds : List Char}
    (spelled : Spells (.value value) cs) (blank : Blank before) (blankAfter : Blank after)
    (others : Spells (.elements more) ds) :
    Spells (.elements (value :: more)) (cs ++ (before ++ ',' :: (after ++ ds)))
  | lastMember (name : String) {value : Json} {before after cs gap : List Char}
    (blank : Blank before) (blankAfter : Blank after) (spelled : Spells (.value value) cs)
    (blankEnd : Blank gap) :
    Spells (.members [(some name, value)])
      (stringText (some name) ++ (before ++ ':' :: (after ++ (cs ++ (gap ++ ['\x7d'])))))
  | member (name : String) {value : Json} {more : List (Option String × Json)}
    {before after cs gap next ds : List Char} (blank : Blank before) (blankAfter : Blank after)
    (spelled : Spells (.value value) cs) (blankEnd : Blank gap) (blankNext : Blank next)
    (others : Spells (.members more) ds) :
    Spells (.members ((some name, value) :: more))
      (stringText (some name) ++ (before ++ ':' :: (after ++ (cs ++ (gap ++ ',' :: (next ++ ds))))))

private theorem space_cases {c : Char} (space : isSpace c) :
    c = ' ' ∨ c = '\t' ∨ c = '\n' ∨ c = '\r' := by
  simpa [isSpace, or_assoc] using space

private theorem skipSpace_gap {gap : List Char} (blank : Blank gap) {c : Char}
    (solid : isSpace c = false) (rest : List Char) : skipSpace (gap ++ c :: rest) = c :: rest := by
  rw [skipSpace, List.dropWhile_append_of_pos blank, List.dropWhile_cons_of_neg]
  exact Bool.eq_false_iff.mp solid

theorem blank_nil : Blank [] := List.forall_mem_nil _

private theorem ends_cons {c : Char} (other : c.isDigit = false ∧ c ≠ '.' ∧ c ≠ 'e' ∧ c ≠ 'E')
    (rest : List Char) : Ends (c :: rest) := by
  rintro d ⟨⟩
  exact other

private theorem ends_gap {gap : List Char} (blank : Blank gap) (ends : Ends rest) :
    Ends (gap ++ rest) := by
  cases gap with
  | nil => exact ends
  | cons c gap =>
    apply ends_cons
    rcases space_cases (blank c List.mem_cons_self) with rfl | rfl | rfl | rfl <;> decide

def Opens (c : Char) : Prop := isSpace c = false ∧ c ≠ ']' ∧ c ≠ '\x7d'

instance (c : Char) : Decidable (Opens c) := inferInstanceAs (Decidable (_ ∧ _))

private theorem opens_of_isDigit {c : Char} (digit : c.isDigit) : Opens c := by
  refine ⟨?_, ?_, ?_⟩
  · rw [Bool.eq_false_iff]
    intro space
    rcases space_cases space with rfl | rfl | rfl | rfl <;> cases digit
  · rintro rfl
    cases digit
  · rintro rfl
    cases digit

private theorem exists_numeralText_eq_cons (numeral : Numeral) :
    ∃ c cs, numeralText numeral = c :: cs ∧ (c = '-' ∨ c.isDigit) := by
  rw [numeralText_eq]
  cases numeral.negative with
  | true => exact ⟨'-', _, rfl, .inl rfl⟩
  | false =>
    obtain ⟨c, cs, written, digit⟩ := exists_decimal_eq_cons numeral.whole
    rw [written]
    exact ⟨c, _, rfl, .inr digit⟩

private theorem Spells.starts {part : Part} {cs : List Char} (spelled : Spells part cs) :
    ∃ c ds, cs = c :: ds ∧ Opens c := by
  induction spelled with
  | null => exact ⟨'n', _, rfl, by decide⟩
  | true => exact ⟨'t', _, rfl, by decide⟩
  | false => exact ⟨'f', _, rfl, by decide⟩
  | number small =>
    obtain ⟨c, cs, written, starts⟩ := exists_numeralText_eq_cons _
    rw [written]
    refine ⟨c, cs, rfl, ?_⟩
    rcases starts with rfl | digit
    · decide
    · exact opens_of_isDigit digit
  | string | lastMember | member => exact ⟨'"', _, rfl, by decide⟩
  | emptyArray | array => exact ⟨'[', _, rfl, by decide⟩
  | emptyObject | object => exact ⟨'\x7b', _, rfl, by decide⟩
  | lastElement spelled blank ih | element spelled blank blankAfter others ih =>
    obtain ⟨c, ds, rfl, opens⟩ := ih
    exact ⟨c, _, rfl, opens⟩

def Part.Reads : Part → List Char → Prop
  | .value json, cs => ∀ {budget : Nat} {rest : List Char}, cs.length < budget → Ends rest →
    readValue budget (cs ++ rest) = some (json, rest)
  | .elements all, cs => ∀ {budget : Nat} {rest : List Char}, cs.length < budget →
    readElements budget (cs ++ rest) = some (all, rest)
  | .members all, cs => ∀ {budget : Nat} {rest : List Char}, cs.length < budget →
    readMembers budget (cs ++ rest) = some (all, rest)

private theorem readValue_of_numeral {c : Char} (starts : c = '-' ∨ c.isDigit) (budget : Nat)
    (cs : List Char) : readValue (budget + 1) (c :: cs) =
      (readNumeral (c :: cs)).map fun (numeral, rest) => (.number numeral, rest) := by
  have other {d : Char} (letter : d ≠ '-' ∧ d.isDigit = false) : c ≠ d := by
    rintro rfl
    cases starts with
    | inl minus => exact letter.1 minus
    | inr digit => exact Bool.false_ne_true (letter.2.symm.trans digit)
  simp only [readValue]
  split
  · next same => exact absurd (List.cons.inj same).1 (other (by decide))
  · next same => exact absurd (List.cons.inj same).1 (other (by decide))
  · next same => exact absurd (List.cons.inj same).1 (other (by decide))
  · next same => exact absurd (List.cons.inj same).1 (other (by decide))
  · next same => exact absurd (List.cons.inj same).1 (other (by decide))
  · next same => exact absurd (List.cons.inj same).1 (other (by decide))
  · rfl

private theorem reads_number {numeral : Numeral} (small : ∀ d ∈ numeral.fraction, d < 10) :
    (Part.value (.number numeral)).Reads (numeralText numeral) := by
  intro budget rest enough ends
  obtain ⟨budget, rfl⟩ := Nat.exists_eq_succ_of_ne_zero (Nat.ne_zero_of_lt enough)
  have read := readNumeral_numeralText small ends
  obtain ⟨c, cs, written, starts⟩ := exists_numeralText_eq_cons numeral
  rw [written, List.cons_append] at read ⊢
  rw [readValue_of_numeral starts, read]
  rfl

private theorem reads_array {elements : List Json} {gap cs : List Char} (blank : Blank gap)
    (spelled : Spells (.elements elements) cs) (reads : (Part.elements elements).Reads cs) :
    (Part.value (.array elements)).Reads ('[' :: (gap ++ cs)) := by
  intro budget rest enough ends
  obtain ⟨budget, rfl⟩ := Nat.exists_eq_succ_of_ne_zero (Nat.ne_zero_of_lt enough)
  obtain ⟨c, ds, rfl, solid, noEnd, -⟩ := spelled.starts
  have inside : (c :: ds).length < budget := by
    simp only [List.length_cons, List.length_append] at enough ⊢
    omega
  have read : readElements budget (c :: (ds ++ rest)) = some (elements, rest) := reads inside
  -- No element starts with a bracket, so the array is not taken for an empty one.
  simp only [readValue, List.cons_append, List.append_assoc, skipSpace_gap blank solid]
  split
  · next same => exact absurd (List.cons.inj same).1 noEnd
  · rw [read]
    rfl

private theorem reads_object {members : List (Option String × Json)} {gap cs : List Char}
    (blank : Blank gap) (spelled : Spells (.members members) cs)
    (reads : (Part.members members).Reads cs) :
    (Part.value (.object members)).Reads ('\x7b' :: (gap ++ cs)) := by
  intro budget rest enough ends
  obtain ⟨budget, rfl⟩ := Nat.exists_eq_succ_of_ne_zero (Nat.ne_zero_of_lt enough)
  obtain ⟨c, ds, rfl, solid, -, noEnd⟩ := spelled.starts
  have inside : (c :: ds).length < budget := by
    simp only [List.length_cons, List.length_append] at enough ⊢
    omega
  have read : readMembers budget (c :: (ds ++ rest)) = some (members, rest) := reads inside
  simp only [readValue, List.cons_append, List.append_assoc, skipSpace_gap blank solid]
  split
  · next same => exact absurd (List.cons.inj same).1 noEnd
  · rw [read]
    rfl

private theorem reads_string (text : String) :
    (Part.value (.string (some text))).Reads (stringText (some text)) := by
  intro budget rest enough ends
  obtain ⟨budget, rfl⟩ := Nat.exists_eq_succ_of_ne_zero (Nat.ne_zero_of_lt enough)
  have read := readString_escaped text rest
  simp only [stringText, Option.getD_some, List.cons_append, List.append_assoc,
    List.nil_append, readValue, read]
  rfl

private theorem reads_lastElement {value : Json} {cs gap : List Char}
    (reads : (Part.value value).Reads cs) (blank : Blank gap) :
    (Part.elements [value]).Reads (cs ++ (gap ++ [']'])) := by
  intro budget rest enough
  obtain ⟨budget, rfl⟩ := Nat.exists_eq_succ_of_ne_zero (Nat.ne_zero_of_lt enough)
  have inside : cs.length < budget := by
    simp only [List.length_cons, List.length_append] at enough ⊢
    omega
  have ends : Ends (gap ++ ']' :: rest) := ends_gap blank (ends_cons (by decide) rest)
  have read := reads inside ends
  have skipped : skipSpace (gap ++ ']' :: rest) = ']' :: rest := skipSpace_gap blank rfl rest
  simp only [readElements, List.append_assoc, List.singleton_append, read, skipped]

private theorem reads_element {value : Json} {more : List Json} {cs before after ds : List Char}
    (reads : (Part.value value).Reads cs) (blank : Blank before) (blankAfter : Blank after)
    (spelled : Spells (.elements more) ds) (others : (Part.elements more).Reads ds) :
    (Part.elements (value :: more)).Reads (cs ++ (before ++ ',' :: (after ++ ds))) := by
  intro budget rest enough
  obtain ⟨budget, rfl⟩ := Nat.exists_eq_succ_of_ne_zero (Nat.ne_zero_of_lt enough)
  obtain ⟨c, ds, rfl, solid, -⟩ := spelled.starts
  have inside : cs.length < budget ∧ (c :: ds).length < budget := by
    simp only [List.length_cons, List.length_append] at enough ⊢
    omega
  let following := after ++ c :: (ds ++ rest)
  have ends : Ends (before ++ ',' :: following) := ends_gap blank (ends_cons (by decide) _)
  have read := reads inside.1 ends
  have skipped : skipSpace (before ++ ',' :: following) = ',' :: following :=
    skipSpace_gap blank rfl _
  have readMore : readElements budget (c :: (ds ++ rest)) = some (more, rest) := others inside.2
  simp only [following] at read skipped
  simp only [readElements, List.append_assoc, List.cons_append, read, skipped,
    skipSpace_gap blankAfter solid, readMore]
  rfl

def readBehind (budget : Nat) (member : Option String × Json) (rest : List Char) :
    Option (List (Option String × Json) × List Char) :=
  match skipSpace rest with
  | '\x7d' :: rest => some ([member], rest)
  | ',' :: rest =>
    (readMembers budget (skipSpace rest)).map fun (members, rest) => (member :: members, rest)
  | _ => none

private theorem readMembers_named (name : String) {value : Json} {before after cs : List Char}
    (blank : Blank before) (blankAfter : Blank after) (spelled : Spells (.value value) cs)
    (reads : (Part.value value).Reads cs) {budget : Nat} (enough : cs.length < budget)
    (ends : Ends rest) :
    readMembers (budget + 1)
        (stringText (some name) ++ (before ++ ':' :: (after ++ (cs ++ rest)))) =
      readBehind budget (some name, value) rest := by
  obtain ⟨c, ds, rfl, solid, -⟩ := spelled.starts
  have named := readString_escaped name (before ++ ':' :: (after ++ c :: (ds ++ rest)))
  have colon : skipSpace (before ++ ':' :: (after ++ c :: (ds ++ rest))) =
      ':' :: (after ++ c :: (ds ++ rest)) := skipSpace_gap blank rfl _
  have read : readValue budget (c :: (ds ++ rest)) = some (value, rest) := reads enough ends
  simp only [stringText, Option.getD_some, List.cons_append, List.append_assoc,
    List.nil_append, readMembers, named, colon, skipSpace_gap blankAfter solid, read]
  rfl

private theorem reads_lastMember (name : String) {value : Json} {before after cs gap : List Char}
    (blank : Blank before) (blankAfter : Blank after) (spelled : Spells (.value value) cs)
    (reads : (Part.value value).Reads cs) (blankEnd : Blank gap) :
    (Part.members [(some name, value)]).Reads
      (stringText (some name) ++ (before ++ ':' :: (after ++ (cs ++ (gap ++ ['\x7d']))))) := by
  intro budget rest enough
  obtain ⟨budget, rfl⟩ := Nat.exists_eq_succ_of_ne_zero (Nat.ne_zero_of_lt enough)
  have inside : cs.length < budget := by
    simp only [List.length_cons, List.length_append] at enough ⊢
    omega
  have ends : Ends (gap ++ '\x7d' :: rest) := ends_gap blankEnd (ends_cons (by decide) rest)
  have read := readMembers_named name blank blankAfter spelled reads inside ends
  have skipped : skipSpace (gap ++ '\x7d' :: rest) = '\x7d' :: rest :=
    skipSpace_gap blankEnd rfl rest
  rw [readBehind, skipped] at read
  simpa only [List.append_assoc, List.cons_append, List.nil_append] using read

private theorem reads_member (name : String) {value : Json} {more : List (Option String × Json)}
    {before after cs gap next ds : List Char} (blank : Blank before) (blankAfter : Blank after)
    (spelled : Spells (.value value) cs) (reads : (Part.value value).Reads cs)
    (blankEnd : Blank gap) (blankNext : Blank next) (spelledMore : Spells (.members more) ds)
    (others : (Part.members more).Reads ds) :
    (Part.members ((some name, value) :: more)).Reads
      (stringText (some name) ++
        (before ++ ':' :: (after ++ (cs ++ (gap ++ ',' :: (next ++ ds)))))) := by
  intro budget rest enough
  obtain ⟨budget, rfl⟩ := Nat.exists_eq_succ_of_ne_zero (Nat.ne_zero_of_lt enough)
  obtain ⟨c, ds, rfl, solid, -⟩ := spelledMore.starts
  have inside : cs.length < budget ∧ (c :: ds).length < budget := by
    simp only [List.length_cons, List.length_append] at enough ⊢
    omega
  let following := next ++ c :: (ds ++ rest)
  have ends : Ends (gap ++ ',' :: following) := ends_gap blankEnd (ends_cons (by decide) _)
  have read := readMembers_named name blank blankAfter spelled reads inside.1 ends
  have skipped : skipSpace (gap ++ ',' :: following) = ',' :: following :=
    skipSpace_gap blankEnd rfl _
  have readMore : readMembers budget (c :: (ds ++ rest)) = some (more, rest) := others inside.2
  rw [readBehind, skipped] at read
  simp only [following, skipSpace_gap blankNext solid, readMore, Option.map_some] at read
  simpa only [List.append_assoc, List.cons_append] using read

/-- The reader finds every part of a document in each of its texts. -/
theorem Spells.reads {part : Part} {cs : List Char} (spelled : Spells part cs) : part.Reads cs := by
  -- The length of the text pays for the budget: every part is shorter than the whole.
  induction spelled with
  | number small => exact reads_number small
  | string text => exact reads_string text
  | array blank inside ih => exact reads_array blank inside ih
  | object blank inside ih => exact reads_object blank inside ih
  | lastElement spelled blank ih => exact reads_lastElement ih blank
  | element spelled blank blankAfter others ih moreIh =>
    exact reads_element ih blank blankAfter others moreIh
  | lastMember name blank blankAfter spelled blankEnd ih =>
    exact reads_lastMember name blank blankAfter spelled ih blankEnd
  | member name blank blankAfter spelled blankEnd blankNext others ih moreIh =>
    exact reads_member name blank blankAfter spelled ih blankEnd blankNext others moreIh
  | null | true | false | emptyArray | emptyObject =>
    intro budget rest enough ends
    obtain ⟨budget, rfl⟩ := Nat.exists_eq_succ_of_ne_zero (Nat.ne_zero_of_lt enough)
    rfl

private theorem read?_of_spells {value : Json} {cs : List Char}
    (spelled : Spells (.value value) cs) :
    read? (String.ofList cs) = some value := by
  obtain ⟨c, ds, rfl, solid, -⟩ := spelled.starts
  have skipped : skipSpace (c :: ds) = c :: ds := skipSpace_gap blank_nil solid ds
  have ends : Ends [] := by rintro _ ⟨⟩
  have read := spelled.reads (Nat.lt_succ_self _) ends
  rw [List.append_nil] at read
  rw [read?, String.toList_ofList]
  simp only [skipped, read]
  rfl

inductive Clear : Json → Prop
  | null : Clear .null
  | bool (value : Bool) : Clear (.bool value)
  | number {numeral : Numeral} (small : ∀ d ∈ numeral.fraction, d < 10) : Clear (.number numeral)
  | text (string : String) : Clear (.text string)
  | array {elements : List Json} (each : ∀ element ∈ elements, Clear element) :
    Clear (.array elements)
  | record {members : List (String × Json)} (each : ∀ member ∈ members, Clear member.2) :
    Clear (.record members)

private theorem blank_space : Blank [' '] := by
  intro c member
  rw [List.mem_singleton.mp member]
  rfl

private theorem blank_newLine (depth : Nat) : Blank (newLine depth) := by
  intro c member
  rw [newLine, List.mem_cons, List.mem_replicate] at member
  rcases member with rfl | ⟨-, rfl⟩ <;> rfl

private theorem spells_elements {text : Json → List Char} {behind : List Json → List Char}
    {gap next : List Char} (blank : Blank gap) (blankNext : Blank next)
    (atEnd : behind [] = gap ++ [']'])
    (between : ∀ element more,
      behind (element :: more) = ',' :: (next ++ (text element ++ behind more)))
    {value : Json} {more : List Json} {cs : List Char} (first : Spells (.value value) cs)
    (each : ∀ element ∈ more, Spells (.value element) (text element)) :
    Spells (.elements (value :: more)) (cs ++ behind more) := by
  induction more generalizing value cs with
  | nil =>
    rw [atEnd]
    exact .lastElement first blank
  | cons element more ih =>
    obtain ⟨now, later⟩ := List.forall_mem_cons.mp each
    rw [between]
    exact .element first blank_nil blankNext (ih now later)

private theorem spells_members {text : Json → List Char}
    {behind : List (Option String × Json) → List Char} {gap next colon : List Char}
    (blank : Blank gap) (blankNext : Blank next) (blankColon : Blank colon)
    (atEnd : behind [] = gap ++ ['\x7d'])
    (between : ∀ name value more, behind ((some name, value) :: more) =
      ',' :: (next ++ (stringText (some name) ++ (':' :: (colon ++ (text value ++ behind more))))))
    (name : String) {value : Json} {more : List (String × Json)} {cs : List Char}
    (first : Spells (.value value) cs)
    (each : ∀ member ∈ more, Spells (.value member.2) (text member.2)) :
    Spells (.members ((some name, value) :: more.map fun (name, value) => (some name, value)))
      (stringText (some name) ++
        (':' :: (colon ++ (cs ++ behind (more.map fun (name, value) => (some name, value)))))) := by
  induction more generalizing name value cs with
  | nil =>
    rw [List.map_nil, atEnd]
    exact .lastMember name blank_nil blankColon first blank
  | cons member more ih =>
    obtain ⟨now, later⟩ := List.forall_mem_cons.mp each
    rw [List.map_cons, between]
    exact .member name blank_nil blankColon first blank_nil blankNext (ih member.1 now later)

private theorem spells_prettyElements {depth : Nat} {value : Json} {more : List Json}
    {cs : List Char} (first : Spells (.value value) cs)
    (each : ∀ element ∈ more, Spells (.value element) (prettyAt (depth + 1) element)) :
    Spells (.elements (value :: more)) (cs ++ prettyElements depth more) := by
  refine spells_elements (blank_newLine depth) (blank_newLine (depth + 1)) ?_ ?_ first each
  · rw [prettyElements]
  · intro element more
    simp only [prettyElements, List.cons_append, List.append_assoc]

private theorem spells_prettyMembers {depth : Nat} (name : String) {value : Json}
    {more : List (String × Json)} {cs : List Char} (first : Spells (.value value) cs)
    (each : ∀ member ∈ more, Spells (.value member.2) (prettyAt (depth + 1) member.2)) :
    Spells (.members ((some name, value) :: more.map fun (name, value) => (some name, value)))
      (stringText (some name) ++ (':' :: ' ' :: (cs ++
        prettyMembers depth (more.map fun (name, value) => (some name, value))))) := by
  refine spells_members (blank_newLine depth) (blank_newLine (depth + 1)) blank_space ?_ ?_ name
    first each
  · rw [prettyMembers]
  · intro name value more
    simp only [prettyMembers, List.cons_append, List.append_assoc, List.nil_append]

private theorem spells_prettyAt {value : Json} (clear : value.Clear) (depth : Nat) :
    Spells (.value value) (prettyAt depth value) := by
  induction clear generalizing depth with
  | null => exact .null
  | bool value =>
    cases value with
    | true => exact .true
    | false => exact .false
  | number small => exact .number small
  | text string => exact .string string
  | @array elements each ih =>
    cases elements with
    | nil => exact .emptyArray
    | cons first more =>
      obtain ⟨now, later⟩ := List.forall_mem_cons.mp ih
      have inside := spells_prettyElements (now (depth + 1)) fun element member =>
        later element member (depth + 1)
      have spelled := Spells.array (blank_newLine (depth + 1)) inside
      simpa only [prettyAt, List.cons_append, List.append_assoc] using spelled
  | @record members each ih =>
    cases members with
    | nil => exact .emptyObject
    | cons first more =>
      obtain ⟨now, later⟩ := List.forall_mem_cons.mp ih
      have inside := spells_prettyMembers first.1 (now (depth + 1)) fun element member =>
        later element member (depth + 1)
      have spelled := Spells.object (blank_newLine (depth + 1)) inside
      simpa only [record, List.map_cons, prettyAt, List.cons_append,
        List.append_assoc] using spelled

/-- A document is read back from its pretty text. -/
theorem read?_prettyText {value : Json} (clear : value.Clear) :
    read? value.prettyText = some value :=
  read?_of_spells (spells_prettyAt clear 0)

private theorem spells_compactElements {value : Json} {more : List Json} {cs : List Char}
    (first : Spells (.value value) cs)
    (each : ∀ element ∈ more, Spells (.value element) (compact element)) :
    Spells (.elements (value :: more)) (cs ++ compactElements more) := by
  refine spells_elements blank_nil blank_nil ?_ ?_ first each
  · rw [compactElements, List.nil_append]
  · intro element more
    simp only [compactElements, List.cons_append, List.nil_append]

private theorem spells_compactMembers (name : String) {value : Json} {more : List (String × Json)}
    {cs : List Char} (first : Spells (.value value) cs)
    (each : ∀ member ∈ more, Spells (.value member.2) (compact member.2)) :
    Spells (.members ((some name, value) :: more.map fun (name, value) => (some name, value)))
      (stringText (some name) ++ (':' :: (cs ++
        compactMembers (more.map fun (name, value) => (some name, value))))) := by
  refine spells_members blank_nil blank_nil blank_nil ?_ ?_ name first each
  · rw [compactMembers, List.nil_append]
  · intro name value more
    simp only [compactMembers, List.cons_append, List.append_assoc, List.nil_append]

private theorem spells_compact {value : Json} (clear : value.Clear) :
    Spells (.value value) (compact value) := by
  induction clear with
  | null => exact .null
  | bool value =>
    cases value with
    | true => exact .true
    | false => exact .false
  | number small => exact .number small
  | text string => exact .string string
  | @array elements each ih =>
    cases elements with
    | nil => exact .emptyArray
    | cons first more =>
      obtain ⟨now, later⟩ := List.forall_mem_cons.mp ih
      have spelled := Spells.array blank_nil (spells_compactElements now later)
      simpa only [compact, List.cons_append, List.nil_append] using spelled
  | @record members each ih =>
    cases members with
    | nil => exact .emptyObject
    | cons first more =>
      obtain ⟨now, later⟩ := List.forall_mem_cons.mp ih
      have spelled := Spells.object blank_nil (spells_compactMembers first.1 now later)
      simpa only [record, List.map_cons, compact, List.cons_append, List.append_assoc,
        List.nil_append] using spelled

/-- A document is read back from its compact text. -/
theorem read?_compactText {value : Json} (clear : value.Clear) :
    read? value.compactText = some value :=
  read?_of_spells (spells_compact clear)

end CellScreen.Json
