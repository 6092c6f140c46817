/-! Cutting text into fields. -/
namespace CellScreen.Text

def cut (separator : Char) : List Char → List Char × Option (List Char)
  | [] => ([], none)
  | c :: rest =>
    if c = separator then ([], some rest)
    else (c :: (cut separator rest).1, (cut separator rest).2)

def fields (separator : Char) : List Char → List (List Char)
  | [] => [[]]
  | c :: rest =>
    if c = separator then [] :: fields separator rest
    else match fields separator rest with
      | [] => [[c]]
      | field :: more => (c :: field) :: more

def after? : List Char → List Char → Option (List Char)
  | [], cs => some cs
  | _ :: _, [] => none
  | b :: beginning, c :: cs => if b = c then after? beginning cs else none

theorem after?_eq_some_iff {beginning cs rest : List Char} :
    after? beginning cs = some rest ↔ cs = beginning ++ rest := by
  induction beginning generalizing cs with
  | nil => simp [after?, eq_comm]
  | cons b beginning ih =>
    cases cs with
    | nil => simp [after?]
    | cons c cs =>
      by_cases same : b = c
      · simp [after?, same, ih]
      · simp [after?, same, Ne.symm same]

theorem fields_ne_nil (separator : Char) (cs : List Char) : fields separator cs ≠ [] := by
  cases cs with
  | nil => simp [fields]
  | cons c cs =>
    simp only [fields]
    split
    · simp
    · split <;> simp

end CellScreen.Text
