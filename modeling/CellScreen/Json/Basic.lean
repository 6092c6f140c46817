import CellScreen.Number.Shortest

/-! JSON documents, kept as they are written: numerals are not yet numbers, members keep
their order and may repeat, and a string with half a surrogate pair denotes no text. -/
namespace CellScreen

inductive Json where
  | null
  | bool (value : Bool)
  | number (numeral : Number.Numeral)
  | string (text : Option String)
  | array (elements : List Json)
  | object (members : List (Option String × Json))

namespace Json

def text (s : String) : Json := .string (some s)

def nat (n : Nat) : Json := .number (.ofNat n)

def int (i : Int) : Json := .number (.ofInt i)

def record (members : List (String × Json)) : Json :=
  .object (members.map fun (name, value) => (some name, value))

def orNull {α : Type} (encode : α → Json) : Option α → Json
  | some value => encode value
  | none => .null

def single (x : Number.Single) : Json :=
  match x.toNumeral? with
  | some numeral => .number numeral
  | none => .null

end Json
end CellScreen
