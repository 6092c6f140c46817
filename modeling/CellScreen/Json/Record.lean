import CellScreen.Json.Basic

/-! What records, variants and plain values look like in JSON, for readers of records. A record
is an object with its fields in any order, or an array of them in order of declaration. -/
namespace CellScreen.Json

def bool? : Json → Option Bool
  | .bool value => some value
  | _ => none

def nat? (limit : Nat) : Json → Option Nat
  | .number numeral => numeral.toNat? limit
  | _ => none

def byte? (value : Json) : Option UInt8 := (value.nat? (2 ^ 8)).map UInt8.ofNat

def word? (value : Json) : Option Nat := value.nat? (2 ^ 32)

def size? (value : Json) : Option Nat := value.nat? (2 ^ 64)

def int? : Json → Option Int
  | .number numeral => numeral.toInt? 31
  | _ => none

def single? : Json → Option Number.Single
  | .number numeral => numeral.toSingle?
  | _ => none

def text? : Json → Option String
  | .string text => text
  | _ => none

def char? (value : Json) : Option Char :=
  match value.text?.map String.toList with
  | some [c] => some c
  | _ => none

def list? {α : Type} (element? : Json → Option α) : Json → Option (List α)
  | .array elements => elements.mapM element?
  | _ => none

def option? {α : Type} (value? : Json → Option α) : Json → Option (Option α)
  | .null => some none
  | value => (value? value).map some

def lookup (name : String) : List (Option String × Json) → Option Json
  | [] => none
  | (other, value) :: more => if other = some name then some value else lookup name more

def membersClear (names : List String) (members : List (Option String × Json)) : Bool :=
  members.all (fun (name, _) => name.isSome) &&
    names.all fun name => (members.filter fun (other, _) => other == some name).length ≤ 1

def fields? (names : List String) (mayStop : Bool) : Json → Option (List (Option Json))
  | .object members =>
    if membersClear names members then some (names.map fun name => lookup name members) else none
  | .array elements =>
    if elements.length = names.length || (mayStop && elements.length < names.length) then
      some (elements.map some ++ List.replicate (names.length - elements.length) none)
    else none
  | _ => none

def variant? : Json → Option (String × Option Json)
  | .string (some name) => some (name, none)
  | .object [(some name, value)] => some (name, some value)
  | _ => none

def isEmptyContent : Option Json → Bool
  | none => true
  | some .null => true
  | _ => false

end CellScreen.Json
