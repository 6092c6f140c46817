import CellScreen.Json.Basic

/-! Writing JSON text, on one line or with one element or member a line. -/
namespace CellScreen.Json

open Number (Numeral decimal digitText hexDigit)

def numeralText (numeral : Numeral) : List Char :=
  (if numeral.negative then ['-'] else []) ++ decimal numeral.whole ++
    (if numeral.fraction.isEmpty then [] else '.' :: digitText numeral.fraction) ++
    match numeral.exponent with
    | none => []
    | some power => 'e' :: (if power < 0 then '-' else '+') :: decimal power.natAbs

def escaped (c : Char) : List Char :=
  if c = '"' then ['\\', '"']
  else if c = '\\' then ['\\', '\\']
  else if c = '\x08' then ['\\', 'b']
  else if c = '\t' then ['\\', 't']
  else if c = '\n' then ['\\', 'n']
  else if c = '\x0c' then ['\\', 'f']
  else if c = '\r' then ['\\', 'r']
  else if c.toNat < 0x20 then
    ['\\', 'u', '0', '0', hexDigit (c.toNat / 16), hexDigit (c.toNat % 16)]
  else [c]

def stringText (text : Option String) : List Char :=
  '"' :: (text.getD "").toList.flatMap escaped ++ ['"']

mutual

def compact : Json → List Char
  | .null => "null".toList
  | .bool true => "true".toList
  | .bool false => "false".toList
  | .number numeral => numeralText numeral
  | .string text => stringText text
  | .array [] => "[]".toList
  | .array (first :: more) => '[' :: compact first ++ compactElements more
  | .object [] => ['\x7b', '\x7d']
  | .object ((name, value) :: more) =>
    '\x7b' :: stringText name ++ ':' :: compact value ++ compactMembers more

def compactElements : List Json → List Char
  | [] => [']']
  | element :: more => ',' :: compact element ++ compactElements more

def compactMembers : List (Option String × Json) → List Char
  | [] => ['\x7d']
  | (name, value) :: more =>
    ',' :: stringText name ++ ':' :: compact value ++ compactMembers more

end

def newLine (depth : Nat) : List Char := '\n' :: List.replicate (2 * depth) ' '

mutual

def prettyAt (depth : Nat) : Json → List Char
  | .null => "null".toList
  | .bool true => "true".toList
  | .bool false => "false".toList
  | .number numeral => numeralText numeral
  | .string text => stringText text
  | .array [] => "[]".toList
  | .array (first :: more) =>
    '[' :: newLine (depth + 1) ++ prettyAt (depth + 1) first ++ prettyElements depth more
  | .object [] => ['\x7b', '\x7d']
  | .object ((name, value) :: more) =>
    '\x7b' :: newLine (depth + 1) ++ stringText name ++ ':' :: ' ' :: prettyAt (depth + 1) value ++
      prettyMembers depth more

def prettyElements (depth : Nat) : List Json → List Char
  | [] => newLine depth ++ [']']
  | element :: more =>
    ',' :: newLine (depth + 1) ++ prettyAt (depth + 1) element ++ prettyElements depth more

def prettyMembers (depth : Nat) : List (Option String × Json) → List Char
  | [] => newLine depth ++ ['\x7d']
  | (name, value) :: more =>
    ',' :: newLine (depth + 1) ++ stringText name ++ ':' :: ' ' :: prettyAt (depth + 1) value ++
      prettyMembers depth more

end

def compactText (value : Json) : String := String.ofList (compact value)

def prettyText (value : Json) : String := String.ofList (prettyAt 0 value)

end CellScreen.Json
