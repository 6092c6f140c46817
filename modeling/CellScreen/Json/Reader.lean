import CellScreen.Json.Basic

/-! Reading JSON text, strictly by its grammar: no comments, no trailing commas, no control
characters in strings, nothing after the document. Every reader returns the rest of the text. -/
namespace CellScreen.Json

open Number (Numeral digitValue hexValue? ofDigits)

def isSpace (c : Char) : Bool := c == ' ' || c == '\t' || c == '\n' || c == '\r'

def skipSpace (cs : List Char) : List Char := cs.dropWhile isSpace

def readDigits (cs : List Char) : List Nat × List Char :=
  ((cs.takeWhile Char.isDigit).map digitValue, cs.dropWhile Char.isDigit)

def readFraction : List Char → Option (List Nat × List Char)
  | '.' :: rest =>
    match readDigits rest with
    | ([], _) => none
    | (ds, rest) => some (ds, rest)
  | rest => some ([], rest)

def readPower (rest : List Char) : Option (Int × List Char) :=
  let (negative, rest) :=
    match rest with
    | '+' :: rest => (false, rest)
    | '-' :: rest => (true, rest)
    | rest => (false, rest)
  match readDigits rest with
  | ([], _) => none
  | (ds, rest) => some (if negative then -(ofDigits ds : Int) else ofDigits ds, rest)

def readExponent : List Char → Option (Option Int × List Char)
  | 'e' :: rest => (readPower rest).map fun (power, rest) => (some power, rest)
  | 'E' :: rest => (readPower rest).map fun (power, rest) => (some power, rest)
  | rest => some (none, rest)

def readUnsigned (negative : Bool) (cs : List Char) : Option (Numeral × List Char) := do
  let (ds, rest) := readDigits cs
  if ds.isEmpty || (ds.length > 1 && ds.head? == some 0) then none
  else
    let (fraction, rest) ← readFraction rest
    let (exponent, rest) ← readExponent rest
    some (⟨negative, ofDigits ds, fraction, exponent⟩, rest)

def readNumeral : List Char → Option (Numeral × List Char)
  | '-' :: rest => readUnsigned true rest
  | rest => readUnsigned false rest

def readUnit : List Char → Option (Nat × List Char)
  | a :: b :: c :: d :: rest => do
    let a ← hexValue? a
    let b ← hexValue? b
    let c ← hexValue? c
    let d ← hexValue? d
    some (((a * 16 + b) * 16 + c) * 16 + d, rest)
  | _ => none

def isHighSurrogate (unit : Nat) : Bool := 0xD800 ≤ unit && unit < 0xDC00

def isLowSurrogate (unit : Nat) : Bool := 0xDC00 ≤ unit && unit < 0xE000

def ofSurrogates (high low : Nat) : Char :=
  Char.ofNat (0x10000 + (high - 0xD800) * 0x400 + (low - 0xDC00))

def readLow : List Char → Option (Nat × List Char)
  | '\\' :: 'u' :: rest =>
    match readUnit rest with
    | some (unit, rest) => if isLowSurrogate unit then some (unit, rest) else none
    | none => none
  | _ => none

def shortEscape? : Char → Option Char
  | '"' => some '"'
  | '\\' => some '\\'
  | '/' => some '/'
  | 'b' => some '\x08'
  | 'f' => some '\x0c'
  | 'n' => some '\n'
  | 'r' => some '\r'
  | 't' => some '\t'
  | _ => none

def readEscape : List Char → Option (Option Char × List Char)
  | 'u' :: rest =>
    match readUnit rest with
    | none => none
    | some (unit, rest) =>
      if isHighSurrogate unit then
        match readLow rest with
        | some (low, rest) => some (some (ofSurrogates unit low), rest)
        | none => some (none, rest)
      else if isLowSurrogate unit then some (none, rest)
      else some (some (Char.ofNat unit), rest)
  | c :: rest => (shortEscape? c).map fun c => (some c, rest)
  | [] => none

def readCharacters : Nat → List Char → Option (Option (List Char) × List Char)
  | 0, _ => none
  | _, [] => none
  | budget + 1, c :: rest =>
    if c = '"' then some (some [], rest)
    else if c = '\\' then
      match readEscape rest with
      | none => none
      | some (first, rest) =>
        (readCharacters budget rest).map fun (more, rest) =>
          (first.bind fun c => more.map (c :: ·), rest)
    else if c.toNat < 0x20 then none
    else (readCharacters budget rest).map fun (more, rest) => (more.map (c :: ·), rest)

def readString (cs : List Char) : Option (Option String × List Char) :=
  (readCharacters (cs.length + 1) cs).map fun (text, rest) => (text.map String.ofList, rest)

mutual

def readValue : Nat → List Char → Option (Json × List Char)
  | 0, _ => none
  | budget + 1, cs =>
    match cs with
    | 'n' :: 'u' :: 'l' :: 'l' :: rest => some (.null, rest)
    | 't' :: 'r' :: 'u' :: 'e' :: rest => some (.bool true, rest)
    | 'f' :: 'a' :: 'l' :: 's' :: 'e' :: rest => some (.bool false, rest)
    | '"' :: rest => (readString rest).map fun (text, rest) => (.string text, rest)
    | '[' :: rest =>
      match skipSpace rest with
      | ']' :: rest => some (.array [], rest)
      | rest => (readElements budget rest).map fun (elements, rest) => (.array elements, rest)
    | '\x7b' :: rest =>
      match skipSpace rest with
      | '\x7d' :: rest => some (.object [], rest)
      | rest => (readMembers budget rest).map fun (members, rest) => (.object members, rest)
    | cs => (readNumeral cs).map fun (numeral, rest) => (.number numeral, rest)

def readElements : Nat → List Char → Option (List Json × List Char)
  | 0, _ => none
  | budget + 1, cs =>
    match readValue budget cs with
    | none => none
    | some (element, rest) =>
      match skipSpace rest with
      | ']' :: rest => some ([element], rest)
      | ',' :: rest =>
        (readElements budget (skipSpace rest)).map fun (elements, rest) =>
          (element :: elements, rest)
      | _ => none

def readMembers : Nat → List Char → Option (List (Option String × Json) × List Char)
  | 0, _ => none
  | budget + 1, cs =>
    match cs with
    | '"' :: rest =>
      match readString rest with
      | none => none
      | some (name, rest) =>
        match skipSpace rest with
        | ':' :: rest =>
          match readValue budget (skipSpace rest) with
          | none => none
          | some (value, rest) =>
            match skipSpace rest with
            | '\x7d' :: rest => some ([(name, value)], rest)
            | ',' :: rest =>
              (readMembers budget (skipSpace rest)).map fun (members, rest) =>
                ((name, value) :: members, rest)
            | _ => none
        | _ => none
    | _ => none

end

def read? (text : String) : Option Json :=
  let cs := text.toList
  match readValue (cs.length + 1) (skipSpace cs) with
  | some (value, rest) => if (skipSpace rest).isEmpty then some value else none
  | none => none

end CellScreen.Json
