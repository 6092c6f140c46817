import CellScreen.Number.Digits
import CellScreen.Palette
import CellScreen.Text.Fields
import CellScreen.Text.Quoted
import CellScreen.Text.WhiteSpace

/-! Color schemes: a name, or entries that assign the default colors and palette entries one
after the other. -/
namespace CellScreen

structure Scheme where
  foreground : Rgb
  background : Rgb
  palette : Option ColorTable
deriving DecidableEq

inductive SchemeError where
  | missingSeparator (entry : String)
  | unknownName (name : String)
  | invalidIndex (reference : String)
  | invalidColor (value : String)
deriving DecidableEq, Repr

def SchemeError.message : SchemeError → String
  | .missingSeparator entry =>
    s!"expected `name: value` in color scheme entry {Text.quoted entry}"
  | .unknownName name => s!"unknown color name {Text.quoted name}"
  | .invalidIndex reference =>
    s!"palette reference {Text.quoted reference} out of range (0-255)"
  | .invalidColor value =>
    s!"invalid color value {Text.quoted value}, expected rgb:RR/GG/BB or colorN"

namespace Scheme

def grayBlack : Scheme := ⟨⟨0x99, 0x99, 0x99⟩, .black, none⟩

def blackWhite : Scheme := ⟨.black, .white, none⟩

def greenBlack : Scheme := ⟨⟨0x00, 0xcc, 0x00⟩, .black, none⟩

def whiteBlack : Scheme := ⟨.white, .black, none⟩

def named? (name : String) : Option Scheme :=
  if name = "" ∨ name = "gray-black" then some grayBlack
  else if name = "black-white" then some blackWhite
  else if name = "green-black" then some greenBlack
  else if name = "white-black" then some whiteBlack
  else none

def plusNumber? (base : Nat) : List Char → Option Nat
  | '+' :: cs => Number.ofText? base cs
  | cs => Number.ofText? base cs

def colorIndex? (cs : List Char) : Option UInt8 :=
  match plusNumber? 10 cs with
  | some n => if n < 256 then some (UInt8.ofNat n) else none
  | none => none

def reference? (text : List Char) : Option (Except SchemeError UInt8) :=
  (Text.after? "color".toList text).map fun index =>
    match colorIndex? index with
    | some index => .ok index
    | none => .error (.invalidIndex (String.ofList text))

inductive Target where
  | foreground
  | background
  | entry (index : UInt8)
deriving DecidableEq, Repr

def target (name : List Char) : Except SchemeError Target :=
  if name = "foreground".toList then .ok .foreground
  else if name = "background".toList then .ok .background
  else match reference? name with
    | some reference => reference.map .entry
    | none => .error (.unknownName (String.ofList name))

def component? (part : List Char) : Option UInt8 :=
  if part.length ≤ 2 then (plusNumber? 16 part).map UInt8.ofNat else none

def components? (parts : List (List Char)) : Option Rgb :=
  match parts with
  | [red, green, blue] => do
    return ⟨← component? red, ← component? green, ← component? blue⟩
  | _ => none

def value (table : ColorTable) (text : List Char) : Except SchemeError Rgb :=
  match reference? text with
  | some reference => reference.map table.get
  | none =>
    match (Text.after? "rgb:".toList text).bind fun parts => components? (Text.fields '/' parts) with
    | some color => .ok color
    | none => .error (.invalidColor (String.ofList text))

structure Progress where
  foreground : Rgb
  background : Rgb
  table : ColorTable
  overridden : Bool

def Progress.start : Progress := ⟨grayBlack.foreground, grayBlack.background, .initial, false⟩

def Progress.assign (progress : Progress) (target : Target) (color : Rgb) : Progress :=
  match target with
  | .foreground => { progress with foreground := color }
  | .background => { progress with background := color }
  | .entry index =>
    { progress with table := progress.table.set index color, overridden := true }

def Progress.scheme (progress : Progress) : Scheme :=
  ⟨progress.foreground, progress.background,
    if progress.overridden then some progress.table else none⟩

/-- The name and the value of an entry. A blank in the name makes the colon part of the value. -/
def nameAndValue (entry : List Char) : Except SchemeError (List Char × List Char) :=
  match Text.cut ':' entry with
  | (name, some value) =>
    let name := Text.trim name
    if name.any Text.isBlank then .error (.missingSeparator (String.ofList entry))
    else .ok (name, Text.trim value)
  | (_, none) => .error (.missingSeparator (String.ofList entry))

def assignEntry (progress : Progress) (entry : List Char) : Except SchemeError Progress := do
  let (name, text) ← nameAndValue entry
  let target ← target name
  let color ← value progress.table text
  return progress.assign target color

def entries (spec : List Char) : List (List Char) :=
  ((Text.fields ';' spec).map Text.trim).filter (!·.isEmpty)

def ofSpec (spec : String) : Except SchemeError Scheme :=
  let trimmed := Text.trim spec.toList
  match named? (String.ofList trimmed) with
  | some scheme => .ok scheme
  | none => do
    let progress ← (entries trimmed).foldlM assignEntry .start
    return progress.scheme

end Scheme
end CellScreen
