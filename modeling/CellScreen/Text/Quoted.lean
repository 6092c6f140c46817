import CellScreen.Number.Digits
import CellScreen.Text.Printable

/-! Quoted text in messages: in double quotes, with short escapes for the usual controls
and the code point in braces for whatever cannot be shown. -/
namespace CellScreen.Text

def quotedChar (c : Char) : List Char :=
  if c = '"' then ['\\', '"']
  else if c = '\\' then ['\\', '\\']
  else if c = '\n' then ['\\', 'n']
  else if c = '\r' then ['\\', 'r']
  else if c = '\t' then ['\\', 't']
  else if c = '\x00' then ['\\', '0']
  else if isShown c then [c]
  else ['\\', 'u', '\x7b'] ++ Number.hexDigits c.toNat ++ ['\x7d']

def quoted (text : String) : String :=
  String.ofList ('"' :: text.toList.flatMap quotedChar ++ ['"'])

end CellScreen.Text
