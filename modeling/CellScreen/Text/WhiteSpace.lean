import CellScreen.Text.CharSet

/-! White space, as the Unicode property of that name, and trimming by it. -/
namespace CellScreen.Text

def whiteSpace : CharSet where
  changes := [
    0x9, 0xE, 0x20, 0x21, 0x85, 0x86, 0xA0, 0xA1, 0x1680, 0x1681, 0x2000, 0x200B, 0x2028, 0x202A,
    0x202F, 0x2030, 0x205F, 0x2060, 0x3000, 0x3001
  ]

def isBlank (c : Char) : Bool := whiteSpace.contains c

def dropEndWhile (drop : Char → Bool) (cs : List Char) : List Char :=
  (cs.reverse.dropWhile drop).reverse

def trimEnd (cs : List Char) : List Char := dropEndWhile isBlank cs

def trim (cs : List Char) : List Char := trimEnd (cs.dropWhile isBlank)

end CellScreen.Text
