/-! Digits of natural numbers, decimal and hexadecimal, and the number that digits denote. -/
namespace CellScreen.Number

def digitChar (d : Nat) : Char := Char.ofNat (48 + d)

def digitValue (c : Char) : Nat := c.toNat - 48

def digits (n : Nat) : List Nat :=
  if n < 10 then [n] else digits (n / 10) ++ [n % 10]

def ofDigits (ds : List Nat) : Nat := ds.foldl (fun n d => n * 10 + d) 0

def digitText (ds : List Nat) : List Char := ds.map digitChar

def decimal (n : Nat) : List Char := digitText (digits n)

def hexDigit (n : Nat) : Char :=
  if n < 10 then Char.ofNat (48 + n) else Char.ofNat (87 + n)

def hexDigits (n : Nat) : List Char :=
  if n < 16 then [hexDigit n] else hexDigits (n / 16) ++ [hexDigit (n % 16)]

def hexValue? (c : Char) : Option Nat :=
  if '0' ≤ c ∧ c ≤ '9' then some (c.toNat - 48)
  else if 'a' ≤ c ∧ c ≤ 'f' then some (c.toNat - 87)
  else if 'A' ≤ c ∧ c ≤ 'F' then some (c.toNat - 55)
  else none

def appendDigit? (base n : Nat) (c : Char) : Option Nat :=
  match hexValue? c with
  | some d => if d < base then some (n * base + d) else none
  | none => none

def ofText? (base : Nat) (cs : List Char) : Option Nat :=
  if cs.isEmpty then none else cs.foldlM (appendDigit? base) 0

theorem ofDigits_append_singleton (ds : List Nat) (d : Nat) :
    ofDigits (ds ++ [d]) = ofDigits ds * 10 + d := by
  simp [ofDigits]

theorem ofDigits_digits (n : Nat) : ofDigits (digits n) = n := by
  induction n using digits.induct with
  | case1 n small => rw [digits, if_pos small]; simp [ofDigits]
  | case2 n large ih => rw [digits, if_neg large, ofDigits_append_singleton, ih]; omega

theorem digits_lt_ten (n : Nat) : ∀ d ∈ digits n, d < 10 := by
  induction n using digits.induct with
  | case1 n small => rw [digits, if_pos small]; simpa using small
  | case2 n large ih =>
    rw [digits, if_neg large]
    intro d member
    rcases List.mem_append.mp member with inside | last
    · exact ih d inside
    · rw [List.mem_singleton.mp last]; omega

theorem digits_ne_nil (n : Nat) : digits n ≠ [] := by
  rw [digits]
  split <;> simp

end CellScreen.Number
