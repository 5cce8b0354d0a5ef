/-
  PathAuthz.Text.CodePoint — code points, written in hexadecimal.
-/

namespace PathAuthz.Text

def hexDigit? (c : Char) : Option Nat :=
  if '0' ≤ c ∧ c ≤ '9' then some (c.toNat - '0'.toNat)
  else if 'a' ≤ c ∧ c ≤ 'f' then some (c.toNat - 'a'.toNat + 10)
  else if 'A' ≤ c ∧ c ≤ 'F' then some (c.toNat - 'A'.toNat + 10)
  else none

/-- The number some hexadecimal digits stand for; any other character counts as a zero. -/
def hexNumber (digits : List Char) : Nat := digits.foldl (fun n c => n * 16 + (hexDigit? c).getD 0) 0

/-- The character with a code point, if it is one. -/
def charOfCode? (n : Nat) : Option Char :=
  if n.isValidChar then some (Char.ofNat n) else none

end PathAuthz.Text
