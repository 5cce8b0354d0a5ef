/-
  PathAuthz.Text.Decimal — a number with binary precision, in decimal digits.

  (1) `nearest` rounds a fraction to a number of 53 significant bits in the range of double
  precision, a tie to the even neighbour.

  (2) `shortest` finds the fewest decimal digits that round to such a number, and of the
  decimals with so many digits the nearest to it.

  (3) `plain` writes digits without an exponent.
-/

namespace PathAuthz.Text.Decimal

/-! ## (1) Rounding to binary -/

/-- The least number of 53 bits. -/
def firstOf53 : Nat := Nat.pow 2 52

/-- `mantissa * 2 ^ exponent`. -/
structure Binary where
  mantissa : Nat
  exponent : Int
  deriving DecidableEq, Repr

/-- `num / den / b ^ e` as a fraction. -/
def dividedBy (b num den : Nat) (e : Int) : Nat × Nat :=
  if 0 ≤ e then (num, den * Nat.pow b e.toNat) else (num * Nat.pow b (-e).toNat, den)

/-- The natural number nearest to `num / den`, a tie to the even one. -/
def roundHalfEven (num den : Nat) : Nat :=
  let d := num / den
  let r := num % den
  if 2 * r < den then d else if den < 2 * r then d + 1 else d + d % 2

/-- The number of double precision nearest to `num / den`, if it is in range. -/
def nearest? (num den : Nat) : Option Binary :=
  if num = 0 then some ⟨0, 0⟩
  else
    let e : Int := (num.log2 : Int) - den.log2 - 52
    let (n, d) := dividedBy 2 num den e
    let e := max (if n / d < firstOf53 then e - 1 else e) (-1074)
    let (n, d) := dividedBy 2 num den e
    let m := roundHalfEven n d
    let (m, e) := if m = 2 * firstOf53 then (firstOf53, e + 1) else (m, e)
    if 971 < e then none else some ⟨m, e⟩

/-! ## (2) The shortest digits -/

/-- A decimal `digits * 10 ^ exponent`. -/
structure Digits where
  digits : Nat
  exponent : Int
  deriving DecidableEq, Repr

/-- The decimal nearest to `b` among those with `count` digits that round to it, if there is
    one; of two that are equally near the greater. Distances are counted in quarters of the last bit: the interval that rounds to `b`
    reaches two of them upwards, and two or, below a power of two, one downwards. Its ends
    belong to it when the mantissa is even. -/
def withDigits? (b : Binary) (top : Int) (count : Nat) : Option Digits :=
  let g := top - count + 1
  let below := if b.mantissa = firstOf53 ∧ -1074 < b.exponent then 1 else 2
  -- the value of a quarter, divided by the grid
  let (un, ud) := dividedBy 2 1 1 (2 - b.exponent)
  let (un, ud) := dividedBy 10 un ud g
  let value := 4 * b.mantissa * un
  let isIn := fun (c : Nat) =>
    let c := c * ud
    if b.mantissa % 2 = 0 then (4 * b.mantissa - below) * un ≤ c ∧ c ≤ (4 * b.mantissa + 2) * un
    else (4 * b.mantissa - below) * un < c ∧ c < (4 * b.mantissa + 2) * un
  let c := value / ud
  let lower := decide (isIn c)
  let upper := decide (isIn (c + 1))
  if lower && (!upper || value - c * ud < (c + 1) * ud - value) then some ⟨c, g⟩
  else if upper then some ⟨c + 1, g⟩
  else none

/-- The exponent of the first decimal digit. -/
def topExponent (b : Binary) : Int :=
  let (n, d) := dividedBy 2 b.mantissa 1 (-b.exponent)
  let guess : Int := ((n.log2 : Int) - d.log2) * 30103 / 100000
  let reaches := fun (e : Int) => let (n, d) := dividedBy 10 n d e; d ≤ n
  if reaches (guess + 1) then guess + 1 else if reaches guess then guess else guess - 1

/-- Drop a zero at the end: the digits of a power of ten may come out with one. -/
def Digits.dropZero (d : Digits) : Digits :=
  if d.digits % 10 = 0 then ⟨d.digits / 10, d.exponent + 1⟩ else d

def shortest (b : Binary) : Digits :=
  if b.mantissa = 0 then ⟨0, 0⟩
  else (((List.range 17).findSome? fun i => withDigits? b (topExponent b) (i + 1)).getD ⟨0, 0⟩).dropZero

/-! ## (3) Writing -/

/-- Digits without an exponent, with a point only where something follows it. -/
def plain (d : Digits) : String :=
  let text := (toString d.digits).toList
  if 0 ≤ d.exponent then String.ofList (text ++ List.replicate d.exponent.toNat '0')
  else
    let places := (-d.exponent).toNat
    let text := List.replicate (places + 1 - text.length) '0' ++ text
    let whole := text.length - places
    String.ofList (text.take whole ++ '.' :: text.drop whole)

/-- The text of `digits * 10 ^ exponent` after rounding to double precision, if that is in
    range. -/
def shown? (digits : Nat) (exponent : Int) : Option String :=
  let (num, den) := dividedBy 10 digits 1 (-exponent)
  (nearest? num den).map fun b => plain (shortest b)

end PathAuthz.Text.Decimal
