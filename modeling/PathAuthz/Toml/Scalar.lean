/-
  PathAuthz.Toml.Scalar — the values that are written as one bare word.

  Booleans; integers in four bases within 64 bits; decimal fractions, infinities and NaN;
  dates, times and moments. An underscore may stand between two digits. All this is TOML 1.1.

  A value that is no integer is turned into the text it is shown as, which is what the `config`
  library makes of it where a text is asked for: without an exponent, in the fewest digits
  that keep its value in double precision; a moment with `T` between date and time and `Z`
  for the zero meridian.
-/

import PathAuthz.Text.Decimal
import PathAuthz.Toml.Value

namespace PathAuthz.Toml

/-! ## Digits -/

def digit? (base : Nat) (c : Char) : Option Nat :=
  let d :=
    if '0' ≤ c ∧ c ≤ '9' then c.toNat - '0'.toNat
    else if 'a' ≤ c ∧ c ≤ 'f' then c.toNat - 'a'.toNat + 10
    else if 'A' ≤ c ∧ c ≤ 'F' then c.toNat - 'A'.toNat + 10
    else base
  if d < base then some d else none

/-- At least one digit, with single underscores between digits. -/
def digitRun? (base : Nat) : List Char → Option (List Nat)
  | [] => none
  | [c] => (digit? base c).map ([·])
  | c :: '_' :: rest => do return (← digit? base c) :: (← digitRun? base rest)
  | c :: rest => do return (← digit? base c) :: (← digitRun? base rest)

def numberOf (base : Nat) (ds : List Nat) : Nat := ds.foldl (fun n d => n * base + d) 0

/-- A decimal number without superfluous zeros in front. -/
def wholeRun? (cs : List Char) : Option (List Nat) := do
  let ds ← digitRun? 10 cs
  if ds.head? = some 0 && ds.length != 1 then none else return ds

/-- A sign, if there is one, and the rest. -/
def cutSign : List Char → Bool × List Char
  | '-' :: rest => (true, rest)
  | '+' :: rest => (false, rest)
  | cs => (false, cs)

/-! ## Numbers -/

def integer? (word : List Char) : Option Value :=
  let number : Option Int :=
    match word with
    | '0' :: 'x' :: rest => (digitRun? 16 rest).map fun ds => (numberOf 16 ds : Int)
    | '0' :: 'o' :: rest => (digitRun? 8 rest).map fun ds => (numberOf 8 ds : Int)
    | '0' :: 'b' :: rest => (digitRun? 2 rest).map fun ds => (numberOf 2 ds : Int)
    | _ =>
      let (negative, rest) := cutSign word
      (wholeRun? rest).map fun ds => if negative then -(numberOf 10 ds : Int) else numberOf 10 ds
  match number with
  | some n => if -9223372036854775808 ≤ n ∧ n ≤ 9223372036854775807 then some (.integer n) else none
  | none => none

/-- Cut at the first character of `marks`. -/
def cutAny (marks : List Char) (cs : List Char) : List Char × Option (List Char) :=
  match cs.dropWhile (· ∉ marks) with
  | [] => (cs, none)
  | _ :: rest => (cs.takeWhile (· ∉ marks), some rest)

def real? (word : List Char) : Option Value := do
  let (negative, rest) := cutSign word
  let sign := if negative then "-" else ""
  if rest = "inf".toList then return .real (sign ++ "inf")
  if rest = "nan".toList then return .real "NaN"
  let (mantissa, exponent) := cutAny ['e', 'E'] rest
  let (whole, fraction) := cutAny ['.'] mantissa
  if exponent.isNone && fraction.isNone then none
  let ds ← wholeRun? whole
  let fs ← match fraction with
    | some cs => digitRun? 10 cs
    | none => some []
  let e ← match exponent with
    | some cs =>
      let (down, cs) := cutSign cs
      (digitRun? 10 cs).map fun es => if down then -(numberOf 10 es : Int) else (numberOf 10 es : Int)
    | none => some 0
  let n := numberOf 10 (ds ++ fs)
  let e := e - fs.length
  -- so far from the range that the digits decide nothing
  let top := (toString n).length + e
  if n = 0 ∨ top < -400 then return .real (sign ++ "0")
  if 400 < top then none
  return .real (sign ++ (← Text.Decimal.shown? n e))

/-! ## Moments -/

/-- A number of so many decimal digits, and the rest. -/
def fixed? : Nat → List Char → Option (Nat × List Char)
  | 0, cs => some (0, cs)
  | _ + 1, [] => none
  | n + 1, c :: cs => do
    let d ← digit? 10 c
    let (v, rest) ← fixed? n cs
    return (d * Nat.pow 10 n + v, rest)

/-- A number in decimal with zeros in front. -/
def padded (width n : Nat) : String :=
  let cs := (toString n).toList
  String.ofList (List.replicate (width - cs.length) '0' ++ cs)

def isLeapYear (y : Nat) : Bool := (y % 4 == 0 && y % 100 != 0) || y % 400 == 0

def daysIn (y m : Nat) : Nat :=
  if m = 2 then (if isLeapYear y then 29 else 28) else if m ∈ [4, 6, 9, 11] then 30 else 31

/-- The text of a date at the front. -/
def date? (cs : List Char) : Option (String × List Char) := do
  let (y, cs) ← fixed? 4 cs
  let '-' :: cs := cs | none
  let (m, cs) ← fixed? 2 cs
  let '-' :: cs := cs | none
  let (d, cs) ← fixed? 2 cs
  if 1 ≤ m ∧ m ≤ 12 ∧ 1 ≤ d ∧ d ≤ daysIn y m then
    return (s!"{padded 4 y}-{padded 2 m}-{padded 2 d}", cs)
  else none

/-- The text of a fraction of a second, kept to nine places and without zeros at the end. -/
def shownFraction (ds : List Char) : String :=
  let kept := ((ds.take 9).reverse.dropWhile (· == '0')).reverse
  if kept = [] then ".0" else "." ++ String.ofList kept

/-- The text of a time of day at the front; seconds may be missing. -/
def time? (cs : List Char) : Option (String × List Char) := do
  let (h, cs) ← fixed? 2 cs
  let ':' :: cs := cs | none
  let (m, cs) ← fixed? 2 cs
  if 23 < h ∨ 59 < m then none
  let shown := s!"{padded 2 h}:{padded 2 m}"
  let ':' :: cs := cs | return (shown, cs)
  let (s, cs) ← fixed? 2 cs
  if 60 < s then none
  let shown := s!"{shown}:{padded 2 s}"
  let '.' :: cs := cs | return (shown, cs)
  let ds := cs.takeWhile Char.isDigit
  if ds = [] then none
  return (shown ++ shownFraction ds, cs.dropWhile Char.isDigit)

/-- The text of an offset, all of which has to be one. -/
def offset? (cs : List Char) : Option String :=
  match cs with
  | [] => some ""
  | ['Z'] => some "Z"
  | ['z'] => some "Z"
  | sign :: cs => do
    if sign ≠ '+' ∧ sign ≠ '-' then none
    let (h, cs) ← fixed? 2 cs
    let ':' :: cs := cs | none
    let (m, cs) ← fixed? 2 cs
    if cs ≠ [] ∨ 23 < h ∨ 59 < m then none
    let sign := if h = 0 ∧ m = 0 then '+' else sign
    return s!"{sign}{padded 2 h}:{padded 2 m}"

/-- A date, a time of day, or both with perhaps an offset. -/
def moment? (word : List Char) : Option Value :=
  match date? word with
  | some (date, []) => some (.moment date)
  | some (date, separator :: rest) => do
    if separator ≠ 'T' ∧ separator ≠ 't' ∧ separator ≠ ' ' then none
    let (time, rest) ← time? rest
    let offset ← offset? rest
    return .moment (date ++ "T" ++ time ++ offset)
  | none =>
    match time? word with
    | some (time, []) => some (.moment time)
    | _ => none

/-! ## Words -/

def isWordChar (c : Char) : Bool := c.isAlphanum || c == '_' || c == '+' || c == '-' || c == '.' || c == ':'

/-- The value of a bare word. -/
def ofWord? (word : List Char) : Option Value :=
  if word = "true".toList then some (.boolean true)
  else if word = "false".toList then some (.boolean false)
  else (integer? word).or ((real? word).or (moment? word))

/-- The bare word at the front of a text, and the rest. A date takes a time behind a single
    blank with it. -/
def cutWord (cs : List Char) : List Char × List Char :=
  let word := cs.takeWhile isWordChar
  let rest := cs.dropWhile isWordChar
  match date? word, rest with
  | some (_, []), ' ' :: d :: more =>
    if d.isDigit then (word ++ ' ' :: (d :: more).takeWhile isWordChar, (d :: more).dropWhile isWordChar)
    else (word, rest)
  | _, _ => (word, rest)

end PathAuthz.Toml
