/-
  PathAuthz.Text.Property.Table — how the tables of character properties are written.

  The tables give version 16.0 of the Unicode standard. Each is a list of lines of words with
  blanks between them.
  - A table of values has a word for each run of code points, in order and from the first
    code point on: how many there are, and then their value.
  - A table of a set has a word for each range, in ascending order: the first code point in
    hexadecimal, and, if there is more than one, two full stops and the last.
  - A table of names has the words by which one thing may be called.
-/

import PathAuthz.Text
import PathAuthz.Text.CodePoint
import PathAuthz.Text.CodeSet

namespace PathAuthz.Text.Property

/-- The words of a line. -/
def words (line : String) : List (List Char) := (pieces ' ' line.toList).filter (!·.isEmpty)

/-! ## Values -/

/-- A run: a decimal length and a value. -/
def runOf (word : List Char) : Nat × String :=
  let (digits, value) := word.span Char.isDigit
  (digits.foldl (fun n c => n * 10 + (c.toNat - '0'.toNat)) 0, String.ofList value)

/-- The map of a table of values. -/
def valuesOf (beyond : String) (table : List String) : CodeMap String :=
  ⟨(table.flatMap words).map runOf, beyond⟩

/-! ## Sets -/

/-- A range, as its first and its last code point. -/
def rangeOf (word : List Char) : Nat × Nat :=
  match pieces '.' word with
  | [lo, [], hi] => (hexNumber lo, hexNumber hi)
  | _ => (hexNumber word, hexNumber word)

/-- The runs of ascending ranges, from a place on. -/
def runsFrom : Nat → List (Nat × Nat) → List (Nat × Bool)
  | _, [] => []
  | start, (lo, hi) :: rest => (lo - start, false) :: (hi + 1 - lo, true) :: runsFrom (hi + 1) rest

/-- The set of a table of ranges. -/
def rangesOf (table : List String) : CodeSet := ⟨runsFrom 0 ((table.flatMap words).map rangeOf), false⟩

/-! ## Names -/

/-- What is called by a name. -/
def named? {α : Type} (table : List (α × String)) (name : List Char) : Option α :=
  (table.find? fun entry => (words entry.2).contains name).map (·.1)

end PathAuthz.Text.Property
