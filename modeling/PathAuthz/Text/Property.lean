/-
  PathAuthz.Text.Property — sets of characters that have names.

  These are the names that the `regex` library documents for `\p` and `\P`.

  (1) Names are compared loosely: a leading `is`, blanks, underscores, hyphens and characters
  outside ASCII do not count, and neither does the case.

  (2) `Property.ofQuery?` gives the set a query names. A name alone is a property that a
  character has or has not, a general category or a script. A name and a value, with an equals
  sign or a colon between them, are a property and one of its values; `!=` between them stands
  for all characters with another value.

  (3) Decimal digits and word characters have names of their own, and white space is what
  `isBlank` tests for (`contains_whiteSpace`).
-/

import PathAuthz.Text.Property.Age
import PathAuthz.Text.Property.Break
import PathAuthz.Text.Property.Script

namespace PathAuthz.Text

namespace Property

/-! ## (1) Names -/

/-- Whether an `is` leads. -/
def hasIs : List Char → Bool
  | i :: s :: _ => i.toLower == 'i' && s.toLower == 's'
  | _ => false

/-- What counts of a name. A `c` behind an `is` is not the name of a category. -/
def loose (name : List Char) : List Char :=
  let own := if hasIs name then name.drop 2 else name
  let kept := own.filter fun c => c.toNat < 128 && c != ' ' && c != '_' && c != '-'
  let lower := kept.map Char.toLower
  if hasIs name ∧ lower = ['c'] then ['i', 's', 'c'] else lower

/-! ## (2) Queries -/

/-- The set of a name: of a property that a character has or has not, of a category, or of a script. -/
def ofName? (name : List Char) : Option CodeSet :=
  let name := loose name
  (binaryNamed? name).or ((categoryNamed? name).or ((scriptNamed? name).map inScript))

/-- The properties with values. -/
inductive Valued where
  | category
  | script
  | scriptExtension
  | age
  | graphemeBreak
  | wordBreak
  | sentenceBreak
  deriving DecidableEq, Repr

def valuedNames : List (Valued × String) := [
  (.category, "gc generalcategory"),
  (.script, "sc script"),
  (.scriptExtension, "scx scriptextensions"),
  (.age, "age"),
  (.graphemeBreak, "gcb graphemeclusterbreak"),
  (.wordBreak, "wb wordbreak"),
  (.sentenceBreak, "sb sentencebreak")]

/-- The set of a value. -/
def Valued.codes? (p : Valued) (value : List Char) : Option CodeSet :=
  match p with
  | category => categoryNamed? value
  | script => (scriptNamed? value).map inScript
  | scriptExtension => (scriptNamed? value).map inScriptExtension
  | age => assignedIn? value
  | graphemeBreak => named? graphemeBreaks value
  | wordBreak => named? wordBreaks value
  | sentenceBreak => named? sentenceBreaks value

/-- The set of a property and a value, as they are written. -/
def ofValue? (name value : List Char) : Option CodeSet := do
  let p ← named? valuedNames (loose name)
  p.codes? (loose value)

/-- The set of a query. An exclamation mark before the equals sign belongs to it. -/
def ofQuery? (query : List Char) : Option CodeSet :=
  match cut (fun c => c == ':' || c == '=') query with
  | none => ofName? query
  | some (name, separator, value) =>
    if separator = '=' ∧ name.getLast? = some '!' then
      (ofValue? name.dropLast value).map (CodeSet.characters \ ·)
    else ofValue? name value

end Property

/-! ## (3) Digits, word characters and white space -/

/-- The decimal digits of every script. -/
def decimalDigits : CodeSet := Property.inCategory ["Nd"]

/-- What may stand inside a word: letters, marks, decimal digits, letter-like numbers and
    symbols, connecting punctuation and the two joiners. -/
def wordCharacters : CodeSet :=
  Property.alphabetic ∪ Property.inCategory ["Mn", "Mc", "Me", "Nd", "Pc"] ∪ Property.joinControl

theorem ranges_whiteSpace :
    Property.whiteSpace.ranges =
      [(9, 13), (0x20, 0x20), (0x85, 0x85), (0xA0, 0xA0), (0x1680, 0x1680), (0x2000, 0x200A), (0x2028, 0x2029),
        (0x202F, 0x202F), (0x205F, 0x205F), (0x3000, 0x3000)] := by
  decide +kernel

theorem contains_whiteSpace (c : Char) : Property.whiteSpace.contains c = isBlank c := by
  rw [Bool.eq_iff_iff, CodeSet.contains, CodeSet.get_iff_mem_ranges rfl, ranges_whiteSpace]
  simp only [List.mem_cons, List.not_mem_nil, or_false, exists_eq_or_imp, exists_eq_left, isBlank, Bool.or_eq_true,
    Bool.and_eq_true, decide_eq_true_eq, beq_iff_eq]
  omega

end PathAuthz.Text
