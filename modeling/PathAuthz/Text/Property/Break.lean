/-
  PathAuthz.Text.Property.Break — where a text may be divided.

  Three properties tell characters apart for dividing a text into what is read as one
  character, into words and into sentences. Each is a list of classes with their names; what
  is in none of them has none.
-/

import PathAuthz.Text.Property.Binary

namespace PathAuthz.Text.Property

def hangulSyllables : CodeSet := CodeSet.range 0xAC00 0xD7A3

/-- The Hangul syllables without a final consonant: every twenty-eighth. -/
def openSyllables : CodeSet :=
  ⟨(0xAC00, false) :: (List.replicate 399 [(1, true), (27, false)]).flatten, false⟩

/-- Signs that stand before the digits of a number, and a digit that is no decimal one. -/
def numeralLike : CodeSet := prependedConcatenationMark \ rangesOf ["70F"] ∪ rangesOf ["19DA"]

/-! ## Characters as they are read -/

def graphemeExtended : CodeSet := graphemeExtend ∪ emojiModifier

def graphemeControl : CodeSet :=
  (inCategory ["Zl", "Zp", "Cc", "Cf"] ∪ inCategory ["Cn"] ∩ defaultIgnorableCodePoint) \
    (rangesOf ["A D 200C..200D"] ∪ prependedConcatenationMark ∪ graphemeExtended)

/-- Spacing marks that are divided from what stands before them are left out. -/
def graphemeSpacing : CodeSet :=
  (inCategory ["Mc"] \ graphemeExtend ∪ rangesOf ["E33 EB3"]) \ rangesOf [
    "102B..102C 1038 1062..1064 1067..106D 1083 1087..108C 108F 109A..109C 1A61 1A63..1A64 AA7B AA7D",
    "11720..11721"]

def graphemeBreaks : List (CodeSet × String) := [
  (rangesOf ["D"], "cr"),
  (rangesOf ["A"], "lf"),
  (rangesOf ["200D"], "zwj"),
  (regionalIndicator, "ri regionalindicator"),
  (graphemeExtended, "ex extend"),
  (graphemeControl, "cn control"),
  (graphemeSpacing, "sm spacingmark"),
  (prependedConcatenationMark ∪ rangesOf [
  "D4E 111C2..111C3 113D1 1193F 11941 11A3A 11A84..11A89 11D46 11F02"], "pp prepend"),
  (rangesOf ["1100..115F A960..A97C"], "l"),
  (rangesOf ["1160..11A7 D7B0..D7C6 16D63 16D67..16D6A"], "v"),
  (rangesOf ["11A8..11FF D7CB..D7FB"], "t"),
  (openSyllables, "lv"),
  (hangulSyllables \ openSyllables, "lvt")]

/-! ## Words -/

def wordExtended : CodeSet := graphemeExtend ∪ inCategory ["Mc"] ∪ emojiModifier

/-- The scripts that are written without blanks between words, and Hebrew and Katakana, which
    have classes of their own. -/
def lettersWithoutWords : CodeSet := rangesOf [
  "5D0..5F2 E01..EDF 1000..108E 1780..17DC 1950..19C9 1A20..1AA7 3006..303A 3041..30FF",
  "31F0..9FFF A9E0..A9FE AA60..AADD F900..FAD9 FB1D..FB4F FF66..FF9D 11700..11746 17000..1B2FB",
  "20000..323AF"]

/-- What joins with letters without being one. -/
def letterLike : CodeSet := rangesOf [
  "2C2..2C5 2D2..2D7 2DE..2DF 2E5..2EB 2ED 2EF..2FF 55A..55C 55E 58A 5F3 70F A708..A716",
  "A720..A721 A789..A78A AB5B"]

def wordLetters : CodeSet := alphabetic \ (wordExtended ∪ lettersWithoutWords) ∪ letterLike

def wordBreaks : List (CodeSet × String) := [
  (rangesOf ["D"], "cr"),
  (rangesOf ["A"], "lf"),
  (rangesOf ["B..C 85 2028..2029"], "nl newline"),
  (wordExtended, "extend"),
  (rangesOf ["200D"], "zwj"),
  (regionalIndicator, "ri regionalindicator"),
  (inCategory ["Cf"] \ (rangesOf ["200B..200D"] ∪ graphemeExtend ∪ prependedConcatenationMark),
    "fo format"),
  (rangesOf [
    "3031..3035 309B..309C 30A0..30FA 30FC..30FF 31F0..31FF 32D0..32FE 3300..3357 FF66..FF9D",
    "1AFF0..1AFF3 1AFF5..1AFFB 1AFFD..1AFFE 1B000 1B120..1B122 1B155 1B164..1B167"], "ka katakana"),
  (rangesOf [
    "5D0..5EA 5EF..5F2 FB1D FB1F..FB28 FB2A..FB36 FB38..FB3C FB3E FB40..FB41 FB43..FB44 FB46..FB4F"],
    "hl hebrewletter"),
  (wordLetters, "le aletter"),
  (rangesOf ["27"], "sq singlequote"),
  (rangesOf ["22"], "dq doublequote"),
  (rangesOf ["2E 2018..2019 2024 FE52 FF07 FF0E"], "mb midnumlet"),
  (rangesOf ["3A B7 387 55F 5F4 2027 FE13 FE55 FF1A"], "ml midletter"),
  (rangesOf ["2C 3B 37E 589 60C..60D 66C 7F8 2044 FE50 FE54 FF0C FF1B"], "mn midnum"),
  (inCategory ["Nd"] ∪ numeralLike ∪ rangesOf ["66B"], "nu numeric"),
  (inCategory ["Pc"] ∪ rangesOf ["202F"], "ex extendnumlet"),
  (inCategory ["Zs"] \ rangesOf ["A0 2007 202F"], "wsegspace")]

/-! ## Sentences -/

def sentenceExtended : CodeSet := graphemeExtend ∪ inCategory ["Mc"] ∪ rangesOf ["200D"]

/-- The Georgian letters start no sentence in either case. -/
def sentenceLower : CodeSet := lowercase \ (graphemeExtend ∪ rangesOf ["10D0..10FA 10FD..10FF"])

def sentenceUpper : CodeSet := (uppercase ∪ inCategory ["Lt"]) \ rangesOf ["1C90..1CBF"]

def sentenceLetters : CodeSet :=
  alphabetic \ (sentenceLower ∪ sentenceUpper ∪ sentenceExtended) ∪ rangesOf ["5F3"]

def fullStops : CodeSet := rangesOf ["2E 2024 FE52 FF0E"]

def sentenceBreaks : List (CodeSet × String) := [
  (rangesOf ["D"], "cr"),
  (rangesOf ["A"], "lf"),
  (rangesOf ["85 2028..2029"], "se sep"),
  (sentenceExtended, "ex extend"),
  (inCategory ["Cf"] \ (rangesOf ["200C..200D"] ∪ graphemeExtend ∪ numeralLike), "fo format"),
  (whiteSpace \ rangesOf ["A D 85 2028..2029"], "sp"),
  (sentenceLower, "lo lower"),
  (sentenceUpper, "up upper"),
  (sentenceLetters, "le oletter"),
  (inCategory ["Nd"] ∪ numeralLike ∪ rangesOf ["66B..66C"], "nu numeric"),
  (fullStops, "at aterm"),
  (rangesOf [
    "2C..2D 3A..3B 37E 55D 60C..60D 7F8 1802 1808 2013..2014 3001 FE10..FE11 FE13..FE14 FE31..FE32",
    "FE50..FE51 FE54..FE55 FE58 FE63 FF0C..FF0D FF1A..FF1B FF64"], "sc scontinue"),
  (sentenceTerminal \ fullStops, "st sterm"),
  (inCategory ["Ps", "Pe", "Pi", "Pf"] ∪ rangesOf ["22 27 275B..2760 2E00..2E01 2E06..2E08 2E0B 1F676..1F678"],
    "cl close")]

end PathAuthz.Text.Property
