/-
  PathAuthz.Text.Utf8.Span — UTF-8 byte by byte: ranges of characters as ranges of bytes.

  A span is a range for each byte of a sequence and stands for every sequence whose bytes lie
  in the ranges. `spansOf` gives the spans of a range of code points in ascending order: behind
  a byte that is not fixed, every byte takes all its values. So the `regex` library documents
  the byte sequences of a set of characters.
-/

namespace PathAuthz.Text.Utf8

/-- A range for each byte, both ends included. -/
abbrev Span := List (Nat × Nat)

/-- A length of sequences: the code points that have it, the byte the first one is counted
    from, and how many bytes follow it. -/
structure Width where
  first : Nat
  last : Nat
  lead : Nat
  more : Nat

/-- The lengths, in the order of their code points; the surrogates have none. -/
def widths : List Width := [
  ⟨0, 0x7F, 0, 0⟩,
  ⟨0x80, 0x7FF, 0xC0, 1⟩,
  ⟨0x800, 0xD7FF, 0xE0, 2⟩,
  ⟨0xE000, 0xFFFF, 0xE0, 2⟩,
  ⟨0x10000, 0x10FFFF, 0xF0, 3⟩]

/-- A fixed byte in front of some spans. -/
def behind (byte : Nat) (spans : List Span) : List Span := spans.map ((byte, byte) :: ·)

/-- The spans of the numbers from `lo` to `hi`, written with a first byte counted from `lead`
    and so many further bytes of six bits. -/
def spansBetween (lead : Nat) : Nat → Nat → Nat → List Span
  | 0, lo, hi => [[(lead + lo, lead + hi)]]
  | more + 1, lo, hi =>
    let unit := Nat.pow 64 (more + 1)
    let first := lo / unit
    let last := hi / unit
    if first = last then behind (lead + first) (spansBetween 0x80 more (lo % unit) (hi % unit))
    else
      let cutFront := lo % unit ≠ 0
      let cutBack := hi % unit ≠ unit - 1
      let front := if cutFront then behind (lead + first) (spansBetween 0x80 more (lo % unit) (unit - 1)) else []
      let back := if cutBack then behind (lead + last) (spansBetween 0x80 more 0 (hi % unit)) else []
      let start := if cutFront then first + 1 else first
      let stop := if cutBack then last else last + 1
      let middle :=
        if start < stop then [(lead + start, lead + stop - 1) :: List.replicate (more + 1) (0x80, 0xBF)] else []
      front ++ middle ++ back

/-- The spans of the code points from `lo` to `hi`. -/
def spansOf (lo hi : Nat) : List Span :=
  widths.flatMap fun w =>
    let lo := max lo w.first
    let hi := min hi w.last
    if lo ≤ hi then spansBetween w.lead w.more lo hi else []

end PathAuthz.Text.Utf8
