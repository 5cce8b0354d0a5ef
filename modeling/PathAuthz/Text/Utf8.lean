/-
  PathAuthz.Text.Utf8 — bytes as text.

  `decode` reads UTF-8. What is no character comes out as a gap, one for each longest start
  of a well-formed sequence that breaks off, and one for each byte that starts none. A text
  is well formed when there is no gap (`strict`); read leniently, each gap becomes the
  replacement character (`lossy`).
-/

namespace PathAuthz.Text.Utf8

/-- What a byte opens: a sequence of so many further bytes, the bits it brings, and the
    bounds of the byte that has to come next. -/
structure Lead where
  more : Nat
  bits : Nat
  lo : Nat
  hi : Nat

/-- The lead of a byte that is no character by itself. The bounds leave out overlong forms,
    surrogates and what lies beyond the last code point. -/
def lead? (b : Nat) : Option Lead :=
  if 0xC2 ≤ b ∧ b ≤ 0xDF then some ⟨1, b - 0xC0, 0x80, 0xBF⟩
  else if b = 0xE0 then some ⟨2, 0, 0xA0, 0xBF⟩
  else if b = 0xED then some ⟨2, 0xD, 0x80, 0x9F⟩
  else if 0xE1 ≤ b ∧ b ≤ 0xEF then some ⟨2, b - 0xE0, 0x80, 0xBF⟩
  else if b = 0xF0 then some ⟨3, 0, 0x90, 0xBF⟩
  else if b = 0xF4 then some ⟨3, 4, 0x80, 0x8F⟩
  else if 0xF1 ≤ b ∧ b ≤ 0xF3 then some ⟨3, b - 0xF0, 0x80, 0xBF⟩
  else none

/-- The characters and gaps of a list of bytes, with the sequence that is open. -/
def decodeFrom : Option Lead → List UInt8 → List (Option Char)
  | none, [] => []
  | some _, [] => [none]
  | none, b :: bs =>
    let n := b.toNat
    if n < 0x80 then some (Char.ofNat n) :: decodeFrom none bs
    else
      match lead? n with
      | some l => decodeFrom (some l) bs
      | none => none :: decodeFrom none bs
  | some l, b :: bs =>
    let n := b.toNat
    if l.lo ≤ n ∧ n ≤ l.hi then
      let bits := l.bits * 64 + (n - 0x80)
      if l.more ≤ 1 then some (Char.ofNat bits) :: decodeFrom none bs
      else decodeFrom (some ⟨l.more - 1, bits, 0x80, 0xBF⟩) bs
    else
      none ::
        (if n < 0x80 then some (Char.ofNat n) :: decodeFrom none bs
         else
          match lead? n with
          | some l => decodeFrom (some l) bs
          | none => none :: decodeFrom none bs)

def decode (bs : List UInt8) : List (Option Char) := decodeFrom none bs

/-- The text, if it is well formed. -/
def strict (bs : List UInt8) : Option String := ((decode bs).mapM id).map String.ofList

/-- The text with a replacement character for each gap. -/
def lossy (bs : List UInt8) : String := String.ofList ((decode bs).map (·.getD '\uFFFD'))

end PathAuthz.Text.Utf8
