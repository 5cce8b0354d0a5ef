/-
  PathAuthz.Text — cutting and trimming text, over lists of characters.

  The rule format, the rule headers, the paths and the settings all cut text at single
  characters and drop blanks at its ends. Two classes of blank are told apart:
  - `isBlank`: every character Unicode calls white space. It decides what is trimmed.
  - `isAsciiBlank`: space, tab, line feed, form feed and carriage return. It decides where
    a comment may start inside a value.
-/

namespace PathAuthz.Text

/-! ## Blanks -/

/-- The characters with the Unicode property White_Space. -/
def isBlank (c : Char) : Bool :=
  let n := c.toNat
  (9 ≤ n && n ≤ 13) || n == 0x20 || n == 0x85 || n == 0xA0 || n == 0x1680 ||
    (0x2000 ≤ n && n ≤ 0x200A) || n == 0x2028 || n == 0x2029 || n == 0x202F || n == 0x205F ||
    n == 0x3000

/-- The ASCII blanks, without the vertical tab. -/
def isAsciiBlank (c : Char) : Bool :=
  c == ' ' || c == '\t' || c == '\n' || c == '\x0c' || c == '\r'

/-- An ASCII blank is a blank. -/
theorem isBlank_of_isAsciiBlank {c : Char} (h : isAsciiBlank c = true) : isBlank c = true := by
  simp only [isAsciiBlank, Bool.or_eq_true, beq_iff_eq] at h
  rcases h with (((rfl | rfl) | rfl) | rfl) | rfl <;> decide

/-! ## Trimming -/

def trimStart (s : List Char) : List Char := s.dropWhile isBlank

/-- Drop the longest tail of characters that satisfy `p`. -/
def dropTail (p : Char → Bool) : List Char → List Char
  | [] => []
  | c :: cs =>
    match dropTail p cs with
    | [] => if p c then [] else [c]
    | d :: ds => c :: d :: ds

def trimEnd (s : List Char) : List Char := dropTail isBlank s

def trim (s : List Char) : List Char := trimEnd (trimStart s)

/-- `trim` on strings. -/
def trimmed (s : String) : String := String.ofList (trim s.toList)

/-! ## Cutting -/

/-- Cut at the first character that satisfies `p`: what stands before it, the character, and
    what stands after it. -/
def cut (p : Char → Bool) : List Char → Option (List Char × Char × List Char)
  | [] => none
  | c :: cs => if p c then some ([], c, cs) else (cut p cs).map fun (a, d, b) => (c :: a, d, b)

/-- Cut at the last occurrence of `sep`. -/
def cutLast (sep : Char) : List Char → Option (List Char × List Char)
  | [] => none
  | c :: cs =>
    match cutLast sep cs with
    | some (a, b) => some (c :: a, b)
    | none => if c = sep then some ([], cs) else none

/-- The pieces between the occurrences of `sep`; there is always at least one. -/
def pieces (sep : Char) : List Char → List (List Char)
  | [] => [[]]
  | c :: cs =>
    if c = sep then [] :: pieces sep cs
    else
      match pieces sep cs with
      | [] => [[c]]
      | p :: ps => (c :: p) :: ps

/-- The lines of a text. Each line feed ends a line; what follows the last one is a line of
    its own unless it is empty. -/
def lines : List Char → List (List Char)
  | [] => []
  | c :: cs =>
    if c = '\n' then [] :: lines cs
    else
      match lines cs with
      | [] => [[c]]
      | l :: ls => (c :: l) :: ls

theorem pieces_ne_nil (sep : Char) (s : List Char) : pieces sep s ≠ [] := by
  cases s with
  | nil => simp [pieces]
  | cons c cs =>
    simp only [pieces]
    split
    · simp
    · split <;> simp

/-- A cut loses nothing, and the first part holds no character that satisfies `p`. -/
theorem cut_eq_some {p : Char → Bool} {s a b : List Char} {d : Char} (h : cut p s = some (a, d, b)) :
    s = a ++ d :: b ∧ p d = true ∧ ∀ c ∈ a, p c = false := by
  induction s generalizing a with
  | nil => simp [cut] at h
  | cons c cs ih =>
    simp only [cut] at h
    split at h
    · simp at h; obtain ⟨rfl, rfl, rfl⟩ := h; simp_all
    · simp only [Option.map_eq_some_iff] at h
      obtain ⟨⟨a', d', b'⟩, h', he⟩ := h
      simp at he; obtain ⟨rfl, rfl, rfl⟩ := he
      obtain ⟨rfl, hd, ha⟩ := ih h'
      exact ⟨rfl, hd, by simp_all⟩

end PathAuthz.Text
