/-
  PathAuthz.Pattern.CharClass — the set of characters a bracket expression stands for.

  A bracket expression becomes a class of a regular expression: its members between brackets,
  and backslashes before those that a class alone would take for marks (`Member.quoted`). What
  follows is what the `regex` library documents for such a class.

  (1) Atoms. A plain member is a hyphen or stands for itself. An escaped member keeps the
  meaning it has in the class syntax of regular expressions: punctuation, blanks and control
  characters stand for themselves, `\a \f \t \n \r \v` are control characters, `\d \s \w` and
  their capitals are classes, `\x \u \U` give a code point in hexadecimal, and `\p` and `\P`
  a property of characters, by one letter or between braces. Digits, other letters, `<`, `>`
  and characters outside ASCII are refused behind a backslash.

  (2) Items. Hyphens in front stand for themselves. After that a hyphen between two atoms
  makes a range, two hyphens make a difference, and a hyphen before the end or before a
  difference stands for itself. A range needs two characters in ascending order.

  (3) Nesting. Parts of an expression may lie 250 deep in each other. The expression and the
  class are the first two levels; each difference lies around all that stands before it, and
  several items in a row are a level of their own. Classes that nest deeper are refused.

  (4) The set: what the items before the first difference cover, less what the later ones
  cover, complemented if the expression is negated. The complement is taken in all
  characters. `CharClass.codes` lists the same set as code points (`contains_codes`).
-/

import PathAuthz.Pattern.Bracket
import PathAuthz.Text
import PathAuthz.Text.CodePoint
import PathAuthz.Text.CodeSet
import PathAuthz.Text.Property

namespace PathAuthz.Pattern

open Text (CodeSet hexDigit? charOfCode?)

/-! ## (1) Atoms -/

inductive CharKind where
  | digit
  | blank
  | word
  | property (codes : CodeSet)
  deriving DecidableEq, Repr

namespace CharKind

def contains : CharKind → Char → Bool
  | digit, c => Text.decimalDigits.contains c
  | blank, c => Text.isBlank c
  | word, c => Text.wordCharacters.contains c
  | property s, c => s.contains c

def codes : CharKind → CodeSet
  | digit => Text.decimalDigits
  | blank => Text.Property.whiteSpace
  | word => Text.wordCharacters
  | property s => s

theorem contains_codes (k : CharKind) (c : Char) : k.codes.contains c = k.contains c := by
  cases k with
  | blank => exact Text.contains_whiteSpace c
  | digit | word | property => rfl

end CharKind

inductive Atom where
  | hyphen
  | literal (c : Char)
  | kind (k : CharKind) (complemented : Bool)
  deriving DecidableEq, Repr

def Atom.ofPlain (c : Char) : Atom := if c = '-' then .hyphen else .literal c

/-- Whether a backslash before an ASCII character leaves it as it is. -/
def isPunctuation (c : Char) : Bool :=
  c.toNat < 128 && !c.isAlphanum && c != '<' && c != '>'

/-- The atom of an escaped member that stands alone. -/
def Atom.ofEscaped? (c : Char) : Option Atom :=
  match c with
  | 'a' => some (.literal '\x07')
  | 'f' => some (.literal '\x0c')
  | 't' => some (.literal '\t')
  | 'n' => some (.literal '\n')
  | 'r' => some (.literal '\r')
  | 'v' => some (.literal '\x0b')
  | 'd' => some (.kind .digit false)
  | 'D' => some (.kind .digit true)
  | 's' => some (.kind .blank false)
  | 'S' => some (.kind .blank true)
  | 'w' => some (.kind .word false)
  | 'W' => some (.kind .word true)
  | c => if isPunctuation c then some (.literal c) else none

/-- Where the reading of an escape of several members stands. -/
inductive EscapeState where
  /-- No such escape is being read. -/
  | idle
  /-- Behind `\x`, `\u` or `\U`: a brace or the first of so many digits comes next. -/
  | code (width : Nat)
  /-- So many digits are still missing. -/
  | digits (missing value : Nat)
  /-- Between the braces of a code point. -/
  | bracedCode (count value : Nat)
  /-- Behind `\p` or `\P`: a brace or the only letter of a property comes next. -/
  | property (complemented : Bool)
  /-- Between the braces of a property, behind the start of its name, which is kept backwards. -/
  | bracedProperty (complemented : Bool) (read : List Char)
  deriving DecidableEq, Repr

/-- The state behind the first member of an escape, if the escape has several. -/
def EscapeState.after? (c : Char) : Option EscapeState :=
  match c with
  | 'x' => some (.code 2)
  | 'u' => some (.code 4)
  | 'U' => some (.code 8)
  | 'p' => some (.property false)
  | 'P' => some (.property true)
  | _ => none

/-- The atom of a property. -/
def Atom.ofProperty? (complemented : Bool) (query : List Char) : Option Atom :=
  (Text.Property.ofQuery? query).map fun s => .kind (.property s) complemented

/-- The atoms of a list of members, if every escape is a known one. -/
def atoms : EscapeState → List Member → Option (List Atom)
  | .idle, [] => some []
  | .idle, .plain c :: ms => (atoms .idle ms).map (.ofPlain c :: ·)
  | .idle, .escaped c :: ms =>
    match EscapeState.after? c with
    | some state => atoms state ms
    | none => do return (← Atom.ofEscaped? c) :: (← atoms .idle ms)
  | .code width, .plain c :: ms =>
    if c = '{' then atoms (.bracedCode 0 0) ms
    else do atoms (.digits (width - 1) (← hexDigit? c)) ms
  | .digits missing value, .plain c :: ms => do
    let value := value * 16 + (← hexDigit? c)
    if missing ≤ 1 then return .literal (← charOfCode? value) :: (← atoms .idle ms)
    else atoms (.digits (missing - 1) value) ms
  | .bracedCode count value, .plain c :: ms => do
    if c = '}' then
      if count = 0 then none else return .literal (← charOfCode? value) :: (← atoms .idle ms)
    else atoms (.bracedCode (count + 1) (value * 16 + (← hexDigit? c))) ms
  | .property complemented, .plain c :: ms =>
    if c = '{' then atoms (.bracedProperty complemented []) ms
    else do return (← Atom.ofProperty? complemented [c]) :: (← atoms .idle ms)
  | .bracedProperty complemented read, .plain c :: ms =>
    if c = '}' then do return (← Atom.ofProperty? complemented read.reverse) :: (← atoms .idle ms)
    else atoms (.bracedProperty complemented (c :: read)) ms
  | _, _ => none

/-! ## (2) Items -/

inductive Item where
  | one (c : Char)
  | range (lo hi : Char)
  | kind (k : CharKind) (complemented : Bool)
  deriving DecidableEq, Repr

def Item.contains : Item → Char → Bool
  | one d, c => c == d
  | range lo hi, c => lo ≤ c && c ≤ hi
  | kind k complemented, c => k.contains c != complemented

/-- The code points of an item; those of a complement are all characters. -/
def Item.codes : Item → CodeSet
  | one d => .single d
  | range lo hi => .range lo.toNat hi.toNat
  | kind k complemented => if complemented then .characters \ k.codes else k.codes

theorem Item.contains_codes (i : Item) (c : Char) : i.codes.contains c = i.contains c := by
  cases i with
  | one d => exact CodeSet.contains_single d c
  | range lo hi => exact CodeSet.get_range lo.toNat hi.toNat c.toNat
  | kind k complemented => cases complemented <;> simp [codes, contains, CharKind.contains_codes]

/-- The item of an atom that takes part in no range. -/
def Item.ofAtom : Atom → Item
  | .hyphen => .one '-'
  | .literal c => .one c
  | .kind k complemented => .kind k complemented

/-- The range between two atoms. -/
def Item.between? : Atom → Atom → Option Item
  | .literal lo, .literal hi => if lo ≤ hi then some (.range lo hi) else none
  | _, _ => none

/-- Put an item in front of the first of several groups. -/
def consFirst (i : Item) : List (List Item) → List (List Item)
  | [] => [[i]]
  | g :: gs => (i :: g) :: gs

/-- The items between the differences. -/
def groups : List Atom → Option (List (List Item))
  | [] => some [[]]
  | .hyphen :: .hyphen :: rest => (groups rest).map ([] :: ·)
  | a :: .hyphen :: .hyphen :: rest => (groups (.hyphen :: .hyphen :: rest)).map (consFirst (.ofAtom a))
  | a :: .hyphen :: b :: rest => do return consFirst (← Item.between? a b) (← groups rest)
  | a :: rest => (groups rest).map (consFirst (.ofAtom a))

/-! ## (3) Nesting -/

/-- How deep the items of a group lie. -/
def groupDepth (items : List Item) : Nat := if items.length ≤ 1 then 0 else 1

/-- How deep the groups of a class lie: each difference is around the ones before it. -/
def nesting (first : List Item) (later : List (List Item)) : Nat :=
  later.foldl (fun depth items => max depth (groupDepth items) + 1) (groupDepth first)

/-- The levels left inside a class. -/
def deepest : Nat := 248

/-! ## (4) The set -/

/-- A set of characters: some items less some others, perhaps complemented. -/
structure CharClass where
  complemented : Bool
  included : List Item
  excluded : List Item
  deriving DecidableEq, Repr

namespace CharClass

def contains (s : CharClass) (c : Char) : Bool :=
  (s.included.any (·.contains c) && !s.excluded.any (·.contains c)) != s.complemented

/-- The code points of the characters in the set. -/
def codes (s : CharClass) : CodeSet :=
  let plain := CodeSet.unions (s.included.map Item.codes) \ CodeSet.unions (s.excluded.map Item.codes)
  if s.complemented then .characters \ plain else .characters ∩ plain

theorem contains_codes (s : CharClass) (c : Char) : s.codes.contains c = s.contains c := by
  have hany : ∀ items : List Item, (CodeSet.unions (items.map Item.codes)).contains c = items.any (·.contains c) := by
    intro items
    simp [CodeSet.contains_unions, List.any_map, Function.comp_def, Item.contains_codes]
  cases hc : s.complemented <;> simp [codes, contains, hc, hany]

/-- The set of a class with these members. -/
def ofMembers? (negated : Bool) (ms : List Member) : Option CharClass := do
  let as ← atoms .idle ms
  match ← groups (as.dropWhile (· == .hyphen)) with
  | [] => none
  | first :: later =>
    let first := (as.takeWhile (· == .hyphen)).map Item.ofAtom ++ first
    if nesting first later ≤ deepest then some ⟨negated, first, later.flatten⟩ else none

/-- The set a bracket expression stands for. -/
def ofBracket? (b : Bracket) : Option CharClass :=
  ofMembers? b.negated ((Bracket.members b.body).map Member.quoted)

end CharClass

end PathAuthz.Pattern
