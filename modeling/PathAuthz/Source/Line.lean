/-
  PathAuthz.Source.Line — what one line of a rules text says.

  Everything here looks at a single line that has already lost its line end; `body` is the
  line without the blanks around it.
  - A line is silent when nothing is left of it or it starts a comment.
  - A header `[heading]` ends at the first `]` followed by nothing or by a comment, so a
    heading may hold brackets of its own.
  - An option is a name and a value with `=` or `:` between them.
  - An indented line continues the option above it unless `=` is its first separator:
    a continued list may hold names with a colon in them.
  - A comment inside a value starts at `#` or `;`, at the front or behind an ASCII blank.
-/

import PathAuthz.LoadError
import PathAuthz.Text

namespace PathAuthz.Source

open Text

/-! ## Comments -/

def isCommentMark (c : Char) : Bool := c == '#' || c == ';'

/-- What stands before the first comment, if there is one; `fresh` says whether a comment
    may start with the next character. -/
def beforeComment (fresh : Bool) : List Char → Option (List Char)
  | [] => none
  | c :: cs =>
    if fresh && isCommentMark c then some []
    else (beforeComment (isAsciiBlank c) cs).map (c :: ·)

def stripComment (s : List Char) : List Char :=
  match beforeComment true s with
  | some kept => trimEnd kept
  | none => s

/-- Whether a line says nothing. -/
def isSilent (body : List Char) : Bool :=
  match body with
  | [] => true
  | c :: _ => isCommentMark c

/-! ## Headers -/

/-- What stands before the bracket that ends a header. -/
def beforeBracket : List Char → Option (List Char)
  | [] => none
  | c :: cs => if c = ']' ∧ isSilent (trimStart cs) = true then some [] else (beforeBracket cs).map (c :: ·)

/-- Whether a line is a header, well formed or not. -/
def startsHeader : List Char → Bool
  | [] => false
  | c :: _ => c == '['

/-- The heading of a header line. -/
def readHeader (body : List Char) : Except LineFault String :=
  if ']' ∉ body then .error .unterminatedHeader
  else
    match beforeBracket (body.drop 1) with
    | none => .error (.textAfterHeader (String.ofList body))
    | some inner => if trim inner = [] then .error .unnamedSection else .ok (String.ofList (trim inner))

/-! ## Options -/

def isSeparator (c : Char) : Bool := c == '=' || c == ':'

/-- Whether the first separator of an indented line makes it an option of its own. -/
def startsOption (body : List Char) : Bool :=
  match cut isSeparator body with
  | some (_, c, _) => c == '='
  | none => false

def isIndented : List Char → Bool
  | [] => false
  | c :: _ => isBlank c

/-- Whether a line continues the value above it, if there is one. -/
def continues (line : List Char) : Bool := isIndented line && !startsOption (trim line)

/-- The name and the value of an option line. -/
def readOption (body : List Char) : Except LineFault (String × String) :=
  match cut isSeparator body with
  | none => .error (.missingSeparator (String.ofList body))
  | some (name, _, value) =>
    if trim name = [] then .error .unnamedOption
    else .ok (String.ofList (trim name), String.ofList (stripComment (trim value)))

end PathAuthz.Source
