/-
  PathAuthz.Path — paths as text and as lists of components.

  - `written` cuts a path at its slashes and drops what is empty: how a rule path is read.
  - `components` also resolves `.` and `..`: how the path of a question is read. `..` at the
    root stays there.
  - `isCanonical` is what the path of a rule header has to be: `/` alone, or components
    behind a slash each, none of them empty, `.` or `..`.
  - `join` puts components behind a slash each again.
-/

import PathAuthz.Text

namespace PathAuthz.Path

def isDots (p : List Char) : Bool := p == ['.'] || p == ['.', '.']

/-- The non-empty pieces between the slashes. -/
def written (path : String) : List String :=
  ((Text.pieces '/' path.toList).filter (· ≠ [])).map String.ofList

/-- Follow one piece of a path from the components reached so far. -/
def follow (reached : List String) (piece : List Char) : List String :=
  if piece = [] ∨ piece = ['.'] then reached
  else if piece = ['.', '.'] then reached.dropLast
  else reached ++ [String.ofList piece]

/-- The components of a path after `.` and `..` have been resolved. -/
def components (path : String) : List String := (Text.pieces '/' path.toList).foldl follow []

def isCanonical (path : String) : Bool :=
  match path.toList with
  | '/' :: rest => rest.isEmpty || (Text.pieces '/' rest).all fun p => !p.isEmpty && !isDots p
  | _ => false

/-- Components behind a slash each; the root is a slash alone. -/
def join (cs : List String) : String := if cs = [] then "/" else String.join (cs.map ("/" ++ ·))

end PathAuthz.Path
