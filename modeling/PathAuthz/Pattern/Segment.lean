/-
  PathAuthz.Pattern.Segment — what one component of a rule path asks of a path component.

  The shape of a written component decides its segment:
  - `*` alone is any component, `**` alone any number of them;
  - without a wildcard (`*`, `?` or `[` that no backslash takes) it is literal text;
  - text before a final `*`, or behind a first one, and no other wildcard, is a fixed start
    or a fixed end;
  - everything else is a shell glob.
  Only a shell glob can fail to compile.
-/

import PathAuthz.Pattern.Glob

namespace PathAuthz.Pattern

inductive Segment where
  | literal (text : String)
  | any
  | recursive
  | startingWith (text : String)
  | endingWith (text : String)
  | shell (glob : Glob)
  deriving DecidableEq, Repr

/-- Drop the backslashes that take a character; a lone one at the end stays. -/
def unescape : List Char → List Char
  | [] => []
  | ['\\'] => ['\\']
  | '\\' :: c :: cs => c :: unescape cs
  | c :: cs => c :: unescape cs

def isWildcard (c : Char) : Bool := c == '*' || c == '?' || c == '['

/-- Whether a component holds a wildcard that no backslash takes. -/
def hasWildcard : List Char → Bool
  | [] => false
  | ['\\'] => false
  | '\\' :: _ :: cs => hasWildcard cs
  | c :: cs => isWildcard c || hasWildcard cs

namespace Segment

/-- The segment of a written component. -/
def ofGlob (component : String) : Except GlobFault Segment :=
  let cs := component.toList
  if cs = ['*'] then .ok any
  else if cs = ['*', '*'] then .ok recursive
  else if !hasWildcard cs then .ok (literal (String.ofList (unescape cs)))
  else if cs.getLast? = some '*' ∧ hasWildcard cs.dropLast = false then
    .ok (startingWith (String.ofList (unescape cs.dropLast)))
  else if cs.head? = some '*' ∧ hasWildcard cs.tail = false then
    .ok (endingWith (String.ofList (unescape cs.tail)))
  else (Glob.ofSource component).map shell

/-- Whether a path component meets the segment; `**` asks nothing of a single component. -/
def accepts : Segment → String → Bool
  | literal text, component => component == text
  | any, _ => true
  | recursive, _ => true
  | startingWith text, component => text.toList.isPrefixOf component.toList
  | endingWith text, component => text.toList.isSuffixOf component.toList
  | shell glob, component => glob.accepts component

def isLiteral : Segment → Bool
  | literal _ => true
  | _ => false

def label : Segment → String
  | literal text => text
  | any => "*"
  | recursive => "**"
  | startingWith text => text ++ "*"
  | endingWith text => "*" ++ text
  | shell glob => glob.source

end Segment

end PathAuthz.Pattern
