/-
  PathAuthz.Toml — reading TOML documents.

  Settings are read by the `toml` library. What is defined here and in the modules below is
  what it documents: version 1.1 of TOML, and a limit to how deep values nest.

  A document is a list of expressions, one to a line: a header of a table, a header of an
  element of an array of tables, or a value under dotted keys, which goes into the table of
  the last header. Arrays and inline tables may run over several lines and end in a comma.

  Values nest no deeper than `depthLimit`, and no more keys than that may be joined by dots.
  The functions that read a sequence carry fuel besides: each expects no more than there are
  characters left.
-/

import PathAuthz.Toml.Quoted
import PathAuthz.Toml.Scalar

namespace PathAuthz.Toml

/-- How many arrays and inline tables may be open at once, and how many keys be joined. -/
def depthLimit : Nat := 80

/-! ## Between values -/

def dropBlanks (cs : List Char) : List Char := cs.dropWhile isLineBlank

/-- What follows a comment, from the line end on. -/
def dropComment? (cs : List Char) : Option (List Char) :=
  match cs with
  | [] => some []
  | c :: rest =>
    if atLineEnd (c :: rest) then some (c :: rest)
    else if isControl c then none
    else dropComment? rest

/-- What follows blanks, line ends and comments; `inComment` while in one. -/
def dropTrivia? (inComment : Bool) (cs : List Char) : Option (List Char) :=
  match cs with
  | [] => some []
  | c :: rest =>
    if c = '\n' then dropTrivia? false rest
    else if atLineEnd (c :: rest) then dropTrivia? false rest
    else if inComment then if isControl c then none else dropTrivia? true rest
    else if isLineBlank c then dropTrivia? false rest
    else if c = '#' then dropTrivia? true rest
    else some (c :: rest)

/-- What follows the end of a line that holds nothing more, comments aside. -/
def endLine? (cs : List Char) : Option (List Char) := do
  let cs := dropBlanks cs
  let cs ← if cs.head? = some '#' then dropComment? cs else some cs
  if cs = [] || atLineEnd cs then return cs else none

/-! ## Keys -/

def isBareKeyChar (c : Char) : Bool := c.isAlphanum || c == '_' || c == '-'

def key? (cs : List Char) : Option (String × List Char) :=
  match cs.takeWhile isBareKeyChar with
  | [] => string? cs
  | bare => some (String.ofList bare, cs.dropWhile isBareKeyChar)

/-- So many keys at most with dots between them, and what follows the blanks behind them. -/
def keysUpTo? : Nat → List Char → Option (List String × List Char)
  | 0, _ => none
  | count + 1, cs => do
    let (key, rest) ← key? (dropBlanks cs)
    match dropBlanks rest with
    | '.' :: rest =>
      let (keys, rest) ← keysUpTo? count rest
      return (key :: keys, rest)
    | rest => return ([key], rest)

def keys? (cs : List Char) : Option (List String × List Char) := keysUpTo? depthLimit cs

/-! ## Values -/

/-- The rest of an array, from behind its bracket or a comma. -/
def elements? (item : List Char → Option (Value × List Char)) : Nat → List Char → Option (List Value × List Char)
  | 0, _ => none
  | fuel + 1, cs => do
    match ← dropTrivia? false cs with
    | ']' :: rest => return ([], rest)
    | cs =>
      let (v, rest) ← item cs
      match ← dropTrivia? false rest with
      | ',' :: rest =>
        let (vs, rest) ← elements? item fuel rest
        return (v :: vs, rest)
      | ']' :: rest => return ([v], rest)
      | _ => none

/-- Dotted keys and the value they get; `gap?` drops what may stand around the `=`. -/
def assignment? (gap? : List Char → Option (List Char)) (item : List Char → Option (Value × List Char))
    (cs : List Char) : Option ((List String × String × Value) × List Char) := do
  let (keys, rest) ← keys? cs
  let '=' :: rest ← gap? rest | none
  let (v, rest) ← item (← gap? rest)
  return ((keys.dropLast, ← keys.getLast?, v), rest)

/-- The rest of an inline table, from behind its brace or a comma. -/
def members? (item : List Char → Option (Value × List Char)) : Nat → Entries → List Char → Option (Entries × List Char)
  | 0, _, _ => none
  | fuel + 1, es, cs => do
    match ← dropTrivia? false cs with
    | '}' :: rest => return (es, rest)
    | cs =>
      let ((keys, key, v), rest) ← assignment? (dropTrivia? false) item cs
      let es ← es.addDotted? .headed keys key v
      match ← dropTrivia? false rest with
      | ',' :: rest => members? item fuel es rest
      | '}' :: rest => return (es, rest)
      | _ => none

/-- A value that holds no other values, at the front of a text. -/
def scalar? (cs : List Char) : Option (Value × List Char) :=
  if cs.head? = some '"' || cs.head? = some '\'' then (anyString? cs).map fun (s, r) => (.text s, r)
  else
    let (word, rest) := cutWord cs
    (ofWord? word).map (·, rest)

/-- A value at the front of a text, in which values nest so deep at most. -/
def value? : Nat → List Char → Option (Value × List Char)
  | depth + 1, '[' :: rest =>
    (elements? (value? depth) (rest.length + 1) rest).map fun (vs, r) => (.array false vs, r)
  | depth + 1, '{' :: rest =>
    (members? (value? depth) (rest.length + 1) [] rest).map fun (es, r) => (.table .inline es, r)
  | _, cs => scalar? cs

/-! ## Documents -/

/-- The table of the last header, as keys from the root, and everything read so far. -/
structure Document where
  current : List String
  root : Entries

namespace Document

/-- Take the header of a table. -/
def openTable? (d : Document) (keys : List String) : Option Document := do
  let key ← keys.getLast?
  let root ← Entries.modifyAt .passed (fun _ es => es.addTable? key) keys.dropLast .headed d.root
  return ⟨keys, root⟩

/-- Take the header of an element of an array of tables. -/
def openElement? (d : Document) (keys : List String) : Option Document := do
  let key ← keys.getLast?
  let root ← Entries.modifyAt .passed (fun _ es => es.addElement? key) keys.dropLast .headed d.root
  return ⟨keys, root⟩

/-- Take a value under dotted keys. -/
def assign? (d : Document) (keys : List String) (key : String) (v : Value) : Option Document := do
  let root ← Entries.modifyAt .passed (fun form es => es.addDotted? form keys key v) d.current .headed d.root
  return { d with root }

/-- Take one expression, and the rest of its line. -/
def expression? (d : Document) (cs : List Char) : Option (Document × List Char) := do
  match cs with
  | '[' :: '[' :: rest =>
    let (keys, rest) ← keys? rest
    let ']' :: ']' :: rest := rest | none
    return (← d.openElement? keys, rest)
  | '[' :: rest =>
    let (keys, rest) ← keys? rest
    let ']' :: rest := rest | none
    return (← d.openTable? keys, rest)
  | _ =>
    let ((keys, key, v), rest) ← assignment? (fun cs => some (dropBlanks cs)) (value? depthLimit) cs
    return (← d.assign? keys key v, rest)

/-- Take all expressions. -/
def expressions? (d : Document) : Nat → List Char → Option Document
  | 0, _ => none
  | fuel + 1, cs => do
    match ← dropTrivia? false cs with
    | [] => return d
    | cs =>
      let (d, rest) ← d.expression? cs
      d.expressions? fuel (← endLine? rest)

end Document

/-- The entries of a document, if it is well formed. A byte order mark may stand in front. -/
def read? (text : String) : Option Entries :=
  let cs := match text.toList with
    | '\uFEFF' :: cs => cs
    | cs => cs
  (Document.expressions? ⟨[], []⟩ (cs.length + 1) cs).map (·.root)

end PathAuthz.Toml
