/-
  PathAuthz.Toml.Quoted — strings in quotes.

  A basic string stands in double quotes and knows escapes; a literal string stands in single
  quotes and knows none. With three quotes on each side either may run over several lines,
  hold its own quote, and end in one or two more of them. In a basic string of several lines
  a backslash before the end of a line drops all blanks and line ends that follow; any other
  line end stays as it is written. Control characters are refused, tabs excepted. The escapes
  are those of TOML 1.1.
-/

import PathAuthz.Text.CodePoint

namespace PathAuthz.Toml

open Text (hexDigit? charOfCode?)

/-- Whether a character may not stand in a string or a comment. -/
def isControl (c : Char) : Bool := (c.toNat < 0x20 && c != '\t') || c.toNat == 0x7F

/-- A code point in so many hexadecimal digits. -/
def codePoint? (width : Nat) (cs : List Char) : Option Char :=
  if cs.length < width then none
  else do
    let ds ← (cs.take width).mapM hexDigit?
    charOfCode? (ds.foldl (fun n d => n * 16 + d) 0)

/-- The character an escape stands for, and how many characters it takes, from behind the
    backslash. -/
def escape? (cs : List Char) : Option (Char × Nat) :=
  match cs with
  | 'b' :: _ => some ('\x08', 1)
  | 't' :: _ => some ('\t', 1)
  | 'n' :: _ => some ('\n', 1)
  | 'f' :: _ => some ('\x0c', 1)
  | 'r' :: _ => some ('\r', 1)
  | 'e' :: _ => some ('\x1b', 1)
  | '"' :: _ => some ('"', 1)
  | '\\' :: _ => some ('\\', 1)
  | 'x' :: rest => (codePoint? 2 rest).map (·, 3)
  | 'u' :: rest => (codePoint? 4 rest).map (·, 5)
  | 'U' :: rest => (codePoint? 8 rest).map (·, 9)
  | _ => none

def isLineBlank (c : Char) : Bool := c == ' ' || c == '\t'

/-- Whether a text starts with a line end. -/
def atLineEnd : List Char → Bool
  | '\n' :: _ => true
  | '\r' :: '\n' :: _ => true
  | _ => false

/-- What a string may still hold behind its closing quotes: how many of up to two more
    quotes belong to it. The text starts behind the first of the closing quotes. -/
def closing? (quote : Char) (cs : List Char) : Option (List Char × List Char) :=
  match cs with
  | a :: b :: rest =>
    if a = quote ∧ b = quote then
      match rest with
      | c :: d :: more => if c = quote ∧ d = quote then some ([quote, quote], more)
        else if c = quote then some ([quote], d :: more) else some ([], rest)
      | [c] => if c = quote then some ([quote], []) else some ([], rest)
      | [] => some ([], [])
    else none
  | _ => none

/-- The body of a string up to its closing quotes, and the rest. `skip` characters are still
    part of an escape; while `folding`, blanks and line ends are dropped. -/
def body? (quote : Char) (several : Bool) : Nat → Bool → List Char → Option (List Char × List Char)
  | _, _, [] => none
  | skip + 1, folding, _ :: rest => body? quote several skip folding rest
  | 0, folding, c :: rest =>
    if folding && (isLineBlank c || atLineEnd (c :: rest)) then body? quote several 0 true rest
    else if c = quote then
      if several then
        match closing? quote rest with
        | some found => some found
        | none => (body? quote several 0 false rest).map fun (s, r) => (c :: s, r)
      else some ([], rest)
    else if c = '\\' && quote == '"' then
      if several && atLineEnd (rest.dropWhile isLineBlank) then body? quote several 0 true rest
      else
        match escape? rest with
        | some (d, taken) => (body? quote several taken false rest).map fun (s, r) => (d :: s, r)
        | none => none
    else if isControl c && !(several && atLineEnd (c :: rest)) then none
    else (body? quote several 0 false rest).map fun (s, r) => (c :: s, r)

/-- Drop the line end that follows three opening quotes. -/
def dropFirstLineEnd : List Char → List Char
  | '\n' :: rest => rest
  | '\r' :: '\n' :: rest => rest
  | cs => cs

/-- A string at the front of a text, in one line. -/
def string? : List Char → Option (String × List Char)
  | '"' :: rest => (body? '"' false 0 false rest).map fun (s, r) => (String.ofList s, r)
  | '\'' :: rest => (body? '\'' false 0 false rest).map fun (s, r) => (String.ofList s, r)
  | _ => none

/-- A string at the front of a text, in one line or several. -/
def anyString? : List Char → Option (String × List Char)
  | '"' :: '"' :: '"' :: rest =>
    (body? '"' true 0 false (dropFirstLineEnd rest)).map fun (s, r) => (String.ofList s, r)
  | '\'' :: '\'' :: '\'' :: rest =>
    (body? '\'' true 0 false (dropFirstLineEnd rest)).map fun (s, r) => (String.ofList s, r)
  | cs => string? cs

end PathAuthz.Toml
