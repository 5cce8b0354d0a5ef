/-
  PathAuthz.Toml.Value — what a TOML document says, and how tables grow while it is read.

  (1) A `Value` is a scalar, an array or a table. Numbers that are no integers and moments in
  time are kept as the text they are shown as.

  (2) A table remembers how it came to be, because that decides what may still be added: a
  table that a header only passes through may get a header or dotted keys of its own later, a
  table that dotted keys opened may get more dotted keys, and a table written inline is complete. An
  array that `[[name]]` headers build grows with each of them; its last table is the one that
  longer headers enter. These are the rules of TOML for tables that are defined twice.

  (3) `Entries.modifyAt` changes the table a list of keys leads to, opening what is missing.
-/

namespace PathAuthz.Toml

/-! ## (1) Values -/

/-- How a table came to be. -/
inductive TableForm where
  /-- A longer header passed through it. -/
  | passed
  /-- A header named it, or it is the document. -/
  | headed
  /-- Dotted keys opened it. -/
  | dotted
  | inline
  deriving DecidableEq, Repr

inductive Value where
  | text (s : String)
  | integer (n : Int)
  | real (shown : String)
  | boolean (b : Bool)
  | moment (shown : String)
  | array (growing : Bool) (items : List Value)
  | table (form : TableForm) (entries : List (String × Value))
  deriving Repr

abbrev Entries := List (String × Value)

namespace Entries

/-- Give a key a new value, in its place if it has one. -/
def put (es : Entries) (key : String) (v : Value) : Entries :=
  if (es.lookup key).isSome then es.map fun (k, w) => if k = key then (k, v) else (k, w)
  else es ++ [(key, v)]

/-! ## (2) Adding -/

/-- Give a key of a table a value, if it has none. -/
def add? (es : Entries) (key : String) (v : Value) : Option Entries :=
  match es.lookup key with
  | some _ => none
  | none => some (es ++ [(key, v)])

/-- Give a header's own table its place. -/
def addTable? (es : Entries) (key : String) : Option Entries :=
  match es.lookup key with
  | none => some (es ++ [(key, .table .headed [])])
  | some (.table .passed sub) => some (put es key (.table .headed sub))
  | some _ => none

/-- Start the next table of an array of tables. -/
def addElement? (es : Entries) (key : String) : Option Entries :=
  match es.lookup key with
  | none => some (es ++ [(key, .array true [.table .headed []])])
  | some (.array true items) => some (put es key (.array true (items ++ [.table .headed []])))
  | some _ => none

/-! ## (3) Following keys -/

/-- Change the table that `keys` lead to from a table of the given form. Headers may pass
    through any table but an inline one; dotted keys may not enter a table with a header of
    its own, and make a table their own that longer headers passed through. A missing table is
    opened with the form `opens`. -/
def modifyAt (opens : TableForm) (f : TableForm → Entries → Option Entries) :
    List String → TableForm → Entries → Option Entries
  | [], form, es => f form es
  | key :: keys, _, es =>
    match es.lookup key with
    | none => do return es ++ [(key, .table opens (← modifyAt opens f keys opens []))]
    | some (.table .inline _) => none
    | some (.table form sub) =>
      if opens = .dotted ∧ form = .headed then none
      else
        let form := if opens = .dotted then .dotted else form
        do return put es key (.table form (← modifyAt opens f keys form sub))
    | some (.array true items) =>
      match items.getLast? with
      | some (.table form sub) => do
        return put es key (.array true (items.dropLast ++ [.table form (← modifyAt opens f keys form sub)]))
      | _ => none
    | some _ => none

/-- Add a value under dotted keys: the table that all but the last lead to has to be one that
    dotted keys opened. -/
def addDotted? (es : Entries) (form : TableForm) (keys : List String) (key : String) (v : Value) :
    Option Entries :=
  modifyAt .dotted (fun f es => if !keys.isEmpty && f != .dotted then none else add? es key v) keys form es

end Entries

end PathAuthz.Toml
