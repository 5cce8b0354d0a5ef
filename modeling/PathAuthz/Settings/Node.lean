/-
  PathAuthz.Settings.Node — settings as a tree that later sources are laid over.

  The tree is put together by the `config` library. `overlay` and `assign` stand for what it
  documents: later sources come before earlier ones, tables are merged, and keys are
  expressions that may lead into tables and lists.

  (1) A `Node` is a leaf, a list or a table. What kind of scalar a leaf was does not matter:
  it is kept as text.

  (2) `overlay` lays a node over another one. Tables are merged entry by entry, anything else
  replaces what was there.

  (3) A source names its values by key expressions: names with dots between them, and indexes
  in brackets. `Node.assign` follows one, turning what is in the way into a table or a list,
  and lays the value over what it finds. A key that is no such expression is a plain name.
-/

import PathAuthz.Toml.Value

namespace PathAuthz.Settings

/-! ## (1) Nodes -/

inductive Node where
  /-- A place in a list that nothing was put into. -/
  | vacant
  | leaf (text : String)
  | list (items : List Node)
  | table (entries : List (String × Node))
  deriving Repr

namespace Node

/-- The entries of a table; anything else has none. -/
def entries : Node → List (String × Node)
  | table es => es
  | _ => []

/-- The items of a list; anything else has none. -/
def items : Node → List Node
  | list ns => ns
  | _ => []

/-- What stands under a name. -/
def get (es : List (String × Node)) (name : String) : Node := (es.lookup name).getD vacant

/-- Put a node under a name, in the place of the old one if there is one. -/
def put (name : String) (n : Node) : List (String × Node) → List (String × Node)
  | [] => [(name, n)]
  | (k, m) :: rest => if k = name then (k, n) :: rest else (k, m) :: put name n rest

mutual

/-- The node of a value of a document. -/
def ofValue : Toml.Value → Node
  | .text s => leaf s
  | .integer n => leaf (toString n)
  | .real shown => leaf shown
  | .boolean b => leaf (if b then "true" else "false")
  | .moment shown => leaf shown
  | .array _ vs => list (ofValues vs)
  | .table _ es => table (ofEntries es)

def ofValues : List Toml.Value → List Node
  | [] => []
  | v :: vs => ofValue v :: ofValues vs

def ofEntries : List (String × Toml.Value) → List (String × Node)
  | [] => []
  | (k, v) :: es => (k, ofValue v) :: ofEntries es

end

/-! ## (2) Layers -/

mutual

/-- Lay a node over another one. -/
def overlay (below : Node) : Node → Node
  | table es => table (overlayEntries below.entries es)
  | n => n

/-- Lay entries over those of a table. -/
def overlayEntries (below : List (String × Node)) : List (String × Node) → List (String × Node)
  | [] => below
  | (k, n) :: rest => overlayEntries (put k (overlay (get below k) n) below) rest

end

/-! ## (3) Key expressions -/

inductive KeyStep where
  | name (name : String)
  | index (i : Int)
  deriving DecidableEq, Repr

def isKeyChar (c : Char) : Bool := c.isAlphanum || c == '_' || c == '-'

/-- Whether a number is an index at all: it has 64 bits. -/
def isIndex (i : Int) : Bool := -9223372036854775808 ≤ i && i ≤ 9223372036854775807

/-- The index between brackets, blanks around it aside. -/
def index? (cs : List Char) : Option Int :=
  let isSpace := fun c : Char => c == ' ' || c == '\t'
  let cs := ((cs.dropWhile isSpace).reverse.dropWhile isSpace).reverse
  let (negative, ds) := match cs with
    | '-' :: rest => (true, rest)
    | _ => (false, cs)
  if ds = [] || !ds.all Char.isDigit then none
  else
    let n : Nat := ds.foldl (fun n c => n * 10 + (c.toNat - '0'.toNat)) 0
    let i := if negative then -(n : Int) else n
    if isIndex i then some i else none

/-- The steps behind the first name; the fuel is the length of the text. -/
def keySteps? : Nat → List Char → Option (List KeyStep)
  | _, [] => some []
  | 0, _ => none
  | fuel + 1, '.' :: rest =>
    match rest.takeWhile isKeyChar with
    | [] => none
    | name => do return .name (String.ofList name) :: (← keySteps? fuel (rest.dropWhile isKeyChar))
  | fuel + 1, '[' :: rest =>
    match rest.dropWhile (· ≠ ']') with
    | [] => none
    | _ :: more => do return .index (← index? (rest.takeWhile (· ≠ ']'))) :: (← keySteps? fuel more)
  | _, _ => none

/-- The steps of a key: those of its expression, or the whole key as one name. -/
def stepsOfKey (key : String) : List KeyStep :=
  let cs := key.toList
  match cs.takeWhile isKeyChar with
  | [] => [.name key]
  | name =>
    match keySteps? cs.length (cs.dropWhile isKeyChar) with
    | some steps => .name (String.ofList name) :: steps
    | none => [.name key]

/-- Change what the steps lead to. An index from the end that reaches beyond the front makes
    room there. -/
def modifyAt (f : Node → Node) : List KeyStep → Node → Node
  | [], n => f n
  | .name k :: steps, n => table (put k (modifyAt f steps (get n.entries k)) n.entries)
  | .index i :: steps, n =>
    let ns := n.items
    if 0 ≤ i then
      let j := i.toNat
      let ns := ns ++ List.replicate (j + 1 - ns.length) vacant
      list (ns.modify j (modifyAt f steps))
    else
      let j := i.natAbs
      let ns := List.replicate (j - ns.length) vacant ++ ns
      list (ns.modify (ns.length - j) (modifyAt f steps))

/-- Lay a value over what a key leads to. -/
def assign (key : String) (value n : Node) : Node := modifyAt (overlay · value) (stepsOfKey key) n

end Node

end PathAuthz.Settings
