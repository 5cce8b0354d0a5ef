/-
  PathAuthz.Model — a compiled set of rules, and the questions it answers.

  (1) `Model.load` compiles a rules text and perhaps a groups text. Any error ends the load;
  there is no partial model.

  (2) On a path the deepest rule that has a say decides: the ancestors of the path are tried
  from the path itself up to the root, and at each of them a rule for the repository beats a
  rule for any repository, and among equals the later one wins. A rule that says nothing
  about the identity has no say.

  (3) For a whole subtree the answer is narrowed to the floor of the identity's rights in the
  repository; whether there is access anywhere is answered by the ceiling. The empty
  repository name stands for "no repository given".
-/

import PathAuthz.RightsTable

namespace PathAuthz

structure Model where
  names : List String
  rules : List Rule
  roster : Roster
  rights : RightsTable
  deriving DecidableEq, Repr

namespace Model

/-! ## (1) Loading -/

/-- Every user that aliases, groups or entries name. There are no other members of groups. -/
def usersOf (d : Draft) (rules : List Rule) : List String :=
  d.aliases.map (·.user) ++ d.groups.flatMap (·.users) ++
    rules.flatMap fun r => (r.entries.filter (!·.isGroup)).map (·.name)

def ofDraft (d : Draft) : Except LoadError Model := do
  let roster ← Roster.ofDraft d
  let rules ← d.rules.mapM (Rule.ofWritten d roster)
  return ⟨d.names, rules, roster, .ofRules rules (usersOf d rules).eraseDups⟩

def load (rules : String) (groups : Option String) : Except LoadError Model := do
  ofDraft (← Draft.ofTexts rules groups)

/-- Whether a name occurs anywhere in the rules. -/
def knows (m : Model) (name : String) : Bool := m.names.contains name

/-! ## (2) One path -/

/-- Whether `a` outranks `b` at one path: by its scope, then by its place in the text. -/
def outranks (a b : Rule) : Bool :=
  if a.scope.isSpecific == b.scope.isSpecific then b.seq ≤ a.seq else a.scope.isSpecific

/-- The better of a decision so far and one more candidate. -/
def prefer (best : Option (Rule × Access)) (candidate : Rule × Access) : Option (Rule × Access) :=
  match best with
  | none => some candidate
  | some b => if outranks candidate.1 b.1 then some candidate else some b

/-- The rules that have a say about an identity at exactly this place. -/
def candidates (m : Model) (repo : String) (who : Identity) (components : List String) :
    List (Rule × Access) :=
  m.rules.filterMap fun r =>
    if r.scope.appliesTo repo && r.pattern.accepts components then (r.accessFor who).map (r, ·) else none

def deciding (m : Model) (repo : String) (who : Identity) (components : List String) :
    Option (Rule × Access) :=
  (m.candidates repo who components).foldl prefer none

/-- Try the first `depth` components, then one fewer, down to none. -/
def accessUpTo (m : Model) (repo : String) (who : Identity) (components : List String) : Nat → Access
  | 0 =>
    match m.deciding repo who [] with
    | some (_, a) => a
    | none => .none
  | depth + 1 =>
    match m.deciding repo who (components.take (depth + 1)) with
    | some (_, a) => a
    | none => m.accessUpTo repo who components depth

def pathAccess (m : Model) (repo path : String) (who : Identity) : Access :=
  let components := Path.components path
  m.accessUpTo repo who components components.length

/-! ## (3) Questions -/

/-- The repository of a question, the empty name standing for none. -/
def repoGiven (repo : String) : Option String := if repo = "" then none else some repo

def lookupRights (m : Model) (who : Identity) (repo : Option String) : Rights × Bool := m.rights.lookup who repo

/-- The access on a path, or with `recursive` on everything from there down. -/
def effectiveAccess (m : Model) (repo path : String) (who : Identity) (recursive : Bool) : Access :=
  let access := m.pathAccess repo path who
  if recursive then access ∩ (m.lookupRights who (repoGiven repo)).1.floor else access

def check (m : Model) (repo path : String) (who : Identity) (required : Access) (recursive : Bool) : Bool :=
  (m.effectiveAccess repo path who recursive).satisfies required

/-- Whether the identity holds the access on at least one path. -/
def checkAnywhere (m : Model) (repo : String) (who : Identity) (required : Access) : Bool :=
  (m.lookupRights who (repoGiven repo)).1.ceiling.satisfies required

end Model

end PathAuthz
