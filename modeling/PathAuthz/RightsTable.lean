/-
  PathAuthz.RightsTable — what an identity holds at least and at most, without a path.

  (1) `Buckets` sums up the grants of one identity: over all rules, over the rules for any
  repository, and over the rules of each named repository.

  (2) `Buckets.rights` answers for one repository or for all of them, and says whether the
  rules of that repository grant the identity anything of its own. A repository without
  rules of its own has no floor: nothing is guaranteed there.

  (3) A `RightsTable` has buckets for the anonymous, for what is granted to every
  authenticated user, for a user whom the rules never name, and for each user they name. A
  named user's span also covers what the authenticated slots alone grant.
-/

import PathAuthz.Rule

namespace PathAuthz

/-! ## (1) Buckets -/

structure Buckets where
  everywhere : Option Rights
  anyRepo : Option Rights
  perRepo : List (String × Rights)
  deriving DecidableEq, Repr

namespace Buckets

def empty : Buckets := ⟨none, none, []⟩

/-- Let a slot cover one more grant. -/
def addTo (slot : Option Rights) (a : Access) : Option Rights := some ((slot.getD .unset).add a)

/-- Let the bucket of a repository cover one more grant. -/
def addToRepo (repo : String) (a : Access) : List (String × Rights) → List (String × Rights)
  | [] => [(repo, Rights.unset.add a)]
  | (name, rights) :: rest =>
    if name = repo then (name, rights.add a) :: rest else (name, rights) :: addToRepo repo a rest

/-- Take a grant of a rule with the given scope. -/
def add (b : Buckets) (scope : RepoScope) (a : Access) : Buckets :=
  match scope with
  | .any => { b with everywhere := addTo b.everywhere a, anyRepo := addTo b.anyRepo a }
  | .named repo => { b with everywhere := addTo b.everywhere a, perRepo := addToRepo repo a b.perRepo }

def ofGrants (grants : List (RepoScope × Access)) : Buckets :=
  grants.foldl (fun b g => b.add g.1 g.2) empty

/-! ## (2) Answers -/

/-- The span in a repository, or in all of them, and whether it rests on rules of its own. -/
def rights (b : Buckets) : Option String → Rights × Bool
  | none =>
    match b.everywhere with
    | some r => (r, true)
    | none => (.none, false)
  | some repo =>
    let own := b.perRepo.lookup repo
    let r := own.getD .none
    match b.anyRepo with
    | some any => (r.combine any, own.isSome)
    | none => (r, own.isSome)

end Buckets

/-! ## (3) The table -/

structure RightsTable where
  anonymous : Buckets
  /-- The authenticated slots alone, if some rule has one. -/
  authenticated : Option Buckets
  /-- A user whom the rules never name. -/
  unnamed : Buckets
  users : List (String × Buckets)
  deriving DecidableEq, Repr

namespace RightsTable

/-- The grants of the rules that grant anything by `access`. -/
def grants (access : Rule → Option Access) (rules : List Rule) : List (RepoScope × Access) :=
  rules.filterMap fun r => (access r).map (r.scope, ·)

def ofRules (rules : List Rule) (users : List String) : RightsTable :=
  let authenticated := grants (·.authenticated) rules
  { anonymous := .ofGrants (grants (·.anonymous) rules)
    authenticated := if authenticated.isEmpty then none else some (.ofGrants authenticated)
    unnamed := .ofGrants (grants (·.unnamedAccess) rules)
    users := users.map fun u => (u, .ofGrants (grants (·.accessFor (.user u)) rules)) }

/-- The span of an identity in a repository, or in all of them, and whether it rests on
    rules of its own there. -/
def lookup (t : RightsTable) (who : Identity) (repo : Option String) : Rights × Bool :=
  match who with
  | .anonymous => t.anonymous.rights repo
  | .user name =>
    match t.users.lookup name with
    | none => t.unnamed.rights repo
    | some own =>
      match t.authenticated with
      | none => own.rights repo
      | some slots =>
        let (r, found) := own.rights repo
        let (s, slotFound) := slots.rights repo
        (r.combine s, found || slotFound)

end RightsTable

end PathAuthz
