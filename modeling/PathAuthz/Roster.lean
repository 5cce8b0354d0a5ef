/-
  PathAuthz.Roster — the members of every group, references followed.

  (1) A `Roster` holds for each group its members: user names, each of them once.

  (2) `expand` follows the references of one group depth first. `trail` holds the groups on
  the way to it, so that a definition that leads back to itself is refused; groups that are
  already done are looked up. `fuel` bounds the length of the trail: a trail holds different
  defined groups, so the number of definitions is enough, and what happens without fuel is
  never seen.

  (3) `Roster.ofDraft` expands all groups in the order of definition.
-/

import PathAuthz.Draft

namespace PathAuthz

/-! ## (1) Rosters -/

structure Team where
  name : String
  members : List String
  deriving DecidableEq, Repr

structure Roster where
  teams : List Team
  deriving DecidableEq, Repr

namespace Roster

def members? (r : Roster) (group : String) : Option (List String) :=
  (r.teams.find? (·.name == group)).map (·.members)

def isMember (r : Roster) (group user : String) : Bool :=
  match r.members? group with
  | some members => members.contains user
  | none => false

def size (r : Roster) : Nat := r.teams.length

def isEmpty (r : Roster) : Bool := r.teams.isEmpty

/-- The members of a group in the order of their code points. -/
def sortedMembers? (r : Roster) (group : String) : Option (List String) :=
  (r.members? group).map (·.mergeSort fun a b => decide (a ≤ b))

/-! ## (2) One group -/

/-- Put a user behind the others unless it is there already. -/
def addMember (members : List String) (user : String) : List String :=
  if user ∈ members then members else members ++ [user]

/-- Put the members of a group, who are different, behind the others without those that are there already. -/
def addMembers (members others : List String) : List String :=
  members ++ others.filter (!members.contains ·)

/-- Collect the members a definition names, with `nested` for the groups among them. -/
def collect (d : Draft) (group : String)
    (nested : Roster → String → Except LoadError (List String × Roster)) (done : Roster) (found : List String) :
    List Subject → Except LoadError (List String × Roster)
  | [] => .ok (found, done)
  | .user name :: rest => collect d group nested done (addMember found name) rest
  | .viaAlias name :: rest =>
    match d.alias? name with
    | none => .error (.undefinedAlias name (.group group))
    | some a => collect d group nested done (addMember found a.user) rest
  | .group name :: rest =>
    match nested done name with
    | .error err => .error err
    | .ok (members, done) => collect d group nested done (addMembers found members) rest

/-- The members of a group, and the roster with every group on the way done. -/
def expand (d : Draft) (fuel : Nat) (trail : List String) (referrer : Referrer) (done : Roster)
    (group : String) : Except LoadError (List String × Roster) :=
  match done.members? group with
  | some members => .ok (members, done)
  | none =>
    if group ∈ trail then .error (.recursiveGroup group)
    else
      match d.group? group with
      | none => .error (.undefinedGroup group referrer)
      | some definition =>
        match fuel with
        | 0 => .error (.recursiveGroup group)
        | fuel + 1 => do
          let (members, done) ←
            collect d group (expand d fuel (group :: trail) (.group group)) done [] definition.members
          return (members, ⟨done.teams ++ [⟨group, members⟩]⟩)

/-! ## (3) All groups -/

/-- Expand groups one after the other. -/
def expandAll (d : Draft) (done : Roster) : List GroupDefinition → Except LoadError Roster
  | [] => .ok done
  | g :: gs => do
    let (_, done) ← expand d d.groups.length [] (.group g.name) done g.name
    expandAll d done gs

def ofDraft (d : Draft) : Except LoadError Roster := expandAll d ⟨[]⟩ d.groups

end Roster

end PathAuthz
