/-
  PathAuthz.Rule — the rules with their references followed.

  (1) An `Entry` names a user, or a group with its members, perhaps inverted; it applies to
  a user who is meant by the name, or with inversion to every user who is not.

  (2) `Rule.accessFor` is what a rule grants an identity: nothing at all (`none`) if none of
  its entries applies, else the union of those that do, which may be no access. Anonymous
  access comes from the anonymous slot alone. `Rule.unnamedAccess` is the same for a user
  whom no rule, group or alias names: only inversion reaches them.

  (3) `Rule.ofWritten` follows aliases and groups. Users come first, with an alias united
  with the user it stands for; the groups follow.
-/

import PathAuthz.Roster

namespace PathAuthz

/-- Who asks. -/
inductive Identity where
  | anonymous
  | user (name : String)
  deriving DecidableEq, Repr

/-! ## (1) Entries -/

structure Entry where
  name : String
  /-- The members, if the name is that of a group. -/
  members : Option (List String)
  inverted : Bool
  access : Access
  deriving DecidableEq, Repr

namespace Entry

def isGroup (e : Entry) : Bool := e.members.isSome

/-- Whether the name means a user, inversion aside. -/
def means (e : Entry) (user : String) : Bool :=
  match e.members with
  | some members => members.contains user
  | none => e.name == user

def appliesTo (e : Entry) (user : String) : Bool := e.means user != e.inverted

end Entry

/-! ## (2) Rules -/

structure Rule where
  seq : Nat
  heading : String
  scope : RepoScope
  pattern : PathPattern
  anonymous : Option Access
  authenticated : Option Access
  entries : List Entry
  deriving DecidableEq, Repr

namespace Rule

def isGlob (r : Rule) : Bool := r.pattern.isGlob

/-- The union of a slot and some entries, if there is any of them. -/
def unite (slot : Option Access) (entries : List Entry) : Option Access :=
  entries.foldl (fun acc e => uniteSlot acc e.access) slot

def accessFor (r : Rule) : Identity → Option Access
  | .anonymous => r.anonymous
  | .user name => unite r.authenticated (r.entries.filter (·.appliesTo name))

def unnamedAccess (r : Rule) : Option Access := unite r.authenticated (r.entries.filter (·.inverted))

/-! ## (3) Following references -/

/-- Unite an entry with the one of the same name and sign, or put it last. -/
def uniteEntry (e : Entry) : List Entry → List Entry
  | [] => [e]
  | d :: ds =>
    if d.name = e.name ∧ d.inverted = e.inverted then { d with access := d.access ∪ e.access } :: ds
    else d :: uniteEntry e ds

/-- The user entries among written entries, aliases followed. -/
def userEntries (d : Draft) (heading : String) : List WrittenEntry → Except LoadError (List Entry)
  | [] => .ok []
  | e :: es =>
    match e.subject with
    | .user name => (userEntries d heading es).map (⟨name, none, e.inverted, e.access⟩ :: ·)
    | .viaAlias name =>
      match d.alias? name with
      | none => .error (.undefinedAlias name (.rule heading))
      | some a => (userEntries d heading es).map (⟨a.user, none, e.inverted, e.access⟩ :: ·)
    | .group _ => userEntries d heading es

/-- The group entries among written entries, with their members. -/
def groupEntries (roster : Roster) (heading : String) : List WrittenEntry → Except LoadError (List Entry)
  | [] => .ok []
  | e :: es =>
    match e.subject with
    | .group name =>
      match roster.members? name with
      | none => .error (.undefinedGroup name (.rule heading))
      | some members =>
        (groupEntries roster heading es).map (⟨name, some members, e.inverted, e.access⟩ :: ·)
    | _ => groupEntries roster heading es

def ofWritten (d : Draft) (roster : Roster) (w : WrittenRule) : Except LoadError Rule := do
  let users ← userEntries d w.heading w.entries
  let groups ← groupEntries roster w.heading w.entries
  return {
    seq := w.seq
    heading := w.heading
    scope := w.scope
    pattern := w.pattern
    anonymous := w.anonymous
    authenticated := w.authenticated
    entries := users.foldl (fun es e => uniteEntry e es) [] ++ groups }

end Rule

end PathAuthz
