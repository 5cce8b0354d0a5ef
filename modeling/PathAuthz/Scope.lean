/-
  PathAuthz.Scope — the repositories a rule is about, and the people its entries are about.

  - A `RepoScope` is every repository or one named repository. The empty name stands for
    "no repository given" in a question, and no named scope applies to it.
  - A `Subject` is what an entry names: a user, a group (`@name`) or an alias (`&name`).
  - An `EntryKind` is a subject or one of the two built-in classes of people.
-/

namespace PathAuthz

inductive RepoScope where
  | any
  | named (repo : String)
  deriving DecidableEq, Repr

namespace RepoScope

/-- Whether a rule with this scope has a say in `repo`. -/
def appliesTo : RepoScope → String → Bool
  | any, _ => true
  | named name, repo => repo != "" && name == repo

def isSpecific : RepoScope → Bool
  | any => false
  | named _ => true

def label : RepoScope → String
  | any => "*"
  | named repo => repo

end RepoScope

inductive Subject where
  | user (name : String)
  | group (name : String)
  | viaAlias (name : String)
  deriving DecidableEq, Repr

def Subject.label : Subject → String
  | user name => name
  | group name => "@" ++ name
  | viaAlias name => "&" ++ name

inductive EntryKind where
  | anonymous
  | authenticated
  | subject (s : Subject)
  deriving DecidableEq, Repr

def EntryKind.label : EntryKind → String
  | anonymous => "$anonymous"
  | authenticated => "$authenticated"
  | subject s => s.label

end PathAuthz
