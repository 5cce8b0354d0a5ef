/-
  PathAuthz.Header — the heading of a rule section.

  A heading is a path, or a scope and a path with a colon between them. The scope is a
  repository, or the word `glob` with or without a colon before it, and then perhaps a colon
  and a repository:

      /path    repo:/path    :glob:/path    :glob:repo:/path    glob:repo:/path

  The path starts at the first `:/`, so a repository holds no slash and a path may hold
  colons. A heading with no `:/` is cut at its last colon, so that its faults are reported
  for the part they are in.
-/

import PathAuthz.LoadError
import PathAuthz.Path

namespace PathAuthz

open Text

structure RuleHeader where
  glob : Bool
  repo : Option String
  path : String
  deriving DecidableEq, Repr

namespace RuleHeader

/-- Cut at the first colon that a slash follows; the slash belongs to the second part. -/
def cutAtPath : List Char → Option (List Char × List Char)
  | [] => none
  | ':' :: '/' :: rest => some ([], '/' :: rest)
  | c :: rest => (cutAtPath rest).map fun (a, b) => (c :: a, b)

/-- The scope of a heading, if it has one, and its path. -/
def cutScope (heading : List Char) : Option (Option (List Char) × List Char) :=
  if heading.head? = some '/' then some (none, heading)
  else
    match cutAtPath heading with
    | some (scope, path) => some (some scope, path)
    | none => (cutLast ':' heading).map fun (scope, path) => (some scope, path)

/-- The word before the first colon of a scope, and the repository behind it. A scope
    without a colon has no word: it is a repository. -/
def cutMarker (scope : List Char) : Option (List Char) × Option (List Char) :=
  match scope with
  | ':' :: rest =>
    match cut (· == ':') rest with
    | some (token, _, repo) => (some token, some repo)
    | none => (some rest, none)
  | _ =>
    match cut (· == ':') scope with
    | some (token, _, repo) => (some token, some repo)
    | none => (none, some scope)

def checkRepo (heading : String) (repo : List Char) : Except LoadError String :=
  if repo = [] then .error (.unnamedRepo heading)
  else if '/' ∈ repo then .error (.invalidRepo heading (String.ofList repo))
  else .ok (String.ofList repo)

/-- The glob flag and the repository of a scope. -/
def readScope (heading : String) (scope : List Char) : Except LoadError (Bool × Option String) := do
  let (marker, repo) := cutMarker scope
  let glob ←
    match marker with
    | none => .ok false
    | some token =>
      if token = "glob".toList then .ok true else .error (.unknownMarker heading (String.ofList token))
  match repo with
  | none => return (glob, none)
  | some repo => return (glob, some (← checkRepo heading repo))

def read (heading : String) : Except LoadError RuleHeader := do
  match cutScope heading.toList with
  | none => .error (.unknownSection heading)
  | some (scope, path) =>
    let (glob, repo) ←
      match scope with
      | none => .ok (false, none)
      | some scope => readScope heading scope
    let path := String.ofList path
    if Path.isCanonical path then return ⟨glob, repo, path⟩
    else .error (.pathNotCanonical heading path)

end RuleHeader

end PathAuthz
