/-
  PathAuthz.FileTree — a world of files held in memory.

  A tree has files below two places: the working directory, and the home directory, whose
  name is `~`. A path is followed name by name. Each name has to stand in a directory, `.`
  and empty names stay there, and `..` goes up; a path that ends in a slash has to lead to a
  directory. Nothing is known of what lies outside the two places except that there are
  directories.
-/

import PathAuthz.Text
import PathAuthz.World

namespace PathAuthz

/-- Where a path has led so far: below the working directory or the home directory, or out
    of both. -/
inductive Location where
  | work (names : List String)
  | home (names : List String)
  | outside
  deriving DecidableEq, Repr

structure FileTree where
  files : List (Location × List UInt8)
  deriving DecidableEq, Repr

namespace FileTree

/-- What stands at a location. -/
inductive Standing where
  | file (content : List UInt8)
  | directory
  | nothing
  deriving DecidableEq, Repr

def isBelow (dir : Location) (place : Location) : Bool :=
  match dir, place with
  | .work ds, .work ps => ds.isPrefixOf ps
  | .home ds, .home ps => ds.isPrefixOf ps
  | _, _ => false

def at? (t : FileTree) (place : Location) : Standing :=
  match t.files.lookup place with
  | some content => .file content
  | none =>
    if place = .outside ∨ place = .work [] ∨ place = .home [] ∨ t.files.any (fun f => isBelow place f.1) then
      .directory
    else .nothing

def up : Location → Location
  | .work [] => .outside
  | .work names => .work names.dropLast
  | .home [] => .outside
  | .home names => .home names.dropLast
  | .outside => .outside

/-- The location of a name in a directory. -/
def enter (name : String) : Location → Option Location
  | .work names => some (.work (names ++ [name]))
  | .home names => some (.home (names ++ [name]))
  | .outside => none

/-- Follow the pieces of a path. -/
def follow (t : FileTree) (place : Location) : List (List Char) → Except ReadFault Location
  | [] => .ok place
  | piece :: rest =>
    match t.at? place with
    | .file _ => .error .throughFile
    | .nothing => .error .missing
    | .directory =>
      if piece = [] ∨ piece = ['.'] then follow t place rest
      else if piece = ['.', '.'] then follow t (up place) rest
      else
        match enter (String.ofList piece) place with
        | some place => follow t place rest
        | none => .error .missing

/-- The location of a path. -/
def locate (t : FileTree) (path : String) : Except ReadFault Location :=
  if path = "" then .error .missing
  else if '\x00' ∈ path.toList then .error .unnameable
  else
    match Text.pieces '/' path.toList with
    | ['~'] :: rest => t.follow (.home []) rest
    | [] :: rest => t.follow .outside rest
    | pieces => t.follow (.work []) pieces

def read (t : FileTree) (path : String) : Except ReadFault (List UInt8) :=
  match t.locate path with
  | .error fault => .error fault
  | .ok place =>
    match t.at? place with
    | .file content => .ok content
    | .directory => .error .directory
    | .nothing => .error .missing

/-- The location a file of a tree is declared at: below the home directory if its name
    starts with `~/`, else below the working directory. -/
def declared (name : String) : Location :=
  match Text.pieces '/' name.toList with
  | ['~'] :: n :: names => .home ((n :: names).map String.ofList)
  | pieces => .work (pieces.map String.ofList)

/-- The tree of some files, each with its name. -/
def ofFiles (files : List (String × List UInt8)) : FileTree :=
  ⟨files.map fun (name, content) => (declared name, content)⟩

/-- The world of a tree. -/
def world (t : FileTree) (environment : List (String × String)) : World Id where
  home := "~"
  environment := environment
  read := t.read

end FileTree

end PathAuthz
