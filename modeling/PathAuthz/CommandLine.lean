/-
  PathAuthz.CommandLine — the tool: it validates rule files and answers questions about them.

  (1) A command line is the common options, the name of a command, and the options and the
  operand of that command; the common options may also stand behind the name and then count
  more. A common option that is not given at all is taken from the environment. So the `clap`
  library documents its commands, its global options and its options with a variable.

  (2) `accessof` prints the access on a path, or without a path the most there is anywhere;
  with `--is` it prints nothing and answers by its exit status. `rights` prints the span of
  an identity's rights. `validate` only loads.

  (3) `run` does all this in a world. Files named on the command line replace those of the
  settings one by one.
-/

import PathAuthz.CommandLine.Arguments
import PathAuthz.RuleFiles
import PathAuthz.Settings.Load
import PathAuthz.Text.JsonString

namespace PathAuthz.CommandLine

/-! ## (1) Command lines -/

inductive Command where
  | validate
  | accessOf (repo path user : Option String) (recursive : Bool) (expected : Option Access)
  | rights (repo user : Option String) (json : Bool)
  deriving DecidableEq, Repr

structure Invocation where
  settings : Option String
  rulesFile : Option String
  groupsFile : Option String
  command : Command
  deriving DecidableEq, Repr

def anyValue (name : String) : OptionSpec := ⟨name, none, .value fun _ => true⟩

def commonOptions : List OptionSpec :=
  [⟨"config", some 'c', .value fun _ => true⟩, anyValue "log-level", ⟨"help", some 'h', .help⟩]

def rootOptions : List OptionSpec := commonOptions ++ [⟨"version", some 'V', .version⟩]

/-- The options of a command, if there is such a command. -/
def optionsOf? (command : String) : Option (List OptionSpec) :=
  match command with
  | "validate" => some (commonOptions ++ [anyValue "groups-file"])
  | "accessof" =>
    some (commonOptions ++ [anyValue "groups-file", anyValue "repository", anyValue "path",
      anyValue "username", ⟨"recursive", none, .switch⟩,
      ⟨"is", none, .value fun v => (Access.ofLabel v).isSome⟩])
  | "rights" =>
    some (commonOptions ++ [anyValue "groups-file", anyValue "repository", anyValue "username",
      ⟨"json", none, .switch⟩])
  | _ => none

/-- A command with its options. -/
def commandOf (command : String) (f : Found) : Command :=
  match command with
  | "accessof" =>
    .accessOf (f.value? "repository") (f.value? "path") (f.value? "username") (f.has "recursive")
      ((f.value? "is").bind Access.ofLabel)
  | "rights" => .rights (f.value? "repository") (f.value? "username") (f.has "json")
  | _ => .validate

/-- What `help` does with the words behind it. -/
def helpOn : List String → Halt
  | [] => .help
  | [word] => if word = "help" ∨ (optionsOf? word).isSome then .help else .usage
  | _ => .usage

/-- Read a command line; `settings` is the settings file the environment names. -/
def parse (settings : Option String) (words : List String) : Except Halt Invocation := do
  let (common, rest) ← scan rootOptions true .empty words
  match rest with
  | [] => .error .usage
  | command :: rest =>
    if command = "help" then .error (helpOn rest)
    match optionsOf? command with
    | none => .error .usage
    | some specs =>
      let (own, _) ← scan specs false .empty rest
      return {
        settings := (own.value? "config").or ((common.value? "config").or settings)
        rulesFile := own.operand
        groupsFile := own.value? "groups-file"
        command := commandOf command own }

/-! ## (2) Answers -/

/-- How the program ends: its exit status, what it prints, and the line it reports a failure
    with. -/
structure Outcome where
  status : Nat
  output : String
  failure : Option String
  deriving DecidableEq, Repr

namespace Outcome

def success (output : String) : Outcome := ⟨0, output, none⟩

/-- The first line of a report; a carriage return before its line feed belongs to the line end. -/
def firstLine (s : String) : String :=
  let line := s.toList.takeWhile (· ≠ '\n')
  String.ofList (if line.getLast? = some '\r' then line.dropLast else line)

def fail (message : String) : Outcome := ⟨1, "", some (firstLine message)⟩

end Outcome

def nameAndVersion : String := "repo-authz 0.1.0"

/-- How a command line that runs nothing ends. -/
def Halt.outcome : Halt → Outcome
  | .usage => ⟨2, "", none⟩
  | .help => .success ""
  | .version => .success (nameAndVersion ++ "\n")

def identityOf : Option String → Identity
  | some name => .user name
  | none => .anonymous

/-- The access `accessof` is about. -/
def accessOf (m : Model) (repo path user : Option String) (recursive : Bool) : Access :=
  match path with
  | some path => m.effectiveAccess (repo.getD "") path (identityOf user) recursive
  | none => (m.lookupRights (identityOf user) repo).1.ceiling

/-- The report of `rights`. -/
def rightsReport (repo user : Option String) (rights : Rights) (found json : Bool) : String :=
  let foundWord := if found then "true" else "false"
  if json then
    "\x7b\n  \"repository\": " ++ Text.JsonString.encodeOption repo ++
      ",\n  \"username\": " ++ Text.JsonString.encodeOption user ++
      ",\n  \"min_access\": \"" ++ rights.floor.label ++
      "\",\n  \"max_access\": \"" ++ rights.ceiling.label ++
      "\",\n  \"found\": " ++ foundWord ++ "\n\x7d\n"
  else
    "min: " ++ rights.floor.label ++ "\nmax: " ++ rights.ceiling.label ++ "\nfound: " ++ foundWord ++ "\n"

/-- The outcome of a command on a model. -/
def answer (m : Model) : Command → Outcome
  | .validate => .success ""
  | .accessOf repo path user recursive expected =>
    let access := accessOf m repo path user recursive
    match expected with
    | none => .success (access.label ++ "\n")
    | some e => if e = access then .success "" else ⟨3, "", none⟩
  | .rights repo user json =>
    let (rights, found) := m.lookupRights (identityOf user) repo
    .success (rightsReport repo user rights found json)

/-! ## (3) Running -/

/-- The report of files that do not load. Behind a glob that does not compile the report
    goes on with the diagnosis, of which only the first line counts. -/
def reportOf (err : RuleFilesError) : String :=
  match err with
  | .refused (.invalidGlob _ _ fault) => err.message ++ ": " ++ fault.title
  | _ => err.message

variable {m : Type → Type} [Monad m]

def invoke (w : World m) (i : Invocation) : m Outcome := do
  match ← Settings.load w i.settings with
  | .error err => return .fail err.message
  | .ok settings =>
    match ← Model.ofFiles w (i.rulesFile.or settings.rulesFile) (i.groupsFile.or settings.groupsFile) with
    | .error err => return .fail (reportOf err)
    | .ok model => return answer model i.command

def run (w : World m) (words : List String) : m Outcome :=
  match parse (w.envValue? "REPO_AUTHZ_CONFIG") words with
  | .error halt => return halt.outcome
  | .ok i => invoke w i

end PathAuthz.CommandLine
