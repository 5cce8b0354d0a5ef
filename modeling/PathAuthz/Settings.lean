/-
  PathAuthz.Settings — what the program is told besides its command line.

  (1) `Settings` names the rules file and the groups file and says how to log. It is read
  from a tree of nodes: text fields take any leaf, a field that is missing has its default,
  a field that is not known is ignored. A table may also be given as a list of its fields in
  order. Which forms a field takes besides its own is what the `config` library documents of
  reading a record, and the defaults are those of the record.

  (2) Values come in layers: the TOML text first, then the environment over it. A variable
  counts if its name starts with `REPO_AUTHZ__`, in either case; the rest of its name is a
  key in lower case, with a dot for each two underscores. This is the environment as a source
  of that library, with a prefix and a separator.

  (3) After that the whole is validated once: a groups file needs a rules file, neither may
  be blank, and the level has to be a known one in either case.
-/

import PathAuthz.Settings.Node
import PathAuthz.Text
import PathAuthz.Toml

namespace PathAuthz

open Settings (Node)

inductive LogFormat where
  | pretty
  | json
  deriving DecidableEq, Repr

structure Settings where
  rulesFile : Option String
  groupsFile : Option String
  level : String
  format : LogFormat
  deriving DecidableEq, Repr

/-- Why there are no settings. -/
inductive SettingsError where
  /-- A source is not well formed, or a value has a form its field does not take. -/
  | unreadable
  | fileNotFound (path : String)
  | blankValue (field : String)
  | unknownLevel (level : String)
  | rulesFileNeeded
  deriving DecidableEq, Repr

namespace Settings

def knownLevels : List String := ["trace", "debug", "info", "warn", "error"]

def lower (s : String) : String := String.ofList (s.toList.map Char.toLower)

end Settings

def SettingsError.message : SettingsError → String
  | unreadable => "Failed to load configuration: a source is not valid"
  | fileNotFound path => s!"Failed to load configuration: Configuration file not found: {path}"
  | blankValue field => s!"Invalid configuration: {field} must not be empty"
  | unknownLevel level =>
    "Invalid configuration: logging.level must be one of " ++ String.intercalate ", " Settings.knownLevels ++
      ", got: " ++ level
  | rulesFileNeeded =>
    "Missing required configuration: authz.rules_file (required when authz.groups_file is set)"

namespace Settings

/-! ## (1) Reading fields -/

/-- The named fields of a table, or the items of a list in their place. -/
def fields? (names : List String) : Node → Option (List (Option Node))
  | .table es => some (names.map fun name => es.lookup name)
  | .list ns => some ((List.range names.length).map (ns[·]?))
  | _ => none

/-- A text that may be missing. -/
def optionalText? : Option Node → Option (Option String)
  | none => some none
  | some .vacant => some none
  | some (.leaf s) => some (some s)
  | some _ => none

def text? (default : String) : Option Node → Option String
  | none => some default
  | some (.leaf s) => some s
  | some _ => none

def formatOfName? (name : String) : Option LogFormat :=
  if name = "pretty" then some .pretty else if name = "json" then some .json else none

/-- The format by its name, or by the only name in a table. -/
def format? : Option Node → Option LogFormat
  | none => some .pretty
  | some (.leaf name) => formatOfName? name
  | some (.table [(name, _)]) => formatOfName? name
  | some _ => none

/-- The files of the first section. -/
def files? : Option Node → Option (Option String × Option String)
  | none => some (none, none)
  | some n => do
    let [rules, groups] ← fields? ["rules_file", "groups_file"] n | none
    return (← optionalText? rules, ← optionalText? groups)

/-- The level and the format of the second section. -/
def logging? : Option Node → Option (String × LogFormat)
  | none => some ("info", .pretty)
  | some n => do
    let [level, format] ← fields? ["level", "format"] n | none
    return (← text? "info" level, ← format? format)

/-- The settings in a tree, not validated. -/
def ofNode? (n : Node) : Option Settings := do
  let [authz, logging] ← fields? ["authz", "logging"] n | none
  let (rulesFile, groupsFile) ← files? authz
  let (level, format) ← logging? logging
  return { rulesFile, groupsFile, level, format }

/-! ## (2) Layers -/

/-- Lay the entries of a source over a tree; each key is an expression. -/
def addSource (n : Node) (entries : List (String × Node)) : Node :=
  entries.foldl (fun n (key, value) => Node.assign key value n) n

def root : Node := .table []

/-- The entries of a TOML text. -/
def entriesOfToml? (toml : String) : Option (List (String × Node)) := (Toml.read? toml).map Node.ofEntries

/-- Write a dot for each two underscores. -/
def dotted : List Char → List Char
  | '_' :: '_' :: rest => '.' :: dotted rest
  | c :: rest => c :: dotted rest
  | [] => []

/-- The key of an environment variable, if it is one of ours. -/
def keyOfVariable? (name : String) : Option String :=
  let leading := "repo_authz__".toList
  let cs := name.toList.map Char.toLower
  if leading.isPrefixOf cs then some (String.ofList (dotted (cs.drop leading.length))) else none

def entriesOfEnvironment (environment : List (String × String)) : List (String × Node) :=
  environment.filterMap fun (name, value) => (keyOfVariable? name).map (·, .leaf value)

/-! ## (3) Validation -/

def isBlankText (s : String) : Bool := s.toList.all Text.isBlank

def validate (s : Settings) : Except SettingsError Settings :=
  if s.groupsFile.isSome ∧ s.rulesFile.isNone then .error .rulesFileNeeded
  else if s.rulesFile.any isBlankText then .error (.blankValue "authz.rules_file")
  else if s.groupsFile.any isBlankText then .error (.blankValue "authz.groups_file")
  else if lower s.level ∉ knownLevels then .error (.unknownLevel s.level)
  else .ok s

/-- The settings in a tree. -/
def ofNode (n : Node) : Except SettingsError Settings :=
  match ofNode? n with
  | none => .error .unreadable
  | some s => validate s

/-- The settings of a TOML text alone. -/
def ofToml (toml : String) : Except SettingsError Settings :=
  match entriesOfToml? toml with
  | none => .error .unreadable
  | some entries => ofNode (addSource root entries)

/-- The settings of a TOML text, if there is one, and the environment over it. -/
def ofSources (toml : Option String) (environment : List (String × String)) : Except SettingsError Settings :=
  let base :=
    match toml with
    | none => some root
    | some toml => (entriesOfToml? toml).map (addSource root)
  match base with
  | none => .error .unreadable
  | some base => ofNode (addSource base (entriesOfEnvironment environment))

end Settings

end PathAuthz
