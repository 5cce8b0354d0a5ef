/-
  PathAuthz.RuleFiles — a model from the files of a world.

  The rules file is read first, then the groups file if there is one, and only then is
  anything compiled. Both have to be text.
-/

import PathAuthz.Model
import PathAuthz.World

namespace PathAuthz

inductive RuleFilesError where
  | rulesFileMissing
  | unreadable (path : String) (fault : ReadFault)
  | refused (err : LoadError)
  deriving DecidableEq, Repr

def RuleFilesError.message : RuleFilesError → String
  | rulesFileMissing => "Configuration error: Missing required configuration: authz.rules_file"
  | unreadable path fault => s!"Failed to read '{path}': {fault.message}"
  | refused err => s!"Authorization rules error: {err.message}"

namespace Model

variable {m : Type → Type} [Monad m]

/-- The text of a rules file or a groups file. -/
def readRuleFile (w : World m) (path : String) : m (Except RuleFilesError String) := do
  match ← w.readText (w.expand path) with
  | .ok text => return .ok text
  | .error fault => return .error (.unreadable (w.expand path) fault)

/-- The text of a file that need not be named. -/
def readOptionalFile (w : World m) : Option String → m (Except RuleFilesError (Option String))
  | none => return .ok none
  | some path => do return (← readRuleFile w path).map some

def ofFiles (w : World m) (rulesFile groupsFile : Option String) : m (Except RuleFilesError Model) := do
  match rulesFile with
  | none => return .error .rulesFileMissing
  | some path =>
    match ← readRuleFile w path with
    | .error err => return .error err
    | .ok rules =>
      match ← readOptionalFile w groupsFile with
      | .error err => return .error err
      | .ok groups => return (load rules groups).mapError .refused

end Model

end PathAuthz
