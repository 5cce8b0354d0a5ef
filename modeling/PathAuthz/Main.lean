/-
  PathAuthz.Main — the program on the machine it runs on.

  The world is the real one: files are read as they are asked for, and of the environment the
  variables that settings can come from are looked up.
-/

import PathAuthz.CommandLine

open PathAuthz

namespace PathAuthz.Main

def variableNames : List String :=
  ["REPO_AUTHZ_CONFIG", "REPO_AUTHZ__AUTHZ__RULES_FILE", "REPO_AUTHZ__AUTHZ__GROUPS_FILE",
    "REPO_AUTHZ__LOGGING__LEVEL", "REPO_AUTHZ__LOGGING__FORMAT"]

def readVariables : IO (List (String × String)) :=
  variableNames.filterMapM fun name => do return (← IO.getEnv name).map (name, ·)

def faultOf : IO.Error → ReadFault
  | .inappropriateType _ 20 _ => .throughFile
  | .inappropriateType _ 21 _ => .directory
  | _ => .missing

def readFile (path : String) : IO (Except ReadFault (List UInt8)) := do
  if '\x00' ∈ path.toList then return .error .unnameable
  try
    return .ok (← IO.FS.readBinFile path).toList
  catch e =>
    return .error (faultOf e)

end PathAuthz.Main

def main (words : List String) : IO UInt32 := do
  let world : World IO :=
    { home := (← IO.getEnv "HOME").getD "~"
      environment := ← PathAuthz.Main.readVariables
      read := PathAuthz.Main.readFile }
  let outcome ← CommandLine.run world words
  IO.print outcome.output
  if let some line := outcome.failure then IO.eprintln ("Error: " ++ line)
  return outcome.status.toUInt32
