/-
  PathAuthz.Settings.Load — the settings of a world.

  A settings file that is asked for has to be there. If none is asked for, the first of the
  usual places that is there counts, and having none is no error.

  The file itself is a source of the `config` library. As that documents, a path where no file
  stands is tried once more with the extension of the format, `.toml`, behind it. The text of
  the file is read leniently, without a byte order mark.
-/

import PathAuthz.Settings
import PathAuthz.World

namespace PathAuthz.Settings

variable {m : Type → Type} [Monad m]

/-- Where settings are looked for, in this order. -/
def usualPlaces : List String :=
  ["repo-authz.toml", ".repo-authz.toml", "~/.config/repo-authz/config.toml", "/etc/repo-authz/config.toml"]

/-- A path to try in place of one where no file stands. Behind a last name without an extension
    comes `.toml`, in place of a final slash. A last name with an extension keeps what is behind
    it, and a file of its own stands for what a final slash leaves open. The home directory
    and what ends in no name have no such path. -/
def withExtension? (path : String) : Option String :=
  let isIdle := fun p : List Char => p == [] || p == ['.']
  match (Text.pieces '/' path.toList).reverse.dropWhile isIdle with
  | [] => none
  | [['~']] => none
  | last :: before =>
    if last = ['.', '.'] then none
    else if '.' ∈ last.tail then
      some (path ++ (if path.toList.getLast? = some '/' then ".placeholder.toml" else ".toml"))
    else some (String.intercalate "/" ((last :: before).reverse.map String.ofList) ++ ".toml")

def dropByteOrderMark : List UInt8 → List UInt8
  | 0xEF :: 0xBB :: 0xBF :: rest => rest
  | bytes => bytes

/-- The text of the settings file at a path. -/
def readFile (w : World m) (path : String) : m (Option String) := do
  match ← w.read path with
  | .ok bytes => return some (Text.Utf8.lossy (dropByteOrderMark bytes))
  | .error _ =>
    match withExtension? path with
    | none => return none
    | some path =>
      match ← w.read path with
      | .ok bytes => return some (Text.Utf8.lossy (dropByteOrderMark bytes))
      | .error _ => return none

/-- The first path that is there. -/
def firstThere (w : World m) : List String → m (Option String)
  | [] => return none
  | path :: rest => do if ← w.isThere path then return some path else firstThere w rest

/-- The settings of the file at a path and the environment over it. -/
def ofFile (w : World m) (path : String) : m (Except SettingsError Settings) := do
  match ← readFile w path with
  | none => return .error .unreadable
  | some toml => return ofSources (some toml) w.environment

def load (w : World m) (path : Option String) : m (Except SettingsError Settings) := do
  match path with
  | some path =>
    if ← w.isThere (w.expand path) then ofFile w (w.expand path) else return .error (.fileNotFound path)
  | none =>
    match ← firstThere w (usualPlaces.map w.expand) with
    | some path => ofFile w path
    | none => return ofSources none w.environment

end PathAuthz.Settings
