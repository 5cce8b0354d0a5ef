/-
  PathAuthz.World — what the program sees of the machine it runs on.

  (1) A `World` has a home directory, an environment of variables and files. Reading is the only
  thing done with a file, in whatever monad the world lives; a file that cannot be read is
  reported by one of a few faults.

  (2) A path that is `~`, or starts with `~/`, starts at the home directory. This is what the
  `shellexpand` library documents of a tilde.
-/

import PathAuthz.Text.Utf8

namespace PathAuthz

/-! ## (1) Worlds -/

/-- Why a file has no text. -/
inductive ReadFault where
  | missing
  /-- A file stands where the path goes on. -/
  | throughFile
  | directory
  /-- The path holds a character that no name may hold. -/
  | unnameable
  | notText
  deriving DecidableEq, Repr

def ReadFault.message : ReadFault → String
  | missing => "No such file or directory (os error 2)"
  | throughFile => "Not a directory (os error 20)"
  | directory => "Is a directory (os error 21)"
  | unnameable => "file name contained an unexpected NUL byte"
  | notText => "stream did not contain valid UTF-8"

structure World (m : Type → Type) where
  home : String
  environment : List (String × String)
  read : String → m (Except ReadFault (List UInt8))

namespace World

variable {m : Type → Type} [Monad m]

/-- The value of an environment variable. -/
def envValue? (w : World m) (name : String) : Option String := w.environment.lookup name

/-- Whether a file or a directory stands at a path. -/
def isThere (w : World m) (path : String) : m Bool := do
  match ← w.read path with
  | .ok _ => return true
  | .error .directory => return true
  | .error _ => return false

/-- The text of a file. -/
def readText (w : World m) (path : String) : m (Except ReadFault String) := do
  match ← w.read path with
  | .error fault => return .error fault
  | .ok bytes =>
    match Text.Utf8.strict bytes with
    | some text => return .ok text
    | none => return .error .notText

/-! ## (2) Paths -/

/-- A path with the home directory written out. -/
def expand (w : World m) (path : String) : String :=
  match path.toList with
  | ['~'] => w.home
  | '~' :: '/' :: rest => w.home ++ "/" ++ String.ofList rest
  | _ => path

end World

end PathAuthz
