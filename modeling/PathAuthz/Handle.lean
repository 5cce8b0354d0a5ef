/-
  PathAuthz.Handle — one place from which the current model is served.

  (1) A `Handle` serves a model or nothing. Each model it starts to serve becomes a
  `Snapshot` with a serial number of its own, so that two snapshots can be told apart even if
  their models are equal.
  - `reload` serves the new model, or nothing if it does not load: after a failed reload
    every check is denied, whatever it asks for.
  - `replaceBy` serves the new model, and leaves the handle alone if it does not load.

  (2) A `Session` is a handle and the snapshots its clients keep by name. A kept snapshot is
  not touched by anything that happens to the handle. `Session.step` performs one step.
-/

import PathAuthz.Model

namespace PathAuthz

/-! ## (1) Handles -/

structure Snapshot where
  serial : Nat
  model : Model
  deriving DecidableEq, Repr

structure Handle where
  current : Option Snapshot
  /-- How many serial numbers have been handed out. -/
  issued : Nat
  deriving DecidableEq, Repr

namespace Handle

/-- A handle that serves nothing yet. -/
def start : Handle := ⟨none, 0⟩

/-- Stop serving. -/
def clear (h : Handle) : Handle := { h with current := none }

/-- Start serving a model. -/
def serve (h : Handle) (m : Model) : Handle := ⟨some ⟨h.issued, m⟩, h.issued + 1⟩

def isFailed (h : Handle) : Bool := h.current.isNone

/-- Serve what the texts say, or nothing if they do not load. -/
def reload (h : Handle) (rules : String) (groups : Option String) : Handle × Option LoadError :=
  match Model.load rules groups with
  | .ok m => (h.serve m, none)
  | .error err => (h.clear, some err)

/-- Serve what the texts say, or go on as before if they do not load. -/
def replaceBy (h : Handle) (rules : String) (groups : Option String) : Handle × Option LoadError :=
  match Model.load rules groups with
  | .ok m => (h.serve m, none)
  | .error err => (h, some err)

/-- The answer of the model that is served; without one everything is denied. -/
def check (h : Handle) (repo path : String) (who : Identity) (required : Access) (recursive : Bool) : Bool :=
  match h.current with
  | some s => s.model.check repo path who required recursive
  | none => false

end Handle

/-! ## (2) Sessions -/

structure Session where
  handle : Handle
  saved : List (String × Snapshot)
  deriving DecidableEq, Repr

inductive SessionStep where
  | fail
  | load (rules : String) (groups : Option String)
  | reload (rules : String) (groups : Option String)
  | replace (rules : String) (groups : Option String)
  | check (repo path : String) (who : Identity) (required : Access) (recursive : Bool)
  | save (name : String)
  | same (name : String)
  deriving DecidableEq, Repr

inductive SessionAnswer where
  | done
  | refused (err : LoadError)
  | verdict (yes : Bool)
  | unknown
  deriving DecidableEq, Repr

namespace Session

def start : Session := ⟨.start, []⟩

def saved? (s : Session) (name : String) : Option Snapshot := s.saved.lookup name

/-- The session after a change of its handle, and the answer to it. -/
def changed (s : Session) : Handle × Option LoadError → Session × SessionAnswer
  | (h, none) => ({ s with handle := h }, .done)
  | (h, some err) => ({ s with handle := h }, .refused err)

def step (s : Session) : SessionStep → Session × SessionAnswer
  | .fail => ({ s with handle := s.handle.clear }, .done)
  | .load rules groups => s.changed (s.handle.replaceBy rules groups)
  | .reload rules groups => s.changed (s.handle.reload rules groups)
  | .replace rules groups => s.changed (s.handle.replaceBy rules groups)
  | .check repo path who required recursive => (s, .verdict (s.handle.check repo path who required recursive))
  | .save name =>
    match s.handle.current with
    | none => (s, .verdict false)
    | some snapshot => ({ s with saved := (name, snapshot) :: s.saved }, .verdict true)
  | .same name =>
    match s.saved? name, s.handle.current with
    | some a, some b => (s, .verdict (a.serial == b.serial))
    | _, _ => (s, .unknown)

end Session

end PathAuthz
