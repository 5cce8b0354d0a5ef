/-
  PathAuthz.Access — what the rules grant.

  (1) An `Access` is a set of rights, of which there are two: reading and writing. Grants
  to one identity by several entries are united; what holds everywhere is intersected.
  `satisfies` is inclusion (`satisfies_iff`).

  (2) The right-hand side of a rule entry is read by `Access.ofRights`: `r` and `w` in any
  number and order, blanks ignored, anything else refused. The command line uses the four
  labels `no`, `r`, `w` and `rw` instead (`label`, `ofLabel`).

  (3) `Rights` is the span of an identity's access: what it holds at least, and at most.
-/

import PathAuthz.Text

namespace PathAuthz

/-! ## (1) Sets of rights -/

structure Access where
  read : Bool
  write : Bool
  deriving DecidableEq, Repr

namespace Access

def none : Access := ⟨false, false⟩
def reading : Access := ⟨true, false⟩
def writing : Access := ⟨false, true⟩
def all : Access := ⟨true, true⟩

instance : Union Access := ⟨fun a b => ⟨a.read || b.read, a.write || b.write⟩⟩
instance : Inter Access := ⟨fun a b => ⟨a.read && b.read, a.write && b.write⟩⟩
instance : HasSubset Access :=
  ⟨fun a b => (a.read = true → b.read = true) ∧ (a.write = true → b.write = true)⟩

/-- Whether `granted` holds every right of `required`. -/
def satisfies (granted required : Access) : Bool :=
  (!required.read || granted.read) && (!required.write || granted.write)

theorem satisfies_iff {granted required : Access} : granted.satisfies required = true ↔ required ⊆ granted := by
  obtain ⟨gr, gw⟩ := granted; obtain ⟨rr, rw⟩ := required
  cases gr <;> cases gw <;> cases rr <;> cases rw <;> simp [satisfies, HasSubset.Subset]

instance (a b : Access) : Decidable (a ⊆ b) := decidable_of_iff (b.satisfies a = true) satisfies_iff

/-! ## (2) Written forms -/

/-- Read the rights of a rule entry; the error is the first character that is none. -/
def ofRights : List Char → Except Char Access
  | [] => .ok none
  | c :: cs =>
    if c = 'r' then (ofRights cs).map (reading ∪ ·)
    else if c = 'w' then (ofRights cs).map (writing ∪ ·)
    else if Text.isBlank c then ofRights cs
    else .error c

def label (a : Access) : String :=
  match a.read, a.write with
  | true, true => "rw"
  | true, false => "r"
  | false, true => "w"
  | false, false => "no"

/-- Read a label; `none` is a second spelling of `no`. -/
def ofLabel (s : String) : Option Access :=
  if s = "no" ∨ s = "none" then some none
  else if s = "r" then some reading
  else if s = "w" then some writing
  else if s = "rw" then some all
  else Option.none

theorem ofLabel_label (a : Access) : ofLabel a.label = some a := by
  obtain ⟨r, w⟩ := a; cases r <;> cases w <;> decide

end Access

/-! ## (3) Spans -/

/-- What an identity holds at least (`floor`) and at most (`ceiling`). -/
structure Rights where
  floor : Access
  ceiling : Access
  deriving DecidableEq, Repr

namespace Rights

/-- The rights of an identity that no rule grants anything. -/
def none : Rights := ⟨.none, .none⟩

/-- The span of no grants at all, where `add` starts. -/
def unset : Rights := ⟨.all, .none⟩

/-- Widen the span so that it covers one more grant. -/
def add (r : Rights) (a : Access) : Rights := ⟨r.floor ∩ a, r.ceiling ∪ a⟩

/-- The span that covers two spans. -/
def combine (r s : Rights) : Rights := ⟨r.floor ∩ s.floor, r.ceiling ∪ s.ceiling⟩

end Rights

end PathAuthz
