/-
  PathAuthz.Pattern — the path of a rule, as a pattern over lists of components.

  (1) `PathPattern.compile` turns the written components of a rule path into segments: plain
  text in a plain section, the shapes of `Segment` in a glob section. Adjacent `**` say no
  more than one.

  (2) `PathPattern.accepts` holds of a list of components if the segments cover it in order,
  each of them one component, and each `**` any number (`accepts_eq_covers`). It looks at a
  component once for each segment.

  (3) `PathPattern.label` writes the pattern as a path.
-/

import PathAuthz.LoadError
import PathAuthz.Path
import PathAuthz.Pattern.Segment

namespace PathAuthz

open Pattern

/-- The segments of a rule path; the root has none. -/
structure PathPattern where
  segments : List Segment
  deriving DecidableEq, Repr

namespace PathPattern

/-! ## (1) Compiling -/

/-- Write adjacent `**` once. -/
def collapse : List Segment → List Segment
  | [] => []
  | .recursive :: .recursive :: rest => collapse (.recursive :: rest)
  | s :: rest => s :: collapse rest

def segmentOf (heading : String) (glob : Bool) (component : String) : Except LoadError Segment :=
  if glob then
    match Segment.ofGlob component with
    | .ok s => .ok s
    | .error fault => .error (.invalidGlob heading component fault)
  else .ok (.literal component)

/-- Compile a rule path; the heading is for the error. -/
def compile (heading : String) (glob : Bool) (path : String) : Except LoadError PathPattern :=
  ((Path.written path).mapM (segmentOf heading glob)).map fun segments => ⟨collapse segments⟩

def isGlob (p : PathPattern) : Bool := p.segments.any (!·.isLiteral)

/-! ## (2) Matching -/

/-- Whether segments cover a list of components from end to end. -/
def covers : List Segment → List String → Bool
  | [], cs => cs.isEmpty
  | .recursive :: rest, cs => behindRun Segment.recursive.accepts (covers rest) cs
  | s :: rest, cs => behindOne s.accepts (covers rest) cs

/-- For each tail of a list of components, the longest first, whether segments cover it. -/
def coveredTails : List Segment → List String → List Bool
  | [], cs => tails List.isEmpty cs
  | .recursive :: rest, cs => afterRun Segment.recursive.accepts cs (coveredTails rest cs)
  | s :: rest, cs => afterOne s.accepts cs (coveredTails rest cs)

theorem coveredTails_eq_tails (ss : List Segment) (cs : List String) : coveredTails ss cs = tails (covers ss) cs := by
  induction ss with
  | nil => rfl
  | cons s rest ih =>
    cases s with
    | recursive => rw [coveredTails, ih, afterRun_tails]; rfl
    | literal | any | startingWith | endingWith | shell =>
      rw [coveredTails, ih, afterOne_tails]
      · rfl
      · simp

/-- `covers`, which looks at all tails only from the first `**` on. -/
def reads : List Segment → List String → Bool
  | [], cs => cs.isEmpty
  | .recursive :: rest, cs => whole (coveredTails (.recursive :: rest) cs)
  | s :: rest, cs => behindOne s.accepts (reads rest) cs

theorem reads_eq_covers (ss : List Segment) (cs : List String) : reads ss cs = covers ss cs := by
  induction ss generalizing cs with
  | nil => rfl
  | cons s rest ih =>
    cases s with
    | recursive => rw [reads, coveredTails_eq_tails, whole_tails]
    | literal | any | startingWith | endingWith | shell => cases cs <;> simp [reads, covers, behindOne, ih]

def accepts (p : PathPattern) (components : List String) : Bool := reads p.segments components

theorem accepts_eq_covers (p : PathPattern) (components : List String) :
    p.accepts components = covers p.segments components :=
  reads_eq_covers p.segments components

/-! ## (3) Writing -/

def label (p : PathPattern) : String := Path.join (p.segments.map Segment.label)

end PathPattern

end PathAuthz
