/-
  PathAuthz.Pattern.Glob — a shell glob over one path component.

  Globs are compiled by the `regex` library, as the expressions of `PathAuthz.Pattern.Expression`.
  Here they are read without that detour: the pieces of a glob, its weight and what it covers
  are those of its expression.

  (1) A glob is a list of pieces: `*` for any run of characters, `?` for one character, a
  bracket expression for one character of a set, and any other character for itself, with or
  without a backslash. A lone backslash at the end and a `[` that nothing closes stand for
  themselves.

  (2) `covers` says when pieces cover a text. A run and a `?` stop at a line feed; a set may
  contain one.

  (3) `coveredTails` answers for all tails of a text at once, so that each piece looks at each
  character once, however many runs there are (`reads_eq_covers`).

  (4) Pieces are weighed from the last to the first, and no longer than until it is clear
  that they weigh too much (`fits_eq_weight_le`).

  (5) A `Glob` keeps its source: it is shown as it was written. Pieces that weigh too much
  make no glob.
-/

import PathAuthz.LoadError
import PathAuthz.Pattern.CharClass
import PathAuthz.Pattern.Tails
import PathAuthz.Pattern.Weight

namespace PathAuthz.Pattern

/-! ## (1) Pieces -/

inductive Piece where
  | run
  | anyOne
  | exactly (c : Char)
  | oneOf (s : CharClass)
  deriving DecidableEq, Repr

/-- The pieces of a glob, if all its bracket expressions are sets. -/
def pieces? : List Char → Option (List Piece)
  | [] => some []
  | ['\\'] => some [.exactly '\\']
  | '\\' :: c :: cs => (pieces? cs).map (.exactly c :: ·)
  | c :: cs =>
    if c = '*' then (pieces? cs).map (.run :: ·)
    else if c = '?' then (pieces? cs).map (.anyOne :: ·)
    else if c = '[' then
      match h : Bracket.cut cs with
      | some (b, rest) =>
        have := Bracket.length_rest_of_cut h
        do return .oneOf (← CharClass.ofBracket? b) :: (← pieces? rest)
      | none => (pieces? cs).map (.exactly '[' :: ·)
    else (pieces? cs).map (.exactly c :: ·)
termination_by cs => cs.length
decreasing_by all_goals simp only [List.length_cons]; omega

/-! ## (2) Covering -/

/-- Whether a piece takes a character. -/
def Piece.accepts : Piece → Char → Bool
  | run, c => c != '\n'
  | anyOne, c => c != '\n'
  | exactly d, c => c == d
  | oneOf s, c => s.contains c

/-- Whether pieces cover a text from end to end. -/
def covers : List Piece → List Char → Bool
  | [], cs => cs.isEmpty
  | .run :: ps, cs => behindRun Piece.run.accepts (covers ps) cs
  | p :: ps, cs => behindOne p.accepts (covers ps) cs

/-! ## (3) All tails at once -/

/-- For each tail of a text, the longest first, whether pieces cover it. -/
def coveredTails : List Piece → List Char → List Bool
  | [], cs => tails List.isEmpty cs
  | .run :: ps, cs => afterRun Piece.run.accepts cs (coveredTails ps cs)
  | p :: ps, cs => afterOne p.accepts cs (coveredTails ps cs)

theorem coveredTails_eq_tails (ps : List Piece) (cs : List Char) : coveredTails ps cs = tails (covers ps) cs := by
  induction ps with
  | nil => rfl
  | cons p ps ih =>
    cases p with
    | run => rw [coveredTails, ih, afterRun_tails]; rfl
    | anyOne | exactly | oneOf =>
      rw [coveredTails, ih, afterOne_tails]
      · rfl
      · simp

/-- `covers`, which looks at all tails only from the first run on. -/
def reads : List Piece → List Char → Bool
  | [], cs => cs.isEmpty
  | .run :: ps, cs => whole (coveredTails (.run :: ps) cs)
  | p :: ps, cs => behindOne p.accepts (reads ps) cs

theorem reads_eq_covers (ps : List Piece) (cs : List Char) : reads ps cs = covers ps cs := by
  induction ps generalizing cs with
  | nil => rfl
  | cons p ps ih =>
    cases p with
    | run => rw [reads, coveredTails_eq_tails, whole_tails]
    | anyOne | exactly | oneOf => cases cs <;> simp [reads, covers, behindOne, ih]

/-! ## (4) Weights -/

/-- An automaton that reads a piece, before it reads what another one reads. -/
def Piece.before (p : Piece) (a : Automaton) : Automaton :=
  match p with
  | run => a.readRun
  | anyOne => a.readAny
  | exactly c => a.readChar c
  | oneOf s => a.readClass s

/-- What pieces weigh together. -/
def weight (ps : List Piece) : Nat := (ps.foldr Piece.before .empty).weight

/-- Whether an automaton with some more pieces, the last of them first, weighs no more than allowed. -/
def fitsWith (a : Automaton) : List Piece → Bool
  | [] => a.weight ≤ heaviest
  | p :: ps => a.weight ≤ heaviest && fitsWith (p.before a) ps

def fits (ps : List Piece) : Bool := fitsWith .empty ps.reverse

theorem weight_le_before (p : Piece) (a : Automaton) : a.weight ≤ (p.before a).weight := by
  cases p with
  | run => exact a.weight_le_readRun
  | anyOne => exact a.weight_le_readSpans _
  | exactly c => exact a.weight_le_readChar c
  | oneOf s => exact a.weight_le_readRanges _

theorem weight_le_foldl_before (a : Automaton) (ps : List Piece) :
    a.weight ≤ (ps.foldl (fun a p => p.before a) a).weight := by
  induction ps generalizing a with
  | nil => exact Nat.le_refl _
  | cons p ps ih => exact Nat.le_trans (weight_le_before p a) (ih _)

theorem fitsWith_eq (a : Automaton) (ps : List Piece) :
    fitsWith a ps = decide ((ps.foldl (fun a p => p.before a) a).weight ≤ heaviest) := by
  induction ps generalizing a with
  | nil => rfl
  | cons p ps ih =>
    rw [fitsWith, ih, List.foldl_cons]
    by_cases h : ((ps.foldl (fun a p => p.before a) (p.before a)).weight ≤ heaviest)
    · have := weight_le_before p a
      have := weight_le_foldl_before (p.before a) ps
      simp [h]
      omega
    · simp [h]

theorem fits_eq_weight_le (ps : List Piece) : fits ps = decide (weight ps ≤ heaviest) := by
  rw [fits, fitsWith_eq, List.foldl_reverse, weight]

/-! ## (5) Globs -/

structure Glob where
  source : String
  pieces : List Piece
  deriving DecidableEq, Repr

namespace Glob

def ofSource (source : String) : Except GlobFault Glob :=
  match pieces? source.toList with
  | none => .error .malformed
  | some ps => if fits ps then .ok ⟨source, ps⟩ else .error .tooHeavy

def accepts (g : Glob) (component : String) : Bool := reads g.pieces component.toList

theorem accepts_eq_covers (g : Glob) (component : String) :
    g.accepts component = covers g.pieces component.toList :=
  reads_eq_covers g.pieces component.toList

end Glob

end PathAuthz.Pattern
