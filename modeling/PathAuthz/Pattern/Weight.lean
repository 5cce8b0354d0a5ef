/-
  PathAuthz.Pattern.Weight — how much a glob weighs, and how much it may weigh.

  The `regex` library compiles expressions into automata, and documents a limit to their size:
  ten mebibytes. The weight of a glob is the size of the automaton that this library makes of
  its expression, in bytes: one state after the other, as Thompson's construction has them.

  (1) A glob is weighed as the automaton that reads a text byte by byte, backwards. Its states
  are numbered as they are made, from the end of the glob to its front. A state weighs 32, a
  way out of a state that has several weighs 4 if it is taken without reading, and 8 if it is
  taken at an ASCII byte.

  (2) A step reads a byte of a range and leads to another state. A step that is known is not
  made again: spans that start alike share the states of what they have in common. There are
  a thousand places for known steps, and a step drives out the one that had its place before.

  (3) A set of ASCII characters is two states with a way for each range. Any other set is a
  state with a way for each span of its characters in UTF-8, a state where all of them meet,
  and the steps between the two. Whatever is read makes an automaton heavier, never lighter
  (`weight_le_readRanges`).

  (4) A glob may weigh ten mebibytes.
-/

import PathAuthz.Pattern.CharClass
import PathAuthz.Text.Utf8.Span

namespace PathAuthz.Pattern

open Text (CodeSet)
open Text.Utf8 (Span spansOf)

/-! ## (1) Automata -/

/-- How many states there are so far, and what their ways out weigh. -/
structure Automaton where
  states : Nat
  ways : Nat
  deriving DecidableEq, Repr

namespace Automaton

/-- What an automaton begins with: where it starts, and the end of the text. -/
def empty : Automaton := ⟨2, 0⟩

/-- The weight with two more states, for the front of the text and for all being read. -/
def weight (a : Automaton) : Nat := 32 * (a.states + 2) + a.ways

end Automaton

/-! ## (2) Steps -/

structure Step where
  next : Nat
  bytes : Nat × Nat
  deriving DecidableEq, Repr

/-- The place of a step: its numbers, mixed into 64 bits one after the other. -/
def Step.place (s : Step) : Nat :=
  let mix (h : UInt64) (n : Nat) : UInt64 := (h ^^^ n.toUInt64) * 1099511628211
  (mix (mix (mix 14695981039346656037 s.next) s.bytes.1) s.bytes.2).toNat % 1000

/-- How many states there are so far, and the known steps with their states. -/
structure Steps where
  states : Nat
  known : Array (Option (Step × Nat))

namespace Steps

def ofStates (n : Nat) : Steps := ⟨n, Array.replicate 1000 none⟩

variable (place : Step → Nat)

def make (k : Steps) (s : Step) : Steps × Nat :=
  (⟨k.states + 1, k.known.setIfInBounds (place s) (some (s, k.states))⟩, k.states)

/-- The state of a step, which is made if it is not known. -/
def state (k : Steps) (s : Step) : Steps × Nat :=
  match k.known[place s]? with
  | some (some (t, n)) => if t = s then (k, n) else k.make place s
  | _ => k.make place s

/-- The steps of a span, the first of which leads to a state. -/
def addSpan (k : Steps) (next : Nat) : Span → Steps
  | [] => k
  | r :: rest =>
    let (k, n) := k.state place ⟨next, r⟩
    k.addSpan n rest

def addSpans (k : Steps) (next : Nat) (spans : List Span) : Steps :=
  spans.foldl (fun k s => k.addSpan place next s) k

theorem states_le_state (k : Steps) (s : Step) : k.states ≤ (k.state place s).1.states := by
  unfold state
  split
  · split
    · exact Nat.le_refl _
    · exact Nat.le_succ _
  · exact Nat.le_succ _

theorem states_le_addSpan (k : Steps) (next : Nat) (span : Span) :
    k.states ≤ (k.addSpan place next span).states := by
  induction span generalizing k next with
  | nil => exact Nat.le_refl _
  | cons r rest ih => exact Nat.le_trans (states_le_state place k ⟨next, r⟩) (ih _ _)

theorem states_le_addSpans (k : Steps) (next : Nat) (spans : List Span) :
    k.states ≤ (k.addSpans place next spans).states := by
  induction spans generalizing k with
  | nil => exact Nat.le_refl _
  | cons s rest ih => exact Nat.le_trans (states_le_addSpan place k next s) (ih _)

end Steps

/-! ## (3) Characters and sets -/

namespace Automaton

/-- A character is a state for each of its bytes. -/
def readChar (a : Automaton) (c : Char) : Automaton := { a with states := a.states + c.utf8Size }

def readSpans (a : Automaton) (spans : List Span) : Automaton :=
  ⟨((Steps.ofStates (a.states + 2)).addSpans Step.place (a.states + 1) spans).states,
    a.ways + 4 * spans.length⟩

/-- A set, as its ranges. A set of one character is the character. -/
def readRanges (a : Automaton) (ranges : List (Nat × Nat)) : Automaton :=
  match ranges with
  | [(lo, hi)] => if lo = hi then a.readChar (Char.ofNat lo) else several
  | _ => several
where
  several : Automaton :=
    if ranges.all (·.2 < 0x80) then ⟨a.states + 2, a.ways + 8 * ranges.length⟩
    else a.readSpans (ranges.flatMap fun (lo, hi) => spansOf lo hi)

def readClass (a : Automaton) (s : CharClass) : Automaton := a.readRanges s.codes.ranges

def anySpans : List Span :=
  (CodeSet.characters \ CodeSet.single '\n').ranges.flatMap fun (lo, hi) => spansOf lo hi

/-- Any character but the line feed. -/
def readAny (a : Automaton) : Automaton := a.readSpans anySpans

/-- Any run of characters: one of them, and a state that comes back from it or goes on. -/
def readRun (a : Automaton) : Automaton := readAny ⟨a.states + 1, a.ways + 8⟩

/-! Weights -/

theorem weight_le_weight {a b : Automaton} (states : a.states ≤ b.states) (ways : a.ways ≤ b.ways) :
    a.weight ≤ b.weight := by
  unfold weight
  omega

theorem weight_le_readChar (a : Automaton) (c : Char) : a.weight ≤ (a.readChar c).weight :=
  weight_le_weight (Nat.le_add_right _ _) (Nat.le_refl _)

theorem weight_le_readSpans (a : Automaton) (spans : List Span) : a.weight ≤ (a.readSpans spans).weight :=
  weight_le_weight
    (Nat.le_trans (Nat.le_add_right a.states 2)
      (Steps.states_le_addSpans Step.place (Steps.ofStates (a.states + 2)) (a.states + 1) spans))
    (Nat.le_add_right a.ways _)

theorem weight_le_readRanges (a : Automaton) (ranges : List (Nat × Nat)) : a.weight ≤ (a.readRanges ranges).weight := by
  have several : a.weight ≤ (readRanges.several a ranges).weight := by
    unfold readRanges.several
    split
    · exact weight_le_weight (Nat.le_add_right _ _) (Nat.le_add_right _ _)
    · exact weight_le_readSpans a _
  unfold readRanges
  split
  · split
    · exact weight_le_readChar a _
    · exact several
  · exact several

theorem weight_le_readRun (a : Automaton) : a.weight ≤ a.readRun.weight :=
  Nat.le_trans (weight_le_weight (Nat.le_add_right _ _) (Nat.le_add_right _ _)) (weight_le_readSpans _ _)

end Automaton

/-! ## (4) The limit -/

def heaviest : Nat := 10485760

end PathAuthz.Pattern
