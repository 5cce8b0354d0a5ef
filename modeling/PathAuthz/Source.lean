/-
  PathAuthz.Source — a rules text told as events.

  A text is a list of sections, each with its options in order. It is told to a receiver one
  event at a time: a section is opened, its options follow, it is closed. What the sections
  and the options mean is the receiver's business.

  (1) `Reader` is what has to be remembered between two lines: the open section, and the
  option whose value the next lines may still continue. An option is told only when the line
  that ends it is seen, or the text ends.

  (2) `Reader.read` takes one line: the events it gives rise to, and the reader for the next
  line or the fault of this one. Events come before the fault.

  (3) `stream` tells a text to any receiver and stops at the first refusal, the receiver's or
  its own. `trace` is the text told to nobody: all events up to the first fault.
-/

import PathAuthz.Source.Line

namespace PathAuthz.Source

open Text

inductive Event where
  | opened (heading : String)
  | value (heading option value : String)
  | closed (heading : String)
  deriving DecidableEq, Repr

/-! ## (1) Between two lines -/

/-- An option whose value may still be continued, with the line it started on. -/
structure Pending where
  line : Nat
  option : String
  value : String
  deriving DecidableEq, Repr

/-- Join the text of a continuation line to the value. -/
def Pending.extend (p : Pending) (more : List Char) : Pending :=
  if more = [] then p
  else if p.value = "" then { p with value := String.ofList more }
  else { p with value := p.value ++ " " ++ String.ofList more }

structure Reader where
  heading : Option String
  pending : Option Pending
  deriving DecidableEq, Repr

def Reader.start : Reader := ⟨none, none⟩

/-! ## (2) One line -/

/-- What a line, or a part of reading it, gives rise to. -/
structure Step where
  events : List Event
  next : Except LoadError Reader

/-- Go on after a step that found no fault. -/
def Step.andThen (s : Step) (f : Reader → Step) : Step :=
  match s.next with
  | .error _ => s
  | .ok r => ⟨s.events ++ (f r).events, (f r).next⟩

namespace Reader

/-- Tell the pending option. -/
def flush (r : Reader) : Step :=
  match r.pending with
  | none => ⟨[], .ok r⟩
  | some p =>
    match r.heading with
    | none => ⟨[], .error (.malformedLine p.line (.optionOutsideSection p.option))⟩
    | some heading => ⟨[.value heading p.option p.value], .ok { r with pending := none }⟩

/-- Tell that the open section ends. -/
def leave (r : Reader) : List Event :=
  match r.heading with
  | none => []
  | some heading => [.closed heading]

/-- Take a line that continues nothing: a header or an option. -/
def begin (r : Reader) (n : Nat) (body : List Char) : Step :=
  if startsHeader body then
    match readHeader body with
    | .error fault => ⟨[], .error (.malformedLine n fault)⟩
    | .ok heading => ⟨r.leave ++ [.opened heading], .ok ⟨some heading, none⟩⟩
  else
    match readOption body with
    | .error fault => ⟨[], .error (.malformedLine n fault)⟩
    | .ok (option, value) => ⟨[], .ok { r with pending := some ⟨n, option, value⟩ }⟩

/-- Take line number `n`. -/
def read (r : Reader) (n : Nat) (line : List Char) : Step :=
  if isSilent (trim line) then ⟨[], .ok r⟩
  else
    match r.pending with
    | none => r.begin n (trim line)
    | some p =>
      if continues line then ⟨[], .ok { r with pending := some (p.extend (stripComment (trim line))) }⟩
      else r.flush.andThen (·.begin n (trim line))

/-- Take the end of the text. -/
def finish (r : Reader) : Step := r.flush.andThen fun r => ⟨r.leave, .ok .start⟩

end Reader

/-! ## (3) Whole texts -/

/-- A receiver: for each event, its new state and the error if it refuses the event. -/
abbrev Receiver (σ : Type) := σ → Event → σ × Option LoadError

/-- Tell a list of events, stopping at the first refusal. -/
def feed {σ : Type} (receive : Receiver σ) (s : σ) : List Event → σ × Option LoadError
  | [] => (s, none)
  | e :: es =>
    match receive s e with
    | (s', some err) => (s', some err)
    | (s', none) => feed receive s' es

/-- Tell what one step gives rise to, and go on from its reader unless something stops. -/
def tell {σ : Type} (receive : Receiver σ) (s : σ) (step : Step)
    (goOn : σ → Reader → σ × Option LoadError) : σ × Option LoadError :=
  match feed receive s step.events with
  | (s', some err) => (s', some err)
  | (s', none) =>
    match step.next with
    | .error err => (s', some err)
    | .ok r => goOn s' r

/-- Tell the lines from number `n` on. -/
def streamLines {σ : Type} (receive : Receiver σ) (s : σ) (r : Reader) (n : Nat) :
    List (List Char) → σ × Option LoadError
  | [] => tell receive s r.finish fun s' _ => (s', none)
  | line :: rest => tell receive s (r.read n line) fun s' r' => streamLines receive s' r' (n + 1) rest

/-- The lines of a text without their line ends; carriage returns before a line feed belong
    to the line end. -/
def linesOf (text : String) : List (List Char) := (lines text.toList).map (dropTail (· == '\r'))

/-- Tell a text to a receiver. -/
def stream {σ : Type} (receive : Receiver σ) (s : σ) (text : String) : σ × Option LoadError :=
  streamLines receive s .start 1 (linesOf text)

/-- The receiver that keeps every event and refuses none. -/
def record : Receiver (List Event) := fun log e => (log ++ [e], none)

/-- The receiver that keeps `limit` events and answers the next one with `refusal`. -/
def recordUpTo (limit : Nat) (refusal : LoadError) : Receiver (List Event) := fun log e =>
  if log.length = limit then (log, some refusal) else (log ++ [e], none)

/-- All events of the lines from number `n` on, up to the first fault. -/
def traceLines (r : Reader) (n : Nat) : List (List Char) → List Event × Option LoadError
  | [] =>
    match r.finish.next with
    | .error err => (r.finish.events, some err)
    | .ok _ => (r.finish.events, none)
  | line :: rest =>
    match (r.read n line).next with
    | .error err => ((r.read n line).events, some err)
    | .ok r' =>
      let t := traceLines r' (n + 1) rest
      ((r.read n line).events ++ t.1, t.2)

/-- All events of a text up to its first fault. -/
def trace (text : String) : List Event × Option LoadError := traceLines .start 1 (linesOf text)

end PathAuthz.Source
