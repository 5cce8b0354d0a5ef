/-
  PathAuthz.Proofs.Source.Numbering — the numbers of lines, which only faults tell.

  (1) `renumber` gives every line another number. A reader keeps the number of the line its
  pending option started on, and a step passes it on.

  (2) Nothing else depends on a number: reading a renumbered line from a renumbered reader is the
  renumbered step (`Reader.read_renumber`), and so is ending the text (`Reader.finish_renumber`).
-/

import PathAuthz.Proofs.Source.Reading

namespace PathAuthz

/-! ## (1) Other numbers -/

/-- The same fault with another line number. -/
def LoadError.renumber (number : Nat → Nat) : LoadError → LoadError
  | .malformedLine line fault => .malformedLine (number line) fault
  | err => err

namespace Source

open Text

variable (number : Nat → Nat)

def Pending.renumber (p : Pending) : Pending := { p with line := number p.line }

def Reader.renumber (r : Reader) : Reader := { r with pending := r.pending.map (·.renumber number) }

def Step.renumber (s : Step) : Step :=
  ⟨s.events,
    match s.next with
    | .error err => .error (err.renumber number)
    | .ok r => .ok (r.renumber number)⟩

/-! ## (2) Steps with other numbers -/

theorem andThen_renumber {number : Nat → Nat} {f g : Reader → Step}
    (h : ∀ r : Reader, f (r.renumber number) = (g r).renumber number)
    (s : Step) : (s.renumber number).andThen f = (s.andThen g).renumber number := by
  obtain ⟨events, next⟩ := s
  cases next with
  | error err => rfl
  | ok r => simp only [Step.renumber, Step.andThen, h]

theorem told_renumber (s : Step) : (s.renumber number).told = (s.told.1, s.told.2.map (·.renumber number)) := by
  obtain ⟨events, next⟩ := s
  cases next <;> rfl

namespace Reader

theorem flush_renumber (r : Reader) : (r.renumber number).flush = r.flush.renumber number := by
  obtain ⟨heading, pending⟩ := r
  cases pending with
  | none => rfl
  | some p => cases heading <;> rfl

theorem begin_renumber (r : Reader) (n : Nat) (body : List Char) :
    (r.renumber number).begin (number n) body = (r.begin n body).renumber number := by
  unfold begin
  split
  · cases readHeader body <;> rfl
  · cases readOption body <;> rfl

theorem finish_renumber (r : Reader) : (r.renumber number).finish = r.finish.renumber number := by
  rw [finish, finish, flush_renumber]
  exact andThen_renumber (fun _ => rfl) _

theorem extend_renumber (p : Pending) (more : List Char) :
    (p.renumber number).extend more = (p.extend more).renumber number := by
  unfold Pending.extend Pending.renumber
  split
  · rfl
  · dsimp only
    split <;> rfl

theorem read_renumber (r : Reader) (n : Nat) (line : List Char) :
    (r.renumber number).read (number n) line = (r.read n line).renumber number := by
  obtain ⟨heading, pending⟩ := r
  unfold read
  split
  · rfl
  · cases pending with
    | none => exact begin_renumber number ⟨heading, none⟩ n (trim line)
    | some p =>
      simp only [renumber, Option.map_some, extend_renumber]
      split
      · rfl
      · rw [← andThen_renumber (f := (·.begin (number n) (trim line))) fun r' =>
            begin_renumber number r' n (trim line),
          ← flush_renumber]
        rfl

end Reader

end Source

end PathAuthz
