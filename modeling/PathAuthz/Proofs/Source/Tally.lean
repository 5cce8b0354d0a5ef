/-
  PathAuthz.Proofs.Source.Tally — how many events lines give rise to.

  (1) A reader owes events for what it has read: the open section is still to be closed, the
  pending option still to be told (`Reader.owed`). `tally` counts what lines add to that, by
  looking at each line alone and at whether a value may be continued.

  (2) A step without a fault pays or promises exactly what its line adds (`owed_read`); so a
  text without a fault is told in as many events as its lines add up to (`length_traceLines`).

  (3) While a value may be continued, fewer lines begin something (`tally_true_le`).
-/

import PathAuthz.Proofs.Source.Reading

namespace PathAuthz.Source

open Text

/-! ## (1) Counting -/

/-- How many events a reader still owes for what it has read. -/
def Reader.owed (r : Reader) : Nat := r.heading.toList.length + r.pending.toList.length

/-- How many events lines give rise to; `pending` says whether a value may be continued. A
    header is worth two, as its section is closed in the end. -/
def tally (pending : Bool) : List (List Char) → Nat
  | [] => 0
  | line :: rest =>
    if isSilent (trim line) then tally pending rest
    else if pending && continues line then tally true rest
    else if startsHeader (trim line) then 2 + tally false rest
    else 1 + tally true rest

/-! ## (2) Steps and runs -/

theorem owed_begin {r r' : Reader} {n : Nat} {body : List Char} (hp : r.pending = none)
    (h : (r.begin n body).next = .ok r') :
    (r.begin n body).events.length + r'.owed = r.owed + (if startsHeader body then 2 else 1) ∧
      r'.pending.isSome = !startsHeader body := by
  rw [Reader.begin] at h ⊢
  by_cases hhead : startsHeader body = true
  · rw [if_pos hhead] at h
    simp only [hhead, if_true]
    rcases hread : readHeader body with fault | heading
    · simp [hread] at h
    · simp only [hread, Except.ok.injEq] at h
      subst h
      unfold Reader.leave Reader.owed
      rcases r.heading with _ | old <;> simp [hp]
  · rw [if_neg hhead] at h
    simp only [hhead]
    rcases hread : readOption body with fault | option
    · simp [hread] at h
    · simp only [hread, Except.ok.injEq] at h
      subst h
      simp [Reader.owed, hp]

theorem owed_flush {r r' : Reader} (h : r.flush.next = .ok r') :
    r.flush.events.length + r'.owed = r.owed ∧ r'.pending = none := by
  rw [Reader.flush] at h ⊢
  rcases hp : r.pending with _ | p
  · simp only [hp, Except.ok.injEq] at h
    subst h
    simp [hp]
  · rcases hh : r.heading with _ | heading
    · simp [hp, hh] at h
    · simp only [hp, hh, Except.ok.injEq] at h
      subst h
      simp [Reader.owed, hp, hh]

theorem owed_finish {r r' : Reader} (h : r.finish.next = .ok r') : r.finish.events.length = r.owed := by
  rw [Reader.finish] at h ⊢
  obtain ⟨r₁, hflush, -⟩ := next_of_andThen h
  obtain ⟨hcount, hnone⟩ := owed_flush hflush
  rw [andThen_ok hflush, List.length_append, ← hcount]
  unfold Reader.leave Reader.owed
  rcases r₁.heading with _ | heading <;> simp [hnone]

theorem owed_read {r r' : Reader} {n : Nat} {line : List Char} (h : (r.read n line).next = .ok r')
    (rest : List (List Char)) :
    (r.read n line).events.length + r'.owed + tally r'.pending.isSome rest =
      r.owed + tally r.pending.isSome (line :: rest) := by
  rw [Reader.read] at h ⊢
  rw [tally]
  by_cases hs : isSilent (trim line) = true
  · simp only [hs, if_true, Except.ok.injEq] at h ⊢
    subst h
    simp
  -- A line that says something begins what it says unless it continues a value.
  have hbegin : ∀ {r₁ r₂ : Reader}, r₁.pending = none → (r₁.begin n (trim line)).next = .ok r₂ →
      (r₁.begin n (trim line)).events.length + r₂.owed + tally r₂.pending.isSome rest =
        r₁.owed + (if startsHeader (trim line) then 2 + tally false rest else 1 + tally true rest) := by
    intro r₁ r₂ hp hr₂
    obtain ⟨hcount, hsome⟩ := owed_begin hp hr₂
    rw [hcount, hsome]
    by_cases hhead : startsHeader (trim line) = true
    · simp only [hhead, Bool.not_true, if_true]
      omega
    · simp only [hhead, Bool.not_false, Bool.false_eq_true, if_false]
      omega
  rw [if_neg hs] at h ⊢
  rw [if_neg hs]
  rcases hp : r.pending with _ | p
  · simp only [hp, Option.isSome_none, Bool.false_and, Bool.false_eq_true, if_false] at h ⊢
    exact hbegin hp h
  · simp only [hp, Option.isSome_some, Bool.true_and] at h ⊢
    by_cases hc : continues line = true
    · simp only [hc, if_true, Except.ok.injEq] at h ⊢
      subst h
      simp [Reader.owed, hp]
    · rw [if_neg hc] at h ⊢
      rw [if_neg hc]
      obtain ⟨r₁, hflush, hr'⟩ := next_of_andThen h
      obtain ⟨hcount, hnone⟩ := owed_flush hflush
      have := hbegin hnone hr'
      rw [andThen_ok hflush, List.length_append]
      omega

theorem length_traceLines {r : Reader} {n : Nat} {lines : List (List Char)} (h : (traceLines r n lines).2 = none) :
    (traceLines r n lines).1.length = r.owed + tally r.pending.isSome lines := by
  induction lines generalizing r n with
  | nil =>
    rw [traceLines] at h ⊢
    rcases hn : r.finish.next with err | r'
    · simp [hn] at h
    · simp only [tally, Nat.add_zero]
      exact owed_finish hn
  | cons line rest ih =>
    rw [traceLines] at h ⊢
    rcases hn : (r.read n line).next with err | r'
    · simp [hn] at h
    · simp only [hn] at h ⊢
      rw [List.length_append, ih h, ← owed_read hn rest, Nat.add_assoc]

/-! ## (3) Pending values -/

theorem tally_true_le (lines : List (List Char)) : tally true lines ≤ tally false lines := by
  induction lines with
  | nil => exact Nat.le_refl _
  | cons line rest ih =>
    rw [tally, tally]
    split
    · exact ih
    · simp only [Bool.true_and, Bool.false_and, Bool.false_eq_true, if_false]
      split <;> split <;> omega

end PathAuthz.Source
