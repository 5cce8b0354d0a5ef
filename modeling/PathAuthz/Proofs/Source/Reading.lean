/-
  PathAuthz.Proofs.Source.Reading — lines read in a row.

  (1) Steps go on one after the other (`andThen_assoc`).

  (2) A line that is not indented ends what stands above it (`read_of_not_indented`).
  `Reader.readAll` reads some lines in a row. Lines put together are read one part after the
  other (`readAll_append`).

  (3) Blanks behind a line mean nothing (`read_append_blank`).

  (4) The trace of a text is the trace of its lines, with or without the carriage returns of
  their line ends (`trace_eq_traceLines`). What stands above a line matters to the lines below
  through the reader it leaves them (`traceLines_append`). The trace decides what every
  receiver is told (`stream_congr`), and the receiver that refuses nothing keeps it
  (`stream_record`).
-/

import PathAuthz.Proofs.Source.Sections
import PathAuthz.Proofs.Text.Edges

namespace PathAuthz.Source

open Text

/-! ## (1) Steps in a row -/

theorem andThen_ok {s : Step} {r : Reader} (h : s.next = .ok r) (f : Reader → Step) :
    s.andThen f = ⟨s.events ++ (f r).events, (f r).next⟩ := by
  simp only [Step.andThen, h]

theorem andThen_error {s : Step} {err : LoadError} (h : s.next = .error err) (f : Reader → Step) : s.andThen f = s := by
  simp only [Step.andThen, h]

/-- A step that tells nothing leaves it to the next one. -/
@[simp] theorem silent_andThen (r : Reader) (f : Reader → Step) : Step.andThen ⟨[], .ok r⟩ f = f r := rfl

theorem andThen_assoc (s : Step) (f g : Reader → Step) :
    (s.andThen f).andThen g = s.andThen fun r => (f r).andThen g := by
  rcases hs : s.next with err | r
  · rw [andThen_error hs, andThen_error hs, andThen_error hs]
  · rw [andThen_ok hs, andThen_ok hs]
    rcases hf : (f r).next with err | r'
    · rw [andThen_error hf, andThen_error rfl, hf]
    · rw [andThen_ok hf, andThen_ok rfl, List.append_assoc]

/-- A run of two steps without a fault is two runs without one. -/
theorem next_of_andThen {s : Step} {f : Reader → Step} {r' : Reader} (h : (s.andThen f).next = .ok r') :
    ∃ r, s.next = .ok r ∧ (f r).next = .ok r' := by
  rcases hs : s.next with err | r
  · rw [andThen_error hs, hs] at h
    cases h
  · rw [andThen_ok hs] at h
    exact ⟨r, rfl, h⟩

/-! ## (2) Lines in a row -/

/-- A line that does not start with a blank ends the value above it. -/
theorem read_of_not_indented (r : Reader) (n : Nat) {line : List Char} (hloud : isSilent (trim line) = false)
    (h : isIndented line = false) : r.read n line = r.flush.andThen (·.begin n (trim line)) := by
  have hc : continues line = false := by rw [continues, h, Bool.false_and]
  rw [Reader.read, hloud, Reader.flush]
  rcases hp : r.pending with _ | p
  · rfl
  · simp only [hc, Bool.false_eq_true, if_false]

/-- Read lines from number `n` on. -/
def Reader.readAll (r : Reader) (n : Nat) : List (List Char) → Step
  | [] => ⟨[], .ok r⟩
  | line :: rest => (r.read n line).andThen fun r' => r'.readAll (n + 1) rest

theorem readAll_append (r : Reader) (n : Nat) (above below : List (List Char)) :
    r.readAll n (above ++ below) = (r.readAll n above).andThen fun r' => r'.readAll (n + above.length) below := by
  induction above generalizing r n with
  | nil => rfl
  | cons line rest ih =>
    simp only [List.cons_append, Reader.readAll, andThen_assoc, ih, List.length_cons, Nat.add_assoc, Nat.add_comm 1]

/-! ## (3) Blanks behind a line -/

theorem isSeparator_of_isBlank {c : Char} (h : isBlank c = true) : isSeparator c = false := by
  by_contra hc
  rw [Bool.not_eq_false, isSeparator, Bool.or_eq_true, beq_iff_eq, beq_iff_eq] at hc
  rcases hc with rfl | rfl <;> exact absurd h (by decide)

theorem startsOption_append_of_not {s : List Char} (h : ∀ c ∈ s, isSeparator c = false) (t : List Char) :
    startsOption (s ++ t) = startsOption t := by
  rw [startsOption, startsOption, cut_append_of_not h]
  rcases cut isSeparator t with _ | ⟨a, d, b⟩ <;> rfl

theorem startsOption_append_of_cut {s a b : List Char} {d : Char} (h : cut isSeparator s = some (a, d, b))
    (t : List Char) : startsOption (s ++ t) = startsOption s := by
  rw [startsOption, startsOption, cut_append_of_some h, h]

theorem startsOption_append_not (s : List Char) {t : List Char} (h : ∀ c ∈ t, isSeparator c = false) :
    startsOption (s ++ t) = startsOption s := by
  rcases hs : cut isSeparator s with _ | ⟨a, d, b⟩
  · rw [startsOption_append_of_not (cut_eq_none_iff.1 hs), startsOption, startsOption, hs, cut_eq_none_iff.2 h]
  · exact startsOption_append_of_cut hs t

@[simp] theorem startsOption_trim (s : List Char) : startsOption (trim s) = startsOption s := by
  obtain ⟨lead, trail, hs, hlead, htrail⟩ := exists_trim_append s
  conv => rhs; rw [hs]
  rw [List.append_assoc, startsOption_append_of_not fun c hc => isSeparator_of_isBlank (hlead c hc),
    startsOption_append_not _ fun c hc => isSeparator_of_isBlank (htrail c hc)]

theorem isIndented_append {s : List Char} (h : s ≠ []) (t : List Char) : isIndented (s ++ t) = isIndented s := by
  rcases s with _ | ⟨c, cs⟩
  · exact absurd rfl h
  · rfl

theorem ne_nil_of_loud {line : List Char} (h : isSilent (trim line) = false) : line ≠ [] := by
  rintro rfl
  exact absurd h (by decide)

theorem read_append_blank (r : Reader) (n : Nat) (line : List Char) {blanks : List Char}
    (h : ∀ c ∈ blanks, isBlank c = true) : r.read n (line ++ blanks) = r.read n line := by
  rw [Reader.read, Reader.read, trim_append_blank line h]
  rcases hs : isSilent (trim line) with _ | _
  · have hc : continues (line ++ blanks) = continues line := by
      rw [continues, continues, trim_append_blank line h, isIndented_append (ne_nil_of_loud hs)]
    rw [hc]
  · rfl

/-! ## (4) Traces -/

/-- What a step tells, and its fault if it has one. -/
def Step.told (s : Step) : List Event × Option LoadError :=
  match s.next with
  | .error err => (s.events, some err)
  | .ok _ => (s.events, none)

theorem told_ok {s : Step} : s.told.2 = none ↔ ∃ r, s.next = .ok r := by
  unfold Step.told
  rcases s.next with err | r <;> simp

theorem told_andThen {s : Step} {r : Reader} (h : s.next = .ok r) (f : Reader → Step) :
    (s.andThen f).told = (s.events ++ (f r).told.1, (f r).told.2) := by
  rw [andThen_ok h]
  unfold Step.told
  rcases (f r).next with err | r' <;> rfl

theorem traceLines_eq_told (r : Reader) (n : Nat) (lines : List (List Char)) :
    traceLines r n lines = ((r.readAll n lines).andThen (·.finish)).told := by
  induction lines generalizing r n with
  | nil => rfl
  | cons line rest ih =>
    rw [traceLines, Reader.readAll, andThen_assoc]
    rcases hl : (r.read n line).next with err | r'
    · rw [andThen_error hl]
      simp only [Step.told, hl]
    · rw [told_andThen hl, ← ih]

theorem readAll_dropTail (r : Reader) (n : Nat) (lines : List (List Char)) :
    r.readAll n (lines.map (dropTail (· == '\r'))) = r.readAll n lines := by
  induction lines generalizing r n with
  | nil => rfl
  | cons line rest ih =>
    obtain ⟨returns, hline, hreturns⟩ := exists_dropTail_append (· == '\r') line
    have hread : r.read n (dropTail (· == '\r') line) = r.read n line := by
      conv => rhs; rw [hline]
      exact (read_append_blank r n _ fun c hc => by rw [beq_iff_eq.1 (hreturns c hc)]; decide).symm
    simp only [List.map_cons, Reader.readAll, hread, ih]

/-- Carriage returns before a line feed need not be dropped. -/
theorem trace_eq_traceLines (text : String) : trace text = traceLines .start 1 (lines text.toList) := by
  rw [trace, linesOf, traceLines_eq_told, readAll_dropTail, ← traceLines_eq_told]

theorem trace_eq_told (text : String) :
    trace text = ((Reader.start.readAll 1 (lines text.toList)).andThen (·.finish)).told := by
  rw [trace_eq_traceLines, traceLines_eq_told]

theorem traceLines_append {r r' : Reader} {n : Nat} {above : List (List Char)} (h : (r.readAll n above).next = .ok r')
    (below : List (List Char)) :
    traceLines r n (above ++ below) =
      ((r.readAll n above).events ++ (traceLines r' (n + above.length) below).1,
        (traceLines r' (n + above.length) below).2) := by
  rw [traceLines_eq_told, readAll_append, andThen_assoc, told_andThen h, traceLines_eq_told]

/-- The lines above a line of a text without a fault have none. -/
theorem readAll_of_traceLines {r : Reader} {n : Nat} {above below : List (List Char)}
    (h : (traceLines r n (above ++ below)).2 = none) : ∃ r', (r.readAll n above).next = .ok r' := by
  rw [traceLines_eq_told, told_ok, readAll_append, andThen_assoc] at h
  obtain ⟨_, h⟩ := h
  obtain ⟨r', hr', -⟩ := next_of_andThen h
  exact ⟨r', hr'⟩

theorem traceLines_congr {r : Reader} {n : Nat} {line line' : List Char} (h : r.read n line = r.read n line')
    (rest : List (List Char)) : traceLines r n (line :: rest) = traceLines r n (line' :: rest) := by
  simp only [traceLines, h]

/-- The receivers of two texts with one trace are told the same. -/
theorem stream_congr {text text' : String} (h : trace text = trace text') {σ : Type} (receive : Receiver σ) (s : σ) :
    stream receive s text = stream receive s text' := by
  rw [stream_eq_feed, stream_eq_feed, h]

theorem feed_record (log es : List Event) : feed record log es = (log ++ es, none) := by
  induction es generalizing log with
  | nil => rw [feed, List.append_nil]
  | cons e es ih => simp only [feed, record, ih, List.append_assoc, List.singleton_append]

theorem stream_record (text : String) : stream record [] text = trace text := by
  rw [stream_eq_feed, feed_record]
  rfl

/-- A text without a fault is told as its trace. -/
theorem stream_of_trace {text : String} {es : List Event} (h : trace text = (es, none)) {σ : Type}
    (receive : Receiver σ) (s : σ) : stream receive s text = feed receive s es := by
  rw [stream_eq_feed, h]
  rcases feed receive s es with ⟨s', _ | err⟩ <;> rfl

end PathAuthz.Source
