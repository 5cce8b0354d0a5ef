/-
  PathAuthz.Proofs.Source.Sections — a text is told section by section.

  (1) Telling a text to a receiver is feeding it the text's own trace, up to the first refusal
  or else the first fault (`stream_eq_feed`).

  (2) A `Section` is a heading with its options in order, and `Section.events` how it is told:
  opened, its values, closed. `sections` collects the sections of a text from its trace.

  (3) The trace of a text without a fault is that of its sections and nothing else
  (`trace_eq_flatMap`). Each line is seen to prepend its events to what a reader has still to
  tell (`Step.Prepends`); the run lemma is an induction over the lines.
-/

import PathAuthz.Source

namespace PathAuthz.Source

/-! ## (1) Telling and feeding -/

variable {σ : Type} (receive : Receiver σ)

/-- What a receiver was told, with the fault that ends the text unless it refused something. -/
def endWith (told : σ × Option LoadError) (fault : Option LoadError) : σ × Option LoadError := (told.1, told.2.or fault)

theorem feed_append (s : σ) (es fs : List Event) :
    feed receive s (es ++ fs) =
      match feed receive s es with
      | (s', some err) => (s', some err)
      | (s', none) => feed receive s' fs := by
  induction es generalizing s with
  | nil => rfl
  | cons e es ih =>
    simp only [List.cons_append, feed]
    split
    · rfl
    · exact ih _

theorem streamLines_eq_feed (s : σ) (r : Reader) (n : Nat) (lines : List (List Char)) :
    streamLines receive s r n lines = endWith (feed receive s (traceLines r n lines).1) (traceLines r n lines).2 := by
  induction lines generalizing s r n with
  | nil =>
    simp only [streamLines, tell, traceLines]
    rcases hf : feed receive s r.finish.events with ⟨s', _ | err⟩ <;> rcases hn : r.finish.next with err' | r' <;>
      simp [endWith, hf]
  | cons line rest ih =>
    simp only [streamLines, tell, traceLines]
    rcases hn : (r.read n line).next with err' | r'
    · rcases hf : feed receive s (r.read n line).events with ⟨s', _ | err⟩ <;> simp [endWith]
    · rw [feed_append]
      rcases hf : feed receive s (r.read n line).events with ⟨s', _ | err⟩
      · simp only [ih]
      · simp [endWith]

theorem stream_eq_feed (s : σ) (text : String) :
    stream receive s text = endWith (feed receive s (trace text).1) (trace text).2 :=
  streamLines_eq_feed receive s .start 1 (linesOf text)

/-- A text that is told to the end has no fault, and the receiver took its whole trace. -/
theorem feed_of_stream {s s' : σ} {text : String} (h : stream receive s text = (s', none)) :
    feed receive s (trace text).1 = (s', none) ∧ (trace text).2 = none := by
  rw [stream_eq_feed] at h
  rcases hf : feed receive s (trace text).1 with ⟨t, _ | err⟩ <;> simp_all [endWith]

/-! ## (2) Sections -/

structure Section where
  heading : String
  /-- The names and the values of the options. -/
  options : List (String × String)
  deriving DecidableEq, Repr

def Section.events (s : Section) : List Event :=
  .opened s.heading :: ((s.options.map fun o => .value s.heading o.1 o.2) ++ [.closed s.heading])

/-- The values told before anything else. -/
def optionsOf : List Event → List (String × String)
  | .value _ option value :: es => (option, value) :: optionsOf es
  | _ => []

def sectionsOf : List Event → List Section
  | [] => []
  | .opened heading :: es => ⟨heading, optionsOf es⟩ :: sectionsOf es
  | _ :: es => sectionsOf es

/-- The sections of a text, up to its first fault. -/
def sections (text : String) : List Section := sectionsOf (trace text).1

theorem optionsOf_append_closed (heading : String) (options : List (String × String)) (es : List Event) :
    optionsOf ((options.map fun o => .value heading o.1 o.2) ++ .closed heading :: es) = options := by
  induction options with
  | nil => rfl
  | cons o options ih => simp [optionsOf, ih]

theorem sectionsOf_values_append (heading : String) (options : List (String × String)) (es : List Event) :
    sectionsOf ((options.map fun o => .value heading o.1 o.2) ++ es) = sectionsOf es := by
  induction options with
  | nil => rfl
  | cons o options ih => simp [sectionsOf, ih]

theorem sectionsOf_flatMap_events (ss : List Section) : sectionsOf (ss.flatMap Section.events) = ss := by
  induction ss with
  | nil => rfl
  | cons s ss ih =>
    simp only [List.flatMap_cons, Section.events, List.cons_append, List.append_assoc, List.nil_append, sectionsOf,
      optionsOf_append_closed, sectionsOf_values_append, ih]

/-! ## (3) Whole sections -/

/-- What has still to be told under an open section, or under none: the rest of that section,
    and then sections. -/
def Continues : Option String → List Event → Prop
  | none, es => ∃ ss : List Section, es = ss.flatMap Section.events
  | some heading, es => ∃ (options : List (String × String)) (ss : List Section),
      es = (options.map fun o => .value heading o.1 o.2) ++ .closed heading :: ss.flatMap Section.events

/-- A step under `heading` tells the front of what has still to be told. -/
def Step.Prepends (s : Step) (heading : Option String) : Prop :=
  ∀ r', s.next = .ok r' → ∀ es, Continues r'.heading es → Continues heading (s.events ++ es)

theorem continues_value {heading : String} {es : List Event} (option value : String) (h : Continues (some heading) es) :
    Continues (some heading) (.value heading option value :: es) := by
  obtain ⟨options, ss, rfl⟩ := h
  exact ⟨(option, value) :: options, ss, rfl⟩

theorem continues_opened {heading : String} {es : List Event} (h : Continues (some heading) es) :
    Continues none (.opened heading :: es) := by
  obtain ⟨options, ss, rfl⟩ := h
  exact ⟨⟨heading, options⟩ :: ss, by simp [Section.events]⟩

theorem continues_leave {r : Reader} {es : List Event} (h : Continues none es) : Continues r.heading (r.leave ++ es) := by
  obtain ⟨ss, rfl⟩ := h
  unfold Reader.leave
  rcases r.heading with _ | heading
  · exact ⟨ss, rfl⟩
  · exact ⟨[], ss, rfl⟩

theorem flush_prepends (r : Reader) : r.flush.Prepends r.heading := by
  unfold Reader.flush
  split
  · intro r' hr' es hes; cases hr'; exact hes
  · split
    · intro r' hr'; cases hr'
    · rename_i heading hh
      intro r' hr' es hes
      cases hr'
      rw [hh]
      exact continues_value _ _ (hh ▸ hes)

theorem begin_prepends (r : Reader) (n : Nat) (body : List Char) : (r.begin n body).Prepends r.heading := by
  unfold Reader.begin
  split
  · split
    · intro r' hr'; cases hr'
    · intro r' hr' es hes
      cases hr'
      simp only [List.append_assoc, List.singleton_append]
      exact continues_leave (continues_opened hes)
  · split
    · intro r' hr'; cases hr'
    · intro r' hr' es hes; cases hr'; exact hes

theorem andThen_prepends {s : Step} {f : Reader → Step} {heading : Option String} (hs : s.Prepends heading)
    (hf : ∀ r, s.next = .ok r → (f r).Prepends r.heading) : (s.andThen f).Prepends heading := by
  intro r' hr' es hes
  unfold Step.andThen at hr' ⊢
  split at hr'
  · rename_i hn; rw [hn] at hr'; cases hr'
  · rename_i r hn
    simp only [List.append_assoc]
    exact hs r hn _ (hf r hn r' hr' es hes)

theorem read_prepends (r : Reader) (n : Nat) (line : List Char) : (r.read n line).Prepends r.heading := by
  unfold Reader.read
  split
  · intro r' hr' es hes; cases hr'; exact hes
  · split
    · exact begin_prepends r n _
    · split
      · intro r' hr' es hes; cases hr'; exact hes
      · exact andThen_prepends (flush_prepends r) fun _ _ => begin_prepends _ n _

theorem finish_prepends (r : Reader) : r.finish.Prepends r.heading :=
  andThen_prepends (flush_prepends r) fun r' _ _ hr' _ hes => by
    cases hr'; exact continues_leave hes

theorem traceLines_continues {r : Reader} {n : Nat} {lines : List (List Char)} (h : (traceLines r n lines).2 = none) :
    Continues r.heading (traceLines r n lines).1 := by
  induction lines generalizing r n with
  | nil =>
    simp only [traceLines] at h ⊢
    split at h
    · cases h
    · rename_i r' hn
      have hr' : r'.heading = none := by
        unfold Reader.finish Step.andThen at hn
        split at hn
        · rename_i hf; rw [hf] at hn; cases hn
        · cases hn; rfl
      simpa using finish_prepends r r' hn [] (by rw [hr']; exact ⟨[], rfl⟩)
  | cons line rest ih =>
    simp only [traceLines] at h ⊢
    split at h
    · cases h
    · rename_i r' hn
      exact read_prepends r n line r' hn _ (ih h)

theorem trace_eq_flatMap {text : String} (h : (trace text).2 = none) :
    (trace text).1 = (sections text).flatMap Section.events := by
  obtain ⟨ss, hss⟩ := traceLines_continues h
  have hss : (trace text).1 = ss.flatMap Section.events := hss
  rw [sections, hss, sectionsOf_flatMap_events]

end PathAuthz.Source
