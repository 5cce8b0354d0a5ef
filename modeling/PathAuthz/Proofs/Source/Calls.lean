/-
  PathAuthz.Proofs.Source.Calls — the calls that telling a text comes to.

  (1) A `Call` is an event with the answer of the receiver. `logged` keeps the calls made to a
  receiver and is that receiver in all else (`stream_logged`); `calls` reads them off a text
  told to it.

  (2) `callsOf` makes the calls for a list of events. Either all events are taken, or the last
  call is refused and no other one is (`callsOf_cases`). Only what has been told can be told
  (`calls_eq`).

  (3) A fault may come anywhere in a section. A step tells the front of what may still follow,
  whether it finds a fault or not (`Step.Fits`), so the trace of any text is the front of whole
  sections (`trace_prefix`).

  (4) Together: a receiver is called with sections, one after the other, up to its first refusal
  or the first fault of the text (`stream_protocol`).
-/

import PathAuthz.Proofs.Source.Reading

namespace PathAuthz.Source

/-! ## (1) Calls -/

/-- An event told to a receiver, with the error if it was refused. -/
structure Call where
  event : Event
  refusal : Option LoadError
  deriving DecidableEq, Repr

def Call.taken (e : Event) : Call := ⟨e, none⟩

variable {σ : Type} (receive : Receiver σ)

/-- A receiver that also keeps the calls made to it. -/
def logged : Receiver (List Call × σ) := fun s e =>
  ((s.1 ++ [⟨e, (receive s.2 e).2⟩], (receive s.2 e).1), (receive s.2 e).2)

/-- The calls made to a receiver while a text is told to it. -/
def calls (s : σ) (text : String) : List Call := (stream (logged receive) ([], s) text).1.1

/-! ## (2) Calls for a list of events -/

/-- The calls made while events are told, up to the first one that is refused. -/
def callsOf (s : σ) : List Event → List Call
  | [] => []
  | e :: es =>
    match receive s e with
    | (_, some err) => [⟨e, some err⟩]
    | (s', none) => Call.taken e :: callsOf s' es

theorem feed_logged (log : List Call) (s : σ) (es : List Event) :
    feed (logged receive) (log, s) es =
      ((log ++ callsOf receive s es, (feed receive s es).1), (feed receive s es).2) := by
  induction es generalizing log s with
  | nil => simp [feed, callsOf]
  | cons e es ih =>
    rcases hr : receive s e with ⟨s', _ | err⟩
    · simp [feed, callsOf, logged, Call.taken, hr, ih]
    · simp [feed, callsOf, logged, hr]

/-- Keeping the calls changes neither the receiver nor the outcome. -/
theorem stream_logged (s : σ) (text : String) :
    stream (logged receive) ([], s) text =
      ((callsOf receive s (trace text).1, (stream receive s text).1), (stream receive s text).2) := by
  rw [stream_eq_feed, feed_logged, stream_eq_feed, List.nil_append]
  rfl

theorem calls_eq (s : σ) (text : String) : calls receive s text = callsOf receive s (trace text).1 := by
  rw [calls, stream_logged]

theorem callsOf_cases (s : σ) (es : List Event) :
    ((feed receive s es).2 = none ∧ callsOf receive s es = es.map Call.taken) ∨
      ∃ before e after err, es = before ++ e :: after ∧ (feed receive s es).2 = some err ∧
        callsOf receive s es = before.map Call.taken ++ [⟨e, some err⟩] := by
  induction es generalizing s with
  | nil => exact Or.inl ⟨rfl, rfl⟩
  | cons e es ih =>
    rw [feed, callsOf]
    rcases receive s e with ⟨s', _ | err⟩
    · rcases ih s' with ⟨hfeed, hcalls⟩ | ⟨before, f, after, err, rfl, hfeed, hcalls⟩
      · exact Or.inl ⟨hfeed, congrArg (_ :: ·) hcalls⟩
      · exact Or.inr ⟨e :: before, f, after, err, rfl, hfeed, congrArg (_ :: ·) hcalls⟩
    · exact Or.inr ⟨[], e, es, err, rfl, rfl, rfl⟩

theorem map_event_taken (es : List Event) : (es.map Call.taken).map (·.event) = es := by
  rw [List.map_map]
  exact List.map_id es

theorem events_callsOf_prefix (s : σ) (es : List Event) : (callsOf receive s es).map (·.event) <+: es := by
  rcases callsOf_cases receive s es with ⟨-, hcalls⟩ | ⟨before, e, after, err, rfl, -, hcalls⟩
  · exact ⟨[], by rw [hcalls, map_event_taken, List.append_nil]⟩
  · rw [hcalls, List.map_append, map_event_taken]
    exact ⟨after, by simp⟩

theorem callsOf_append (s : σ) (es fs : List Event) :
    callsOf receive s (es ++ fs) =
      match feed receive s es with
      | (_, some _) => callsOf receive s es
      | (s', none) => callsOf receive s es ++ callsOf receive s' fs := by
  induction es generalizing s with
  | nil => rfl
  | cons e es ih =>
    rw [List.cons_append, callsOf, callsOf, feed]
    rcases receive s e with ⟨s', _ | err⟩
    · simp only [ih]
      split <;> rfl
    · rfl

/-- Whether a call was refused is told by the outcome. -/
theorem any_refusal_callsOf (s : σ) (es : List Event) :
    (callsOf receive s es).any (·.refusal.isSome) = (feed receive s es).2.isSome := by
  rcases callsOf_cases receive s es with ⟨hfeed, hcalls⟩ | ⟨before, e, after, err, -, hfeed, hcalls⟩
  · simp [hfeed, hcalls, Call.taken]
  · simp [hfeed, hcalls]

variable {receive}

/-- What a receiver takes is what it is told. -/
theorem callsOf_of_taken {s : σ} {es : List Event} (h : (feed receive s es).2 = none) :
    callsOf receive s es = es.map Call.taken := by
  rcases callsOf_cases receive s es with ⟨-, hcalls⟩ | ⟨before, e, after, err, -, hfeed, -⟩
  · exact hcalls
  · rw [h] at hfeed
    cases hfeed

/-- A receiver is called when it has taken the events of the calls before, and answers from there. -/
theorem feed_of_callsOf {s : σ} {es : List Event} {before after : List Call} {c : Call}
    (h : callsOf receive s es = before ++ c :: after) :
    ∃ s' rest, es = before.map (·.event) ++ c.event :: rest ∧ feed receive s (before.map (·.event)) = (s', none) ∧
      (receive s' c.event).2 = c.refusal := by
  induction before generalizing s es with
  | nil =>
    cases es with
    | nil => cases h
    | cons e es =>
      have hfirst : c = ⟨e, (receive s e).2⟩ := by
        rw [callsOf] at h
        rcases hr : receive s e with ⟨s', _ | err⟩ <;> rw [hr] at h <;> cases h <;> rfl
      subst hfirst
      exact ⟨s, es, rfl, rfl, rfl⟩
  | cons b before ih =>
    cases es with
    | nil => cases h
    | cons e es =>
      rw [callsOf] at h
      rcases hr : receive s e with ⟨s', _ | err⟩ <;> rw [hr] at h
      · obtain ⟨hb, h⟩ := List.cons_eq_cons.mp h
        obtain ⟨t, rest, hes, hfeed, hlast⟩ := ih h
        subst hb
        refine ⟨t, rest, ?_, ?_, hlast⟩
        · rw [hes]; rfl
        · rw [List.map_cons, feed]
          simp only [Call.taken, hr, hfeed]
      · exact absurd (List.cons_eq_cons.mp h).2 (by simp)

/-- A refused call is the last one, and its error is the outcome. -/
theorem refused_last {s : σ} {es : List Event} {before after : List Call} {c : Call} {err : LoadError}
    (h : callsOf receive s es = before ++ c :: after) (hc : c.refusal = some err) :
    after = [] ∧ (feed receive s es).2 = some err := by
  have hnot : ∀ es : List Event, c ∉ es.map Call.taken := by
    intro es hmem
    obtain ⟨e, -, rfl⟩ := List.mem_map.mp hmem
    cases hc
  rcases callsOf_cases receive s es with ⟨-, hcalls⟩ | ⟨taken, e, rest, err', -, hfeed, hcalls⟩
  · exact absurd (by rw [← hcalls, h]; simp) (hnot es)
  · rw [hcalls] at h
    rcases List.eq_nil_or_concat after with rfl | ⟨init, last, rfl⟩
    · obtain ⟨-, hlast⟩ := List.append_inj' h rfl
      cases hlast
      cases hc
      exact ⟨rfl, hfeed⟩
    · -- Then `c` stands before the last call.
      have h : taken.map Call.taken ++ [⟨e, some err'⟩] = (before ++ c :: init) ++ [last] := by simpa using h
      obtain ⟨htaken, -⟩ := List.append_inj' h rfl
      exact absurd (by rw [htaken]; simp) (hnot taken)

theorem feed_of_accepting (h : ∀ s e, (receive s e).2 = none) (s : σ) (es : List Event) :
    (feed receive s es).2 = none := by
  induction es generalizing s with
  | nil => rfl
  | cons e es ih =>
    have he := h s e
    rw [feed]
    rcases hr : receive s e with ⟨s', _ | err⟩
    · exact ih s'
    · rw [hr] at he
      cases he

/-! ## (3) Texts with a fault -/

/-- What a step tells under `heading` is the front of what may still be told. -/
def Step.Fits (s : Step) (heading : Option String) : Prop := ∃ es, Continues heading (s.events ++ es)

theorem exists_continues (heading : Option String) : ∃ es, Continues heading es := by
  rcases heading with _ | heading
  · exact ⟨[], [], rfl⟩
  · exact ⟨[.closed heading], [], [], rfl⟩

theorem fits_of_silent {s : Step} {heading : Option String} (h : s.events = []) : s.Fits heading := by
  rw [Step.Fits, h]
  exact exists_continues heading

theorem fits_of_prepends {s : Step} {heading : Option String} {r : Reader} (h : s.Prepends heading)
    (hr : s.next = .ok r) : s.Fits heading := by
  obtain ⟨es, hes⟩ := exists_continues r.heading
  exact ⟨es, h r hr es hes⟩

theorem flush_fits (r : Reader) : r.flush.Fits r.heading := by
  rcases hr : r.flush.next with err | r'
  · refine fits_of_silent ?_
    rw [Reader.flush] at hr ⊢
    rcases hp : r.pending with _ | p
    · rfl
    · rcases hh : r.heading with _ | heading
      · rfl
      · simp [hp, hh] at hr
  · exact fits_of_prepends (flush_prepends r) hr

theorem begin_fits (r : Reader) (n : Nat) (body : List Char) : (r.begin n body).Fits r.heading := by
  rcases hr : (r.begin n body).next with err | r'
  · refine fits_of_silent ?_
    rw [Reader.begin] at hr ⊢
    split
    · rename_i hheader
      rcases hread : readHeader body with fault | heading
      · rfl
      · simp [hheader, hread] at hr
    · split <;> rfl
  · exact fits_of_prepends (begin_prepends r n body) hr

theorem andThen_fits {s : Step} {f : Reader → Step} {heading : Option String} (hs : s.Prepends heading)
    (hfits : s.Fits heading) (hf : ∀ r, (f r).Fits r.heading) : (s.andThen f).Fits heading := by
  rcases hr : s.next with err | r
  · rw [andThen_error hr]
    exact hfits
  · obtain ⟨es, hes⟩ := hf r
    refine ⟨es, ?_⟩
    rw [andThen_ok hr, List.append_assoc]
    exact hs r hr _ hes

theorem read_fits (r : Reader) (n : Nat) (line : List Char) : (r.read n line).Fits r.heading := by
  unfold Reader.read
  split
  · exact fits_of_silent rfl
  · split
    · exact begin_fits r n _
    · split
      · exact fits_of_silent rfl
      · exact andThen_fits (flush_prepends r) (flush_fits r) fun r' => begin_fits r' n _

theorem finish_fits (r : Reader) : r.finish.Fits r.heading :=
  andThen_fits (flush_prepends r) (flush_fits r) fun _ => ⟨[], continues_leave ⟨[], rfl⟩⟩

/-- What lines tell under an open section can be told to the end. -/
theorem traceLines_fits (r : Reader) (n : Nat) (lines : List (List Char)) :
    ∃ es, Continues r.heading ((traceLines r n lines).1 ++ es) := by
  induction lines generalizing r n with
  | nil =>
    rw [traceLines]
    split <;> exact finish_fits r
  | cons line rest ih =>
    rw [traceLines]
    split
    · exact read_fits r n line
    · rename_i r' hr'
      obtain ⟨es, hes⟩ := ih r' (n + 1)
      refine ⟨es, ?_⟩
      rw [List.append_assoc]
      exact read_prepends r n line r' hr' _ hes

theorem trace_prefix (text : String) : ∃ ss : List Section, (trace text).1 <+: ss.flatMap Section.events := by
  obtain ⟨es, ss, hss⟩ := traceLines_fits .start 1 (linesOf text)
  exact ⟨ss, es, hss⟩

/-! ## (4) Sections, one after the other -/

/-- A receiver is called with sections in a row, all of them whole unless something stops the
    text. What it refuses is the last it is called with, its error is the outcome, and up to
    there it is called with what a receiver that refuses nothing is called with. -/
theorem stream_protocol (receive : Receiver σ) (s : σ) (text : String) :
    (∃ ss : List Section, (calls receive s text).map (·.event) <+: ss.flatMap Section.events) ∧
    ((stream receive s text).2 = none →
      ∃ ss : List Section, (calls receive s text).map (·.event) = ss.flatMap Section.events) ∧
    (∀ before c after err, calls receive s text = before ++ c :: after → c.refusal = some err →
      after = [] ∧ (stream receive s text).2 = some err) ∧
    ∀ {τ : Type} (accept : Receiver τ) (t : τ), (∀ t e, (accept t e).2 = none) →
      (calls receive s text).map (·.event) <+: (calls accept t text).map (·.event) ∧
      ((∀ c ∈ calls receive s text, c.refusal = none) →
        calls receive s text = calls accept t text ∧ (stream receive s text).2 = (stream accept t text).2) := by
  obtain ⟨ss, hss⟩ := trace_prefix text
  have hprefix := events_callsOf_prefix receive s (trace text).1
  simp only [calls_eq]
  refine ⟨⟨ss, hprefix.trans hss⟩, ?_, ?_, ?_⟩
  · intro h
    obtain ⟨hfeed, hfault⟩ := feed_of_stream receive (Prod.ext rfl h)
    refine ⟨sections text, ?_⟩
    rw [callsOf_of_taken (by rw [hfeed]), map_event_taken, trace_eq_flatMap hfault]
  · intro before c after err h hc
    obtain ⟨hlast, hfeed⟩ := refused_last h hc
    refine ⟨hlast, ?_⟩
    rw [stream_eq_feed, endWith, hfeed, Option.some_or]
  · intro τ accept t haccept
    have htaken := feed_of_accepting haccept t (trace text).1
    rw [callsOf_of_taken htaken]
    refine ⟨by rwa [map_event_taken], fun h => ?_⟩
    have hfeed : (feed receive s (trace text).1).2 = none := by
      rw [← Option.isNone_iff_eq_none, ← Option.not_isSome, ← any_refusal_callsOf]
      simpa using h
    refine ⟨callsOf_of_taken hfeed, ?_⟩
    rw [stream_eq_feed, stream_eq_feed, endWith, endWith, hfeed, htaken]

/-- A receiver that refuses the end of a section is not told of the next one. -/
theorem stream_protocol_refused :
    calls (recordUpTo 2 .groupsNotAllowed) [] "[groups]\nteam = harry\n[/]\n* = r\n" =
        [.taken (.opened "groups"), .taken (.value "groups" "team" "harry"), ⟨.closed "groups", some .groupsNotAllowed⟩] ∧
      (stream (recordUpTo 2 .groupsNotAllowed) [] "[groups]\nteam = harry\n[/]\n* = r\n").2 = some .groupsNotAllowed := by
  have hcalls : calls (recordUpTo 2 .groupsNotAllowed) [] "[groups]\nteam = harry\n[/]\n* = r\n" =
      [.taken (.opened "groups"), .taken (.value "groups" "team" "harry"), ⟨.closed "groups", some .groupsNotAllowed⟩] := by
    decide +kernel
  obtain ⟨-, -, hrefused, -⟩ := stream_protocol (recordUpTo 2 .groupsNotAllowed) [] "[groups]\nteam = harry\n[/]\n* = r\n"
  exact ⟨hcalls, (hrefused [_, _] _ [] _ hcalls rfl).2⟩

end PathAuthz.Source
