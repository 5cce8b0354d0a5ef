/-
  PathAuthz.Proofs.Source.Concatenation — one text put behind another.

  (1) Line numbers are only told in faults. Reading from a later line on is the same but for
  these numbers (`readAll_below`).

  (2) A text `opensWithHeader` if its first line that says anything is a well-formed header at
  the start of its line. Such a line settles what stands above it exactly as the end of the
  text does (`readAll_finish`).

  (3) So the trace of two texts put together is the trace of the first if that has a fault, and
  else both traces in a row, with the lines of the second counted on (`trace_append`). Any
  receiver is told the first text, and then, unless that was stopped, the second one from where
  the first left it (`stream_append`). The second text neither repairs nor hides anything of the
  first. Only a fault is counted on, and not the error of a refused call (`errorBelow`).

  (4) A `Block` is a text that can stand anywhere among others. Blocks put together have the
  sections of each of them in a row (`sections_join`), so in another order they make a text
  with the same sections, rearranged (`rearranged_of_blocks`).
-/

import Mathlib.Data.List.Basic
import PathAuthz.Proofs.Source.Calls
import PathAuthz.Proofs.Source.Numbering

namespace PathAuthz

/-! ## (1) Line numbers -/

/-- The same fault `k` lines further down. -/
def LoadError.below (k : Nat) (err : LoadError) : LoadError := err.renumber (· + k)

namespace Source

open Text

/-- Reading from a line further down, with a pending option from as much further down. -/
theorem Reader.readAll_below (k : Nat) (lines : List (List Char)) (r : Reader) (n : Nat) :
    (r.renumber (· + k)).readAll (n + k) lines = (r.readAll n lines).renumber (· + k) := by
  induction lines generalizing r n with
  | nil => rfl
  | cons line rest ih =>
    rw [readAll, readAll, read_renumber (· + k) r n line]
    refine andThen_renumber (fun r' => ?_) _
    rw [Nat.add_right_comm]
    exact ih r' (n + 1)

/-! ## (2) The seam -/

/-- Whether the first line that says anything is a header at the start of its line. -/
def opensWithHeader (text : String) : Bool :=
  match (lines text.toList).find? fun line => !isSilent (trim line) with
  | none => true
  | some line => !isIndented line && startsHeader (trim line) && (readHeader (trim line)).isOk

namespace Reader

@[simp] theorem finish_start : start.finish = ⟨[], .ok start⟩ := rfl

theorem next_finish {r r' : Reader} (h : r.finish.next = .ok r') : r' = start := by
  obtain ⟨r₁, hflush, h⟩ := next_of_andThen h
  cases h
  rfl

theorem finish_finish (r : Reader) : r.finish.andThen (·.finish) = r.finish := by
  rcases hr : r.finish.next with err | r'
  · exact andThen_error hr _
  · cases next_finish hr
    rw [andThen_ok hr, finish_start, List.append_nil, ← hr]

/-- A header at the start of its line ends what stands above it as the end of the text does. -/
theorem read_header_finish (r : Reader) (n : Nat) {line : List Char} (hloud : isSilent (trim line) = false)
    (hindented : isIndented line = false) (hheader : startsHeader (trim line) = true)
    (hok : (readHeader (trim line)).isOk = true) : r.read n line = r.finish.andThen (·.read n line) := by
  rcases hread : readHeader (trim line) with fault | heading
  · rw [hread] at hok
    cases hok
  · have hbegin : ∀ r : Reader, r.begin n (trim line) = ⟨r.leave ++ [.opened heading], .ok ⟨some heading, none⟩⟩ := by
      intro r
      rw [begin, if_pos hheader, hread]
    have hstart : start.read n line = ⟨[.opened heading], .ok ⟨some heading, none⟩⟩ := by
      rw [read_of_not_indented start n hloud hindented]
      exact hbegin start
    rw [read_of_not_indented r n hloud hindented, finish, andThen_assoc]
    congr
    funext r'
    rw [hbegin, andThen_ok rfl, hstart]

theorem readAll_finish {lines : List (List Char)}
    (h : ∀ line, lines.find? (fun line => !isSilent (trim line)) = some line →
      isIndented line = false ∧ startsHeader (trim line) = true ∧ (readHeader (trim line)).isOk = true)
    (r : Reader) (n : Nat) :
    (r.readAll n lines).andThen (·.finish) = r.finish.andThen fun r' => (r'.readAll n lines).andThen (·.finish) := by
  induction lines generalizing n with
  | nil => exact (finish_finish r).symm
  | cons line rest ih =>
    by_cases hs : isSilent (trim line) = true
    · have hsilent : ∀ r : Reader, r.readAll n (line :: rest) = r.readAll (n + 1) rest := by
        intro r
        rw [readAll, read, if_pos hs, silent_andThen]
      simp only [hsilent]
      refine ih (fun line' hline' => h line' ?_) (n + 1)
      rw [List.find?_cons_of_neg (by simp [hs]), hline']
    · have hloud : isSilent (trim line) = false := Bool.eq_false_iff.mpr hs
      obtain ⟨hindented, hheader, hok⟩ := h line (List.find?_cons_of_pos (by simp [hloud]))
      simp only [readAll, andThen_assoc]
      rw [read_header_finish r n hloud hindented hheader hok, andThen_assoc]

end Reader

/-! ## (3) Texts -/

theorem trace_append {above below : String} (habove : EndsLine above.toList) (hbelow : opensWithHeader below = true) :
    trace (above ++ below) =
      match (trace above).2 with
      | some err => ((trace above).1, some err)
      | none => ((trace above).1 ++ (trace below).1, (trace below).2.map (·.below (lines above.toList).length)) := by
  have hseam : ∀ line, (lines below.toList).find? (fun line => !isSilent (trim line)) = some line →
      isIndented line = false ∧ startsHeader (trim line) = true ∧ (readHeader (trim line)).isOk = true := by
    intro line hline
    simpa [opensWithHeader, hline, and_assoc] using hbelow
  have hread : (Reader.start.readAll 1 (lines (above ++ below).toList)).andThen (·.finish) =
      ((Reader.start.readAll 1 (lines above.toList)).andThen (·.finish)).andThen fun r =>
        (r.readAll (1 + (lines above.toList).length) (lines below.toList)).andThen (·.finish) := by
    rw [String.toList_append, lines_append habove, readAll_append, andThen_assoc, andThen_assoc]
    congr
    funext r
    exact Reader.readAll_finish hseam r _
  have hshift : (Reader.start.readAll (1 + (lines above.toList).length) (lines below.toList)).andThen (·.finish) =
      ((Reader.start.readAll 1 (lines below.toList)).andThen (·.finish)).renumber
        (· + (lines above.toList).length) := by
    rw [← andThen_renumber (Reader.finish_renumber _), ← Reader.readAll_below]
    rfl
  rw [trace_eq_told (above ++ below), hread, trace_eq_told above, trace_eq_told below]
  rcases hnext : ((Reader.start.readAll 1 (lines above.toList)).andThen (·.finish)).next with err | r
  · rw [andThen_error hnext]
    simp only [Step.told, hnext]
  · obtain ⟨r', -, hfinish⟩ := next_of_andThen hnext
    cases Reader.next_finish hfinish
    rw [told_andThen hnext, hshift, told_renumber]
    simp only [Step.told, hnext]
    rfl

/-- The error that ends a text behind `k` lines of another one, from the error that ends it alone. -/
def errorBelow (k : Nat) (made : List Call) (err : Option LoadError) : Option LoadError :=
  if made.any (·.refusal.isSome) then err else err.map (·.below k)

theorem errorBelow_feed {σ : Type} (receive : Receiver σ) (s : σ) (k : Nat) (text : String) :
    errorBelow k (calls receive s text) (stream receive s text).2 =
      (feed receive s (trace text).1).2.or ((trace text).2.map (·.below k)) := by
  rw [errorBelow, calls_eq, any_refusal_callsOf, stream_eq_feed, endWith]
  rcases (feed receive s (trace text).1).2 with _ | err <;> rfl

/-- Two texts told as one: a receiver is called with the first, and then, unless that was stopped,
    with the second. -/
theorem stream_append {above below : String} (habove : EndsLine above.toList) (hbelow : opensWithHeader below = true)
    {σ : Type} (receive : Receiver σ) (s : σ) :
    (∀ s' err, stream receive s above = (s', some err) →
      calls receive s (above ++ below) = calls receive s above ∧
      stream receive s (above ++ below) = (s', some err)) ∧
    ∀ s', stream receive s above = (s', none) →
      calls receive s (above ++ below) = calls receive s above ++ calls receive s' below ∧
      stream receive s (above ++ below) =
        ((stream receive s' below).1,
          errorBelow (lines above.toList).length (calls receive s' below) (stream receive s' below).2) := by
  have htrace := trace_append habove hbelow
  constructor
  · intro s' err h
    rcases hfault : (trace above).2 with _ | fault
    · -- The first text has no fault, so the receiver refused something of it.
      rw [stream_eq_feed, endWith, hfault, Option.or_none] at h
      have hfeed : feed receive s (trace above).1 = (s', some err) := h
      rw [hfault] at htrace
      rw [calls_eq, calls_eq, stream_eq_feed, htrace, endWith, callsOf_append, feed_append, hfeed]
      exact ⟨rfl, rfl⟩
    · have htrace : trace (above ++ below) = trace above := by
        rw [htrace, hfault]
        exact Prod.ext rfl hfault.symm
      rw [calls, calls, stream_congr htrace, stream_congr htrace, h]
      exact ⟨rfl, rfl⟩
  · intro s' h
    obtain ⟨hfeed, hfault⟩ := feed_of_stream receive h
    rw [hfault] at htrace
    rw [errorBelow_feed, calls_eq, calls_eq, calls_eq, stream_eq_feed, stream_eq_feed, htrace, endWith, endWith,
      callsOf_append, feed_append, hfeed]
    exact ⟨rfl, rfl⟩

/-- A fault of the second text is told with its line in the whole, after all that stands before it. -/
theorem stream_append_fault_below :
    EndsLine "[groups]\nteam = harry\n".toList ∧ opensWithHeader "; rules\n[/]\n* = r\nharry\n" = true ∧
      stream record [] ("[groups]\nteam = harry\n" ++ "; rules\n[/]\n* = r\nharry\n") =
        ([.opened "groups", .value "groups" "team" "harry", .closed "groups", .opened "/", .value "/" "*" "r"],
          some (.malformedLine 6 (.missingSeparator "harry"))) := by
  have habove : EndsLine "[groups]\nteam = harry\n".toList := by decide +kernel
  have hbelow : opensWithHeader "; rules\n[/]\n* = r\nharry\n" = true := by decide +kernel
  have hfirst : stream record [] "[groups]\nteam = harry\n" =
      ([.opened "groups", .value "groups" "team" "harry", .closed "groups"], none) := by decide +kernel
  refine ⟨habove, hbelow, ?_⟩
  rw [((stream_append habove hbelow record []).2 _ hfirst).2]
  decide +kernel

/-! ## (4) Blocks -/

/-- Whole lines that start with a header and are told to the end. -/
structure Block (text : String) : Prop where
  ends : EndsLine text.toList
  opens : opensWithHeader text = true
  told : (trace text).2 = none

instance (text : String) : Decidable (Block text) :=
  decidable_of_iff (EndsLine text.toList ∧ opensWithHeader text = true ∧ (trace text).2 = none)
    ⟨fun h => ⟨h.1, h.2.1, h.2.2⟩, fun h => ⟨h.ends, h.opens, h.told⟩⟩

/-- The second text has the sections of the first one in some order. -/
structure Rearranged (text text' : String) : Prop where
  told : (trace text').2 = none
  sections : (sections text').Perm (sections text)

theorem opensWithHeader_append {above below : String} (habove : EndsLine above.toList)
    (h : opensWithHeader above = true) (h' : opensWithHeader below = true) :
    opensWithHeader (above ++ below) = true := by
  unfold opensWithHeader at h h' ⊢
  rw [String.toList_append, lines_append habove, List.find?_append]
  -- The first line that says anything is one of the first text, if there is one there.
  rcases hfirst : (lines above.toList).find? fun line => !isSilent (trim line) with _ | line
  · rw [Option.none_or]
    exact h'
  · rw [hfirst] at h
    rw [Option.some_or]
    exact h

theorem opensWithHeader_join {bs : List String} (h : ∀ b ∈ bs, Block b) : opensWithHeader (String.join bs) = true := by
  induction bs with
  | nil => rfl
  | cons b bs ih =>
    obtain ⟨hb, hbs⟩ := List.forall_mem_cons.mp h
    rw [String.join_cons]
    exact opensWithHeader_append hb.ends hb.opens (ih hbs)

theorem trace_join {bs : List String} (h : ∀ b ∈ bs, Block b) :
    trace (String.join bs) = (bs.flatMap fun b => (trace b).1, none) := by
  induction bs with
  | nil => rfl
  | cons b bs ih =>
    obtain ⟨hb, hbs⟩ := List.forall_mem_cons.mp h
    rw [String.join_cons, trace_append hb.ends (opensWithHeader_join hbs), hb.told, ih hbs]
    rfl

theorem sections_join {bs : List String} (h : ∀ b ∈ bs, Block b) : sections (String.join bs) = bs.flatMap sections := by
  have htrace : bs.flatMap (fun b => (trace b).1) = (bs.flatMap sections).flatMap Section.events := by
    rw [List.flatMap_assoc]
    exact List.flatMap_congr fun b hb => trace_eq_flatMap (h b hb).told
  rw [sections, trace_join h, htrace, sectionsOf_flatMap_events]

theorem rearranged_of_blocks {bs bs' : List String} (h : ∀ b ∈ bs, Block b) (hperm : bs'.Perm bs) :
    Rearranged (String.join bs) (String.join bs') := by
  have h' : ∀ b ∈ bs', Block b := fun b hb => h b (hperm.mem_iff.mp hb)
  refine ⟨by rw [trace_join h'], ?_⟩
  rw [sections_join h, sections_join h']
  exact hperm.flatMap_right sections

end Source

end PathAuthz
