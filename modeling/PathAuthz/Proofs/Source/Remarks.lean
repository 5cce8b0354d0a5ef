/-
  PathAuthz.Proofs.Source.Remarks — comments behind the text of a line.

  (1) A remark (`IsRemark`) is an ASCII blank, a comment mark and anything, perhaps behind
  more blanks. Trimming a text with a remark trims the text and leaves a remark
  (`trim_append_remark`).

  (2) What is read from a text is read from it with a remark: the heading of a header
  (`readHeader_append_remark`), a value (`stripComment_append_remark`), the name and the value
  of an option (`readOption_append_remark`).

  (3) A line is read alike with a remark (`read_append_remark`), unless it continues a value
  and the remark makes an option of it. That takes a line without a separator and a remark
  whose first separator is `=` (`turns_iff`): whether a line starts an option is asked of the
  line as it stands, and the remark is part of it.

  (4) For whole texts this is the only exception, and always one (`stream_withRemark_iff`): a
  turned line begins something, so more events are told than before (`tally_lt_of_turns`). The
  smallest case is a list continued on a second line
  (`a_remark_with_an_equals_sign_breaks_a_list`).
-/

import PathAuthz.Proofs.Source.Tally

namespace PathAuthz.Source

open Text

/-! ## (1) Remarks -/

def IsRemark (t : List Char) : Prop :=
  ∃ blanks fresh mark more, t = blanks ++ fresh :: mark :: more ∧ (∀ c ∈ blanks, isBlank c = true) ∧
    isAsciiBlank fresh = true ∧ isCommentMark mark = true

theorem isBlank_of_isCommentMark {c : Char} (h : isCommentMark c = true) : isBlank c = false := by
  rw [isCommentMark, Bool.or_eq_true, beq_iff_eq, beq_iff_eq] at h
  rcases h with rfl | rfl <;> decide

theorem isCommentMark_of_isBlank {c : Char} (h : isBlank c = true) : isCommentMark c = false := by
  by_contra hc
  rw [Bool.not_eq_false] at hc
  exact absurd h (by rw [isBlank_of_isCommentMark hc]; decide)

theorem IsRemark.append {t : List Char} (ht : IsRemark t) (rest : List Char) : IsRemark (t ++ rest) := by
  obtain ⟨blanks, fresh, mark, more, rfl, hblanks, hfresh, hmark⟩ := ht
  exact ⟨blanks, fresh, mark, more ++ rest, by simp, hblanks, hfresh, hmark⟩

theorem IsRemark.append_blank {t blanks : List Char} (ht : IsRemark t) (h : ∀ c ∈ blanks, isBlank c = true) :
    IsRemark (blanks ++ t) := by
  obtain ⟨blanks', fresh, mark, more, rfl, hblanks, hfresh, hmark⟩ := ht
  exact ⟨blanks ++ blanks', fresh, mark, more, by simp, List.forall_mem_append.2 ⟨h, hblanks⟩, hfresh, hmark⟩

/-- Trimming a remark at its front leaves its comment. -/
theorem IsRemark.trimStart {t : List Char} (ht : IsRemark t) :
    ∃ mark more, Text.trimStart t = mark :: more ∧ isCommentMark mark = true := by
  obtain ⟨blanks, fresh, mark, more, rfl, hblanks, hfresh, hmark⟩ := ht
  refine ⟨mark, more, ?_, hmark⟩
  have hfresh := isBlank_of_isAsciiBlank hfresh
  have hmark := isBlank_of_isCommentMark hmark
  rw [trimStart_append, if_pos (trimStart_eq_nil_iff.2 hblanks)]
  simp [Text.trimStart, hfresh, hmark]

theorem trimEnd_append_remark (s : List Char) {t : List Char} (ht : IsRemark t) :
    ∃ t', IsRemark t' ∧ trimEnd (s ++ t) = s ++ t' := by
  obtain ⟨blanks, fresh, mark, more, rfl, hblanks, hfresh, hmark⟩ := ht
  have hend : trimEnd (mark :: more) = mark :: trimEnd more := by
    rw [trimEnd, dropTail_cons, if_neg (by simp [isBlank_of_isCommentMark hmark]), trimEnd]
  refine ⟨blanks ++ fresh :: mark :: trimEnd more, ⟨blanks, fresh, mark, _, rfl, hblanks, hfresh, hmark⟩, ?_⟩
  rw [show s ++ (blanks ++ fresh :: mark :: more) = (s ++ (blanks ++ [fresh])) ++ mark :: more by simp,
    trimEnd_append_of_ne_nil _ (by simp [hend]), hend]
  simp

theorem trim_append_remark {s t : List Char} (hs : trim s ≠ []) (ht : IsRemark t) :
    ∃ t', IsRemark t' ∧ trim (s ++ t) = trim s ++ t' := by
  obtain ⟨trail, htrim, htrail⟩ := exists_dropTail_append isBlank (trimStart s)
  obtain ⟨t', ht', he⟩ := trimEnd_append_remark (trimStart s) ht
  refine ⟨trail ++ t', ht'.append_blank htrail, ?_⟩
  rw [trim, trimStart_append, if_neg fun h => hs (trim_eq_nil_iff.2 h), he, ← List.append_assoc]
  exact congrArg (· ++ t') htrim

/-! ## (2) What is read from a text with a remark -/

theorem isSilent_append {body : List Char} (h : body ≠ []) (t : List Char) : isSilent (body ++ t) = isSilent body := by
  rcases body with _ | ⟨c, cs⟩
  · exact absurd rfl h
  · rfl

theorem startsHeader_append {body : List Char} (h : body ≠ []) (t : List Char) :
    startsHeader (body ++ t) = startsHeader body := by
  rcases body with _ | ⟨c, cs⟩
  · exact absurd rfl h
  · rfl

/-- Whether a bracket ends a header is not changed by a remark far behind it. -/
theorem isSilent_trimStart_append_remark (cs : List Char) {t : List Char} (ht : IsRemark t) :
    isSilent (trimStart (cs ++ t)) = isSilent (trimStart cs) := by
  rw [trimStart_append]
  split
  · rename_i h
    obtain ⟨mark, more, hm, hmark⟩ := ht.trimStart
    rw [h, hm]
    exact hmark
  · rename_i h
    exact isSilent_append h t

theorem beforeBracket_append_remark {cs inner t : List Char} (ht : IsRemark t) (h : beforeBracket cs = some inner) :
    beforeBracket (cs ++ t) = some inner := by
  induction cs generalizing inner with
  | nil => cases h
  | cons c cs ih =>
    rw [beforeBracket] at h
    rw [List.cons_append, beforeBracket, isSilent_trimStart_append_remark cs ht]
    split at h
    · rename_i hc
      rw [if_pos hc]
      exact h
    · rename_i hc
      rw [if_neg hc]
      obtain ⟨inner', h', rfl⟩ := Option.map_eq_some_iff.1 h
      rw [ih h', Option.map_some]

theorem readHeader_append_remark {body t : List Char} {heading : String} (ht : IsRemark t)
    (h : readHeader body = .ok heading) : readHeader (body ++ t) = .ok heading := by
  rw [readHeader] at h
  split at h
  · cases h
  · rename_i hmem
    rw [Decidable.not_not] at hmem
    rcases hb : beforeBracket (body.drop 1) with _ | inner
    · rw [hb] at h
      cases h
    · have hdrop : (body ++ t).drop 1 = body.drop 1 ++ t :=
        List.drop_append_of_le_length (List.length_pos_of_mem hmem)
      rw [readHeader, if_neg (by simp [hmem]), hdrop, beforeBracket_append_remark ht hb]
      rwa [hb] at h

theorem beforeComment_append_of_some {fresh : Bool} {s kept : List Char} (h : beforeComment fresh s = some kept)
    (t : List Char) : beforeComment fresh (s ++ t) = some kept := by
  induction s generalizing fresh kept with
  | nil => cases h
  | cons c cs ih =>
    rw [beforeComment] at h
    rw [List.cons_append, beforeComment]
    split at h
    · rename_i hc
      rw [if_pos hc]
      exact h
    · rename_i hc
      rw [if_neg hc]
      obtain ⟨kept', h', rfl⟩ := Option.map_eq_some_iff.1 h
      rw [ih h', Option.map_some]

theorem beforeComment_append_of_none {fresh : Bool} {s t kept : List Char} (h : beforeComment fresh s = none)
    (ht : ∀ fresh, beforeComment fresh t = some kept) : beforeComment fresh (s ++ t) = some (s ++ kept) := by
  induction s generalizing fresh with
  | nil => exact ht fresh
  | cons c cs ih =>
    rw [beforeComment] at h
    rw [List.cons_append, beforeComment]
    split at h
    · cases h
    · rename_i hc
      rw [if_neg hc, ih (Option.map_eq_none_iff.1 h), Option.map_some, List.cons_append]

/-- A comment starts with the mark of a remark, and only blanks stand before it. -/
theorem beforeComment_remark {t : List Char} (ht : IsRemark t) :
    ∃ kept, (∀ c ∈ kept, isBlank c = true) ∧ ∀ fresh, beforeComment fresh t = some kept := by
  obtain ⟨blanks, last, mark, more, rfl, hblanks, hlast, hmark⟩ := ht
  have hcomment : ∀ fresh, beforeComment fresh (last :: mark :: more) = some [last] := by
    intro fresh
    simp [beforeComment, hlast, hmark, isCommentMark_of_isBlank (isBlank_of_isAsciiBlank hlast)]
  have hnone : ∀ fresh, beforeComment fresh blanks = none := by
    clear hcomment
    induction blanks with
    | nil => intro fresh; rfl
    | cons b bs ih =>
      obtain ⟨hb, hbs⟩ := List.forall_mem_cons.1 hblanks
      intro fresh
      rw [beforeComment, if_neg (by simp [isCommentMark_of_isBlank hb]), ih hbs, Option.map_none]
  refine ⟨blanks ++ [last], ?_, fun fresh => beforeComment_append_of_none (hnone fresh) hcomment⟩
  exact List.forall_mem_append.2 ⟨hblanks, List.forall_mem_singleton.2 (isBlank_of_isAsciiBlank hlast)⟩

/-- A value is the same with a remark behind it. -/
theorem stripComment_append_remark (s : List Char) {t : List Char} (ht : IsRemark t) :
    stripComment (trim (s ++ t)) = stripComment (trim s) := by
  by_cases hs : trim s = []
  · have hstart := trim_eq_nil_iff.1 hs
    obtain ⟨mark, more, hm, hmark⟩ := ht.trimStart
    have htrim : trim (s ++ t) = mark :: trimEnd more := by
      rw [trim, trimStart_append, if_pos hstart, hm, trimEnd, dropTail_cons,
        if_neg (by simp [isBlank_of_isCommentMark hmark]), trimEnd]
    rw [hs, htrim, stripComment, beforeComment, if_pos (by simp [hmark])]
    rfl
  · obtain ⟨t', ht', he⟩ := trim_append_remark hs ht
    rw [he, stripComment, stripComment]
    rcases hb : beforeComment true (trim s) with _ | kept
    · obtain ⟨kept, hkept, hrest⟩ := beforeComment_remark ht'
      rw [beforeComment_append_of_none hb hrest]
      exact (trimEnd_append_of_blank _ hkept).trans (trimEnd_trim s)
    · rw [beforeComment_append_of_some hb]

theorem readOption_append_remark {body t : List Char} {option : String × String} (ht : IsRemark t)
    (h : readOption body = .ok option) : readOption (body ++ t) = .ok option := by
  rw [readOption] at h ⊢
  rcases hc : cut isSeparator body with _ | ⟨name, sep, value⟩
  · simp [hc] at h
  · rw [cut_append_of_some hc]
    simp only [hc, stripComment_append_remark value ht] at h ⊢
    exact h

/-! ## (3) One line -/

theorem begin_append_remark {r r' : Reader} {n : Nat} {body t : List Char} (ht : IsRemark t) (hne : body ≠ [])
    (h : (r.begin n body).next = .ok r') : r.begin n (body ++ t) = r.begin n body := by
  rw [Reader.begin] at h
  rw [Reader.begin, Reader.begin, startsHeader_append hne]
  split
  · rename_i hhead
    rw [if_pos hhead] at h
    rcases hread : readHeader body with fault | heading
    · simp [hread] at h
    · rw [readHeader_append_remark ht hread]
  · rename_i hhead
    rw [if_neg hhead] at h
    rcases hread : readOption body with fault | option
    · simp [hread] at h
    · rw [readOption_append_remark ht hread]

/-- Whether `t` makes an option of a line that would continue a value. -/
def Turns (line t : List Char) : Prop := continues line = true ∧ continues (line ++ t) = false

theorem continues_eq (line : List Char) : continues line = (isIndented line && !startsOption line) := by
  rw [continues, startsOption_trim]

theorem turns_iff {line t : List Char} (hne : line ≠ []) :
    Turns line t ↔ isIndented line = true ∧ (∀ c ∈ line, isSeparator c = false) ∧ startsOption t = true := by
  rw [Turns, continues_eq, continues_eq, isIndented_append hne]
  rcases hc : cut isSeparator line with _ | ⟨a, d, b⟩
  · have hnone := cut_eq_none_iff.1 hc
    have hline : startsOption line = false := by rw [startsOption, hc]
    rw [startsOption_append_of_not hnone, hline]
    simp only [Bool.not_false, Bool.and_true, Bool.and_eq_false_iff, Bool.not_eq_false']
    constructor
    · rintro ⟨hi, hn | hs⟩
      · rw [hi] at hn; cases hn
      · exact ⟨hi, hnone, hs⟩
    · rintro ⟨hi, -, hs⟩
      exact ⟨hi, .inr hs⟩
  · rw [startsOption_append_of_cut hc]
    obtain ⟨hline, hd, -⟩ := cut_eq_some hc
    constructor
    · rintro ⟨hi, hn⟩
      rw [hi] at hn; cases hn
    · rintro ⟨-, hnone, -⟩
      rw [hnone d (by simp [hline])] at hd
      cases hd

/-- A remark never makes a continuation of a line. -/
theorem continues_of_append {line t : List Char} (hne : line ≠ []) (h : continues (line ++ t) = true) :
    continues line = true := by
  rw [continues_eq, isIndented_append hne, Bool.and_eq_true, Bool.not_eq_true'] at h
  rw [continues_eq, h.1, Bool.true_and, Bool.not_eq_true']
  rcases hc : cut isSeparator line with _ | ⟨a, d, b⟩
  · rw [startsOption, hc]
  · rw [← startsOption_append_of_cut hc]
    exact h.2

theorem read_append_remark {r r' : Reader} {n : Nat} {line t : List Char} (ht : IsRemark t)
    (hloud : isSilent (trim line) = false) (hstay : r.pending ≠ none → ¬ Turns line t)
    (h : (r.read n line).next = .ok r') : r.read n (line ++ t) = r.read n line := by
  have hne : trim line ≠ [] := by
    intro hnil
    rw [hnil] at hloud
    cases hloud
  obtain ⟨t', ht', htrim⟩ := trim_append_remark hne ht
  rw [Reader.read, hloud] at h
  rw [Reader.read, Reader.read, stripComment_append_remark line ht, htrim, isSilent_append hne, hloud]
  rcases hp : r.pending with _ | p
  · simp only [hp, Bool.false_eq_true, if_false] at h ⊢
    exact begin_append_remark ht' hne h
  · simp only [hp, Bool.false_eq_true, if_false] at h ⊢
    by_cases hc : continues line = true
    · have hc' : continues (line ++ t) = true := by
        by_contra hn
        exact hstay (by simp [hp]) ⟨hc, by simpa using hn⟩
      rw [if_pos hc, if_pos hc']
    · have hc' : ¬ continues (line ++ t) = true := fun hn => hc (continues_of_append (ne_nil_of_loud hloud) hn)
      rw [if_neg hc] at h ⊢
      rw [if_neg hc']
      obtain ⟨r₁, hflush, hbegin⟩ := next_of_andThen h
      rw [andThen_ok hflush, andThen_ok hflush, begin_append_remark ht' hne hbegin]

/-! ## (4) Whole texts -/

/-- A line that is turned begins something. -/
theorem tally_lt_of_turns {line t : List Char} (hloud : isSilent (trim line) = false)
    (hloud' : isSilent (trim (line ++ t)) = false) (h : Turns line t) (rest : List (List Char)) :
    tally true (line :: rest) < tally true ((line ++ t) :: rest) := by
  have := tally_true_le rest
  rw [tally, tally]
  simp only [hloud, hloud', h.1, h.2, Bool.and_true, Bool.and_false, Bool.false_eq_true, if_false, if_true]
  split <;> omega

theorem traceLines_append_remark_iff {r : Reader} {n : Nat} {line t : List Char} {rest : List (List Char)}
    (ht : IsRemark t) (hloud : isSilent (trim line) = false) (hok : (traceLines r n (line :: rest)).2 = none) :
    traceLines r n ((line ++ t) :: rest) = traceLines r n (line :: rest) ↔ ¬ (r.pending ≠ none ∧ Turns line t) := by
  constructor
  · rintro hsame ⟨hpending, hturns⟩
    have hloud' : isSilent (trim (line ++ t)) = false := by
      have hne : trim line ≠ [] := fun h => by simp [h, isSilent] at hloud
      obtain ⟨t', -, htrim⟩ := trim_append_remark hne ht
      rw [htrim, isSilent_append hne, hloud]
    have hsome : r.pending.isSome = true := Option.isSome_iff_ne_none.2 hpending
    have hcount := length_traceLines hok
    have hcount' := length_traceLines (hsame ▸ hok)
    have hlt := tally_lt_of_turns hloud hloud' hturns rest
    rw [hsame, hcount, hsome] at hcount'
    omega
  · intro hstay
    obtain ⟨r', hr'⟩ : ∃ r', (r.readAll n [line]).next = .ok r' := readAll_of_traceLines hok
    obtain ⟨r₁, hread, -⟩ := next_of_andThen hr'
    exact traceLines_congr (read_append_remark ht hloud (fun hp hturns => hstay ⟨hp, hturns⟩) hread) rest

/-- A comment to be put behind a line. -/
structure Remark where
  mark : Char
  more : List Char
  isMark : isCommentMark mark = true
  onLine : '\n' ∉ more

def Remark.chars (c : Remark) : List Char := ' ' :: c.mark :: c.more

theorem Remark.not_mem_chars (c : Remark) : '\n' ∉ c.chars := by
  have hmark : '\n' ≠ c.mark := by
    intro h
    have := c.isMark
    rw [← h] at this
    exact absurd this (by decide)
  simp [Remark.chars, hmark, c.onLine]

theorem Remark.isRemark (c : Remark) : IsRemark c.chars := ⟨[], ' ', c.mark, c.more, rfl, by simp, rfl, c.isMark⟩

/-- A line and what stands around it in a text: whole lines above it, its line end, and what
    follows a line feed. -/
structure Place where
  above : List Char
  line : List Char
  /-- How many carriage returns belong to the line end. -/
  returns : Nat
  below : Option (List Char)
  aboveEnds : EndsLine above
  onLine : '\n' ∉ line

namespace Place

/-- The line end and what follows it. -/
def tail (p : Place) : List Char :=
  List.replicate p.returns '\r' ++ match p.below with
    | none => []
    | some below => '\n' :: below

/-- The text with something put behind the line. -/
def textWith (p : Place) (t : List Char) : String := String.ofList (p.above ++ (p.line ++ t) ++ p.tail)

def text (p : Place) : String := p.textWith []

/-- A value of the lines above may be continued by the line. -/
def AfterOption (p : Place) : Prop :=
  ∃ r, (Reader.start.readAll 1 (lines p.above)).next = .ok r ∧ r.pending ≠ none

theorem lines_textWith (p : Place) {t : List Char} (ht : '\n' ∉ t) (hne : p.line ≠ []) :
    lines (p.textWith t).toList =
      lines p.above ++ (p.line ++ t ++ List.replicate p.returns '\r') :: (p.below.elim [] lines) := by
  have hline : '\n' ∉ p.line ++ t ++ List.replicate p.returns '\r' := by
    simp [p.onLine, ht, List.mem_replicate]
  rw [textWith, String.toList_ofList, List.append_assoc, lines_append p.aboveEnds, tail, ← List.append_assoc]
  rcases p.below with _ | below
  · rw [List.append_nil, lines_last _ hline (by simp [hne])]
    rfl
  · rw [lines_line _ below hline]
    rfl

end Place

theorem isBlank_of_mem_returns {k : Nat} {c : Char} (h : c ∈ List.replicate k '\r') : isBlank c = true := by
  rw [(List.mem_replicate.1 h).2]
  decide

/-- A remark changes nothing of a text without a fault, unless it turns a continuation. -/
theorem stream_withRemark_iff (p : Place) (c : Remark) (hloud : isSilent (trim p.line) = false)
    (hok : (stream record [] p.text).2 = none) :
    (∀ (σ : Type) (receive : Receiver σ) (s : σ), stream receive s (p.textWith c.chars) = stream receive s p.text) ↔
      ¬ (p.AfterOption ∧ isIndented p.line = true ∧ (∀ x ∈ p.line, isSeparator x = false) ∧
        startsOption c.chars = true) := by
  have hne : p.line ≠ [] := ne_nil_of_loud hloud
  obtain ⟨returns, hreturns⟩ : ∃ returns, returns = List.replicate p.returns '\r' := ⟨_, rfl⟩
  have hblank : ∀ x ∈ returns, isBlank x = true := fun x hx => isBlank_of_mem_returns (hreturns ▸ hx)
  have hturns : Turns p.line (c.chars ++ returns) ↔
      isIndented p.line = true ∧ (∀ x ∈ p.line, isSeparator x = false) ∧ startsOption c.chars = true := by
    rw [turns_iff hne, startsOption_append_not _ fun x hx => isSeparator_of_isBlank (hblank x hx)]
  have hlines := p.lines_textWith (t := []) (by simp) hne
  have hlines' := p.lines_textWith c.not_mem_chars hne
  rw [← hreturns, List.append_nil] at hlines
  rw [← hreturns, List.append_assoc] at hlines'
  -- Both texts are read alike up to the line.
  rw [stream_record] at hok
  have htrace : trace p.text = traceLines .start 1 (lines p.above ++ (p.line ++ returns) :: p.below.elim [] lines) := by
    rw [trace_eq_traceLines, Place.text, hlines]
  obtain ⟨r, hr⟩ := readAll_of_traceLines (htrace ▸ hok)
  rw [traceLines_append hr, traceLines_congr (read_append_blank r _ p.line hblank)] at htrace
  have htrace' := trace_eq_traceLines (p.textWith c.chars)
  rw [hlines', traceLines_append hr] at htrace'
  have hsame : trace (p.textWith c.chars) = trace p.text ↔ ¬ (r.pending ≠ none ∧ Turns p.line (c.chars ++ returns)) := by
    rw [htrace] at hok
    rw [htrace, htrace', ← traceLines_append_remark_iff (c.isRemark.append returns) hloud hok, Prod.mk.injEq,
      List.append_cancel_left_eq, Prod.ext_iff]
  have hafter : p.AfterOption ↔ r.pending ≠ none := by
    constructor
    · rintro ⟨r', hr', hp⟩
      rw [hr, Except.ok.injEq] at hr'
      exact hr' ▸ hp
    · exact fun hp => ⟨r, hr, hp⟩
  rw [hafter, ← hturns, ← hsame]
  constructor
  · intro h
    rw [← stream_record, ← stream_record]
    exact h _ record []
  · exact fun h σ receive s => stream_congr h receive s

/-- A list of members, continued on a second line. -/
def continuedList : Place where
  above := "[groups]\nteam = harry,\n".toList
  line := "  sally".toList
  returns := 0
  below := some []
  aboveEnds := by decide +kernel
  onLine := by decide +kernel

/-- A remark may hold separators behind the list, if `:` comes first. -/
theorem continuedList_withRemark :
    isSilent (trim continuedList.line) = false ∧ (stream record [] continuedList.text).2 = none ∧
      ∀ (σ : Type) (receive : Receiver σ) (s : σ),
        stream receive s (continuedList.textWith " # also: x = y".toList) = stream receive s continuedList.text := by
  have hloud : isSilent (trim continuedList.line) = false := by decide +kernel
  have hok : (stream record [] continuedList.text).2 = none := by decide +kernel
  have hmore : '\n' ∉ " also: x = y".toList := by decide +kernel
  have hstays : startsOption " # also: x = y".toList = false := by decide +kernel
  have hchars : " # also: x = y".toList = ' ' :: '#' :: " also: x = y".toList := by decide +kernel
  refine ⟨hloud, hok, ?_⟩
  rw [hchars] at hstays ⊢
  exact (stream_withRemark_iff continuedList ⟨'#', " also: x = y".toList, rfl, hmore⟩ hloud hok).2
    fun ⟨_, _, _, hturns⟩ => absurd hturns (by rw [Remark.chars, hstays]; decide)

/-- With `=` first, the second member and the remark become an option of their own. -/
theorem a_remark_with_an_equals_sign_breaks_a_list :
    stream record [] "[groups]\nteam = harry,\n  sally\n" =
        ([.opened "groups", .value "groups" "team" "harry, sally", .closed "groups"], none) ∧
      stream record [] "[groups]\nteam = harry,\n  sally # x = y\n" =
        ([.opened "groups", .value "groups" "team" "harry,", .value "groups" "sally # x" "y", .closed "groups"], none) := by
  decide +kernel

end PathAuthz.Source
