/-
  PathAuthz.Proofs.Source.Rendering — a written document is read back as it was meant.

  (1) A document is a list of sections, each with its options, and an option is a name, a first
  piece and further pieces on lines of their own. What may be written is part of the
  structures: a text fits on its line (`Neat`), no comment starts in a piece (`NoComment`), no
  bracket of a heading ends its header (`NoEarlyEnd`).

  (2) One line: a header opens its section (`readHeader_brackets`), an option line starts its
  option (`readOption_written`), a further piece is joined to the value above it
  (`read_further`).

  (3) Runs: over the pieces of an option (`readAll_option`), over the options of a section
  (`readAll_options`), over the sections of a document (`traceLines_document`). Between two
  sections nothing is left untold but what the next header or the end of the text settles.

  (4) The text of a document is told as its sections (`stream_document`): as it stands, with
  its last line ended or not, and to any receiver.
-/

import Mathlib.Data.List.Chain
import Mathlib.Data.List.Infix
import PathAuthz.Proofs.Source.Reading

namespace PathAuthz.Source

open Text

/-! ## (1) Documents -/

/-- A text that fits on a line and has no blanks around it. -/
structure Neat (s : String) : Prop where
  trimmed : trim s.toList = s.toList
  onLine : '\n' ∉ s.toList

instance (s : String) : Decidable (Neat s) :=
  decidable_of_iff (trim s.toList = s.toList ∧ '\n' ∉ s.toList) ⟨fun h => ⟨h.1, h.2⟩, fun h => ⟨h.trimmed, h.onLine⟩⟩

def startsComment : List Char → Bool
  | [] => false
  | c :: _ => isCommentMark c

/-- A text without a comment mark at its start or right behind a blank. -/
structure NoComment (s : String) : Prop where
  start : startsComment s.toList = false
  inside : s.toList.IsChain fun c d => isCommentMark d = true → isAsciiBlank c = false

instance (s : String) : Decidable (NoComment s) :=
  decidable_of_iff (startsComment s.toList = false ∧
      s.toList.IsChain fun c d => isCommentMark d = true → isAsciiBlank c = false)
    ⟨fun h => ⟨h.1, h.2⟩, fun h => ⟨h.start, h.inside⟩⟩

/-- No bracket is followed by a comment mark, blanks aside. -/
def NoEarlyEnd (s : String) : Prop :=
  ∀ t ∈ s.toList.tails, t.head? = some ']' → startsComment (trimStart t.tail) = false

instance (s : String) : Decidable (NoEarlyEnd s) :=
  inferInstanceAs (Decidable (∀ t ∈ s.toList.tails, t.head? = some ']' → startsComment (trimStart t.tail) = false))

/-- A piece of a value on a line of its own. -/
structure FurtherPiece where
  indent : List Char
  text : String
  indented : indent ≠ []
  blank : ∀ c ∈ indent, isBlank c = true
  indentOnLine : '\n' ∉ indent
  neat : Neat text
  nonempty : text ≠ ""
  noComment : NoComment text
  noOption : startsOption text.toList = false

structure WrittenOption where
  name : String
  first : String
  further : List FurtherPiece
  neat : Neat name
  nonempty : name ≠ ""
  noSeparator : '=' ∉ name.toList ∧ ':' ∉ name.toList
  noHeader : startsHeader name.toList = false
  noSilence : startsComment name.toList = false
  firstNeat : Neat first
  noComment : NoComment first

structure WrittenSection where
  heading : String
  options : List WrittenOption
  neat : Neat heading
  nonempty : heading ≠ ""
  noEarlyEnd : NoEarlyEnd heading

def FurtherPiece.line (p : FurtherPiece) : List Char := p.indent ++ p.text.toList

def WrittenOption.firstLine (o : WrittenOption) : List Char := o.name.toList ++ [' ', '=', ' '] ++ o.first.toList

def WrittenOption.lines (o : WrittenOption) : List (List Char) := o.firstLine :: o.further.map (·.line)

def WrittenSection.header (s : WrittenSection) : List Char := ['['] ++ s.heading.toList ++ [']']

def WrittenSection.lines (s : WrittenSection) : List (List Char) := s.header :: s.options.flatMap (·.lines)

/-- The text of a document; `ended` says whether its last line is ended by a line feed. -/
def render (ended : Bool) (document : List WrittenSection) : String :=
  String.ofList (unlines ended (document.flatMap (·.lines)))

/-- The pieces that are not empty, joined by single spaces. -/
def WrittenOption.value (o : WrittenOption) : String :=
  " ".intercalate ((o.first :: o.further.map (·.text)).filter (· ≠ ""))

/-- What a written section means. -/
def WrittenSection.meant (s : WrittenSection) : Section := ⟨s.heading, s.options.map fun o => (o.name, o.value)⟩

/-! ## (2) One line -/

theorem toList_ne_nil {s : String} (h : s ≠ "") : s.toList ≠ [] := by
  intro hnil
  exact h (String.toList_inj.1 (hnil.trans String.toList_empty.symm))

theorem blank_space : ∀ c ∈ [' '], isBlank c = true := List.forall_mem_singleton.2 rfl

theorem beforeBracket_of_noEarlyEnd {name : List Char}
    (h : ∀ t ∈ name.tails, t.head? = some ']' → startsComment (trimStart t.tail) = false) :
    beforeBracket (name ++ [']']) = some name := by
  induction name with
  | nil => rfl
  | cons c cs ih =>
    rw [List.tails_cons, List.forall_mem_cons] at h
    obtain ⟨hc, hcs⟩ := h
    have hgoes : ¬ (c = ']' ∧ isSilent (trimStart (cs ++ [']'])) = true) := by
      rintro ⟨rfl, hsilent⟩
      rw [trimStart_append] at hsilent
      rcases hs : trimStart cs with _ | ⟨d, ds⟩
      · rw [hs] at hsilent
        exact absurd hsilent (by decide)
      · have hd : startsComment (trimStart cs) = false := hc rfl
        rw [hs, if_neg (by simp)] at hsilent
        rw [hs] at hd
        exact absurd (hsilent.symm.trans hd) (by decide)
    rw [List.cons_append, beforeBracket, if_neg hgoes, ih hcs, Option.map_some]

theorem readHeader_brackets (s : WrittenSection) : readHeader s.header = .ok s.heading := by
  have hinner : beforeBracket (s.header.drop 1) = some s.heading.toList := beforeBracket_of_noEarlyEnd s.noEarlyEnd
  rw [readHeader, if_neg (by simp [WrittenSection.header]), hinner]
  simp only [s.neat.trimmed, toList_ne_nil s.nonempty, if_false, String.ofList_toList]

/-- What opening a section tells: the end of the section before it, and itself. -/
theorem read_header (r : Reader) (n : Nat) (s : WrittenSection) :
    r.read n s.header = r.flush.andThen fun r' => ⟨r'.leave ++ [.opened s.heading], .ok ⟨some s.heading, none⟩⟩ := by
  have htrim : trim s.header = s.header := trim_between s.heading.toList rfl (by simp) rfl (by simp)
  rw [read_of_not_indented r n (by rw [htrim]; rfl) rfl, htrim]
  congr
  funext r'
  rw [Reader.begin, if_pos (show startsHeader s.header = true from rfl), readHeader_brackets]

theorem beforeComment_of_noComment {fresh : Bool} {s : List Char}
    (hstart : fresh = true → startsComment s = false)
    (hinside : s.IsChain fun c d => isCommentMark d = true → isAsciiBlank c = false) : beforeComment fresh s = none := by
  induction s generalizing fresh with
  | nil => rfl
  | cons c cs ih =>
    have hc : ¬ (fresh && isCommentMark c) = true := by
      rw [Bool.and_eq_true]
      rintro ⟨hfresh, hmark⟩
      exact absurd (hmark.symm.trans (hstart hfresh)) (by decide)
    rw [beforeComment, if_neg hc, Option.map_eq_none_iff]
    refine ih (fun hblank => ?_) hinside.tail
    rcases cs with _ | ⟨d, ds⟩
    · rfl
    · rw [startsComment, ← Bool.not_eq_true]
      intro hmark
      exact absurd (hblank.symm.trans ((List.isChain_cons_cons.1 hinside).1 hmark)) (by decide)

theorem stripComment_of_noComment {s : String} (h : NoComment s) : stripComment s.toList = s.toList := by
  rw [stripComment, beforeComment_of_noComment (fun _ => h.start) h.inside]

theorem readOption_written (o : WrittenOption) {value : List Char} (h : trim value = o.first.toList) :
    readOption (o.name.toList ++ ' ' :: '=' :: value) = .ok (o.name, o.first) := by
  have hcut : cut isSeparator (o.name.toList ++ ' ' :: '=' :: value) = some (o.name.toList ++ [' '], '=', value) := by
    rw [cut_append_of_not fun c hc => ?_]
    · rfl
    · rw [isSeparator, Bool.or_eq_false_iff, beq_eq_false_iff_ne, beq_eq_false_iff_ne]
      exact ⟨fun h => o.noSeparator.1 (h ▸ hc), fun h => o.noSeparator.2 (h ▸ hc)⟩
  have hname : trim (o.name.toList ++ [' ']) = o.name.toList := by
    rw [trim_append_blank _ blank_space, o.neat.trimmed]
  rw [readOption, hcut]
  simp only [hname, toList_ne_nil o.nonempty, if_false, h, stripComment_of_noComment o.noComment, String.ofList_toList]

/-- The line of an option without the blanks around it: an empty first piece leaves none behind `=`. -/
theorem trim_firstLine (o : WrittenOption) :
    ∃ value, trim o.firstLine = o.name.toList ++ ' ' :: '=' :: value ∧ trim value = o.first.toList := by
  have hname := toList_ne_nil o.nonempty
  by_cases hfirst : o.first.toList = []
  · refine ⟨[], ?_, hfirst.symm⟩
    rw [WrittenOption.firstLine, hfirst, List.append_nil,
      show o.name.toList ++ [' ', '=', ' '] = (o.name.toList ++ [' '] ++ ['=']) ++ [' '] by simp,
      trim_append_blank _ blank_space, trim_between [' '] o.neat.trimmed hname rfl (by simp), List.append_assoc]
    rfl
  · refine ⟨' ' :: o.first.toList, ?_, ?_⟩
    · rw [WrittenOption.firstLine, trim_between _ o.neat.trimmed hname o.firstNeat.trimmed hfirst, List.append_assoc]
      rfl
    · rw [← List.singleton_append, trim_blank_append blank_space, o.firstNeat.trimmed]

theorem read_firstLine (r : Reader) (n : Nat) (o : WrittenOption) :
    r.read n o.firstLine = r.flush.andThen fun r' => ⟨[], .ok { r' with pending := some ⟨n, o.name, o.first⟩ }⟩ := by
  obtain ⟨value, htrim, hvalue⟩ := trim_firstLine o
  have hread := readOption_written o hvalue
  rcases hname : o.name.toList with _ | ⟨c, cs⟩
  · exact absurd hname (toList_ne_nil o.nonempty)
  have hmark : isCommentMark c = false := by
    have := o.noSilence
    rwa [hname] at this
  have hindented : isIndented o.firstLine = false := by
    have hstart := (trim_eq_self_iff.1 o.neat.trimmed).1
    have hblank := List.head?_dropWhile_not isBlank o.name.toList
    rw [show o.name.toList.dropWhile isBlank = o.name.toList from hstart, hname] at hblank
    rw [WrittenOption.firstLine, hname]
    exact hblank
  rw [read_of_not_indented r n (by rw [htrim, hname]; exact hmark) hindented, htrim]
  congr
  funext r'
  have hheader : startsHeader (o.name.toList ++ ' ' :: '=' :: value) = false := by
    have := o.noHeader
    rw [hname] at this ⊢
    exact this
  rw [Reader.begin, hread, hheader]
  rfl

theorem read_further {r : Reader} {p : Pending} (hp : r.pending = some p) (n : Nat) (q : FurtherPiece) :
    r.read n q.line = ⟨[], .ok { r with pending := some (p.extend q.text.toList) }⟩ := by
  have htrim : trim q.line = q.text.toList := by rw [FurtherPiece.line, trim_blank_append q.blank, q.neat.trimmed]
  have hloud : isSilent q.text.toList = false := by
    rcases ht : q.text.toList with _ | ⟨c, cs⟩
    · exact absurd ht (toList_ne_nil q.nonempty)
    · have := q.noComment.start
      rwa [ht] at this
  have hcontinues : continues q.line = true := by
    rw [continues, htrim, q.noOption, Bool.not_false, Bool.and_true, FurtherPiece.line, isIndented_append q.indented]
    rcases hi : q.indent with _ | ⟨c, cs⟩
    · exact absurd hi q.indented
    · exact q.blank c (by rw [hi]; exact List.mem_cons_self)
  rw [Reader.read, htrim, hloud, hp]
  simp only [Bool.false_eq_true, if_false, hcontinues, if_true, stripComment_of_noComment q.noComment]

/-! ## (3) Runs -/

theorem readAll_further {r : Reader} {p : Pending} (hp : r.pending = some p) (n : Nat) (qs : List FurtherPiece) :
    r.readAll n (qs.map (·.line)) =
      ⟨[], .ok { r with pending := some { p with value := " ".intercalate ((p.value :: qs.map (·.text)).filter (· ≠ "")) } }⟩ := by
  induction qs generalizing r p n with
  | nil =>
    have hvalue : " ".intercalate ([p.value].filter (· ≠ "")) = p.value := by
      by_cases hv : p.value = "" <;> simp [hv]
    rw [List.map_nil, List.map_nil, hvalue, Reader.readAll, ← hp]
  | cons q qs ih =>
    rw [List.map_cons, Reader.readAll, read_further hp, silent_andThen, ih rfl, Pending.extend,
      if_neg (toList_ne_nil q.nonempty), String.ofList_toList]
    -- Joined to nothing, the piece is the value; otherwise a space stands before it.
    by_cases hv : p.value = ""
    · simp [hv]
    · simp [hv, q.nonempty]

/-- Reading an option settles what was pending above it and leaves the option pending. -/
theorem readAll_option {r r' : Reader} (h : r.flush.next = .ok r') (n : Nat) (o : WrittenOption) :
    r.readAll n o.lines = ⟨r.flush.events, .ok { r' with pending := some ⟨n, o.name, o.value⟩ }⟩ := by
  rw [WrittenOption.lines, Reader.readAll, read_firstLine, andThen_ok h, andThen_ok rfl, readAll_further rfl]
  simp [WrittenOption.value]

theorem flush_under {r : Reader} {heading : String} (h : r.heading = some heading) :
    r.flush.next = .ok ⟨some heading, none⟩ := by
  obtain ⟨_, pending⟩ := r
  subst h
  rcases pending with _ | p <;> rfl

/-- Reading the options of a section tells their values, all but the one that is pending then. -/
theorem readAll_options {r : Reader} {heading : String} (h : r.heading = some heading) (n : Nat)
    (os : List WrittenOption) :
    ∃ r', (r.readAll n (os.flatMap (·.lines))).next = .ok r' ∧ r'.heading = some heading ∧
      (r.readAll n (os.flatMap (·.lines))).events ++ r'.flush.events =
        r.flush.events ++ os.map fun o => .value heading o.name o.value := by
  induction os generalizing r n with
  | nil => exact ⟨r, rfl, h, by simp [Reader.readAll]⟩
  | cons o os ih =>
    rw [List.flatMap_cons, readAll_append, readAll_option (flush_under h), andThen_ok rfl]
    obtain ⟨r', hnext, hheading, hevents⟩ :=
      ih (r := ⟨some heading, some ⟨n, o.name, o.value⟩⟩) rfl (n + o.lines.length)
    exact ⟨r', hnext, hheading, by rw [List.append_assoc, hevents]; rfl⟩

/-- Reading a section settles what was open above it and leaves the section open. -/
theorem readAll_section {r r' : Reader} (h : r.finish.next = .ok r') (n : Nat) (s : WrittenSection) :
    ∃ r₁, (r.readAll n s.lines).next = .ok r₁ ∧ r₁.finish.next = .ok .start ∧
      (r.readAll n s.lines).events ++ r₁.finish.events = r.finish.events ++ s.meant.events := by
  obtain ⟨r₀, hflush, -⟩ := next_of_andThen h
  obtain ⟨r₁, hnext, hheading, hevents⟩ :=
    readAll_options (r := ⟨some s.heading, none⟩) rfl (n + 1) s.options
  have hread : r.readAll n s.lines =
      ⟨r.finish.events ++ .opened s.heading ::
          (Reader.readAll ⟨some s.heading, none⟩ (n + 1) (s.options.flatMap (·.lines))).events, .ok r₁⟩ := by
    rw [WrittenSection.lines, Reader.readAll, read_header, andThen_ok hflush, andThen_ok rfl, hnext, Reader.finish,
      andThen_ok hflush]
    simp
  have hfinish : r₁.finish = ⟨r₁.flush.events ++ [.closed s.heading], .ok .start⟩ := by
    rw [Reader.finish, andThen_ok (flush_under hheading)]
    rfl
  refine ⟨r₁, by rw [hread], by rw [hfinish], ?_⟩
  rw [hread, hfinish, List.append_assoc, List.cons_append, ← List.append_assoc _ r₁.flush.events, hevents]
  simp [WrittenSection.meant, Section.events, Reader.flush]

theorem traceLines_document {r r' : Reader} (h : r.finish.next = .ok r') (n : Nat) (document : List WrittenSection) :
    traceLines r n (document.flatMap (·.lines)) = (r.finish.events ++ document.flatMap (·.meant.events), none) := by
  induction document generalizing r r' n with
  | nil => simp [traceLines, h]
  | cons s document ih =>
    obtain ⟨r₁, hnext, hfinish, hevents⟩ := readAll_section h n s
    rw [List.flatMap_cons, traceLines_append hnext, ih hfinish, ← List.append_assoc, hevents, List.append_assoc]
    rfl

/-! ## (4) Texts -/

theorem lines_of_document (document : List WrittenSection) :
    ∀ l ∈ document.flatMap (·.lines), '\n' ∉ l ∧ l ≠ [] := by
  intro l hl
  obtain ⟨s, -, hl⟩ := List.mem_flatMap.1 hl
  rcases List.mem_cons.1 hl with rfl | hl
  · exact ⟨by simp [WrittenSection.header, s.neat.onLine], by simp [WrittenSection.header]⟩
  obtain ⟨o, -, hl⟩ := List.mem_flatMap.1 hl
  rcases List.mem_cons.1 hl with rfl | hl
  · exact ⟨by simp [WrittenOption.firstLine, o.neat.onLine, o.firstNeat.onLine], by simp [WrittenOption.firstLine]⟩
  obtain ⟨q, -, rfl⟩ := List.mem_map.1 hl
  exact ⟨by simp [FurtherPiece.line, q.indentOnLine, q.neat.onLine], by simp [FurtherPiece.line, q.indented]⟩

theorem trace_document (ended : Bool) (document : List WrittenSection) :
    trace (render ended document) = (document.flatMap (·.meant.events), none) := by
  have hstart : Reader.start.finish.next = .ok .start := rfl
  rw [trace_eq_traceLines, render, String.toList_ofList, lines_unlines ended (lines_of_document document),
    traceLines_document hstart]
  rfl

/-- Reading undoes writing: a document is told as its sections, one after the other, and nothing
    of it is refused. -/
theorem stream_document (ended : Bool) (document : List WrittenSection) :
    stream record [] (render ended document) = (document.flatMap (·.meant.events), none) ∧
      ∀ (σ : Type) (receive : Receiver σ) (s : σ),
        stream receive s (render ended document) = feed receive s (document.flatMap (·.meant.events)) := by
  have htrace := trace_document ended document
  constructor
  · rw [stream_record, htrace]
  · intro σ receive s
    exact stream_of_trace htrace receive s

/-- Brackets in a heading, an empty first piece, and both separators in the pieces. -/
def ownersAndReaders : List WrittenSection := [
  { heading := ":glob:/src/[a-c]/x"
    options := [
      { name := "@owners"
        first := ""
        further := [
          { indent := [' ', ' ']
            text := "DOMAIN:bob,"
            indented := by decide
            blank := List.all_eq_true.1 rfl
            indentOnLine := by decide
            neat := by decide +kernel
            nonempty := by decide
            noComment := by decide +kernel
            noOption := by decide +kernel },
          { indent := ['\t']
            text := "x:y=z#1"
            indented := by decide
            blank := List.all_eq_true.1 rfl
            indentOnLine := by decide
            neat := by decide +kernel
            nonempty := by decide
            noComment := by decide +kernel
            noOption := by decide +kernel }]
        neat := by decide +kernel
        nonempty := by decide
        noSeparator := by decide +kernel
        noHeader := by decide +kernel
        noSilence := by decide +kernel
        firstNeat := by decide +kernel
        noComment := by decide +kernel }]
    neat := by decide +kernel
    nonempty := by decide
    noEarlyEnd := by decide +kernel },
  { heading := "readers"
    options := []
    neat := by decide +kernel
    nonempty := by decide
    noEarlyEnd := by decide +kernel }]

theorem stream_ownersAndReaders :
    render false ownersAndReaders = "[:glob:/src/[a-c]/x]\n@owners = \n  DOMAIN:bob,\n\tx:y=z#1\n[readers]" ∧
      stream record [] (render false ownersAndReaders) =
        ([.opened ":glob:/src/[a-c]/x", .value ":glob:/src/[a-c]/x" "@owners" "DOMAIN:bob, x:y=z#1",
          .closed ":glob:/src/[a-c]/x", .opened "readers", .closed "readers"], none) := by
  refine ⟨by decide +kernel, ?_⟩
  rw [(stream_document false ownersAndReaders).1]
  decide +kernel

end PathAuthz.Source
