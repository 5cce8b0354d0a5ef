/-
  PathAuthz.Proofs.Source.Layout — what of a text its receiver cannot see.

  (1) `LayoutChange` puts one silent line into a text, or blanks at the end of one of its lines, or
  ends a line with CR LF. Any layout is reached by a chain of changes.

  (2) `said` is what is left of a text without its silent lines and without the blanks at the ends
  of the others. A layout change keeps it (`said_of_layoutChange`), also between an option and
  the lines that continue it.

  (3) A run over lines without their numbers reads no more than that (`readAll_unnumbered`): a silent
  line leaves the reader as it is, and with it the option that is pending there. So what a text
  says is all that its trace depends on, line numbers aside (`trace_unnumbered`).

  (4) Every receiver is called with the same events and left in the same state whatever the layout,
  and the error is the same up to its line number (`stream_of_layout`).
-/

import Mathlib.Logic.Relation
import PathAuthz.Proofs.Source.Calls
import PathAuthz.Proofs.Source.Numbering

namespace PathAuthz

/-- A fault without its line number. -/
def LoadError.unnumbered (err : LoadError) : LoadError := err.renumber fun _ => 0

namespace Source

open Text

/-! ## (1) Changes -/

/-- Whether a text starts with the end of a line. -/
inductive AtLineEnd : List Char → Prop
  | ofText : AtLineEnd []
  | lineFeed (rest : List Char) : AtLineEnd ('\n' :: rest)
  | carriageReturn (rest : List Char) : AtLineEnd ('\r' :: '\n' :: rest)

/-- The second text is the first one with one change of its layout. -/
inductive LayoutChange : List Char → List Char → Prop
  /-- A silent line before or behind another one. -/
  | silentLine (above line below : List Char) : EndsLine above → '\n' ∉ line → isSilent (trim line) = true →
      LayoutChange (above ++ below) (above ++ (line ++ '\n' :: below))
  /-- A silent line that ends with the text. -/
  | silentEnd (above line : List Char) : EndsLine above → '\n' ∉ line → isSilent (trim line) = true →
      LayoutChange above (above ++ line)
  | blanks (above blanks below : List Char) : (∀ c ∈ blanks, isBlank c = true) → AtLineEnd below →
      LayoutChange (above ++ below) (above ++ (blanks ++ below))
  | carriageReturn (above below : List Char) : LayoutChange (above ++ '\n' :: below) (above ++ '\r' :: '\n' :: below)

/-! ## (2) What is said -/

/-- The lines that are not silent, without the blanks at their ends. -/
def loud (lines : List (List Char)) : List (List Char) := (lines.filter fun l => !isSilent (trim l)).map trimEnd

def said (text : List Char) : List (List Char) := loud (pieces '\n' text)

theorem loud_append (ls ls' : List (List Char)) : loud (ls ++ ls') = loud ls ++ loud ls' := by
  rw [loud, List.filter_append, List.map_append, ← loud, ← loud]

theorem loud_silent {line : List Char} (h : isSilent (trim line) = true) : loud [line] = [] := by
  rw [loud, List.filter_cons_of_neg (by simp [h])]
  rfl

theorem loud_append_blanks (line : List Char) {blanks : List Char} (h : ∀ c ∈ blanks, isBlank c = true) :
    loud [line ++ blanks] = loud [line] := by
  simp only [loud, List.filter_cons, List.filter_nil, trim_append_blank line h]
  split
  · rw [List.map_singleton, List.map_singleton, trimEnd_append_of_blank line h]
  · rfl

theorem said_eq_loud_lines (text : List Char) : said text = loud (lines text) := by
  rw [said]
  rcases pieces_eq_lines text with h | h
  · rw [h]
  · rw [h, loud_append, loud_silent rfl, List.append_nil]

/-- What stands before a line feed is said before what stands behind it. -/
theorem said_lineFeed (above below : List Char) : said (above ++ '\n' :: below) = said above ++ said below := by
  rw [said, pieces_append, loud_append, ← said, ← said]

theorem said_append {above : List Char} (h : EndsLine above) (below : List Char) :
    said (above ++ below) = said above ++ said below := by
  rw [said_eq_loud_lines, lines_append h, loud_append, ← said_eq_loud_lines, ← said_eq_loud_lines]

theorem said_silent {line : List Char} (hline : '\n' ∉ line) (h : isSilent (trim line) = true) : said line = [] := by
  rw [said, pieces_eq_singleton hline, loud_silent h]

/-- Blanks behind a text are either at the end of its last line, or silent lines. -/
theorem said_append_blanks (text : List Char) {blanks : List Char} (h : ∀ c ∈ blanks, isBlank c = true) :
    said (text ++ blanks) = said text := by
  induction blanks generalizing text with
  | nil => rw [List.append_nil]
  | cons c cs ih =>
    obtain ⟨hc, hcs⟩ := List.forall_mem_cons.1 h
    rw [List.append_cons, ih (text ++ [c]) hcs]
    by_cases hfeed : c = '\n'
    · rw [hfeed, said_lineFeed]
      exact List.append_nil _
    · obtain ⟨front, last, htext, hmore⟩ :=
        pieces_append_of_not_mem text (List.not_mem_cons_of_ne_of_not_mem (Ne.symm hfeed) List.not_mem_nil)
      rw [said, said, htext, hmore, loud_append, loud_append,
        loud_append_blanks last (List.forall_mem_singleton.2 hc)]

theorem said_blanks (above : List Char) {blanks below : List Char} (h : ∀ c ∈ blanks, isBlank c = true)
    (hend : AtLineEnd below) : said (above ++ (blanks ++ below)) = said (above ++ below) := by
  rw [← List.append_assoc]
  cases hend with
  | ofText => rw [List.append_nil, List.append_nil, said_append_blanks above h]
  | lineFeed rest => rw [said_lineFeed, said_lineFeed, said_append_blanks above h]
  | carriageReturn rest =>
    have hreturn : ∀ c ∈ ['\r'], isBlank c = true := List.forall_mem_singleton.2 rfl
    rw [List.append_cons, List.append_cons above, said_lineFeed, said_lineFeed, said_append_blanks _ hreturn,
      said_append_blanks _ hreturn, said_append_blanks above h]

theorem said_of_layoutChange {text text' : List Char} (h : LayoutChange text text') : said text' = said text := by
  cases h with
  | silentLine above line below habove hline hsilent =>
    rw [said_append habove, said_append habove, said_lineFeed, said_silent hline hsilent, List.nil_append]
  | silentEnd above line habove hline hsilent => rw [said_append habove, said_silent hline hsilent, List.append_nil]
  | blanks above blanks below hblanks hend => exact said_blanks above hblanks hend
  | carriageReturn above below =>
    exact said_blanks above (List.forall_mem_singleton.2 rfl) (AtLineEnd.lineFeed below)

theorem said_of_layout {text text' : List Char} (h : Relation.ReflTransGen LayoutChange text text') :
    said text' = said text := by
  induction h with
  | refl => rfl
  | tail _ hchange ih => rw [said_of_layoutChange hchange, ih]

/-! ## (3) Runs without line numbers -/

def Step.unnumbered (s : Step) : Step := s.renumber fun _ => 0

def Reader.unnumbered (r : Reader) : Reader := r.renumber fun _ => 0

/-- Read some lines as if each were line 0. -/
def Reader.readEach (r : Reader) : List (List Char) → Step
  | [] => ⟨[], .ok r⟩
  | line :: rest => (r.read 0 line).andThen fun r' => r'.readEach rest

theorem read_trimEnd (r : Reader) (n : Nat) (line : List Char) : r.read n (trimEnd line) = r.read n line := by
  obtain ⟨blanks, hline, hblanks⟩ := exists_dropTail_append isBlank line
  have hread := read_append_blank r n (trimEnd line) hblanks
  rw [trimEnd, ← hline] at hread
  exact hread.symm

theorem readAll_unnumbered (r : Reader) (n : Nat) (lines : List (List Char)) :
    (r.readAll n lines).unnumbered = r.unnumbered.readEach (loud lines) := by
  induction lines generalizing r n with
  | nil => rfl
  | cons line rest ih =>
    rw [Reader.readAll, ← List.singleton_append, loud_append]
    by_cases hs : isSilent (trim line) = true
    · rw [Reader.read, if_pos hs, silent_andThen, loud_silent hs, List.nil_append, ih]
    · have hline : loud [line] = [trimEnd line] := by
        rw [loud, List.filter_cons_of_pos (by simp [hs])]
        rfl
      rw [hline, List.singleton_append, Reader.readEach, read_trimEnd, Reader.unnumbered,
        Reader.read_renumber (fun _ => 0) r n line]
      exact (andThen_renumber (fun r' => (ih r' (n + 1)).symm) _).symm

theorem trace_unnumbered (text : String) :
    ((trace text).1, (trace text).2.map (·.unnumbered)) =
      ((Reader.start.readEach (said text.toList)).andThen (·.finish)).told := by
  have hread := readAll_unnumbered .start 1 (lines text.toList)
  rw [trace_eq_told, said_eq_loud_lines]
  refine (told_renumber (fun _ => 0) _).symm.trans ?_
  rw [← andThen_renumber (Reader.finish_renumber fun _ => 0)]
  exact congrArg (fun s => (s.andThen (·.finish)).told) hread

/-! ## (4) Receivers -/

/-- Layout carries no meaning: whatever silent lines, blanks at line ends and carriage returns before line
    feeds are put into a text, its receiver is called alike and answers alike, and the text ends with the
    same error on another line, or with none. -/
theorem stream_of_layout {text text' : String}
    (h : Relation.ReflTransGen LayoutChange text.toList text'.toList) {σ : Type} (receive : Receiver σ) (s : σ) :
    calls receive s text' = calls receive s text ∧
      (stream receive s text').1 = (stream receive s text).1 ∧
      (stream receive s text').2.map (·.unnumbered) = (stream receive s text).2.map (·.unnumbered) := by
  have htrace := trace_unnumbered text'
  rw [said_of_layout h, ← trace_unnumbered] at htrace
  obtain ⟨hevents, hfault⟩ := Prod.mk.inj htrace
  refine ⟨by rw [calls_eq, calls_eq, hevents], ?_, ?_⟩
  · rw [stream_eq_feed, stream_eq_feed, endWith, endWith, hevents]
  · rw [stream_eq_feed, stream_eq_feed, endWith, endWith, hevents, Option.map_or, Option.map_or, hfault]

/-- A comment between an option and the line that continues it, a CR LF, and blanks behind a line with a fault. -/
theorem stream_of_layout_commented :
    let text := "[groups]\nteam = harry,\n  sally\nbroken"
    let text' := "[groups]\r\nteam = harry,\n\t; who else\n  sally\nbroken \t"
    Relation.ReflTransGen LayoutChange text.toList text'.toList ∧
      calls record [] text' = [.taken (.opened "groups"), .taken (.value "groups" "team" "harry, sally")] ∧
      (stream record [] text').2.map (·.unnumbered) = some (.malformedLine 0 (.missingSeparator "broken")) := by
  intro text text'
  have hreturn := LayoutChange.carriageReturn "[groups]".toList "team = harry,\n  sally\nbroken".toList
  have hcomment := LayoutChange.silentLine "[groups]\r\nteam = harry,\n".toList "\t; who else".toList
    "  sally\nbroken".toList (by decide +kernel) (by decide +kernel) (by decide +kernel)
  have hblanks := LayoutChange.blanks "[groups]\r\nteam = harry,\n\t; who else\n  sally\nbroken".toList [' ', '\t'] []
    (List.all_eq_true.1 rfl) AtLineEnd.ofText
  -- Each change starts where the one before it ends.
  have htext : "[groups]".toList ++ '\n' :: "team = harry,\n  sally\nbroken".toList = text.toList := by decide +kernel
  have hreturned : "[groups]".toList ++ '\r' :: '\n' :: "team = harry,\n  sally\nbroken".toList =
      "[groups]\r\nteam = harry,\n".toList ++ "  sally\nbroken".toList := by decide +kernel
  have hcommented : "[groups]\r\nteam = harry,\n".toList ++ ("\t; who else".toList ++ '\n' :: "  sally\nbroken".toList) =
      "[groups]\r\nteam = harry,\n\t; who else\n  sally\nbroken".toList ++ [] := by decide +kernel
  have htext' : "[groups]\r\nteam = harry,\n\t; who else\n  sally\nbroken".toList ++ ([' ', '\t'] ++ []) =
      text'.toList := by decide +kernel
  rw [htext, hreturned] at hreturn
  rw [hcommented] at hcomment
  rw [htext'] at hblanks
  have hlayout := ((Relation.ReflTransGen.single hreturn).tail hcomment).tail hblanks
  obtain ⟨hcalls, -, herror⟩ := stream_of_layout hlayout record []
  exact ⟨hlayout, hcalls.trans (by decide +kernel), herror.trans (by decide +kernel)⟩

end Source

end PathAuthz
