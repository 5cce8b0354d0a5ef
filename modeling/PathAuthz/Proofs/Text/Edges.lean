/-
  PathAuthz.Proofs.Text.Edges — trimming, cutting and splitting texts that are put together.

  (1) `dropTail_append` says what is dropped from a text that goes on: something of the first
  part only if nothing is left of the second.

  (2) `trim` looks at both ends. Blanks put around a text change nothing (`trim_blank_append`,
  `trim_append_blank`); a text between two trimmed ones is kept whole (`trim_between`).

  (3) A cut of the first part is a cut of the whole (`cut_append_of_some`). The parts of a cut at
  the last separator make up the text again (`cutLast_eq_some`).

  (4) Pieces: those of a text around a separator are those before it and those behind it
  (`pieces_append`). With a separator before each they make up the text again (`flatMap_pieces`),
  and pieces written that way are found again (`pieces_flatMap`). One of them is empty iff two
  separators meet or one stands at an end (`nil_mem_pieces_iff`).

  (5) Lines are pieces between line feeds (`pieces_eq_lines`). What stands before a line feed is
  split by itself (`lines_append`), and `unlines` writes lines that `lines` reads back
  (`lines_unlines`).
-/

import Mathlib.Data.List.Induction
import Mathlib.Data.List.TakeWhile
import PathAuthz.Text

namespace PathAuthz.Text

/-! ## (1) Dropping a tail -/

variable {p : Char → Bool}

theorem dropTail_cons (c : Char) (cs : List Char) :
    dropTail p (c :: cs) = if p c = true ∧ dropTail p cs = [] then [] else c :: dropTail p cs := by
  rw [dropTail]
  rcases dropTail p cs with _ | ⟨d, ds⟩
  · by_cases hc : p c = true <;> simp [hc]
  · simp

@[simp] theorem dropTail_eq_nil_iff {s : List Char} : dropTail p s = [] ↔ ∀ c ∈ s, p c = true := by
  induction s with
  | nil => simp [dropTail]
  | cons c cs ih =>
    rw [dropTail_cons, List.forall_mem_cons, ← ih]
    by_cases h : p c = true ∧ dropTail p cs = []
    · rw [if_pos h, eq_self_iff_true, true_iff]
      exact h
    · rw [if_neg h]
      exact iff_of_false (by simp) h

theorem dropTail_append (a b : List Char) :
    dropTail p (a ++ b) = if dropTail p b = [] then dropTail p a else a ++ dropTail p b := by
  induction a with
  | nil => by_cases h : dropTail p b = [] <;> simp [h, dropTail]
  | cons c cs ih =>
    rw [List.cons_append, dropTail_cons, ih]
    by_cases h : dropTail p b = []
    · rw [if_pos h, if_pos h, dropTail_cons]
    · simp [h]

/-- What is dropped satisfies `p`. -/
theorem exists_dropTail_append (p : Char → Bool) (s : List Char) :
    ∃ dropped, s = dropTail p s ++ dropped ∧ ∀ c ∈ dropped, p c = true := by
  induction s with
  | nil => exact ⟨[], rfl, by simp⟩
  | cons c cs ih =>
    rw [dropTail_cons]
    split
    · rename_i h
      exact ⟨c :: cs, rfl, List.forall_mem_cons.2 ⟨h.1, dropTail_eq_nil_iff.1 h.2⟩⟩
    · obtain ⟨dropped, hs, hd⟩ := ih
      exact ⟨dropped, by rw [List.cons_append, ← hs], hd⟩

theorem length_dropTail_le (s : List Char) : (dropTail p s).length ≤ s.length := by
  obtain ⟨dropped, hs, -⟩ := exists_dropTail_append p s
  have := congrArg List.length hs
  rw [List.length_append] at this
  omega

/-! ## (2) Trimming -/

theorem trimStart_eq_nil_iff {s : List Char} : trimStart s = [] ↔ ∀ c ∈ s, isBlank c = true := List.dropWhile_eq_nil_iff

theorem trimStart_append (s t : List Char) :
    trimStart (s ++ t) = if trimStart s = [] then trimStart t else trimStart s ++ t := by
  by_cases h : s.dropWhile isBlank = [] <;> simp [trimStart, List.dropWhile_append, h]

theorem trimEnd_append_of_ne_nil (s : List Char) {t : List Char} (h : trimEnd t ≠ []) :
    trimEnd (s ++ t) = s ++ trimEnd t := by
  rw [trimEnd, dropTail_append]
  exact if_neg h

theorem trimEnd_append_of_blank (s : List Char) {t : List Char} (h : ∀ c ∈ t, isBlank c = true) :
    trimEnd (s ++ t) = trimEnd s := by
  rw [trimEnd, dropTail_append, if_pos (dropTail_eq_nil_iff.2 h), trimEnd]

/-- Only blanks are trimmed. -/
theorem exists_trim_append (s : List Char) :
    ∃ lead trail, s = lead ++ trim s ++ trail ∧ (∀ c ∈ lead, isBlank c = true) ∧ ∀ c ∈ trail, isBlank c = true := by
  obtain ⟨trail, hs, htrail⟩ := exists_dropTail_append isBlank (trimStart s)
  refine ⟨s.takeWhile isBlank, trail, ?_, fun c hc => List.mem_takeWhile_imp hc, htrail⟩
  rw [List.append_assoc, trim, trimEnd, ← hs]
  exact List.takeWhile_append_dropWhile.symm

theorem trimEnd_trim (s : List Char) : trimEnd (trim s) = trim s := by
  obtain ⟨trail, hs, htrail⟩ := exists_dropTail_append isBlank (trimStart s)
  rw [← trimEnd_append_of_blank (trim s) htrail]
  exact congrArg trimEnd hs.symm

theorem trim_eq_nil_iff {s : List Char} : trim s = [] ↔ trimStart s = [] := by
  constructor
  · intro h
    rw [trim, trimEnd, dropTail_eq_nil_iff] at h
    -- What is left in front starts with no blank, so it is empty if it holds nothing else.
    rcases hs : trimStart s with _ | ⟨c, cs⟩
    · rfl
    · have hc := List.head?_dropWhile_not isBlank s
      rw [show s.dropWhile isBlank = c :: cs from hs] at hc
      rw [hs] at h
      simp [h c List.mem_cons_self] at hc
  · intro h; rw [trim, h]; rfl

/-- A trimmed text has no blank at either end. -/
theorem trim_eq_self_iff {s : List Char} : trim s = s ↔ trimStart s = s ∧ trimEnd s = s := by
  refine ⟨fun h => ?_, fun ⟨hs, he⟩ => by rw [trim, hs, he]⟩
  have hlen : s.length ≤ (trimStart s).length :=
    calc s.length = (trim s).length := by rw [h]
      _ ≤ (trimStart s).length := length_dropTail_le (trimStart s)
  have hs : trimStart s = s := (List.dropWhile_suffix isBlank).eq_of_length_le hlen
  exact ⟨hs, by rw [trim, hs] at h; exact h⟩

theorem trim_blank_append {blanks : List Char} (h : ∀ c ∈ blanks, isBlank c = true) (s : List Char) :
    trim (blanks ++ s) = trim s := by
  rw [trim, trimStart_append, if_pos (trimStart_eq_nil_iff.2 h), trim]

theorem trim_append_blank (s : List Char) {blanks : List Char} (h : ∀ c ∈ blanks, isBlank c = true) :
    trim (s ++ blanks) = trim s := by
  rw [trim, trim, trimStart_append]
  split
  · rename_i hs
    rw [trimStart_eq_nil_iff.2 h, hs]
  · exact trimEnd_append_of_blank _ h

/-- A text is kept whole from a trimmed text at its front to one at its end. -/
theorem trim_between {a b : List Char} (m : List Char) (ha : trim a = a) (hane : a ≠ []) (hb : trim b = b)
    (hbne : b ≠ []) : trim (a ++ m ++ b) = a ++ m ++ b := by
  have hstart := (trim_eq_self_iff.1 ha).1
  have hend := (trim_eq_self_iff.1 hb).2
  rw [trim, List.append_assoc, trimStart_append, hstart, if_neg hane, ← List.append_assoc,
    trimEnd_append_of_ne_nil _ (by rw [hend]; exact hbne), hend]

/-! ## (3) Cutting -/

theorem cut_eq_none_iff {s : List Char} : cut p s = none ↔ ∀ c ∈ s, p c = false := by
  induction s with
  | nil => simp [cut]
  | cons c cs ih =>
    rw [cut, List.forall_mem_cons, ← ih]
    by_cases hc : p c = true <;> simp [hc]

theorem cut_append_of_some {s a b : List Char} {d : Char} (h : cut p s = some (a, d, b)) (t : List Char) :
    cut p (s ++ t) = some (a, d, b ++ t) := by
  induction s generalizing a with
  | nil => simp [cut] at h
  | cons c cs ih =>
    rw [List.cons_append, cut]
    rw [cut] at h
    by_cases hc : p c = true
    · rw [if_pos hc] at h ⊢
      cases h
      rfl
    · rw [if_neg hc, Option.map_eq_some_iff] at h
      rw [if_neg hc]
      obtain ⟨⟨a', d', b'⟩, hcs, he⟩ := h
      cases he
      rw [ih hcs, Option.map_some]

theorem cut_append_of_not {s : List Char} (h : ∀ c ∈ s, p c = false) (t : List Char) :
    cut p (s ++ t) = (cut p t).map fun (a, d, b) => (s ++ a, d, b) := by
  induction s with
  | nil => simp
  | cons c cs ih =>
    obtain ⟨hc, hcs⟩ := List.forall_mem_cons.1 h
    rw [List.cons_append, cut, if_neg (by simp [hc]), ih hcs, Option.map_map]
    rfl

theorem cutLast_eq_some {sep : Char} {s a b : List Char} (h : cutLast sep s = some (a, b)) : s = a ++ sep :: b := by
  induction s generalizing a with
  | nil => cases h
  | cons c cs ih =>
    unfold cutLast at h
    split at h
    · rename_i hcut
      cases h
      rw [ih hcut, List.cons_append]
    · by_cases hc : c = sep
      · rw [if_pos hc] at h
        cases h
        rw [hc, List.nil_append]
      · rw [if_neg hc] at h
        cases h

/-! ## (4) Pieces -/

variable {sep : Char}

theorem pieces_append (sep : Char) (a b : List Char) : pieces sep (a ++ sep :: b) = pieces sep a ++ pieces sep b := by
  induction a with
  | nil => simp [pieces]
  | cons c cs ih =>
    rw [List.cons_append, pieces, pieces, ih]
    by_cases hc : c = sep
    · rw [if_pos hc, if_pos hc, List.cons_append]
    · rw [if_neg hc, if_neg hc]
      rcases hp : pieces sep cs with _ | ⟨p, ps⟩
      · exact absurd hp (pieces_ne_nil sep cs)
      · rfl

theorem pieces_eq_singleton {s : List Char} (h : sep ∉ s) : pieces sep s = [s] := by
  induction s with
  | nil => rfl
  | cons c cs ih =>
    rw [List.mem_cons, not_or] at h
    obtain ⟨hc, hcs⟩ := h
    rw [pieces, if_neg (Ne.symm hc), ih hcs]

theorem not_mem_of_mem_pieces {s p : List Char} (h : p ∈ pieces sep s) : sep ∉ p := by
  induction s generalizing p with
  | nil =>
    rw [pieces, List.mem_singleton] at h
    rw [h]
    exact List.not_mem_nil
  | cons c cs ih =>
    rw [pieces] at h
    by_cases hc : c = sep
    · rw [if_pos hc, List.mem_cons] at h
      rcases h with rfl | h
      · exact List.not_mem_nil
      · exact ih h
    · rw [if_neg hc] at h
      rcases hp : pieces sep cs with _ | ⟨q, qs⟩
      · exact absurd hp (pieces_ne_nil sep cs)
      · rw [hp] at h ih
        rcases List.mem_cons.1 h with rfl | h
        · rw [List.mem_cons, not_or]
          exact ⟨Ne.symm hc, ih List.mem_cons_self⟩
        · exact ih (List.mem_cons_of_mem _ h)

/-- What holds no separator goes to the last piece of the text before it. -/
theorem pieces_append_of_not_mem (s : List Char) {t : List Char} (h : sep ∉ t) :
    ∃ front last, pieces sep s = front ++ [last] ∧ pieces sep (s ++ t) = front ++ [last ++ t] := by
  induction s with
  | nil => exact ⟨[], [], rfl, pieces_eq_singleton h⟩
  | cons c cs ih =>
    obtain ⟨front, last, hcs, hcst⟩ := ih
    rw [List.cons_append, pieces, pieces, hcs, hcst]
    by_cases hc : c = sep
    · rw [if_pos hc, if_pos hc]
      exact ⟨[] :: front, last, rfl, rfl⟩
    · rw [if_neg hc, if_neg hc]
      -- The character goes to the first piece, which may be the last one too.
      cases front with
      | nil => exact ⟨[], c :: last, rfl, rfl⟩
      | cons p ps => exact ⟨(c :: p) :: ps, last, rfl, rfl⟩

/-- The pieces of a text with the separator before each of them make up the text behind one more separator. -/
theorem flatMap_pieces (sep : Char) (s : List Char) : (pieces sep s).flatMap (sep :: ·) = sep :: s := by
  induction s with
  | nil => rfl
  | cons c cs ih =>
    unfold pieces
    by_cases hc : c = sep
    · rw [if_pos hc, List.flatMap_cons, ih, hc]
      rfl
    · rw [if_neg hc]
      rcases hp : pieces sep cs with _ | ⟨p, ps⟩
      · exact absurd hp (pieces_ne_nil sep cs)
      · -- The first piece takes the character; the others stay.
        rw [hp, List.flatMap_cons, List.cons_append, List.cons.injEq] at ih
        rw [List.flatMap_cons, List.cons_append, List.cons_append, ih.2]

theorem mem_of_mem_pieces {s p : List Char} {c : Char} (hp : p ∈ pieces sep s) (hc : c ∈ p) : c ∈ s := by
  have hmem : c ∈ (pieces sep s).flatMap (sep :: ·) := List.mem_flatMap.mpr ⟨p, hp, List.mem_cons_of_mem _ hc⟩
  rw [flatMap_pieces, List.mem_cons] at hmem
  exact hmem.resolve_left fun he => not_mem_of_mem_pieces hp (he ▸ hc)

/-- Pieces written behind a separator each are found again, behind the empty one in front. -/
theorem pieces_flatMap {ps : List (List Char)} (h : ∀ p ∈ ps, sep ∉ p) : pieces sep (ps.flatMap (sep :: ·)) = [] :: ps := by
  induction ps using List.reverseRecOn with
  | nil => rfl
  | append_singleton ps p ih =>
    rw [List.flatMap_append, List.flatMap_singleton, pieces_append, ih fun q hq => h q (List.mem_append_left _ hq),
      pieces_eq_singleton (h p (List.mem_append_right _ List.mem_cons_self)), List.cons_append]

theorem infix_append_iff {p rest : List Char} (h : sep ∉ p) : [sep, sep] <:+: p ++ rest ↔ [sep, sep] <:+: rest := by
  induction p with
  | nil => rfl
  | cons c cs ih =>
    rw [List.mem_cons, not_or] at h
    rw [List.cons_append, List.infix_cons_iff, ih h.2, List.cons_prefix_cons]
    exact or_iff_right fun hprefix => h.1 hprefix.1

/-- In texts behind a separator each, with one more at the end, two separators meet iff one of the texts is empty. -/
theorem infix_flatMap_iff {ps : List (List Char)} (h : ∀ p ∈ ps, sep ∉ p) :
    [sep, sep] <:+: ps.flatMap (sep :: ·) ++ [sep] ↔ [] ∈ ps := by
  induction ps with
  | nil => simp [List.infix_cons_iff]
  | cons p ps ih =>
    obtain ⟨hp, hps⟩ := List.forall_mem_cons.1 h
    obtain ⟨rest, hrest⟩ : ∃ rest, ps.flatMap (sep :: ·) ++ [sep] = sep :: rest := by
      cases ps with
      | nil => exact ⟨[], rfl⟩
      | cons q qs => exact ⟨_, rfl⟩
    -- The first separator meets the next one iff nothing stands between them.
    have hfirst : [sep] <+: p ++ sep :: rest ↔ [] = p := by
      cases p with
      | nil => simp
      | cons c cs =>
        rw [List.mem_cons, not_or] at hp
        simp [hp.1]
    rw [List.flatMap_cons, List.append_assoc, List.cons_append, List.infix_cons_iff, infix_append_iff hp, ih hps,
      List.cons_prefix_cons, hrest, hfirst, List.mem_cons, eq_self_iff_true, true_and]

/-- A piece is empty iff two separators meet, or one stands at an end. -/
theorem nil_mem_pieces_iff {s : List Char} : [] ∈ pieces sep s ↔ [sep, sep] <:+: sep :: s ++ [sep] := by
  rw [← flatMap_pieces sep s, infix_flatMap_iff fun p hp => not_mem_of_mem_pieces hp]

theorem infix_snoc_iff {s : List Char} : [sep, sep] <:+: s ++ [sep] ↔ [sep, sep] <:+: s ∨ s.getLast? = some sep := by
  rw [List.infix_concat_iff, or_comm, List.suffix_concat_iff]
  refine or_congr_right ?_
  constructor
  · intro h
    rcases h with hnil | ⟨t, ht, hsuffix⟩
    · cases hnil
    · have hone : [sep] = t := (List.append_inj' (show [sep] ++ [sep] = t ++ [sep] from ht) rfl).1
      rw [← hone] at hsuffix
      obtain ⟨front, rfl⟩ := hsuffix
      exact List.getLast?_concat
  · intro h
    obtain ⟨front, rfl⟩ := List.getLast?_eq_some_iff.1 h
    exact Or.inr ⟨[sep], rfl, front, rfl⟩

/-! ## (5) Lines -/

theorem lines_line (l rest : List Char) (h : '\n' ∉ l) : lines (l ++ '\n' :: rest) = l :: lines rest := by
  induction l with
  | nil => simp [lines]
  | cons c cs ih =>
    rw [List.mem_cons, not_or] at h
    obtain ⟨hc, hcs⟩ := h
    rw [List.cons_append, lines, if_neg (Ne.symm hc), ih hcs]

theorem lines_last (l : List Char) (h : '\n' ∉ l) (hne : l ≠ []) : lines l = [l] := by
  induction l with
  | nil => exact absurd rfl hne
  | cons c cs ih =>
    rw [List.mem_cons, not_or] at h
    obtain ⟨hc, hcs⟩ := h
    rw [lines, if_neg (Ne.symm hc)]
    rcases cs with _ | ⟨d, ds⟩
    · rfl
    · rw [ih hcs (by simp)]

/-- The lines of a text are its pieces between line feeds, but for an empty one at the end. -/
theorem pieces_eq_lines (s : List Char) : pieces '\n' s = lines s ∨ pieces '\n' s = lines s ++ [[]] := by
  induction s with
  | nil => exact Or.inr rfl
  | cons c cs ih =>
    rw [pieces, lines]
    by_cases hc : c = '\n'
    · rw [if_pos hc, if_pos hc]
      rcases ih with ih | ih
      · exact Or.inl (by rw [ih])
      · exact Or.inr (by rw [ih, List.cons_append])
    · rw [if_neg hc, if_neg hc]
      rcases ih with ih | ih
      · rw [ih]
        rcases hl : lines cs with _ | ⟨l, ls⟩
        · exact absurd (ih.trans hl) (pieces_ne_nil '\n' cs)
        · exact Or.inl rfl
      · rw [ih]
        cases lines cs with
        | nil => exact Or.inl rfl
        | cons l ls => exact Or.inr rfl

/-- Whether a text stops between two lines. -/
def EndsLine (s : List Char) : Prop := ∀ c ∈ s.getLast?, c = '\n'

instance (s : List Char) : Decidable (EndsLine s) :=
  decidable_of_iff (s.getLast?.all (· == '\n') = true) (by simp [EndsLine, Option.all_eq_true])

theorem lines_append {a : List Char} (h : EndsLine a) (b : List Char) : lines (a ++ b) = lines a ++ lines b := by
  induction a with
  | nil => rfl
  | cons c cs ih =>
    have hcs : EndsLine cs := by
      rcases cs with _ | ⟨d, ds⟩
      · simp [EndsLine]
      · rwa [EndsLine, List.getLast?_cons_cons] at h
    rw [List.cons_append, lines, lines, ih hcs]
    by_cases hc : c = '\n'
    · rw [if_pos hc, if_pos hc, List.cons_append]
    · rw [if_neg hc, if_neg hc]
      rcases hl : lines cs with _ | ⟨l, ls⟩
      · -- `c` is the last character then, and no line feed.
        have hnil : cs = [] := by
          rcases cs with _ | ⟨d, ds⟩
          · rfl
          · rw [lines] at hl
            split at hl
            · cases hl
            · split at hl <;> cases hl
        subst hnil
        exact absurd (h c rfl) hc
      · rfl

/-- The text of some lines. Each is ended by a line feed; `ended` says whether the last one is. -/
def unlines (ended : Bool) : List (List Char) → List Char
  | [] => []
  | [l] => if ended then l ++ ['\n'] else l
  | l :: ls => l ++ '\n' :: unlines ended ls

theorem lines_unlines (ended : Bool) {ls : List (List Char)} (h : ∀ l ∈ ls, '\n' ∉ l ∧ l ≠ []) :
    lines (unlines ended ls) = ls := by
  induction ls with
  | nil => rfl
  | cons l ls ih =>
    obtain ⟨⟨hl, hne⟩, hls⟩ := List.forall_mem_cons.1 h
    rcases ls with _ | ⟨l', ls⟩
    · cases ended with
      | true => exact lines_line l [] hl
      | false => exact lines_last l hl hne
    · rw [unlines, lines_line l _ hl, ih hls]
      · simp

end PathAuthz.Text
