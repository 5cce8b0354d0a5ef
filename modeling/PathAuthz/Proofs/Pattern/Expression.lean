/-
  PathAuthz.Proofs.Pattern.Expression — a glob accepts what its expression finds.

  (1) A character that an expression has no other use for, or that stands behind a backslash, is
  read as itself (`element?_quote`). The class of a bracket expression ends at its own `]`, is
  negated if the bracket expression is, and has its set (`element?_toClass`).

  (2) So an expression is read as the pieces of its glob between two ends, and cannot be read if
  the glob has none (`elements?_expression`). A `.` that stands for `?` is no `.*`, since nothing
  in a translated glob starts with a star (`translate_ne_star`).

  (3) Between two ends, pieces are found where they cover the whole text (`found_anchored`).

  Together: the expression of a glob that compiles finds something in just the texts that the glob
  accepts (`accepts_iff_found`), and a glob is malformed if its expression cannot be read
  (`malformed_iff_unreadable`).
-/

import PathAuthz.Pattern.Expression
import PathAuthz.Proofs.Pattern.Sets

namespace PathAuthz.Pattern

/-! ## (1) One element -/

theorem element?_quote (c : Char) (cs : List Char) : element? (quote c ++ cs) = some (.piece (.exactly c), cs) := by
  unfold quote
  split
  · rename_i hmeta
    show element? ('\\' :: c :: cs) = _
    rw [element?, if_pos hmeta]
  · rename_i hmeta
    show element? (c :: cs) = _
    unfold element?
    split
    case h_1 h => cases h
    case h_8 h =>
      cases h
      exact if_neg hmeta
    all_goals
      rename_i h
      cases h
      exact absurd rfl hmeta

section

variable {ms : List Member} {c : Char}

theorem not_isClassMark_of_mem (h : .plain c ∈ ms.map Member.quoted) : isClassMark c = false := by
  obtain ⟨m, -, hm⟩ := List.mem_map.1 h
  exact Member.of_quoted_eq_plain hm

theorem areClosed_quoted (ms : List Member) : Bracket.AreClosed (ms.map Member.quoted) := by
  intro c hc
  have hmark := not_isClassMark_of_mem hc
  refine ⟨?_, ?_⟩
  · intro he
    subst he
    cases hmark
  · intro he
    subst he
    cases hmark

theorem not_isForeign_quoted (m : Member) : m.quoted.isForeign = false := by
  rcases hm : m.quoted with c | c
  · have hmark := Member.of_quoted_eq_plain hm
    simp only [isClassMark, List.contains_eq_mem, List.mem_cons, List.not_mem_nil, or_false, decide_eq_false_iff_not,
      not_or] at hmark
    simp [Member.isForeign, hmark]
  · rfl

end

/-- The class of members that are no marks ends behind them. -/
theorem cutClass_quoted {ms : List Member} (h : ms ≠ []) (negated : Bool) (rest : List Char) :
    cutClass ((if negated then ['^'] else []) ++ (Bracket.writeMembers (ms.map Member.quoted) ++ ']' :: rest)) =
      some (⟨negated, Bracket.writeMembers (ms.map Member.quoted)⟩, rest) := by
  have hne : ms.map Member.quoted ≠ [] := by simpa using h
  have hset := Bracket.cutSet_write (areClosed_quoted ms) hne rest
  cases negated with
  | true =>
    rw [if_pos rfl, List.singleton_append, cutClass, hset]
    rfl
  | false =>
    obtain ⟨c, cs, hcs, hfirst⟩ := Bracket.exists_first hne
    have hcaret : c ≠ '^' := by
      rcases hfirst with rfl | hfirst
      · decide
      · intro he
        subst he
        cases not_isClassMark_of_mem (List.mem_of_mem_head? hfirst)
    rw [hcs, List.cons_append] at hset
    rw [if_neg Bool.false_ne_true, List.nil_append, hcs, List.cons_append, cutClass.eq_2 _ (by simp [hcaret]), hset]
    rfl

theorem classSet?_quoted (b : Bracket) :
    classSet? ⟨b.negated, Bracket.writeMembers ((Bracket.members b.body).map Member.quoted)⟩ = CharClass.ofBracket? b := by
  have hslash : .plain '\\' ∉ (Bracket.members b.body).map Member.quoted := fun hmem => (areClosed_quoted _ _ hmem).2 rfl
  have hforeign : ((Bracket.members b.body).map Member.quoted).any Member.isForeign = false := by
    simp [not_isForeign_quoted]
  rw [classSet?, Bracket.members_write hslash, hforeign, if_neg Bool.false_ne_true, CharClass.ofBracket?]

theorem element?_toClass {cs rest : List Char} {b : Bracket} (h : Bracket.cut cs = some (b, rest)) (more : List Char) :
    element? (b.toClass ++ more) = (CharClass.ofBracket? b).map fun s => (.piece (.oneOf s), more) := by
  have htext : b.toClass ++ more = '[' :: ((if b.negated then ['^'] else []) ++
      (Bracket.writeMembers ((Bracket.members b.body).map Member.quoted) ++ ']' :: more)) := by
    simp [Bracket.toClass]
  rw [htext, element?, cutClass_quoted (Bracket.members_ne_nil_of_cut h), Option.bind_some, ← classSet?_quoted]

/-! ## (2) All elements -/

/-- Pieces that end where the text does. -/
def toEnd (ps : List Piece) : List Element := ps.map .piece ++ [.finish]

/-- Pieces that start and end where the text does. -/
def anchored (ps : List Piece) : List Element := .start :: toEnd ps

section

variable {cs rest : List Char}

theorem elements?_of_element? {e : Element} (h : element? cs = some (e, rest)) :
    elements? cs = (elements? rest).map (e :: ·) := by
  have hcs : cs ≠ [] := by
    intro he
    rw [he] at h
    cases h
  rw [elements?, if_neg hcs]
  split
  · rename_i h'
    cases h.symm.trans h'
  · rename_i h'
    cases h.symm.trans h'
    rfl

theorem elements?_of_unreadable (hcs : cs ≠ []) (h : element? cs = none) : elements? cs = none := by
  rw [elements?, if_neg hcs]
  split
  · rfl
  · rename_i h'
    cases h.symm.trans h'

/-- An element that is a piece goes before the pieces of the rest, if the rest has any reading. -/
theorem elements?_cons {p : Piece} {ps : Option (List Piece)} (h : element? cs = some (.piece p, rest))
    (hrest : elements? rest = ps.map toEnd) : elements? cs = (ps.map (p :: ·)).map toEnd := by
  rw [elements?_of_element? h, hrest, Option.map_map, Option.map_map]
  rfl

end

theorem quote_ne_star (c : Char) (cs rest : List Char) : quote c ++ cs ≠ '*' :: rest := by
  unfold quote
  split
  · intro h
    cases h
  · rename_i hmeta
    intro h
    cases h
    exact hmeta rfl

theorem translate_ne_star (glob rest : List Char) : translate glob ++ ['$'] ≠ '*' :: rest := by
  fun_cases translate glob with
  | case1 | case4 | case5 | case6 =>
    intro h
    cases h
  | case2 => exact quote_ne_star _ _ _
  | case3 | case7 | case8 =>
    rw [List.append_assoc]
    exact quote_ne_star _ _ _

theorem elements?_finish : elements? ['$'] = some (toEnd []) := by
  have hfinish : element? ['$'] = some (.finish, []) := rfl
  rw [elements?_of_element? hfinish, elements?, if_pos rfl]
  rfl

/-- What stands for a glob is read as its pieces, and has no reading if it has none. The induction
    follows the translation, which cuts the glob where `pieces?` does. -/
theorem elements?_translate (glob : List Char) : elements? (translate glob ++ ['$']) = (pieces? glob).map toEnd := by
  fun_induction translate glob with
  | case1 =>
    rw [pieces?]
    exact elements?_finish
  | case2 =>
    have hps : pieces? ['\\'] = (some []).map (.exactly '\\' :: ·) := by rw [pieces?]; rfl
    rw [hps]
    exact elements?_cons (element?_quote _ _) elements?_finish
  | case3 c cs ih =>
    rw [pieces?, List.append_assoc]
    exact elements?_cons (element?_quote _ _) ih
  | case4 cs _ _ ih =>
    rw [pieces?_cons (by decide) _ (by decide), if_pos rfl]
    exact elements?_cons rfl ih
  | case5 cs _ _ _ ih =>
    rw [pieces?_cons (by decide) _ (by decide), if_neg (by decide), if_pos rfl]
    exact elements?_cons (element?.eq_5 _ (translate_ne_star cs)) ih
  | case6 cs b rest hcut _ _ _ _ _ ih =>
    rw [pieces?_bracket hcut, List.append_assoc]
    rcases hset : CharClass.ofBracket? b with _ | set
    · refine elements?_of_unreadable (by simp [Bracket.toClass]) ?_
      rw [element?_toClass hcut, hset, Option.map_none]
    · have hps : (do return .oneOf (← some set) :: (← pieces? rest)) = (pieces? rest).map (.oneOf set :: ·) := by
        cases pieces? rest <;> rfl
      rw [hps]
      refine elements?_cons ?_ ih
      rw [element?_toClass hcut, hset, Option.map_some]
  | case7 cs hcut _ _ _ _ ih =>
    rw [pieces?_unclosed hcut, List.append_assoc]
    exact elements?_cons (element?_quote _ _) ih
  | case8 c cs hlone hpair hstar hone hopen ih =>
    rw [pieces?_cons (ne_backslash hlone hpair) _ hopen, if_neg hstar, if_neg hone, List.append_assoc]
    exact elements?_cons (element?_quote _ _) ih

theorem elements?_expression (glob : List Char) : elements? (expression glob) = (pieces? glob).map anchored := by
  have hstart : element? (expression glob) = some (.start, translate glob ++ ['$']) := rfl
  rw [elements?_of_element? hstart, elements?_translate, Option.map_map]
  rfl

/-! ## (3) What is found -/

theorem matches_cons {p : Piece} {es : List Element} {before text : List Char} (h : p ≠ .run) :
    Matches (.piece p :: es) before text ↔
      ∃ c rest, text = c :: rest ∧ p.accepts c = true ∧ Matches es (before ++ [c]) rest := by
  cases p with
  | run => exact absurd rfl h
  | anyOne | exactly | oneOf => exact Iff.rfl

theorem matches_toEnd (ps : List Piece) (before text : List Char) :
    Matches (toEnd ps) before text ↔ covers ps text = true := by
  induction ps generalizing before text with
  | nil =>
    rw [covers_nil]
    exact and_iff_left trivial
  | cons p ps ih =>
    by_cases hrun : p = .run
    · subst hrun
      rw [covers_run_cons]
      show (∃ run rest, text = run ++ rest ∧ '\n' ∉ run ∧ Matches (toEnd ps) (before ++ run) rest) ↔ _
      simp only [ih]
    · rw [covers_cons hrun]
      refine (matches_cons hrun).trans ?_
      show (∃ c rest, text = c :: rest ∧ p.accepts c = true ∧ Matches (toEnd ps) (before ++ [c]) rest) ↔ _
      simp only [ih]

/-- Pieces between two ends are found in a text if they cover all of it. -/
theorem found_anchored (ps : List Piece) (text : List Char) : Found (anchored ps) text ↔ covers ps text = true := by
  constructor
  · intro h
    obtain ⟨before, rest, htext, hbefore, hmatches⟩ := h
    rw [hbefore, List.nil_append] at htext
    rw [htext]
    exact (matches_toEnd ps before rest).1 hmatches
  · intro h
    exact ⟨[], text, rfl, rfl, (matches_toEnd ps [] text).2 h⟩

/-! ## Globs and their expressions -/

/-- A glob that compiles has an expression that can be read, and accepts the texts in which it is found. -/
theorem accepts_iff_found {source : String} {glob : Glob} (h : Glob.ofSource source = .ok glob) :
    ∃ es, elements? (expression source.toList) = some es ∧
      ∀ text : String, glob.accepts text = true ↔ Found es text.toList := by
  unfold Glob.ofSource at h
  rcases hpieces : pieces? source.toList with _ | ps
  · rw [hpieces] at h
    cases h
  · rw [hpieces] at h
    dsimp only at h
    split at h
    · cases h
      refine ⟨anchored ps, by rw [elements?_expression, hpieces, Option.map_some], fun text => ?_⟩
      rw [Glob.accepts_eq_covers, found_anchored]
    · cases h

theorem malformed_iff_unreadable (source : String) :
    Glob.ofSource source = .error .malformed ↔ elements? (expression source.toList) = none := by
  rw [elements?_expression, Option.map_eq_none_iff, Glob.ofSource]
  rcases pieces? source.toList with _ | ps
  · simp
  · dsimp only
    split <;> simp

end PathAuthz.Pattern
