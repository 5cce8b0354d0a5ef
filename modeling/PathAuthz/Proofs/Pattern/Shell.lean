/-
  PathAuthz.Proofs.Pattern.Shell — the texts a glob without bracket expressions stands for.

  (1) A glob is read backslash by backslash: each takes the character behind it, and only one
  at the end stands alone. `backslash_induction` follows that reading.

  (2) `Denotes` says what a written glob stands for: `*` is any text, `?` one character, a
  character behind a backslash that character, and any other one itself, a lone backslash
  included.

  (3) A component compiles to one of five forms, and each of them says the same in its own
  way. Without a wildcard the only text is the unescaped one (`denotes_iff_eq_unescape`). With
  a star alone at one end the text starts or ends as it is written (`denotes_snoc_star_iff`,
  `denotes_star_cons_iff`). The pieces of a shell glob cover what it stands for as long as there
  is no line feed in it (`exists_pieces`).

  (4) A component of ten thousand characters is not too heavy (`ofGlob_ne_tooHeavy`). Whatever
  form a component takes, it accepts the texts it stands for (`ofGlob_denotes`).
-/

import PathAuthz.Pattern.Segment
import PathAuthz.Proofs.Pattern.Covering
import PathAuthz.Proofs.Pattern.Weight

namespace PathAuthz.Pattern

/-! ## (1) Backslashes -/

/-- A character that is neither a lone backslash nor one that takes what follows is none. -/
theorem ne_backslash {c : Char} {cs : List Char} (hlone : c = '\\' → cs = [] → False)
    (hpair : ∀ d ds, c = '\\' → cs = d :: ds → False) : c ≠ '\\' := by
  intro hc
  cases cs with
  | nil => exact hlone hc rfl
  | cons d ds => exact hpair d ds hc rfl

@[elab_as_elim]
theorem backslash_induction {motive : List Char → Prop} (glob : List Char) (nil : motive []) (lone : motive ['\\'])
    (pair : ∀ c cs, motive cs → motive ('\\' :: c :: cs)) (plain : ∀ c cs, c ≠ '\\' → motive cs → motive (c :: cs)) :
    motive glob := by
  fun_induction unescape glob with
  | case1 => exact nil
  | case2 => exact lone
  | case3 c cs ih => exact pair c cs ih
  | case4 c cs hlone hpair ih => exact plain c cs (ne_backslash hlone hpair) ih

/-- Whether a glob holds a `[` that no backslash takes. -/
def opensBracket : List Char → Bool
  | [] => false
  | ['\\'] => false
  | '\\' :: _ :: cs => opensBracket cs
  | c :: cs => c == '[' || opensBracket cs

section

variable {c : Char} (hslash : c ≠ '\\') (cs : List Char)

include hslash

theorem hasWildcard_cons : hasWildcard (c :: cs) = (isWildcard c || hasWildcard cs) := by
  rw [hasWildcard.eq_4 _ _ (by simp [hslash]) (by simp [hslash])]

theorem unescape_cons : unescape (c :: cs) = c :: unescape cs := by
  rw [unescape.eq_4 _ _ (by simp [hslash]) (by simp [hslash])]

theorem opensBracket_cons : opensBracket (c :: cs) = (c == '[' || opensBracket cs) := by
  rw [opensBracket.eq_4 _ _ (by simp [hslash]) (by simp [hslash])]

theorem pieces?_cons (hopen : c ≠ '[') :
    pieces? (c :: cs) =
      (pieces? cs).map ((if c = '*' then .run else if c = '?' then .anyOne else .exactly c) :: ·) := by
  rw [pieces?.eq_4 _ _ (by simp [hslash]) (by simp [hslash])]
  by_cases hstar : c = '*'
  · simp [hstar]
  · by_cases hone : c = '?'
    · simp [hone]
    · simp [hstar, hone, hopen]

end

/-- Without a backslash there is nothing to drop. -/
theorem unescape_of_not_mem {cs : List Char} (h : '\\' ∉ cs) : unescape cs = cs := by
  induction cs with
  | nil => rfl
  | cons c cs ih =>
    rw [List.mem_cons, not_or] at h
    rw [unescape_cons (Ne.symm h.1), ih h.2]

/-! ## (2) What a glob stands for -/

/-- The texts a glob without bracket expressions stands for. -/
inductive Denotes : List Char → List Char → Prop
  | done : Denotes [] []
  | star {glob text : List Char} (skipped : List Char) : Denotes glob text → Denotes ('*' :: glob) (skipped ++ text)
  | anyOne {glob text : List Char} (c : Char) : Denotes glob text → Denotes ('?' :: glob) (c :: text)
  | escaped {glob text : List Char} (c : Char) : Denotes glob text → Denotes ('\\' :: c :: glob) (c :: text)
  | loneBackslash : Denotes ['\\'] ['\\']
  | itself {glob text : List Char} {c : Char} : c ≠ '*' → c ≠ '?' → c ≠ '\\' →
      Denotes glob text → Denotes (c :: glob) (c :: text)

namespace Denotes

variable {glob text : List Char} {c : Char}

theorem nil_iff : Denotes [] text ↔ text = [] := by
  constructor
  · intro h
    cases h
    rfl
  · rintro rfl
    exact .done

theorem lone_iff : Denotes ['\\'] text ↔ text = ['\\'] := by
  constructor
  · intro h
    cases h with
    | loneBackslash => rfl
    | itself _ _ hne => exact absurd rfl hne
  · rintro rfl
    exact .loneBackslash

theorem star_iff : Denotes ('*' :: glob) text ↔ ∃ skipped rest, text = skipped ++ rest ∧ Denotes glob rest := by
  constructor
  · intro h
    cases h with
    | star skipped h => exact ⟨skipped, _, rfl, h⟩
    | itself hne => exact absurd rfl hne
  · rintro ⟨skipped, rest, rfl, h⟩
    exact .star skipped h

theorem anyOne_iff : Denotes ('?' :: glob) text ↔ ∃ c rest, text = c :: rest ∧ Denotes glob rest := by
  constructor
  · intro h
    cases h with
    | anyOne c h => exact ⟨c, _, rfl, h⟩
    | itself _ hne => exact absurd rfl hne
  · rintro ⟨c, rest, rfl, h⟩
    exact .anyOne c h

theorem escaped_iff : Denotes ('\\' :: c :: glob) text ↔ ∃ rest, text = c :: rest ∧ Denotes glob rest := by
  constructor
  · intro h
    cases h with
    | escaped _ h => exact ⟨_, rfl, h⟩
    | itself _ _ hne => exact absurd rfl hne
  · rintro ⟨rest, rfl, h⟩
    exact .escaped c h

theorem itself_iff (hstar : c ≠ '*') (hone : c ≠ '?') (hslash : c ≠ '\\') :
    Denotes (c :: glob) text ↔ ∃ rest, text = c :: rest ∧ Denotes glob rest := by
  constructor
  · intro h
    cases h with
    | star => exact absurd rfl hstar
    | anyOne => exact absurd rfl hone
    | escaped => exact absurd rfl hslash
    | loneBackslash => exact absurd rfl hslash
    | itself _ _ _ h => exact ⟨_, rfl, h⟩
  · rintro ⟨rest, rfl, h⟩
    exact .itself hstar hone hslash h

end Denotes

/-! ## (3) The forms of a component -/

theorem isWildcard_eq_false_iff {c : Char} : isWildcard c = false ↔ c ≠ '*' ∧ c ≠ '?' ∧ c ≠ '[' := by
  simp [isWildcard, and_assoc]

/-- Without a wildcard a glob stands for one text. -/
theorem denotes_iff_eq_unescape {glob text : List Char} (h : hasWildcard glob = false) :
    Denotes glob text ↔ text = unescape glob := by
  induction glob using backslash_induction generalizing text with
  | nil => exact Denotes.nil_iff
  | lone => exact Denotes.lone_iff
  | pair c cs ih =>
    rw [hasWildcard] at h
    rw [Denotes.escaped_iff, unescape]
    simp only [ih h, exists_eq_right]
  | plain c cs hslash ih =>
    rw [hasWildcard_cons hslash, Bool.or_eq_false_iff] at h
    obtain ⟨hstar, hone, -⟩ := isWildcard_eq_false_iff.1 h.1
    rw [Denotes.itself_iff hstar hone hslash, unescape_cons hslash]
    simp only [ih h.2, exists_eq_right]

/-- A star behind a glob without wildcards leaves a fixed start, unless a backslash takes the star. -/
theorem denotes_snoc_star_iff {glob text : List Char} (h : hasWildcard glob = false)
    (hstar : hasWildcard (glob ++ ['*']) = true) : Denotes (glob ++ ['*']) text ↔ unescape glob <+: text := by
  induction glob using backslash_induction generalizing text with
  | nil =>
    rw [List.nil_append, Denotes.star_iff]
    exact ⟨fun _ => List.nil_prefix, fun _ => ⟨text, [], by simp, .done⟩⟩
  | lone => cases hstar
  | pair c cs ih =>
    rw [hasWildcard] at h
    rw [List.cons_append, List.cons_append, hasWildcard] at hstar
    rw [List.cons_append, List.cons_append, Denotes.escaped_iff, unescape, List.cons_prefix_iff]
    simp only [ih h hstar]
  | plain c cs hslash ih =>
    rw [hasWildcard_cons hslash, Bool.or_eq_false_iff] at h
    rw [List.cons_append, hasWildcard_cons hslash, h.1, Bool.false_or] at hstar
    obtain ⟨hc, hone, -⟩ := isWildcard_eq_false_iff.1 h.1
    rw [List.cons_append, Denotes.itself_iff hc hone hslash, unescape_cons hslash, List.cons_prefix_iff]
    simp only [ih h.2 hstar]

theorem denotes_star_cons_iff {glob text : List Char} (h : hasWildcard glob = false) :
    Denotes ('*' :: glob) text ↔ unescape glob <:+ text := by
  rw [Denotes.star_iff]
  simp only [denotes_iff_eq_unescape h, exists_eq_right]
  exact exists_congr fun skipped => eq_comm

/-- Without a bracket expression a glob has pieces, and they cover the texts without a line feed that it stands for. -/
theorem exists_pieces {glob : List Char} (h : opensBracket glob = false) :
    ∃ ps, pieces? glob = some ps ∧ ∀ text, '\n' ∉ text → (covers ps text = true ↔ Denotes glob text) := by
  induction glob using backslash_induction with
  | nil =>
    refine ⟨[], by rw [pieces?], fun text _ => ?_⟩
    rw [covers_nil, Denotes.nil_iff]
  | lone =>
    refine ⟨[.exactly '\\'], by rw [pieces?], fun text _ => ?_⟩
    rw [covers_exactly_cons, Denotes.lone_iff]
    simp only [covers_nil, exists_eq_right]
  | pair c cs ih =>
    rw [opensBracket] at h
    obtain ⟨ps, hps, hcovers⟩ := ih h
    refine ⟨.exactly c :: ps, by rw [pieces?, hps, Option.map_some], fun text hline => ?_⟩
    rw [covers_exactly_cons, Denotes.escaped_iff]
    refine exists_congr fun rest => and_congr_right fun hcut => hcovers rest ?_
    exact fun hmem => hline (hcut ▸ List.mem_cons_of_mem c hmem)
  | plain c cs hslash ih =>
    rw [opensBracket_cons hslash, Bool.or_eq_false_iff, beq_eq_false_iff_ne] at h
    obtain ⟨ps, hps, hcovers⟩ := ih h.2
    refine ⟨_, by rw [pieces?_cons hslash cs h.1, hps, Option.map_some], fun text hline => ?_⟩
    by_cases hstar : c = '*'
    · rw [if_pos hstar, hstar, covers_run_cons, Denotes.star_iff]
      refine exists_congr fun run => exists_congr fun rest => and_congr_right fun hcut => ?_
      have hrun : '\n' ∉ run := fun hmem => hline (hcut ▸ List.mem_append_left rest hmem)
      have hrest : '\n' ∉ rest := fun hmem => hline (hcut ▸ List.mem_append_right run hmem)
      rw [hcovers rest hrest]
      exact and_iff_right hrun
    · rw [if_neg hstar]
      by_cases hone : c = '?'
      · rw [if_pos hone, hone, covers_cons (by simp), Denotes.anyOne_iff]
        refine exists_congr fun d => exists_congr fun rest => and_congr_right fun hcut => ?_
        have hd : Piece.anyOne.accepts d = true := by
          simp only [Piece.accepts, bne_iff_ne]
          exact fun hd => hline (hcut ▸ hd ▸ List.mem_cons_self)
        have hrest : '\n' ∉ rest := fun hmem => hline (hcut ▸ List.mem_cons_of_mem d hmem)
        rw [hcovers rest hrest]
        exact and_iff_right hd
      · rw [if_neg hone, covers_exactly_cons, Denotes.itself_iff hstar hone hslash]
        refine exists_congr fun rest => and_congr_right fun hcut => hcovers rest ?_
        exact fun hmem => hline (hcut ▸ List.mem_cons_of_mem c hmem)

theorem bounds_of_pieces {glob : List Char} {ps : List Piece} (h : opensBracket glob = false)
    (hps : pieces? glob = some ps) : ps.length ≤ glob.length ∧ ∀ p ∈ ps, ∀ s, p ≠ .oneOf s := by
  induction glob using backslash_induction generalizing ps with
  | nil =>
    rw [pieces?, Option.some.injEq] at hps
    simp [← hps]
  | lone =>
    rw [pieces?, Option.some.injEq] at hps
    simp [← hps]
  | pair c cs ih =>
    rw [opensBracket] at h
    rw [pieces?, Option.map_eq_some_iff] at hps
    obtain ⟨rest, hrest, rfl⟩ := hps
    obtain ⟨hlength, hsets⟩ := ih h hrest
    refine ⟨?_, List.forall_mem_cons.2 ⟨by simp, hsets⟩⟩
    simp only [List.length_cons]
    omega
  | plain c cs hslash ih =>
    rw [opensBracket_cons hslash, Bool.or_eq_false_iff, beq_eq_false_iff_ne] at h
    rw [pieces?_cons hslash cs h.1, Option.map_eq_some_iff] at hps
    obtain ⟨rest, hrest, rfl⟩ := hps
    obtain ⟨hlength, hsets⟩ := ih h.2 hrest
    refine ⟨Nat.succ_le_succ hlength, List.forall_mem_cons.2 ⟨fun s => ?_, hsets⟩⟩
    repeat' split
    all_goals simp

/-! ## (4) Every form accepts what the component stands for -/

theorem Glob.ofSource_of_pieces {source : String} {ps : List Piece} (hps : pieces? source.toList = some ps)
    (hlight : ofSource source ≠ .error .tooHeavy) : ofSource source = .ok ⟨source, ps⟩ := by
  simp only [ofSource, hps] at hlight ⊢
  split
  · rfl
  · rename_i hfits
    exact absurd (if_neg hfits) hlight

namespace Segment

theorem literal_accepts {text component : String} : (literal text).accepts component = true ↔ component = text := by
  rw [accepts, beq_iff_eq]

theorem startingWith_accepts {text component : String} :
    (startingWith text).accepts component = true ↔ text.toList <+: component.toList := by
  rw [accepts, List.isPrefixOf_iff_prefix]

theorem endingWith_accepts {text component : String} :
    (endingWith text).accepts component = true ↔ text.toList <:+ component.toList := by
  rw [accepts, List.isSuffixOf_iff_suffix]

theorem shell_accepts {glob : Glob} {component : String} :
    (shell glob).accepts component = true ↔ covers glob.pieces component.toList = true := by
  rw [accepts, Glob.accepts_eq_covers]

variable {component : String} {text : List Char}

theorem ofGlob_literal (h : hasWildcard component.toList = false) :
    ofGlob component = .ok (literal (String.ofList (unescape component.toList))) := by
  have hany : component.toList ≠ ['*'] := fun he => by rw [he] at h; cases h
  have hrec : component.toList ≠ ['*', '*'] := fun he => by rw [he] at h; cases h
  simp [ofGlob, hany, hrec, h]

theorem ofGlob_startingWith (hcut : component.toList = text ++ ['*']) (hne : text ≠ []) (h : hasWildcard text = false)
    (hstar : hasWildcard component.toList = true) : ofGlob component = .ok (startingWith (String.ofList (unescape text))) := by
  have hrec : text ++ ['*'] ≠ ['*', '*'] := by
    intro he
    have htwo : text ++ ['*'] = ['*'] ++ ['*'] := he
    rw [(List.append_left_inj _).1 htwo] at h
    cases h
  rw [hcut] at hstar
  simp [ofGlob, hcut, hne, hrec, h, hstar]

theorem ofGlob_endingWith (hcut : component.toList = '*' :: text) (hne : text ≠ []) (h : hasWildcard text = false) :
    ofGlob component = .ok (endingWith (String.ofList (unescape text))) := by
  have hrec : text ≠ ['*'] := fun he => by rw [he] at h; cases h
  have hstar : ∀ cs, hasWildcard ('*' :: cs) = true := fun cs => by rw [hasWildcard_cons (by decide)]; rfl
  have hlast : hasWildcard ('*' :: text).dropLast = true := by
    rw [List.dropLast_cons_of_ne_nil hne]
    exact hstar _
  simp [ofGlob, hcut, hne, hrec, h, hstar, hlast]

/-- A glob with a wildcard that is not a star alone at one end is compiled as a shell glob. -/
theorem ofGlob_shell (hwild : hasWildcard component.toList = true) (hrec : component ≠ "**")
    (hfront : ∀ text, component.toList = text ++ ['*'] → hasWildcard text = true)
    (hback : ∀ text, component.toList = '*' :: text → hasWildcard text = true) :
    ofGlob component = (Glob.ofSource component).map shell := by
  have hany : component.toList ≠ ['*'] := fun h => by cases hfront [] h
  have hrec : component.toList ≠ ['*', '*'] := fun h => hrec (String.toList_inj.1 h)
  have hlast : ¬ (component.toList.getLast? = some '*' ∧ hasWildcard component.toList.dropLast = false) := by
    rintro ⟨hlast, h⟩
    rw [hfront _ (List.dropLast_append_getLast? _ hlast).symm] at h
    cases h
  have hhead : ¬ (component.toList.head? = some '*' ∧ hasWildcard component.toList.tail = false) := by
    rintro ⟨hhead, h⟩
    rw [hback _ (List.eq_cons_of_mem_head? hhead)] at h
    cases h
  simp only [ofGlob, if_neg hany, if_neg hrec, hwild, Bool.not_true, Bool.false_eq_true, if_false, if_neg hlast, if_neg hhead]

theorem ofSource_of_ofGlob {fault : GlobFault} (h : ofGlob component = .error fault) :
    Glob.ofSource component = .error fault := by
  simp only [ofGlob] at h
  repeat' split at h
  all_goals try cases h
  rcases hsource : Glob.ofSource component with fault' | glob
  · rw [hsource] at h
    cases h
    rfl
  · rw [hsource] at h
    cases h

theorem ofGlob_ne_tooHeavy_of_fits {ps : List Piece} (hps : pieces? component.toList = some ps) (hfits : fits ps = true) :
    ofGlob component ≠ .error .tooHeavy := by
  intro h
  have hsource := ofSource_of_ofGlob h
  simp only [Glob.ofSource, hps, hfits, if_true] at hsource
  cases hsource

/-- A component of at most ten thousand characters is not too heavy. -/
theorem ofGlob_ne_tooHeavy (hbare : opensBracket component.toList = false) (hlength : component.toList.length ≤ 10000) :
    ofGlob component ≠ .error .tooHeavy := by
  obtain ⟨ps, hps, -⟩ := exists_pieces hbare
  obtain ⟨hfewer, hsets⟩ := bounds_of_pieces hbare hps
  exact ofGlob_ne_tooHeavy_of_fits hps (fits_of_no_sets hsets (Nat.le_trans hfewer hlength))

/-- Whatever form a component without bracket expressions takes, it accepts the texts it stands for. -/
theorem ofGlob_denotes (hbare : opensBracket component.toList = false) (hrec : component ≠ "**")
    (hlight : ofGlob component ≠ .error .tooHeavy) :
    ∃ s, ofGlob component = .ok s ∧
      ∀ text : String, '\n' ∉ text.toList → (s.accepts text = true ↔ Denotes component.toList text.toList) := by
  by_cases hwild : hasWildcard component.toList = true
  case neg =>
    have hwild := Bool.not_eq_true _ ▸ hwild
    refine ⟨_, ofGlob_literal hwild, fun text _ => ?_⟩
    rw [literal_accepts, denotes_iff_eq_unescape hwild, ← String.toList_inj, String.toList_ofList]
  by_cases hfront : ∀ text, component.toList = text ++ ['*'] → hasWildcard text = true
  case neg =>
    obtain ⟨text, hcut, htext⟩ : ∃ text, component.toList = text ++ ['*'] ∧ hasWildcard text = false := by
      simpa using hfront
    by_cases hne : text = []
    · rw [hne] at hcut
      refine ⟨any, by simp [ofGlob, hcut], fun whole _ => ?_⟩
      rw [hcut, List.nil_append, Denotes.star_iff]
      exact ⟨fun _ => ⟨whole.toList, [], by simp, .done⟩, fun _ => rfl⟩
    · refine ⟨_, ofGlob_startingWith hcut hne htext hwild, fun whole _ => ?_⟩
      rw [startingWith_accepts, String.toList_ofList, hcut, denotes_snoc_star_iff htext (hcut ▸ hwild)]
  by_cases hback : ∀ text, component.toList = '*' :: text → hasWildcard text = true
  case neg =>
    obtain ⟨text, hcut, htext⟩ : ∃ text, component.toList = '*' :: text ∧ hasWildcard text = false := by
      simpa using hback
    have hne : text ≠ [] := by
      rintro rfl
      cases hfront [] hcut
    refine ⟨_, ofGlob_endingWith hcut hne htext, fun whole _ => ?_⟩
    rw [endingWith_accepts, String.toList_ofList, hcut, denotes_star_cons_iff htext]
  obtain ⟨ps, hps, hcovers⟩ := exists_pieces hbare
  rw [ofGlob_shell hwild hrec hfront hback] at hlight ⊢
  have hsource := Glob.ofSource_of_pieces hps fun h => hlight (by rw [h]; rfl)
  refine ⟨shell ⟨component, ps⟩, by rw [hsource]; rfl, fun whole hline => ?_⟩
  rw [shell_accepts, hcovers _ hline]

/-- An escaped star, a star, a question mark and a backslash at the end, behind a letter of two bytes. -/
theorem ofGlob_denotes_mixed :
    opensBracket "é\\**?x\\".toList = false ∧ "é\\**?x\\" ≠ "**" ∧ ofGlob "é\\**?x\\" ≠ .error .tooHeavy ∧
      ∃ s, ofGlob "é\\**?x\\" = .ok s ∧
        ∀ text : String, '\n' ∉ text.toList → (s.accepts text = true ↔ Denotes "é\\**?x\\".toList text.toList) := by
  have hbare : opensBracket "é\\**?x\\".toList = false := by decide +kernel
  have hlight : ofGlob "é\\**?x\\" ≠ .error .tooHeavy := ofGlob_ne_tooHeavy hbare (by decide +kernel)
  exact ⟨hbare, by decide, hlight, ofGlob_denotes hbare (by decide) hlight⟩

end Segment

end PathAuthz.Pattern
