/-
  PathAuthz.Proofs.Pattern.Affixes — a star between two texts, against a star behind one and
  a star before one.

  (1) Plain text holds neither a slash nor anything that a glob reads in a special way. It is
  compiled to itself, piece by piece (`pieces?_plain_append`).

  (2) A path of one component is a pattern of one segment, and that segment judges a list of
  one component (`compile_component`, `accepts_one`).

  (3) A text starts with one text, ends in another and is long enough for both iff it is the
  two with something between them (`exists_between_iff`). `/front*back` is compiled as a shell
  glob, and its star does not take a line feed; the stars of `/front*` and `/*back` do. So it
  accepts what both of them accept and is long enough, unless a line feed stands between
  (`accepts_affixes_iff`), and then it does not (`a_line_feed_slips_past_a_star`).
-/

import PathAuthz.Pattern
import PathAuthz.Proofs.Pattern.Shell
import PathAuthz.Proofs.Text.Edges

namespace PathAuthz

open Pattern

/-! ## (1) Plain text -/

namespace Pattern

/-- Whether a character separates nothing and has no meaning in a glob. -/
def isPlain (c : Char) : Bool := c != '/' && c != '*' && c != '?' && c != '[' && c != '\\'

def isPlainText (text : String) : Bool := text != "" && text.toList.all isPlain

theorem isPlain_iff {c : Char} : isPlain c = true ↔ c ≠ '/' ∧ isWildcard c = false ∧ c ≠ '\\' := by
  simp only [isPlain, isWildcard, Bool.and_eq_true, bne_iff_ne, Bool.or_eq_false_iff, beq_eq_false_iff_ne]
  tauto

variable {text : List Char} (h : ∀ c ∈ text, isPlain c = true) (rest : List Char)

include h

theorem hasWildcard_plain_append : hasWildcard (text ++ rest) = hasWildcard rest := by
  induction text with
  | nil => rfl
  | cons c cs ih =>
    obtain ⟨hc, hcs⟩ := List.forall_mem_cons.1 h
    obtain ⟨-, hwild, hslash⟩ := isPlain_iff.1 hc
    rw [List.cons_append, hasWildcard_cons hslash, hwild, Bool.false_or, ih hcs]

theorem hasWildcard_plain : hasWildcard text = false := by
  rw [← List.append_nil text, hasWildcard_plain_append h]
  rfl

theorem unescape_plain : unescape text = text :=
  unescape_of_not_mem fun hmem => (isPlain_iff.1 (h _ hmem)).2.2 rfl

theorem pieces?_plain_append : pieces? (text ++ rest) = (pieces? rest).map (text.map .exactly ++ ·) := by
  induction text with
  | nil => simp
  | cons c cs ih =>
    obtain ⟨hc, hcs⟩ := List.forall_mem_cons.1 h
    obtain ⟨-, hwild, hslash⟩ := isPlain_iff.1 hc
    obtain ⟨hstar, hone, hopen⟩ := isWildcard_eq_false_iff.1 hwild
    rw [List.cons_append, pieces?_cons hslash _ hopen, if_neg hstar, if_neg hone, ih hcs, Option.map_map]
    rfl

end Pattern

/-! ## (2) Paths of one component -/

namespace PathPattern

variable {heading component : String}

theorem written_component (hne : component.toList ≠ []) (hslash : '/' ∉ component.toList) :
    Path.written ("/" ++ component) = [component] := by
  have hpath : ("/" ++ component).toList = '/' :: component.toList := String.toList_append
  rw [Path.written, hpath, Text.pieces, if_pos rfl, Text.pieces_eq_singleton hslash,
    List.filter_cons_of_neg (by simp), List.filter_cons_of_pos (by simpa using hne), List.filter_nil,
    List.map_singleton, String.ofList_toList]

theorem compile_component {s : Segment} (hne : component.toList ≠ []) (hslash : '/' ∉ component.toList)
    (h : Segment.ofGlob component = .ok s) : compile heading true ("/" ++ component) = .ok ⟨[s]⟩ := by
  have hsegment : segmentOf heading true component = .ok s := by simp [segmentOf, h]
  rw [compile, written_component hne hslash, List.mapM_cons, List.mapM_nil, hsegment]
  cases s <;> rfl

theorem accepts_one (s : Segment) (component : String) : (⟨[s]⟩ : PathPattern).accepts [component] = s.accepts component := by
  rw [accepts_eq_covers]
  cases s <;> simp [covers, behindRun, behindOne, Segment.accepts]

end PathPattern

/-! ## (3) A star between two texts -/

/-- A text is two texts with something between them iff it starts with one, ends in the other and has room for both. -/
theorem exists_between_iff {α : Type} {front back whole : List α} :
    (∃ middle, whole = front ++ (middle ++ back)) ↔
      front <+: whole ∧ back <:+ whole ∧ front.length + back.length ≤ whole.length := by
  constructor
  · rintro ⟨middle, rfl⟩
    refine ⟨List.prefix_append _ _, ⟨front ++ middle, by simp⟩, ?_⟩
    simp only [List.length_append]
    omega
  · rintro ⟨⟨rest, rfl⟩, hback, hlength⟩
    -- The end lies behind the start, since there is room for both.
    have hrest : back.length ≤ rest.length := by
      rw [List.length_append] at hlength
      omega
    obtain ⟨middle, rfl⟩ := List.suffix_of_suffix_length_le hback (List.suffix_append front rest) hrest
    exact ⟨middle, rfl⟩

namespace Pattern.Segment

variable {front back : String}

theorem isPlainText_iff {text : String} :
    isPlainText text = true ↔ text.toList ≠ [] ∧ ∀ c ∈ text.toList, isPlain c = true := by
  rw [isPlainText, Bool.and_eq_true, bne_iff_ne, List.all_eq_true, ne_eq, ← String.toList_inj]
  rfl

theorem not_mem_of_isPlainText {text : String} (h : isPlainText text = true) : '/' ∉ text.toList := by
  intro hmem
  cases (isPlainText_iff.1 h).2 '/' hmem

theorem ofGlob_front (hfront : isPlainText front = true) : ofGlob (front ++ "*") = .ok (startingWith front) := by
  obtain ⟨hne, hplain⟩ := isPlainText_iff.1 hfront
  have hcut : (front ++ "*").toList = front.toList ++ ['*'] := String.toList_append
  have hstar : hasWildcard (front ++ "*").toList = true := by rw [hcut, hasWildcard_plain_append hplain]; rfl
  rw [ofGlob_startingWith hcut hne (hasWildcard_plain hplain) hstar, unescape_plain hplain, String.ofList_toList]

theorem ofGlob_back (hback : isPlainText back = true) : ofGlob ("*" ++ back) = .ok (endingWith back) := by
  obtain ⟨hne, hplain⟩ := isPlainText_iff.1 hback
  have hcut : ("*" ++ back).toList = '*' :: back.toList := String.toList_append
  rw [ofGlob_endingWith hcut hne (hasWildcard_plain hplain), unescape_plain hplain, String.ofList_toList]

theorem ofGlob_between (hfront : isPlainText front = true) (hback : isPlainText back = true)
    (hlight : ofGlob (front ++ "*" ++ back) ≠ .error .tooHeavy) :
    ofGlob (front ++ "*" ++ back) =
      .ok (shell ⟨front ++ "*" ++ back, front.toList.map .exactly ++ .run :: back.toList.map .exactly⟩) := by
  obtain ⟨hfrontNe, hfront⟩ := isPlainText_iff.1 hfront
  obtain ⟨hbackNe, hback⟩ := isPlainText_iff.1 hback
  have hlist : (front ++ "*" ++ back).toList = front.toList ++ '*' :: back.toList := by simp
  have hwild : ∀ rest, hasWildcard (front.toList ++ '*' :: rest) = true := by
    intro rest
    rw [hasWildcard_plain_append hfront, hasWildcard_cons (by decide)]
    rfl
  -- The first character is one of `front`, so it is no star.
  have hhead : ∀ text, front.toList ++ '*' :: back.toList ≠ '*' :: text := by
    intro text he
    obtain ⟨c, cs, hcs⟩ := List.exists_cons_of_ne_nil hfrontNe
    rw [hcs, List.cons_append, List.cons_eq_cons] at he
    have hc : isPlain c = true := hfront c (hcs ▸ List.mem_cons_self)
    rw [he.1] at hc
    cases hc
  have hrec : front ++ "*" ++ back ≠ "**" := fun he => hhead ['*'] (hlist ▸ congrArg String.toList he)
  have hshell : ofGlob (front ++ "*" ++ back) = (Glob.ofSource (front ++ "*" ++ back)).map shell := by
    refine ofGlob_shell (hlist ▸ hwild _) hrec ?_ fun text hcut => absurd (hlist ▸ hcut) (hhead text)
    intro text hcut
    have htext := congrArg List.dropLast hcut
    rw [hlist, List.dropLast_append_of_ne_nil (by simp), List.dropLast_cons_of_ne_nil hbackNe,
      List.dropLast_concat] at htext
    rw [← htext]
    exact hwild _
  have hpieces : pieces? (front ++ "*" ++ back).toList =
      some (front.toList.map .exactly ++ .run :: back.toList.map .exactly) := by
    have hrest := pieces?_plain_append hback []
    rw [List.append_nil, pieces?, Option.map_some, List.append_nil] at hrest
    rw [hlist, pieces?_plain_append hfront, pieces?_cons (by decide) _ (by decide), hrest]
    rfl
  rw [hshell] at hlight ⊢
  rw [Glob.ofSource_of_pieces hpieces fun h => hlight (by rw [h]; rfl)]
  rfl

theorem between_accepts {source c : String} {front back : List Char} :
    (shell ⟨source, front.map .exactly ++ .run :: back.map .exactly⟩).accepts c = true ↔
      ∃ middle, c.toList = front ++ (middle ++ back) ∧ '\n' ∉ middle := by
  rw [shell_accepts, covers_exactly_append]
  simp only [covers_run_cons, covers_exactly]
  constructor
  · rintro ⟨rest, hc, middle, ending, rfl, hline, rfl⟩
    exact ⟨middle, hc, hline⟩
  · rintro ⟨middle, hc, hline⟩
    exact ⟨middle ++ back, hc, middle, back, rfl, hline, rfl⟩

end Pattern.Segment

namespace PathPattern

open Pattern.Segment

theorem compile_between (heading : String) {front back : String} (hfront : isPlainText front = true)
    (hback : isPlainText back = true) (hlight : Segment.ofGlob (front ++ "*" ++ back) ≠ .error .tooHeavy) :
    compile heading true ("/" ++ (front ++ "*" ++ back)) =
      .ok ⟨[shell ⟨front ++ "*" ++ back, front.toList.map .exactly ++ .run :: back.toList.map .exactly⟩]⟩ :=
  compile_component (by simp) (by simp [not_mem_of_isPlainText hfront, not_mem_of_isPlainText hback])
    (ofGlob_between hfront hback hlight)

/-- `/front*back` accepts what `/front*` and `/*back` accept and what is long enough for both, as long
    as no line feed stands in the middle. -/
theorem accepts_affixes_iff {heading front back : String} (hfront : isPlainText front = true)
    (hback : isPlainText back = true) (hlight : Segment.ofGlob (front ++ "*" ++ back) ≠ .error .tooHeavy) :
    ∃ starting ending both,
      compile heading true ("/" ++ (front ++ "*")) = .ok starting ∧ compile heading true ("/" ++ ("*" ++ back)) = .ok ending ∧
      compile heading true ("/" ++ (front ++ "*" ++ back)) = .ok both ∧
      ∀ c : String, both.accepts [c] = true ↔
        starting.accepts [c] = true ∧ ending.accepts [c] = true ∧ front.length + back.length ≤ c.length ∧
          ∀ middle, c.toList = front.toList ++ (middle ++ back.toList) → '\n' ∉ middle := by
  have hstarting : compile heading true ("/" ++ (front ++ "*")) = .ok ⟨[startingWith front]⟩ :=
    compile_component (by simp) (by simp [not_mem_of_isPlainText hfront]) (ofGlob_front hfront)
  have hending : compile heading true ("/" ++ ("*" ++ back)) = .ok ⟨[endingWith back]⟩ :=
    compile_component (by simp) (by simp [not_mem_of_isPlainText hback]) (ofGlob_back hback)
  refine ⟨_, _, _, hstarting, hending, compile_between heading hfront hback hlight, fun c => ?_⟩
  rw [accepts_one, accepts_one, accepts_one, startingWith_accepts, endingWith_accepts, between_accepts,
    ← String.length_toList, ← String.length_toList, ← String.length_toList]
  constructor
  · rintro ⟨middle, hc, hline⟩
    obtain ⟨hstart, hend, hroom⟩ := exists_between_iff.1 ⟨middle, hc⟩
    refine ⟨hstart, hend, hroom, fun other hother => ?_⟩
    rw [hc, List.append_cancel_left_eq, List.append_cancel_right_eq] at hother
    exact hother ▸ hline
  · rintro ⟨hstart, hend, hroom, hline⟩
    obtain ⟨middle, hc⟩ := exists_between_iff.2 ⟨hstart, hend, hroom⟩
    exact ⟨middle, hc, hline middle hc⟩

/-- A start with a metacharacter of regular expressions in it and an end with a letter of two bytes. -/
theorem accepts_affixes_iff_release :
    isPlainText "rel-1." = true ∧ isPlainText "-é" = true ∧ Segment.ofGlob ("rel-1." ++ "*" ++ "-é") ≠ .error .tooHeavy ∧
      ∃ starting ending both,
        compile "" true ("/" ++ ("rel-1." ++ "*")) = .ok starting ∧ compile "" true ("/" ++ ("*" ++ "-é")) = .ok ending ∧
        compile "" true ("/" ++ ("rel-1." ++ "*" ++ "-é")) = .ok both ∧
        ∀ c : String, both.accepts [c] = true ↔
          starting.accepts [c] = true ∧ ending.accepts [c] = true ∧ "rel-1.".length + "-é".length ≤ c.length ∧
            ∀ middle, c.toList = "rel-1.".toList ++ (middle ++ "-é".toList) → '\n' ∉ middle := by
  have hfront : isPlainText "rel-1." = true := by decide +kernel
  have hback : isPlainText "-é" = true := by decide +kernel
  have hlight : Segment.ofGlob ("rel-1." ++ "*" ++ "-é") ≠ .error .tooHeavy :=
    ofGlob_ne_tooHeavy (by decide +kernel) (by decide +kernel)
  exact ⟨hfront, hback, hlight, accepts_affixes_iff hfront hback hlight⟩

/-- A name with a line feed in it starts and ends as it should, and is not accepted. -/
theorem a_line_feed_slips_past_a_star :
    ∃ starting ending both,
      compile "" true "/a*" = .ok starting ∧ compile "" true "/*b" = .ok ending ∧ compile "" true "/a*b" = .ok both ∧
      starting.accepts ["a\nb"] = true ∧ ending.accepts ["a\nb"] = true ∧ "a".length + "b".length ≤ "a\nb".length ∧
      both.accepts ["a\nb"] = false := by
  have hstarting : compile "" true "/a*" = .ok ⟨[startingWith "a"]⟩ := by decide +kernel
  have hending : compile "" true "/*b" = .ok ⟨[endingWith "b"]⟩ := by decide +kernel
  have hlight : Segment.ofGlob ("a" ++ "*" ++ "b") ≠ .error .tooHeavy :=
    ofGlob_ne_tooHeavy (by decide +kernel) (by decide +kernel)
  have hpath : "/" ++ ("a" ++ "*" ++ "b") = "/a*b" := by decide +kernel
  have hboth := compile_between "" (by decide +kernel) (by decide +kernel) hlight
  rw [hpath] at hboth
  exact ⟨_, _, _, hstarting, hending, hboth, by decide +kernel, by decide +kernel, by decide +kernel, by decide +kernel⟩

end PathPattern

end PathAuthz
