/-
  PathAuthz.Proofs.Pattern.Sets — bracket expressions that list their members.

  (1) `Bracket.write` writes members between brackets, each as it stands or behind a backslash.
  What is written is cut at its own `]`, and read back as the same members (`cut_write`,
  `members_write`).

  (2) Members that are no hyphens, and whose backslashes take punctuation only, are read as
  themselves (`atoms_eq`). The marks of classes are punctuation, so they may as well be quoted
  (`ofBracket?_write`). So the glob of the bracket expression accepts the characters listed, or
  all others (`standsForListed`).

  (3) A thousand of them are not too heavy (`ofGlob_write_ne_tooHeavy`).

  (4) A backslash that takes anything else does not leave it as it is: a letter becomes another
  character or a class (`misread_of_not_isPunctuation`), starts a longer escape or is refused,
  and so are digits, `<`, `>` and what is not ASCII. A set of that member alone shows it
  (`isPunctuation_of_standsForListed`).

  (5) Both directions together (`standsForListed_of_punctuation`), and the tab that `[\t]`
  accepts (`a_backslash_makes_another_character`).
-/

import PathAuthz.Proofs.Pattern.Shell
import PathAuthz.Proofs.Text.Runs

namespace PathAuthz.Pattern

open Text (CodeSet)

/-! ## (1) Written members -/

namespace Member

/-- Whether a member may be listed anywhere in a set. -/
def isListable : Member → Bool
  | plain c => c != ']' && c != '\\' && c != '-' && c != '/'
  | escaped c => c != '/'

end Member

/-- Whether members are those of a set: there is one, and the first does not negate. -/
def areListable : List Member → Bool
  | [] => false
  | m :: ms => m != .plain '!' && m != .plain '^' && (m :: ms).all Member.isListable

namespace Bracket

/-- Members between brackets. -/
def write (negated : Bool) (ms : List Member) : String :=
  String.ofList ('[' :: ((if negated then ['!'] else []) ++ (writeMembers ms ++ [']'])))

theorem toList_write (negated : Bool) (ms : List Member) :
    (write negated ms).toList = '[' :: ((if negated then ['!'] else []) ++ (writeMembers ms ++ [']'])) := String.toList_ofList

theorem writeMembers_plain (c : Char) (ms : List Member) : writeMembers (.plain c :: ms) = c :: writeMembers ms := rfl

theorem writeMembers_escaped (c : Char) (ms : List Member) :
    writeMembers (.escaped c :: ms) = '\\' :: c :: writeMembers ms := rfl

theorem isListable_plain {c : Char} (h : (Member.plain c).isListable = true) : c ≠ ']' ∧ c ≠ '\\' ∧ c ≠ '-' := by
  simp only [Member.isListable, Bool.and_eq_true, bne_iff_ne] at h
  exact ⟨h.1.1.1, h.1.1.2, h.1.2⟩

variable {ms : List Member}

/-- Members that stand for themselves in a body: no `]` that would end it, and no backslash that
    would take what follows. -/
def AreClosed (ms : List Member) : Prop := ∀ c, .plain c ∈ ms → c ≠ ']' ∧ c ≠ '\\'

theorem AreClosed.tail {m : Member} (h : AreClosed (m :: ms)) : AreClosed ms :=
  fun c hc => h c (List.mem_cons_of_mem m hc)

theorem areClosed_of_isListable (h : ∀ m ∈ ms, m.isListable = true) : AreClosed ms := by
  intro c hc
  obtain ⟨hclose, hslash, -⟩ := isListable_plain (h _ hc)
  exact ⟨hclose, hslash⟩

theorem cutBody_write (h : AreClosed ms) (rest : List Char) :
    cutBody (writeMembers ms ++ ']' :: rest) = some (writeMembers ms, rest) := by
  induction ms with
  | nil => simp [writeMembers, cutBody]
  | cons m ms ih =>
    cases m with
    | plain c =>
      obtain ⟨hclose, hslash⟩ := h c List.mem_cons_self
      rw [writeMembers_plain, List.cons_append, cutBody.eq_4 _ _ (by simp [hslash]) (by simp [hslash]),
        if_neg hclose, ih h.tail]
      rfl
    | escaped c =>
      rw [writeMembers_escaped, List.cons_append, List.cons_append, cutBody, ih h.tail]
      rfl

theorem members_write (h : .plain '\\' ∉ ms) : members (writeMembers ms) = ms := by
  induction ms with
  | nil => rfl
  | cons m ms ih =>
    have hms : .plain '\\' ∉ ms := fun hmem => h (List.mem_cons_of_mem m hmem)
    cases m with
    | plain c =>
      have hslash : c ≠ '\\' := fun hc => h (hc ▸ List.mem_cons_self)
      rw [writeMembers_plain, members.eq_4 _ _ (by simp [hslash]) (by simp [hslash]), ih hms]
    | escaped c => rw [writeMembers_escaped, members, ih hms]

theorem isListable_of_areListable (h : areListable ms = true) : ∀ m ∈ ms, m.isListable = true := by
  cases ms with
  | nil => cases h
  | cons m ms => exact List.all_eq_true.1 (Bool.and_eq_true_iff.1 h).2

/-- Members start with a backslash, or with the first of them if it has none. -/
theorem exists_first (h : ms ≠ []) :
    ∃ c cs, writeMembers ms = c :: cs ∧ (c = '\\' ∨ ms.head? = some (.plain c)) := by
  cases ms with
  | nil => exact absurd rfl h
  | cons m ms =>
    cases m with
    | plain c => exact ⟨c, writeMembers ms, rfl, .inr rfl⟩
    | escaped c => exact ⟨'\\', c :: writeMembers ms, rfl, .inl rfl⟩

theorem cutSet_write (h : AreClosed ms) (hne : ms ≠ []) (rest : List Char) :
    cutSet (writeMembers ms ++ ']' :: rest) = some (writeMembers ms, rest) := by
  have hbody := cutBody_write h rest
  obtain ⟨c, cs, hcs, hfirst⟩ := exists_first hne
  have hclose : c ≠ ']' := by
    rcases hfirst with rfl | hfirst
    · decide
    · exact (h c (List.mem_of_mem_head? hfirst)).1
  rw [hcs, List.cons_append] at hbody ⊢
  rw [cutSet.eq_2 _ (by simp [hclose]), hbody]

theorem cut_write (h : areListable ms = true) (negated : Bool) (rest : List Char) :
    cut ((if negated then ['!'] else []) ++ (writeMembers ms ++ ']' :: rest)) =
      some (⟨negated, writeMembers ms⟩, rest) := by
  obtain ⟨m, hm, hnot, hcaret⟩ : ∃ m, ms.head? = some m ∧ m ≠ .plain '!' ∧ m ≠ .plain '^' := by
    cases ms with
    | nil => cases h
    | cons m ms =>
      simp only [areListable, Bool.and_eq_true, bne_iff_ne] at h
      exact ⟨m, rfl, h.1.1, h.1.2⟩
  have hne : ms ≠ [] := List.ne_nil_of_mem (List.mem_of_mem_head? hm)
  have hset := cutSet_write (areClosed_of_isListable (isListable_of_areListable h)) hne rest
  cases negated with
  | true =>
    rw [if_pos rfl, List.singleton_append, cut, hset]
    rfl
  | false =>
    obtain ⟨c, cs, hcs, hfirst⟩ := exists_first hne
    have hplain : c ≠ '!' ∧ c ≠ '^' := by
      rcases hfirst with rfl | hfirst
      · decide
      · cases hm.symm.trans hfirst
        exact ⟨fun he => hnot (he ▸ rfl), fun he => hcaret (he ▸ rfl)⟩
    rw [hcs, List.cons_append] at hset
    rw [if_neg Bool.false_ne_true, List.nil_append, hcs, List.cons_append,
      cut.eq_3 _ (by simp [hplain.1]) (by simp [hplain.2]), hset]
    rfl

end Bracket

/-! ## (2) Members that stand for themselves -/

theorem isPunctuation_of_isClassMark {c : Char} (h : isClassMark c = true) : isPunctuation c = true := by
  simp only [isClassMark, List.contains_iff_mem, List.mem_cons, List.not_mem_nil, or_false] at h
  rcases h with rfl | rfl | rfl | rfl | rfl | rfl <;> decide

theorem Member.isListable_quoted {m : Member} (h : m.isListable = true) : m.quoted.isListable = true := by
  cases m with
  | plain c =>
    rw [quoted]
    split
    · simp only [isListable, Bool.and_eq_true] at h
      exact h.2
    · exact h
  | escaped c => exact h

theorem after?_of_isPunctuation {c : Char} (h : isPunctuation c = true) : EscapeState.after? c = none := by
  unfold EscapeState.after?
  split
  all_goals first | rfl | cases h

theorem ofEscaped?_of_isPunctuation {c : Char} (h : isPunctuation c = true) : Atom.ofEscaped? c = some (.literal c) := by
  unfold Atom.ofEscaped?
  split
  all_goals first | rfl | cases h | exact if_pos h

section

variable {ms : List Member} (hms : ∀ m ∈ ms, m.isListable = true)
  (hescapes : ∀ c, .escaped c ∈ ms → isPunctuation c = true)

include hms hescapes

theorem atoms_eq : atoms .idle ms = some (ms.map fun m => .literal m.char) := by
  induction ms with
  | nil => rfl
  | cons m ms ih =>
    obtain ⟨hm, hms⟩ := List.forall_mem_cons.1 hms
    have hrest := ih hms fun c hc => hescapes c (List.mem_cons_of_mem m hc)
    cases m with
    | plain c =>
      rw [atoms, hrest, Atom.ofPlain, if_neg (Bracket.isListable_plain hm).2.2]
      rfl
    | escaped c =>
      have hc := hescapes c List.mem_cons_self
      rw [atoms, after?_of_isPunctuation hc]
      simp only [ofEscaped?_of_isPunctuation hc, hrest]
      rfl

end

/-- Without hyphens there are neither ranges nor differences. -/
theorem groups_literals (cs : List Char) : groups (cs.map .literal) = some [cs.map .one] := by
  induction cs with
  | nil => rfl
  | cons c cs ih =>
    have hgroups : groups ((c :: cs).map .literal) = (groups (cs.map .literal)).map (consFirst (.one c)) := by
      cases cs with
      | nil => rfl
      | cons d ds => rfl
    rw [hgroups, ih]
    rfl

/-- A set without differences is not too deep. -/
theorem nesting_nil_le_deepest (items : List Item) : nesting items [] ≤ deepest := by
  show groupDepth items ≤ 248
  unfold groupDepth
  split <;> omega

/-- The set of characters that are listed, or of those that are not. -/
def listed (negated : Bool) (ms : List Member) : CharClass := ⟨negated, ms.map fun m => .one m.char, []⟩

theorem contains_listed (negated : Bool) (ms : List Member) (c : Char) :
    (listed negated ms).contains c = true ↔ (c ∈ ms.map Member.char ↔ negated = false) := by
  have hany : (ms.map fun m => Item.one m.char).any (·.contains c) = decide (c ∈ ms.map Member.char) := by
    rw [List.any_map, Bool.eq_iff_iff, List.any_eq_true, decide_eq_true_eq, List.mem_map]
    exact exists_congr fun m => and_congr_right fun _ => beq_iff_eq.trans eq_comm
  rw [CharClass.contains, listed, hany]
  by_cases hc : c ∈ ms.map Member.char <;> cases negated <;> simp [hc]

theorem ofMembers?_listable {ms : List Member} (hms : ∀ m ∈ ms, m.isListable = true)
    (hescapes : ∀ c, .escaped c ∈ ms → isPunctuation c = true) (negated : Bool) :
    CharClass.ofMembers? negated ms = some (listed negated ms) := by
  have hliterals : (ms.map fun m => Atom.literal m.char) = (ms.map Member.char).map .literal := by
    rw [List.map_map]
    rfl
  have hleading : ((ms.map Member.char).map Atom.literal).takeWhile (· == .hyphen) = [] ∧
      ((ms.map Member.char).map Atom.literal).dropWhile (· == .hyphen) = (ms.map Member.char).map Atom.literal := by
    cases ms with
    | nil => exact ⟨rfl, rfl⟩
    | cons m ms => exact ⟨rfl, rfl⟩
  rw [CharClass.ofMembers?, atoms_eq hms hescapes, hliterals]
  simp only [Option.bind_eq_bind, Option.bind_some, hleading.1, hleading.2, groups_literals]
  simp [listed, nesting_nil_le_deepest]

theorem ofBracket?_write {ms : List Member} (hms : ∀ m ∈ ms, m.isListable = true)
    (hescapes : ∀ c, .escaped c ∈ ms → isPunctuation c = true) (negated : Bool) :
    CharClass.ofBracket? ⟨negated, Bracket.writeMembers ms⟩ = some (listed negated ms) := by
  have hslash : .plain '\\' ∉ ms := fun hmem => (Bracket.areClosed_of_isListable hms _ hmem).2 rfl
  have hquoted : ∀ m ∈ ms.map Member.quoted, m.isListable = true :=
    List.forall_mem_map.2 fun m hm => Member.isListable_quoted (hms m hm)
  have hpunct : ∀ c, .escaped c ∈ ms.map Member.quoted → isPunctuation c = true := by
    intro c hc
    obtain ⟨m, hm, hquoted⟩ := List.mem_map.1 hc
    rcases Member.of_quoted_eq_escaped hquoted with rfl | hmark
    · exact hescapes c hm
    · exact isPunctuation_of_isClassMark hmark
  rw [CharClass.ofBracket?, Bracket.members_write hslash, ofMembers?_listable hquoted hpunct, listed, listed, List.map_map]
  simp only [Function.comp_def, Member.char_quoted]

/-- What bracket expressions should do with listed members: without `!` they accept each of them, with it
    every other character. -/
def StandsForListed (ms : List Member) : Prop :=
  ∀ negated, ∃ s, Segment.ofGlob (Bracket.write negated ms) = .ok s ∧
    ∀ text : String, s.accepts text = true ↔
      ∃ c, text.toList = [c] ∧ (c ∈ ms.map Member.char ↔ negated = false)

theorem pieces?_bracket {cs rest : List Char} {b : Bracket} (h : Bracket.cut cs = some (b, rest)) :
    pieces? ('[' :: cs) = (do return .oneOf (← CharClass.ofBracket? b) :: (← pieces? rest)) := by
  rw [pieces?.eq_4 _ _ (by simp) (by simp), if_neg (by decide), if_neg (by decide), if_pos rfl]
  split
  · rename_i h'
    rw [h] at h'
    cases h'
    rfl
  · rename_i h'
    rw [h] at h'
    cases h'

/-- A `[` that nothing closes stands for itself. -/
theorem pieces?_unclosed {cs : List Char} (h : Bracket.cut cs = none) :
    pieces? ('[' :: cs) = (pieces? cs).map (.exactly '[' :: ·) := by
  rw [pieces?.eq_4 _ _ (by simp) (by simp), if_neg (by decide), if_neg (by decide), if_pos rfl]
  split
  · rename_i h'
    rw [h] at h'
    cases h'
  · rfl

theorem pieces?_write {ms : List Member} (h : areListable ms = true) (negated : Bool) :
    pieces? (Bracket.write negated ms).toList =
      (CharClass.ofBracket? ⟨negated, Bracket.writeMembers ms⟩).map fun s => [.oneOf s] := by
  rw [Bracket.toList_write, pieces?_bracket (Bracket.cut_write h negated []), pieces?]
  cases CharClass.ofBracket? ⟨negated, Bracket.writeMembers ms⟩ <;> rfl

theorem ofGlob_write (negated : Bool) (ms : List Member) :
    Segment.ofGlob (Bracket.write negated ms) = (Glob.ofSource (Bracket.write negated ms)).map .shell := by
  obtain ⟨inner, hinner⟩ : ∃ inner, (Bracket.write negated ms).toList = '[' :: (inner ++ [']']) :=
    ⟨_, by rw [Bracket.toList_write, ← List.append_assoc]⟩
  refine Segment.ofGlob_shell ?_ ?_ ?_ ?_
  · rw [hinner, hasWildcard_cons (by decide)]
    rfl
  · intro he
    rw [← String.toList_inj, hinner] at he
    cases he
  · intro text hcut
    have hlast := congrArg List.getLast? (hinner.symm.trans hcut)
    rw [← List.cons_append, List.getLast?_concat, List.getLast?_concat] at hlast
    cases hlast
  · intro text hcut
    cases hinner.symm.trans hcut

section

variable {ms : List Member} (h : areListable ms = true) {negated : Bool} {s : CharClass}

include h

/-- Whatever members are read as, their set judges texts of one character. -/
theorem accepts_of_class (hset : CharClass.ofBracket? ⟨negated, Bracket.writeMembers ms⟩ = some s)
    (hlight : Segment.ofGlob (Bracket.write negated ms) ≠ .error .tooHeavy) :
    ∃ segment, Segment.ofGlob (Bracket.write negated ms) = .ok segment ∧
      ∀ text : String, segment.accepts text = true ↔ ∃ c, text.toList = [c] ∧ s.contains c = true := by
  have hpieces : pieces? (Bracket.write negated ms).toList = some [.oneOf s] := by
    rw [pieces?_write h, hset, Option.map_some]
  rw [ofGlob_write] at hlight ⊢
  have hsource := Glob.ofSource_of_pieces hpieces fun h => hlight (by rw [h]; rfl)
  refine ⟨.shell ⟨_, [.oneOf s]⟩, by rw [hsource]; rfl, fun text => ?_⟩
  rw [Segment.shell_accepts, covers_oneOf]

theorem ofGlob_ne_tooHeavy_of_class (hset : CharClass.ofBracket? ⟨negated, Bracket.writeMembers ms⟩ = some s)
    (hranges : s.codes.ranges.length ≤ 2400) :
    Segment.ofGlob (Bracket.write negated ms) ≠ .error .tooHeavy := by
  refine Segment.ofGlob_ne_tooHeavy_of_fits ?_ (fits_of_set hranges)
  rw [pieces?_write h, hset, Option.map_some]

theorem exists_class_of_ofGlob {segment : Segment}
    (hsegment : Segment.ofGlob (Bracket.write negated ms) = .ok segment) :
    ∃ s, CharClass.ofBracket? ⟨negated, Bracket.writeMembers ms⟩ = some s ∧
      ∀ text : String, segment.accepts text = true ↔ ∃ c, text.toList = [c] ∧ s.contains c = true := by
  cases hset : CharClass.ofBracket? ⟨negated, Bracket.writeMembers ms⟩ with
  | none =>
    have hpieces : pieces? (Bracket.write negated ms).toList = none := by
      rw [pieces?_write h, hset, Option.map_none]
    rw [ofGlob_write, Glob.ofSource, hpieces] at hsegment
    cases hsegment
  | some s =>
    have hlight : Segment.ofGlob (Bracket.write negated ms) ≠ .error .tooHeavy := by
      rw [hsegment]
      simp
    obtain ⟨other, hother, haccepts⟩ := accepts_of_class h hset hlight
    rw [hsegment] at hother
    cases hother
    exact ⟨s, rfl, haccepts⟩

end

theorem standsForListed {ms : List Member} (h : areListable ms = true)
    (hescapes : ∀ c, .escaped c ∈ ms → isPunctuation c = true)
    (hlight : ∀ negated, Segment.ofGlob (Bracket.write negated ms) ≠ .error .tooHeavy) :
    StandsForListed ms := by
  intro negated
  have hset := ofBracket?_write (Bracket.isListable_of_areListable h) hescapes negated
  obtain ⟨segment, hsegment, haccepts⟩ := accepts_of_class h hset (hlight negated)
  refine ⟨segment, hsegment, fun text => ?_⟩
  rw [haccepts]
  simp only [contains_listed]

/-! ## (3) Sets that are not too heavy -/

theorem length_ranges_listed_le (negated : Bool) (ms : List Member) :
    (listed negated ms).codes.ranges.length ≤ 2 * ms.length + 3 := by
  have hcodes : (listed negated ms).included.map Item.codes = (ms.map Member.char).map CodeSet.single := by
    rw [listed, List.map_map, List.map_map]
    rfl
  have hruns := CodeSet.length_runs_unions_le (ms.map Member.char)
  have hless := CodeSet.length_runs_sdiff_le (CodeSet.unions ((ms.map Member.char).map CodeSet.single)) CodeSet.empty
  have hempty : CodeSet.empty.runs.length = 0 := rfl
  have hall : CodeSet.characters.runs.length = 3 := rfl
  rw [List.length_map] at hruns
  refine Nat.le_trans (CodeSet.length_ranges_le _) ?_
  rw [CharClass.codes, hcodes]
  cases negated with
  | false =>
    have := CodeSet.length_runs_inter_le CodeSet.characters
      (CodeSet.unions ((ms.map Member.char).map CodeSet.single) \ CodeSet.empty)
    exact Nat.le_trans this (by omega)
  | true =>
    have := CodeSet.length_runs_sdiff_le CodeSet.characters
      (CodeSet.unions ((ms.map Member.char).map CodeSet.single) \ CodeSet.empty)
    exact Nat.le_trans this (by omega)

/-- A set of a thousand members is not too heavy. -/
theorem ofGlob_write_ne_tooHeavy {ms : List Member} (h : areListable ms = true)
    (hescapes : ∀ c, .escaped c ∈ ms → isPunctuation c = true) (hlength : ms.length ≤ 1000) (negated : Bool) :
    Segment.ofGlob (Bracket.write negated ms) ≠ .error .tooHeavy := by
  have hset := ofBracket?_write (Bracket.isListable_of_areListable h) hescapes negated
  have hranges := length_ranges_listed_le negated ms
  exact ofGlob_ne_tooHeavy_of_class h hset (by omega)

/-! ## (4) Other backslashes -/

section

open Text.Property

theorem category_d : category.get 100 = "Ll" := by decide +kernel

theorem category_W : category.get 87 = "Lu" := by decide +kernel

theorem category_underscore : category.get 95 = "Pc" := by decide +kernel

theorem decimalDigits_contains_d : Text.decimalDigits.contains 'd' = false := by
  simp [Text.decimalDigits, contains_inCategory, category_d]

theorem decimalDigits_contains_underscore : Text.decimalDigits.contains '_' = false := by
  simp [Text.decimalDigits, contains_inCategory, category_underscore]

theorem wordCharacters_contains_underscore : Text.wordCharacters.contains '_' = true := by
  simp [Text.wordCharacters, contains_inCategory, category_underscore]

theorem wordCharacters_contains_W : Text.wordCharacters.contains 'W' = true := by
  simp [Text.wordCharacters, alphabetic, cased, uppercase, contains_inCategory, category_W]

end

/-- What is read behind a lone backslash that does not take punctuation is not the character it takes. -/
theorem misread_of_not_isPunctuation {c : Char} {a : Atom} (h : isPunctuation c = false)
    (ha : Atom.ofEscaped? c = some a) : ∃ d, ¬ ((Item.ofAtom a).contains d = true ↔ d = c) := by
  unfold Atom.ofEscaped? at ha
  split at ha
  case h_13 =>
    rw [if_neg (by simp [h])] at ha
    cases ha
  all_goals cases ha
  · exact ⟨'a', by decide⟩
  · exact ⟨'f', by decide⟩
  · exact ⟨'t', by decide⟩
  · exact ⟨'n', by decide⟩
  · exact ⟨'r', by decide⟩
  · exact ⟨'v', by decide⟩
  · exact ⟨'d', by simp [Item.ofAtom, Item.contains, CharKind.contains, decimalDigits_contains_d]⟩
  · exact ⟨'_', by simp [Item.ofAtom, Item.contains, CharKind.contains, decimalDigits_contains_underscore]⟩
  · exact ⟨'s', by decide⟩
  · exact ⟨'_', by decide⟩
  · exact ⟨'_', by simp [Item.ofAtom, Item.contains, CharKind.contains, wordCharacters_contains_underscore]⟩
  · exact ⟨'W', by simp [Item.ofAtom, Item.contains, CharKind.contains, wordCharacters_contains_W]⟩

/-- A lone backslash that makes an atom is no start of a longer escape. -/
theorem atoms_escaped {c : Char} {as : List Atom} (h : atoms .idle [.escaped c] = some as) :
    ∃ a, Atom.ofEscaped? c = some a ∧ as = [a] := by
  rw [atoms] at h
  cases hafter : EscapeState.after? c with
  | some state =>
    simp only [hafter] at h
    cases state with
    | idle =>
      unfold EscapeState.after? at hafter
      split at hafter
      all_goals cases hafter
    | code | digits | bracedCode | property | bracedProperty => cases h
  | none =>
    simp only [hafter] at h
    cases ha : Atom.ofEscaped? c with
    | none =>
      rw [ha] at h
      cases h
    | some a =>
      rw [ha] at h
      cases h
      exact ⟨a, rfl, rfl⟩

theorem ne_hyphen_of_ofEscaped? {c : Char} {a : Atom} (h : Atom.ofEscaped? c = some a) : a ≠ .hyphen := by
  rintro rfl
  unfold Atom.ofEscaped? at h
  split at h
  case h_13 =>
    split at h
    all_goals cases h
  all_goals cases h

theorem ofBracket?_escaped {negated : Bool} {c : Char} {s : CharClass}
    (h : CharClass.ofBracket? ⟨negated, ['\\', c]⟩ = some s) :
    ∃ a, Atom.ofEscaped? c = some a ∧ s = ⟨negated, [.ofAtom a], []⟩ := by
  rw [CharClass.ofBracket?, Bracket.members, Bracket.members, CharClass.ofMembers?] at h
  obtain ⟨as, has, h⟩ := Option.bind_eq_some_iff.1 h
  obtain ⟨a, ha, rfl⟩ := atoms_escaped has
  have hhyphen : (a == Atom.hyphen) = false := beq_eq_false_iff_ne.2 (ne_hyphen_of_ofEscaped? ha)
  refine ⟨a, ha, ?_⟩
  cases a with
  | hyphen => cases hhyphen
  | literal d =>
    cases h
    rfl
  | kind k complemented =>
    cases h
    rfl

/-- A set of one member behind a backslash accepts that member alone only if it is punctuation. -/
theorem isPunctuation_of_standsForListed {c : Char} (hc : c ≠ '/') (h : StandsForListed [.escaped c]) :
    isPunctuation c = true := by
  have hlistable : areListable [.escaped c] = true := by simp [areListable, Member.isListable, hc]
  obtain ⟨segment, hsegment, haccepts⟩ := h false
  obtain ⟨s, hset, hcontains⟩ := exists_class_of_ofGlob hlistable hsegment
  obtain ⟨a, ha, rfl⟩ := ofBracket?_escaped hset
  by_contra hpunct
  obtain ⟨d, hd⟩ := misread_of_not_isPunctuation (Bool.eq_false_iff.2 hpunct) ha
  have hboth := (hcontains (String.ofList [d])).symm.trans (haccepts (String.ofList [d]))
  exact hd (by simpa [CharClass.contains, Member.char] using hboth)

/-! ## (5) Escaped members -/

/-- Members stand for themselves in a set if every backslash takes punctuation, and a member behind a
    backslash that takes anything else does not even do so on its own. -/
theorem standsForListed_of_punctuation {ms : List Member} (h : areListable ms = true)
    (hlight : ∀ negated, Segment.ofGlob (Bracket.write negated ms) ≠ .error .tooHeavy) :
    ((∀ c, .escaped c ∈ ms → isPunctuation c = true) → StandsForListed ms) ∧
      ∀ c, .escaped c ∈ ms → (StandsForListed [.escaped c] ↔ isPunctuation c = true) := by
  refine ⟨fun hescapes => standsForListed h hescapes hlight, fun c hmem => ?_⟩
  have hc : c ≠ '/' := by
    rintro rfl
    cases Bracket.isListable_of_areListable h _ hmem
  refine ⟨isPunctuation_of_standsForListed hc, fun hpunct => ?_⟩
  have hlistable : areListable [.escaped c] = true := by simp [areListable, Member.isListable, hc]
  have hescapes : ∀ d, .escaped d ∈ [Member.escaped c] → isPunctuation d = true := by
    intro d hd
    cases List.mem_singleton.1 hd
    exact hpunct
  have hlength : [Member.escaped c].length ≤ 1000 := by simp
  exact standsForListed hlistable hescapes (ofGlob_write_ne_tooHeavy hlistable hescapes hlength)

/-- `[[\]&&\-é]`: brackets, an intersection and a range of regular expressions, and none of a glob. -/
theorem standsForListed_of_punctuation_metacharacters :
    let ms := [.plain '[', .escaped ']', .plain '&', .plain '&', .escaped '-', .plain 'é']
    areListable ms = true ∧
      (∀ negated, Segment.ofGlob (Bracket.write negated ms) ≠ .error .tooHeavy) ∧
      StandsForListed ms := by
  intro ms
  have h : areListable ms = true := by decide
  have hescapes : ∀ c, .escaped c ∈ ms → isPunctuation c = true := by simp [ms]; decide
  have hlight := ofGlob_write_ne_tooHeavy h hescapes (by decide)
  exact ⟨h, hlight, (standsForListed_of_punctuation h hlight).1 hescapes⟩

/-- `[\t]` accepts a tab and no `t`. -/
theorem a_backslash_makes_another_character :
    areListable [.escaped 't'] = true ∧
      ∃ s, Segment.ofGlob "[\\t]" = .ok s ∧ s.accepts "t" = false ∧ s.accepts "\t" = true := by
  have h : areListable [.escaped 't'] = true := by decide
  have hset : CharClass.ofBracket? ⟨false, Bracket.writeMembers [.escaped 't']⟩ = some ⟨false, [.one '\t'], []⟩ := by
    decide
  have hlight := ofGlob_ne_tooHeavy_of_class h hset (by decide +kernel)
  obtain ⟨s, hs, haccepts⟩ := accepts_of_class h hset hlight
  refine ⟨h, s, hs, ?_, (haccepts "\t").2 ⟨'\t', by decide, by decide⟩⟩
  rw [Bool.eq_false_iff, ne_eq, haccepts]
  rintro ⟨c, hc, hcontains⟩
  have ht : c = 't' := (List.singleton_inj.1 (hc.symm.trans (by decide)))
  subst ht
  cases hcontains

end PathAuthz.Pattern
