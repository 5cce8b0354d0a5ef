/-
  PathAuthz.Proofs.Model.Bystanders — an entry for one user, seen by everybody else.

  (1) A plain name means one user (`ofOption?_of_plain`): an option of that name applies to that
  user and to nobody else (`optionApplies_of_plain`), and takes in no class of people. If a section
  `Gains` an option, that can only be noticed by those to whom it applies (`granted_of_not`).

  (2) A text with one more option for a user loads as it did before, because a user needs no
  definition (`revises_of_gains`, `textsCompile_of_gains`).

  (3) What every other identity is granted is the same, and so is whether it is pooled: the new
  option can only make its own user known. So nobody else is answered differently
  (`grant_to_one_user`).
-/

import PathAuthz.Proofs.Model.Answers
import PathAuthz.Proofs.Model.Revision

namespace PathAuthz

open Source

/-! ## (1) Options for one user -/

theorem Grantee.ofName?_of_plain {name : List Char} (h : isPlainName name = true) (inverted : Bool) :
    ofName? inverted name = some (.subject (.user (String.ofList name)) inverted) := by
  -- Each of the other cases starts with a reserved character, or with none.
  unfold ofName?
  split
  · cases h
  · cases h
  · cases h
  · cases h
  · exact if_pos h

theorem Grantee.ofOption?_of_plain {user : String} (h : isPlainName user.toList = true) :
    ofOption? user = some (.subject (.user user) false) := by
  obtain ⟨name, rfl⟩ : ∃ name, user = String.ofList name := ⟨user.toList, String.ofList_toList.symm⟩
  unfold ofOption?
  rw [String.toList_ofList] at h ⊢
  split
  · cases h
  · cases h
  · exact ofName?_of_plain h false

section

variable {user : String} (hplain : isPlainName user.toList = true)

include hplain

theorem optionApplies_of_plain {d : Draft} {ss : List Section} (hd : d.IsOf ss) (roster : Roster) {who : Identity}
    (hne : who ≠ .user user) : optionApplies ss roster user who = false := by
  rw [← includes_ofOption? hd (Grantee.ofOption?_of_plain hplain)]
  cases who with
  | anonymous => rfl
  | user name =>
    have hother : user ≠ name := fun he => hne (he ▸ rfl)
    simpa [Grantee.includes, Subject.means] using hother

theorem takesAll_of_plain : takesAll user = false := by
  rw [takesAll, Grantee.ofOption?_of_plain hplain]
  rfl

end

namespace Source.Section

/-- A section with one more option somewhere among the others. -/
structure Gains (o : String × String) (s s' : Section) : Prop where
  heading : s.heading = s'.heading
  options : ∃ front back, s.options = front ++ back ∧ s'.options = front ++ o :: back

variable {o : String × String} {s s' : Section} (h : s.Gains o s')

include h

theorem mem_options_of_gains {p : String × String} : p ∈ s'.options ↔ p = o ∨ p ∈ s.options := by
  obtain ⟨front, back, hs, hs'⟩ := h.options
  rw [hs, hs', List.mem_append, List.mem_append, List.mem_cons]
  tauto

theorem granted_of_not {p : String → Bool} (hp : p o.1 = false) : s.granted p = s'.granted p := by
  obtain ⟨front, back, hs, hs'⟩ := h.options
  simp only [granted, hs, hs', List.map_append, List.map_cons, hp, Grant.onlyIf_false, Grant.gather_append,
    Grant.gather_cons, Grant.none_also]

theorem any_name_of_not {p : String → Bool} (hp : p o.1 = false) : s'.options.any (p ·.1) = s.options.any (p ·.1) := by
  obtain ⟨front, back, hs, hs'⟩ := h.options
  rw [hs, hs', List.any_append, List.any_append, List.any_cons, hp, Bool.false_or]

theorem isWellFormed_of_gains (hrule : s.isRule = true) (ho : (grantOf? o).isSome = true) (hs : s.isWellFormed = true) :
    s'.isWellFormed = true := by
  rw [isWellFormed, if_pos hrule, Bool.and_eq_true, List.all_eq_true] at hs
  rw [isWellFormed, if_pos (isRule_of_revised hrule h.heading), Bool.and_eq_true, List.all_eq_true, ← h.heading]
  refine ⟨hs.1, ?_⟩
  intro p hp
  rcases (mem_options_of_gains h).mp hp with rfl | hp
  · exact ho
  · exact hs.2 p hp

end Source.Section

/-! ## (2) Texts with one more option -/

section

variable {before after : List Section} {s s' : Section} {user value : String} (hrule : s.isRule = true)
  (hgains : s.Gains (user, value) s') (hplain : isPlainName user.toList = true)

include hrule hgains hplain

theorem revises_of_gains : Model.Revises (before ++ s :: after) (before ++ s' :: after) := by
  obtain ⟨hg, ha⟩ := definitions_of_revised hrule hgains.heading before after
  refine ⟨hg, ha, ?_⟩
  intro t ht htrule o ho
  rcases List.mem_append.mp ht with hmem | hmem
  · exact .inl ⟨t, List.mem_append_left _ hmem, htrule, rfl, ho⟩
  · rcases List.mem_cons.mp hmem with rfl | hmem
    · rcases (Section.mem_options_of_gains hgains).mp ho with rfl | ho
      · exact .inr ⟨user, false, Grantee.ofOption?_of_plain hplain⟩
      · exact .inl ⟨s, List.mem_append_right _ List.mem_cons_self, hrule, hgains.heading, ho⟩
    · exact .inl ⟨t, List.mem_append_right _ (List.mem_cons_of_mem _ hmem), htrule, rfl, ho⟩

theorem textsCompile_of_gains {rules rules' : String} {groups : Option String}
    (hvalue : (Access.ofRights value.toList).isOk = true) (hsections : sections rules = before ++ s :: after)
    (hsections' : sections rules' = before ++ s' :: after) (hfault : (trace rules').2 = none)
    (h : TextsCompile rules groups) : TextsCompile rules' groups := by
  have hgrant : (grantOf? (user, value)).isSome = true := by
    rcases hrights : Access.ofRights value.toList with c | a
    · rw [hrights] at hvalue
      cases hvalue
    · rw [grantOf?, Grantee.ofOption?_of_plain hplain, hrights]
      rfl
  obtain ⟨hg, ha⟩ := definitions_of_revised hrule hgains.heading before after
  have hwell := h.wellFormed
  rw [hsections] at hwell
  obtain ⟨hbefore, hrest⟩ := List.forall_mem_append.mp hwell
  obtain ⟨hs, hafter⟩ := List.forall_mem_cons.mp hrest
  apply textsCompile_of_headings h hfault
  · rw [hsections, hsections', List.map_append, List.map_append, List.map_cons, List.map_cons, hgains.heading]
  · rw [hsections']
    have hs' := Section.isWellFormed_of_gains hgains hrule hgrant hs
    exact List.forall_mem_append.mpr ⟨hbefore, List.forall_mem_cons.mpr ⟨hs', hafter⟩⟩
  · rw [hsections, hsections', hg]
  · rw [hsections, hsections', ha]

end

/-! ## (3) Everybody else -/

namespace Model

theorem sameAnswers_of_gains {m m' : Model} {d d' : Draft} {before after : List Section} {s s' : Section}
    {user value : String} (hrule : s.isRule = true) (hgains : s.Gains (user, value) s')
    (hplain : isPlainName user.toList = true) (hm : m.IsOf d) (hd : d.IsOf (before ++ s :: after)) (hm' : m'.IsOf d')
    (hd' : d'.IsOf (before ++ s' :: after)) {who : Identity} (hne : who ≠ .user user) : SameAnswers m m' who := by
  have hsame : ∀ {p : String → Bool}, p user = false → Option.Rel Eq (s.granted p) (s'.granted p) := by
    intro p hp
    exact rel_of_eq (fun _ => rfl) (Section.granted_of_not hgains hp)
  have hto : List.Forall₂ (Rule.Alike Eq (·.accessFor who)) m.rules m'.rules :=
    accessFor_of_revised hrule hgains.heading (fun _ => rfl) hm hd hm' hd'
      (hsame (optionApplies_of_plain hplain hd _ hne))
  have hall : List.Forall₂ (Rule.Alike Eq (·.authenticated)) m.rules m'.rules :=
    authenticated_of_revised hrule hgains.heading (fun _ => rfl) hm hd hm' hd' (hsame (takesAll_of_plain hplain))
  have hnames : ∀ name, who = .user name → s'.names name = s.names name := by
    rintro name rfl
    have hother : user ≠ name := fun he => hne (he ▸ rfl)
    rw [Section.names_of_isRule hrule, Section.names_of_isRule (isRule_of_revised hrule hgains.heading)]
    refine Section.any_name_of_not hgains (p := fun option => (Grantee.ofOption? option).any (·.names name)) ?_
    rw [Grantee.ofOption?_of_plain hplain]
    simpa [Grantee.names] using hother
  have hp : pooled (before ++ s' :: after) who = pooled (before ++ s :: after) who :=
    pooled_of_revised hrule hgains.heading hnames (Section.any_name_of_not hgains (takesAll_of_plain hplain))
  exact sameAnswers_of_alike hm hd hm' hd' hto hall hp

/-- One more entry for a user, in whatever section, is nothing to anybody else. -/
theorem grant_to_one_user {rules rules' : String} {groups : Option String} {m : Model} (hload : load rules groups = .ok m)
    {before after : List Section} {heading user value : String} {front back : List (String × String)}
    (hrule : Section.isRule ⟨heading, []⟩ = true)
    (hsections : sections rules = before ++ ⟨heading, front ++ back⟩ :: after) (hfault : (trace rules').2 = none)
    (hsections' : sections rules' = before ++ ⟨heading, front ++ (user, value) :: back⟩ :: after)
    (hplain : isPlainName user.toList = true) (hvalue : (Access.ofRights value.toList).isOk = true) :
    ∃ m', load rules' groups = .ok m' ∧ ∀ who, who ≠ .user user → SameAnswers m m' who := by
  have hrule : Section.isRule ⟨heading, front ++ back⟩ = true := hrule
  have hgains : Section.Gains (user, value) ⟨heading, front ++ back⟩ ⟨heading, front ++ (user, value) :: back⟩ :=
    ⟨rfl, front, back, rfl, rfl⟩
  have hcompiles : TextsCompile rules' groups :=
    textsCompile_of_gains hrule hgains hplain hvalue hsections hsections' hfault (textsCompile_of_load hload)
  have hrevises : Revises (sectionsOfTexts rules groups) (sectionsOfTexts rules' groups) := by
    rw [sectionsOfTexts_of_append hsections, sectionsOfTexts_of_append hsections']
    exact revises_of_gains hrule hgains hplain
  obtain ⟨m', d, d', hload', ⟨hm, hd⟩, ⟨hm', hd'⟩, -, -⟩ := exists_load_of_revision hload hcompiles hrevises
  rw [sectionsOfTexts_of_append hsections] at hd
  rw [sectionsOfTexts_of_append hsections'] at hd'
  exact ⟨m', hload', fun who hne => sameAnswers_of_gains hrule hgains hplain hm hd hm' hd' hne⟩

/-- The user is known by an alias already, and the others are those whom an inverted entry takes in. -/
theorem grant_to_one_user_aliased :
    ∃ m m', load "[aliases]\nboss = bob\n[a:/]\n&boss = r\n~eve = r\n" none = .ok m ∧
      load "[aliases]\nboss = bob\n[a:/]\n&boss = r\nbob = rw\n~eve = r\n" none = .ok m' ∧
      m'.effectiveAccess "a" "/x" (.user "eve") false = m.effectiveAccess "a" "/x" (.user "eve") false ∧
      m'.lookupRights (.user "stranger") (some "a") = m.lookupRights (.user "stranger") (some "a") ∧
      m'.check "a" "/x" .anonymous .reading true = m.check "a" "/x" .anonymous .reading true := by
  have hload : (load "[aliases]\nboss = bob\n[a:/]\n&boss = r\n~eve = r\n" none).toOption.any (fun _ => true) = true := by
    decide +kernel
  obtain ⟨m, hm, -⟩ := exists_ok_of_any hload
  have hsections : sections "[aliases]\nboss = bob\n[a:/]\n&boss = r\n~eve = r\n" =
      [⟨"aliases", [("boss", "bob")]⟩] ++ ⟨"a:/", [("&boss", "r")] ++ [("~eve", "r")]⟩ :: [] := by decide +kernel
  have hsections' : sections "[aliases]\nboss = bob\n[a:/]\n&boss = r\nbob = rw\n~eve = r\n" =
      [⟨"aliases", [("boss", "bob")]⟩] ++ ⟨"a:/", [("&boss", "r")] ++ ("bob", "rw") :: [("~eve", "r")]⟩ :: [] := by
    decide +kernel
  obtain ⟨m', hm', hanswers⟩ := grant_to_one_user hm (by decide) hsections (by decide +kernel) hsections' (by decide +kernel)
    (by decide +kernel)
  exact ⟨m, m', hm, hm', (hanswers (.user "eve") (by decide)).effectiveAccess "a" "/x" false,
    (hanswers (.user "stranger") (by decide)).lookupRights (some "a"),
    (hanswers .anonymous (by decide)).check "a" "/x" .reading true⟩

end Model

end PathAuthz
