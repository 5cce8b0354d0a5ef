/-
  PathAuthz.Proofs.Model.Order — the sections of a rules text in another order.

  (1) A rearranged text defines the same groups and aliases, because each of them stands in one
  section, and its other sections may mention what they mentioned. So it loads with the same
  roster (`exists_load_of_rearranged`), and each rule is there again under a number of its own
  (`SameRules`).

  (2) Numbers mean nothing to what is granted in a region (`regional_of_sameRules`).

  (3) They matter at a place where two rules with one scope accept the same components. A model
  is `Untied` if there is no such place. Then what decides is found by the scopes alone, and so
  the same grant decides in both models (`deciding_of_sameRules`).

  (4) Plain sections are untied: the heading of a plain section is known by its scope and what
  it accepts, and no heading comes twice (`untied_of_plain`). So without glob sections the order
  of the sections is nothing to any answer (`load_rearranged`).
-/

import PathAuthz.Proofs.Header.Plain
import PathAuthz.Proofs.Model.Answers
import PathAuthz.Proofs.Model.Insertion
import PathAuthz.Proofs.Model.Revision
import PathAuthz.Proofs.Source.Concatenation

namespace PathAuthz

open Source
open Buckets (regional)

/-! ## (1) Rearranged texts -/

/-- A heading comes once, so the order of the sections does not show in the sections of that heading. -/
theorem filter_heading_of_perm {ss ss' : List Section} (hnodup : (ss.map (·.heading)).Nodup) (hperm : ss'.Perm ss)
    (heading : String) : ss'.filter (·.heading == heading) = ss.filter (·.heading == heading) := by
  have hfilter := hperm.filter (·.heading == heading)
  have hsub : ((ss.filter (·.heading == heading)).map (·.heading)).Nodup :=
    hnodup.sublist (List.filter_sublist.map _)
  have hall : ∀ s ∈ ss.filter (·.heading == heading), s.heading = heading := by
    intro s hs
    exact beq_iff_eq.mp (List.mem_filter.mp hs).2
  rcases hss : ss.filter (·.heading == heading) with _ | ⟨s, _ | ⟨t, rest⟩⟩
  · rw [hss] at hfilter
    rw [hss, hfilter.eq_nil]
  · rw [hss] at hfilter
    rw [hss, List.perm_singleton.mp hfilter]
  · rw [hss] at hsub hall
    have hne : s.heading ≠ t.heading := by
      intro he
      simp [he] at hsub
    have hs := hall s List.mem_cons_self
    have ht := hall t (List.mem_cons_of_mem _ List.mem_cons_self)
    exact absurd (hs.trans ht.symm) hne

theorem definitions_of_perm {ss ss' : List Section} (hnodup : (ss.map (·.heading)).Nodup) (hperm : ss'.Perm ss) :
    groupsOf ss' = groupsOf ss ∧ aliasesOf ss' = aliasesOf ss := by
  unfold groupsOf aliasesOf
  rw [filter_heading_of_perm hnodup hperm, filter_heading_of_perm hnodup hperm]
  exact ⟨rfl, rfl⟩

theorem textsCompile_of_rearranged {rules rules' : String} {groups : Option String} (h : TextsCompile rules groups)
    (hrearranged : Rearranged rules rules') : TextsCompile rules' groups := by
  obtain ⟨hg, ha⟩ := definitions_of_perm h.headings hrearranged.sections
  refine textsCompile_of_headings h hrearranged.told (hrearranged.sections.map _) ?_ hg ha
  intro s hs
  exact h.wellFormed s (hrearranged.sections.mem_iff.mp hs)

/-- The rule under another number. -/
def Rule.Renumbered (r r' : Rule) : Prop := ∃ n, r' = { r with seq := n }

namespace Model

/-- Each model has the rules of the other one, numbers aside. -/
structure SameRules (m m' : Model) : Prop where
  there : ∀ r ∈ m.rules, ∃ r' ∈ m'.rules, r.Renumbered r'
  back : ∀ r' ∈ m'.rules, ∃ r ∈ m.rules, r'.Renumbered r

theorem SameRules.symm {m m' : Model} (h : SameRules m m') : SameRules m' m := ⟨h.back, h.there⟩

section

variable {m m' : Model} {d d' : Draft} {ss ss' : List Section} (hm : m.IsOf d) (hd : d.IsOf ss) (hm' : m'.IsOf d')
  (hd' : d'.IsOf ss') (ha : d.aliases = d'.aliases) (hroster : m.roster = m'.roster)

include hm hd hm' hd' ha hroster

theorem exists_renumbered_of_mem (hrules : ∀ s ∈ ss.filter Section.isRule, s ∈ ss'.filter Section.isRule) :
    ∀ r ∈ m.rules, ∃ r' ∈ m'.rules, r.Renumbered r' := by
  intro r hr
  obtain ⟨i, hi⟩ := List.mem_iff_getElem?.mp hr
  obtain ⟨s, -, hs, -, -⟩ := hm.section_of_rule hd hi
  obtain ⟨j, hj⟩ := List.mem_iff_getElem?.mp (hrules s (List.mem_of_getElem? hs))
  obtain ⟨r₁, hr₁, hr'⟩ := rule_of_same_section hm hd hm' hd' ha hroster hs hj
  rw [hi] at hr₁
  cases hr₁
  exact ⟨_, List.mem_of_getElem? hr', j, rfl⟩

theorem sameRules_of_perm (hperm : ss'.Perm ss) : SameRules m m' := by
  have hrules : (ss'.filter Section.isRule).Perm (ss.filter Section.isRule) := hperm.filter _
  constructor
  · exact exists_renumbered_of_mem hm hd hm' hd' ha hroster fun s hs => hrules.mem_iff.mpr hs
  · exact exists_renumbered_of_mem hm' hd' hm hd ha.symm hroster.symm fun s hs => hrules.mem_iff.mp hs

end

theorem exists_load_of_rearranged {rules rules' : String} {groups : Option String} {m : Model}
    (hload : load rules groups = .ok m) (h : Rearranged rules rules') :
    ∃ m' d d', load rules' groups = .ok m' ∧ (m.IsOf d ∧ d.IsOf (sectionsOfTexts rules groups)) ∧
      (m'.IsOf d' ∧ d'.IsOf (sectionsOfTexts rules' groups)) ∧ m.roster = m'.roster ∧ SameRules m m' := by
  have hcompiles := textsCompile_of_load hload
  obtain ⟨hg, ha⟩ := definitions_of_perm hcompiles.headings h.sections
  have hperm : (sectionsOfTexts rules' groups).Perm (sectionsOfTexts rules groups) := h.sections.append_left _
  have hrevises : Revises (sectionsOfTexts rules groups) (sectionsOfTexts rules' groups) := by
    refine ⟨?_, ?_, ?_⟩
    · rw [sectionsOfTexts, sectionsOfTexts, groupsOf_append, groupsOf_append, hg]
    · rw [sectionsOfTexts, sectionsOfTexts, aliasesOf_append, aliasesOf_append, ha]
    · intro s' hs' hrule o ho
      exact .inl ⟨s', hperm.mem_iff.mp hs', hrule, rfl, ho⟩
  obtain ⟨m', d, d', hload', ⟨hm, hd⟩, ⟨hm', hd'⟩, haliases, hroster⟩ :=
    exists_load_of_revision hload (textsCompile_of_rearranged hcompiles h) hrevises
  exact ⟨m', d, d', hload', ⟨hm, hd⟩, ⟨hm', hd'⟩, hroster,
    sameRules_of_perm hm hd hm' hd' haliases hroster hperm⟩

end Model

/-! ## (2) Regions -/

namespace Rule

variable {r r' : Rule} (h : r.Renumbered r')

include h

theorem scope_of_renumbered : r'.scope = r.scope := by
  obtain ⟨n, rfl⟩ := h
  rfl

theorem accessFor_of_renumbered (who : Identity) : r'.accessFor who = r.accessFor who := by
  obtain ⟨n, rfl⟩ := h
  cases who <;> rfl

theorem authenticated_of_renumbered : r'.authenticated = r.authenticated := by
  obtain ⟨n, rfl⟩ := h
  rfl

end Rule

namespace Model

section

variable {access : Rule → Option Access} (haccess : ∀ r r' : Rule, r.Renumbered r' → access r' = access r)

include haccess

theorem mem_grants_of_sameRules {m m' : Model} (h : SameRules m m') {g : RepoScope × Access}
    (hg : g ∈ RightsTable.grants access m.rules) : g ∈ RightsTable.grants access m'.rules := by
  obtain ⟨r, hr, hscope, ha⟩ := RightsTable.mem_grants_iff.mp hg
  obtain ⟨r', hr', hrenumbered⟩ := h.there r hr
  refine RightsTable.mem_grants_iff.mpr ⟨r', hr', ?_, ?_⟩
  · rw [Rule.scope_of_renumbered hrenumbered, hscope]
  · rw [haccess r r' hrenumbered, ha]

theorem regional_of_sameRules {m m' : Model} (h : SameRules m m') (region : Option String) :
    regional region (RightsTable.grants access m'.rules) = regional region (RightsTable.grants access m.rules) := by
  apply Buckets.regional_congr_of_mem
  intro g
  constructor
  · exact mem_grants_of_sameRules haccess h.symm
  · exact mem_grants_of_sameRules haccess h

end

end Model

/-! ## (3) Places without ties -/

namespace Model

/-- No two rules with one scope accept the same components. -/
def Untied (m : Model) : Prop :=
  ∀ r ∈ m.rules, ∀ r' ∈ m.rules, ∀ components, r.scope = r'.scope → r.pattern.accepts components = true →
    r'.pattern.accepts components = true → r = r'

theorem scope_eq_of_appliesTo {scope scope' : RepoScope} {repo : String} (h : scope.appliesTo repo = true)
    (h' : scope'.appliesTo repo = true) (hspecific : scope.isSpecific = scope'.isSpecific) : scope = scope' := by
  cases scope with
  | any => cases scope' with
    | any => rfl
    | named name' => cases hspecific
  | named name => cases scope' with
    | any => cases hspecific
    | named name' =>
      have hname : name = repo := beq_iff_eq.mp (Bool.and_eq_true_iff.mp h).2
      have hname' : name' = repo := beq_iff_eq.mp (Bool.and_eq_true_iff.mp h').2
      rw [hname, hname']

theorem isSpecific_le_of_standing_le {r r' : Rule} (h : r.standing ≤ r'.standing) :
    r.scope.isSpecific ≤ r'.scope.isSpecific := by
  rcases Prod.Lex.toLex_le_toLex.mp h with hlt | ⟨heq, -⟩
  · exact le_of_lt hlt
  · exact le_of_eq heq

variable {m m' : Model} {repo : String} {who : Identity} {components : List String}

theorem Untied.eq_of_candidates (h : m.Untied) {c c' : Rule × Access} (hc : c ∈ m.candidates repo who components)
    (hc' : c' ∈ m.candidates repo who components) (hspecific : c.1.scope.isSpecific = c'.1.scope.isSpecific) :
    c = c' := by
  obtain ⟨r, a⟩ := c
  obtain ⟨r', a'⟩ := c'
  obtain ⟨hr, hscope, haccepts, ha⟩ := mem_candidates_iff.mp hc
  obtain ⟨hr', hscope', haccepts', ha'⟩ := mem_candidates_iff.mp hc'
  have he : r = r' := h r hr r' hr' components (scope_eq_of_appliesTo hscope hscope' hspecific) haccepts haccepts'
  rw [← he, ha] at ha'
  rw [he, Option.some.inj ha']

theorem candidate_of_sameRules (h : SameRules m m') {c : Rule × Access} (hc : c ∈ m.candidates repo who components) :
    ∃ c' ∈ m'.candidates repo who components, c.1.Renumbered c'.1 ∧ c'.2 = c.2 := by
  obtain ⟨r, a⟩ := c
  obtain ⟨hr, hscope, haccepts, ha⟩ := mem_candidates_iff.mp hc
  obtain ⟨r', hr', hrenumbered⟩ := h.there r hr
  refine ⟨(r', a), mem_candidates_iff.mpr ⟨hr', ?_, ?_, ?_⟩, hrenumbered, rfl⟩
  · rw [Rule.scope_of_renumbered hrenumbered, hscope]
  · obtain ⟨n, rfl⟩ := hrenumbered
    exact haccepts
  · rw [Rule.accessFor_of_renumbered hrenumbered, ha]

theorem deciding_of_sameRules (h : SameRules m m') (huntied : m.Untied) (repo : String) (who : Identity)
    (components : List String) :
    Option.Rel (fun c c' => c'.2 = c.2) (m.deciding repo who components) (m'.deciding repo who components) := by
  by_cases hnil : m.candidates repo who components = []
  · have hnil' : m'.candidates repo who components = [] := by
      apply List.eq_nil_iff_forall_not_mem.mpr
      intro c' hc'
      obtain ⟨c, hc, -, -⟩ := candidate_of_sameRules h.symm hc'
      rw [hnil] at hc
      cases hc
    rw [deciding_of_nil hnil, deciding_of_nil hnil']
    exact .none
  · obtain ⟨best, hbest, hmem, hle⟩ := deciding_of_ne_nil hnil
    obtain ⟨c', hc', hthere, -⟩ := candidate_of_sameRules h hmem
    obtain ⟨best', hbest', hmem', hle'⟩ := deciding_of_ne_nil (List.ne_nil_of_mem hc')
    obtain ⟨c, hc, hback, haccess⟩ := candidate_of_sameRules h.symm hmem'
    -- By their scopes each of the two stands as high as the other, so they are one rule of the first model.
    have hspecific : best.1.scope.isSpecific = c.1.scope.isSpecific := by
      apply le_antisymm
      · rw [Rule.scope_of_renumbered hback, ← Rule.scope_of_renumbered hthere]
        exact isSpecific_le_of_standing_le (hle' c' hc')
      · exact isSpecific_le_of_standing_le (hle c hc)
    rw [huntied.eq_of_candidates hmem hc hspecific] at hbest
    rw [hbest, hbest']
    exact .some haccess.symm

theorem effectiveAccess_of_sameRules (h : SameRules m m') (huntied : m.Untied) (repo path : String) (who : Identity) :
    m'.effectiveAccess repo path who false = m.effectiveAccess repo path who false :=
  accessUpTo_of_deciding (Q := fun a a' => a' = a) rfl (deciding_of_sameRules h huntied repo who) _ _

end Model

/-! ## (4) Plain sections -/

/-- Whether the heading of a section is in a glob form. -/
def Source.Section.isGlob (s : Section) : Bool := (RuleHeader.read s.heading).toOption.any (·.glob)

theorem Source.Section.glob_of_read {s : Section} {header : RuleHeader} (hread : RuleHeader.read s.heading = .ok header)
    (h : s.isGlob = false) : header.glob = false := by
  rwa [isGlob, hread] at h

namespace Model

theorem untied_of_plain {m : Model} {d : Draft} {ss : List Section} (hm : m.IsOf d) (hd : d.IsOf ss)
    (hnodup : ((ss.filter Section.isRule).map (·.heading)).Nodup)
    (hplain : ∀ s ∈ ss.filter Section.isRule, s.isGlob = false) : m.Untied := by
  intro r hr r' hr' components hscope haccepts haccepts'
  obtain ⟨i, hi⟩ := List.mem_iff_getElem?.mp hr
  obtain ⟨j, hj⟩ := List.mem_iff_getElem?.mp hr'
  obtain ⟨s, w, hs, hsw, hwr⟩ := hm.section_of_rule hd hi
  obtain ⟨s', w', hs', hsw', hwr'⟩ := hm.section_of_rule hd hj
  obtain ⟨header, hread, hscope₁, hpattern⟩ := Rule.header_of_section hsw hwr
  obtain ⟨header', hread', hscope₁', hpattern'⟩ := Rule.header_of_section hsw' hwr'
  have hglob := Section.glob_of_read hread (hplain s (List.mem_of_getElem? hs))
  have hglob' := Section.glob_of_read hread' (hplain s' (List.mem_of_getElem? hs'))
  rw [hscope₁, hscope₁'] at hscope
  have hheading : s.heading = s'.heading :=
    RuleHeader.heading_eq_of_accepts hread hread' hglob hglob' hscope hpattern hpattern' haccepts haccepts'
  -- The heading comes once, so both rules are of the section at one place.
  have hij : i = j := by
    obtain ⟨hlt, -⟩ := List.getElem?_eq_some_iff.mp hs
    apply (List.getElem?_inj (by rwa [List.length_map]) hnodup).mp
    rw [List.getElem?_map, List.getElem?_map, hs, hs', Option.map_some, Option.map_some, hheading]
  rw [hij, hj] at hi
  exact (Option.some.inj hi).symm

/-- Without glob sections the order of the sections is nothing to any answer. -/
theorem load_rearranged {rules rules' : String} {groups : Option String} {m : Model} (hload : load rules groups = .ok m)
    (hplain : ∀ s ∈ sections rules, s.isGlob = false) (h : Rearranged rules rules') :
    ∃ m', load rules' groups = .ok m' ∧ m'.roster = m.roster ∧ ∀ who, SameAnswers m m' who := by
  obtain ⟨m', d, d', hload', ⟨hm, hd⟩, ⟨hm', hd'⟩, hroster, hrules⟩ := exists_load_of_rearranged hload h
  have hcompiles := textsCompile_of_load hload
  have hperm : (sectionsOfTexts rules' groups).Perm (sectionsOfTexts rules groups) := h.sections.append_left _
  have huntied : m.Untied := by
    apply untied_of_plain hm hd
    · rw [hcompiles.filter_isRule]
      exact hcompiles.headings.sublist (List.filter_sublist.map _)
    · rw [hcompiles.filter_isRule]
      intro s hs
      exact hplain s (List.mem_filter.mp hs).1
  refine ⟨m', hload', hroster.symm, ?_⟩
  intro who
  have hp : pooled (sectionsOfTexts rules' groups) who = pooled (sectionsOfTexts rules groups) who := by
    cases who with
    | anonymous => rfl
    | user user => rw [pooled, pooled, hperm.any_eq, hperm.any_eq]
  apply sameAnswers_of_path
  · intro repo path
    exact effectiveAccess_of_sameRules hrules huntied repo path who
  · intro region
    have hto := regional_of_sameRules (fun r r' hr => Rule.accessFor_of_renumbered hr who) hrules region
    have hall := regional_of_sameRules (fun r r' hr => Rule.authenticated_of_renumbered hr) hrules region
    exact lookupRights_of_same_pooled hm hd hm' hd' hto hall hp

/-- A rule may stand before the group it mentions, and a rule for one repository before one for any. -/
theorem load_rearranged_definitions_last :
    ∃ m m', load "[aliases]\nboss = eve\n[groups]\nteam = bob, &boss\n[/]\n* = r\n[a:/]\n@team = rw\n~&boss =\n" none = .ok m ∧
      load "[a:/]\n@team = rw\n~&boss =\n[/]\n* = r\n[groups]\nteam = bob, &boss\n[aliases]\nboss = eve\n" none = .ok m' ∧
      m'.roster = m.roster ∧ ∀ who, SameAnswers m m' who := by
  have hload : (load "[aliases]\nboss = eve\n[groups]\nteam = bob, &boss\n[/]\n* = r\n[a:/]\n@team = rw\n~&boss =\n"
      none).toOption.any (fun _ => true) = true := by decide +kernel
  obtain ⟨m, hm, -⟩ := exists_ok_of_any hload
  have hplain : ∀ s ∈ sections "[aliases]\nboss = eve\n[groups]\nteam = bob, &boss\n[/]\n* = r\n[a:/]\n@team = rw\n~&boss =\n",
      s.isGlob = false := by decide +kernel
  have hblocks : ∀ b ∈ ["[aliases]\nboss = eve\n", "[groups]\nteam = bob, &boss\n", "[/]\n* = r\n",
      "[a:/]\n@team = rw\n~&boss =\n"], Block b := by decide +kernel
  have hrearranged := rearranged_of_blocks hblocks (List.reverse_perm _)
  obtain ⟨m', hm', hroster, hanswers⟩ := load_rearranged hm hplain hrearranged
  exact ⟨m, m', hm, hm', hroster, hanswers⟩

end Model

end PathAuthz
