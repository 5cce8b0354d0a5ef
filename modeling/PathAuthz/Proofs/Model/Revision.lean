/-
  PathAuthz.Proofs.Model.Revision — a rules text and a revision of it.

  (1) A rule is of a section (`Rule.IsOf`) if it was made of it. Its place is then the one that
  the heading names, and what it grants is read off the options (`accessFor_of_isOf`,
  `authenticated_of_isOf`). Rules of sections with one heading are alike as soon as what they
  grant is (`alike_of_isOf`).

  (2) Where the rule sections of two models have the same headings and grant alike, one by one,
  their rules are alike (`alike_of_sections`).

  (3) A revised section is a rule section whose options have been replaced. The definitions stay
  as they were, so an option applies to whom it applied, and only what the section itself grants
  has to be compared (`accessFor_of_revised`, `authenticated_of_revised`). Whether an identity is
  pooled can only change through that section, too (`pooled_of_revised`).

  (4) A revision loads if its texts compile and its rules mention nothing that was not mentioned,
  but for users (`exists_load_of_revision`).
-/

import PathAuthz.Proofs.Draft.Compiles
import PathAuthz.Proofs.Model.Alike
import PathAuthz.Proofs.Model.Lookup
import PathAuthz.Proofs.Model.References

namespace PathAuthz

open Source

/-! ## (1) Rules of sections -/

def Rule.IsOf (r : Rule) (d : Draft) (roster : Roster) (s : Section) : Prop :=
  ∃ w, WrittenRule.ofSection? r.seq s = some w ∧ ofWritten d roster w = .ok r

namespace Rule

variable {d d' : Draft} {ss : List Section} {roster roster' : Roster} {r r' : Rule} {s s' : Section}

theorem accessFor_of_isOf (hd : d.IsOf ss) (h : r.IsOf d roster s) (who : Identity) :
    r.accessFor who = s.granted (optionApplies ss roster · who) := by
  obtain ⟨w, hw, hwr⟩ := h
  rw [accessFor_ofWritten hwr]
  exact WrittenRule.meaning_ofSection? hd hw who

theorem authenticated_of_isOf (h : r.IsOf d roster s) : r.authenticated = s.granted takesAll := by
  obtain ⟨w, hw, hwr⟩ := h
  rw [(resolves_of_ofWritten hwr).authenticated]
  exact WrittenRule.authenticated_ofSection? hw

theorem alike_of_isOf {Q : Access → Access → Prop} {access : Rule → Option Access} (h : r.IsOf d roster s)
    (h' : r'.IsOf d' roster' s') (hseq : r.seq = r'.seq) (hheading : s.heading = s'.heading)
    (hgrant : Option.Rel Q (access r) (access r')) : Alike Q access r r' := by
  obtain ⟨w, hw, hwr⟩ := h
  obtain ⟨w', hw', hwr'⟩ := h'
  obtain ⟨header, hread, hscope, hpattern⟩ := header_of_section hw hwr
  obtain ⟨header', hread', hscope', hpattern'⟩ := header_of_section hw' hwr'
  rw [← hheading] at hread' hpattern'
  cases Except.ok.inj (hread.symm.trans hread')
  exact ⟨hseq, hscope.trans hscope'.symm, Except.ok.inj (hpattern.symm.trans hpattern'), hgrant⟩

end Rule

/-! ## (2) Sections one by one -/

namespace Model.IsOf

variable {Q : Access → Access → Prop} {m m' : Model} {d d' : Draft} {ss ss' : List Section}

theorem exists_rule_of_section (hm : m.IsOf d) (hd : d.IsOf ss) {i : Nat} {s : Section}
    (hs : (ss.filter Section.isRule)[i]? = some s) : ∃ r, m.rules[i]? = some r ∧ r.seq = i ∧ r.IsOf d m.roster s := by
  obtain ⟨r, w, hr, hw, hwr⟩ := hm.rule_of_section hd hs
  have hseq := hm.seq_eq hd hr
  exact ⟨r, hr, hseq, w, by rw [hseq]; exact hw, hwr⟩

variable (hm : m.IsOf d) (hd : d.IsOf ss) (hm' : m'.IsOf d') (hd' : d'.IsOf ss')

include hm hd hm' hd'

/-- `access` is granted to certain grantees in both models: to those of the options whose names satisfy `p`. -/
theorem alike_of_sections {access : Rule → Option Access} {p : String → Bool}
    (haccess : ∀ r s, r.IsOf d m.roster s → access r = s.granted p)
    (haccess' : ∀ r s, r.IsOf d' m'.roster s → access r = s.granted p)
    (h : List.Forall₂ (fun s s' => s.heading = s'.heading ∧ Option.Rel Q (s.granted p) (s'.granted p))
      (ss.filter Section.isRule) (ss'.filter Section.isRule)) :
    List.Forall₂ (Rule.Alike Q access) m.rules m'.rules := by
  obtain ⟨hlength, hsections⟩ := List.forall₂_iff_get.mp h
  refine List.forall₂_iff_get.mpr ⟨by rw [hm.length_rules hd, hm'.length_rules hd', hlength], ?_⟩
  intro i hi hi'
  have hs : i < (ss.filter Section.isRule).length := by rwa [← hm.length_rules hd]
  have hs' : i < (ss'.filter Section.isRule).length := by rwa [← hm'.length_rules hd']
  obtain ⟨r, hr, hseq, hof⟩ := hm.exists_rule_of_section hd (List.getElem?_eq_getElem hs)
  obtain ⟨r', hr', hseq', hof'⟩ := hm'.exists_rule_of_section hd' (List.getElem?_eq_getElem hs')
  obtain ⟨hheading, hgrant⟩ := hsections i hs hs'
  obtain ⟨_, rfl⟩ := List.getElem?_eq_some_iff.mp hr
  obtain ⟨_, rfl⟩ := List.getElem?_eq_some_iff.mp hr'
  refine Rule.alike_of_isOf hof hof' (hseq.trans hseq'.symm) hheading ?_
  rw [List.get_eq_getElem, List.get_eq_getElem, haccess _ _ hof, haccess' _ _ hof']
  exact hgrant

theorem accessFor_alike_of_sections {who : Identity}
    (hsame : ∀ option, optionApplies ss m.roster option who = optionApplies ss' m'.roster option who)
    (h : List.Forall₂ (fun s s' => s.heading = s'.heading ∧
        Option.Rel Q (s.granted (optionApplies ss m.roster · who)) (s'.granted (optionApplies ss m.roster · who)))
      (ss.filter Section.isRule) (ss'.filter Section.isRule)) :
    List.Forall₂ (Rule.Alike Q (·.accessFor who)) m.rules m'.rules := by
  refine hm.alike_of_sections hd hm' hd' (fun r s hr => Rule.accessFor_of_isOf hd hr who) (fun r s hr => ?_) h
  simp only [Rule.accessFor_of_isOf hd' hr who, hsame]

theorem authenticated_alike_of_sections
    (h : List.Forall₂ (fun s s' => s.heading = s'.heading ∧ Option.Rel Q (s.granted takesAll) (s'.granted takesAll))
      (ss.filter Section.isRule) (ss'.filter Section.isRule)) :
    List.Forall₂ (Rule.Alike Q (·.authenticated)) m.rules m'.rules :=
  hm.alike_of_sections hd hm' hd' (fun _ _ => Rule.authenticated_of_isOf) (fun _ _ => Rule.authenticated_of_isOf) h

end Model.IsOf

/-! ## (3) One revised section -/

theorem sectionsOfTexts_of_append {rules : String} {before after : List Section} (h : sections rules = before ++ after)
    (groups : Option String) : sectionsOfTexts rules groups = (groups.toList.flatMap sections ++ before) ++ after := by
  rw [sectionsOfTexts, h, List.append_assoc]

theorem optionApplies_congr {ss ss' : List Section} {roster roster' : Roster} (ha : aliasesOf ss = aliasesOf ss')
    (hroster : roster = roster') (option : String) (who : Identity) :
    optionApplies ss roster option who = optionApplies ss' roster' option who := by
  unfold optionApplies nameMeans
  rw [ha, hroster]

theorem forall₂_of_revised {R : Section → Section → Prop} (hrefl : ∀ t, R t t) (before after : List Section)
    {s s' : Section} (hs : s.isRule = true) (hs' : s'.isRule = true) (h : R s s') :
    List.Forall₂ R ((before ++ s :: after).filter Section.isRule) ((before ++ s' :: after).filter Section.isRule) := by
  have hsame : ∀ ts : List Section, List.Forall₂ R ts ts := fun ts => List.forall₂_same.mpr fun t _ => hrefl t
  rw [List.filter_append, List.filter_append, List.filter_cons_of_pos hs, List.filter_cons_of_pos hs']
  exact List.rel_append (hsame _) (.cons h (hsame _))

section

variable {before after : List Section} {s s' : Section} (hs : s.isRule = true) (hheading : s.heading = s'.heading)

include hs hheading

theorem isRule_of_revised : s'.isRule = true := by
  rw [Section.isRule, ← hheading]
  exact hs

theorem definitions_of_revised (before after : List Section) :
    groupsOf (before ++ s :: after) = groupsOf (before ++ s' :: after) ∧
      aliasesOf (before ++ s :: after) = aliasesOf (before ++ s' :: after) := by
  obtain ⟨hg, ha⟩ := definitions_append_cons hs before after
  obtain ⟨hg', ha'⟩ := definitions_append_cons (isRule_of_revised hs hheading) before after
  exact ⟨hg.trans hg'.symm, ha.trans ha'.symm⟩

section

variable {Q : Access → Access → Prop} (hrefl : ∀ a, Q a a) {m m' : Model} {d d' : Draft} (hm : m.IsOf d)
  (hd : d.IsOf (before ++ s :: after)) (hm' : m'.IsOf d') (hd' : d'.IsOf (before ++ s' :: after))

include hrefl hm hd hm' hd'

theorem accessFor_of_revised {who : Identity}
    (h : Option.Rel Q (s.granted (optionApplies (before ++ s :: after) m.roster · who))
      (s'.granted (optionApplies (before ++ s :: after) m.roster · who))) :
    List.Forall₂ (Rule.Alike Q (·.accessFor who)) m.rules m'.rules := by
  obtain ⟨hg, ha⟩ := definitions_of_revised hs hheading before after
  have hroster : m.roster = m'.roster :=
    hm.roster_eq hm' (by rw [hd.groups, hd'.groups, hg]) (by rw [hd.aliases, hd'.aliases, ha])
  refine hm.accessFor_alike_of_sections hd hm' hd' (fun option => optionApplies_congr ha hroster option who) ?_
  exact forall₂_of_revised (fun t => ⟨rfl, rel_of_eq hrefl rfl⟩) before after hs (isRule_of_revised hs hheading)
    ⟨hheading, h⟩

theorem authenticated_of_revised (h : Option.Rel Q (s.granted takesAll) (s'.granted takesAll)) :
    List.Forall₂ (Rule.Alike Q (·.authenticated)) m.rules m'.rules :=
  hm.authenticated_alike_of_sections hd hm' hd' <|
    forall₂_of_revised (fun _ => ⟨rfl, rel_of_eq hrefl rfl⟩) before after hs (isRule_of_revised hs hheading) ⟨hheading, h⟩

end

/-- A section makes nobody pooled if it names whom it named, and grants to all as it did. -/
theorem pooled_of_revised {who : Identity} (hnames : ∀ user, who = .user user → s'.names user = s.names user)
    (hall : s'.options.any (takesAll ·.1) = s.options.any (takesAll ·.1)) :
    pooled (before ++ s' :: after) who = pooled (before ++ s :: after) who := by
  cases who with
  | anonymous => rfl
  | user user =>
    have hgrants : s'.grantsToAll = s.grantsToAll := by
      show (s'.isRule && s'.options.any (takesAll ·.1)) = (s.isRule && s.options.any (takesAll ·.1))
      rw [hs, isRule_of_revised hs hheading, hall]
    simp only [pooled, List.any_append, List.any_cons, hnames user rfl, hgrants]

end

theorem Source.Section.names_of_isRule {s : Section} (hs : s.isRule = true) (user : String) :
    s.names user = s.options.any fun o => (Grantee.ofOption? o.1).any (·.names user) := by
  have hne : s.heading ≠ "groups" ∧ s.heading ≠ "aliases" := by simpa [isRule] using hs
  rw [names, if_neg hne.1, if_neg hne.2]

/-! ## (4) Revisions that load -/

theorem Draft.IsOf.mentions_rule_iff {d : Draft} {ss : List Section} (hd : d.IsOf ss) {heading : String} {t : Subject} :
    d.Mentions (.rule heading) t ↔
      ∃ s ∈ ss, s.isRule = true ∧ s.heading = heading ∧
        ∃ o ∈ s.options, ∃ inverted, Grantee.ofOption? o.1 = some (.subject t inverted) := by
  constructor
  · intro h
    obtain ⟨w, hw, rfl, e, he, rfl⟩ := h
    obtain ⟨i, hi⟩ := List.mem_iff_getElem?.mp hw
    obtain ⟨s, hs, hsw⟩ := hd.section_of_written hi
    obtain ⟨hs, hrule⟩ := List.mem_filter.mp (List.mem_of_getElem? hs)
    exact ⟨s, hs, hrule, (WrittenRule.seq_ofSection? hsw).2.symm,
      (WrittenRule.mem_subjects_ofSection? hsw).mp (List.mem_map_of_mem he)⟩
  · intro h
    obtain ⟨s, hs, hrule, rfl, ho⟩ := h
    obtain ⟨i, hi⟩ := List.mem_iff_getElem?.mp (List.mem_filter.mpr ⟨hs, hrule⟩)
    obtain ⟨w, hw, hsw⟩ := hd.written_of_section hi
    obtain ⟨e, he, ht⟩ := List.mem_map.mp ((WrittenRule.mem_subjects_ofSection? hsw).mpr ho)
    exact ⟨w, List.mem_of_getElem? hw, (WrittenRule.seq_ofSection? hsw).2, e, he, ht⟩

namespace Model

theorem textsCompile_of_load {rules : String} {groups : Option String} {m : Model} (h : load rules groups = .ok m) :
    TextsCompile rules groups := by
  obtain ⟨d, hdraft, -⟩ := resolvable_of_load h
  exact Draft.ofTexts_isOk_iff.mp ⟨d, hdraft⟩

/-- The second sections define what the first ones do, and mention nothing else but users. -/
structure Revises (ss ss' : List Section) : Prop where
  groups : groupsOf ss = groupsOf ss'
  aliases : aliasesOf ss = aliasesOf ss'
  mentions : ∀ s' ∈ ss', s'.isRule = true → ∀ o ∈ s'.options,
    (∃ s ∈ ss, s.isRule = true ∧ s.heading = s'.heading ∧ o ∈ s.options) ∨
      ∃ user inverted, Grantee.ofOption? o.1 = some (.subject (.user user) inverted)

theorem mentions_of_revises {ss ss' : List Section} (h : Revises ss ss') {d d' : Draft} (hd : d.IsOf ss)
    (hd' : d'.IsOf ss') {referrer : Referrer} {t : Subject} (ht : d'.Mentions referrer t) :
    d.Mentions referrer t ∨ ∃ user, t = .user user := by
  cases referrer with
  | group name =>
    obtain ⟨g, hg, hname, ht⟩ := ht
    rw [hd'.groups, ← h.groups, ← hd.groups] at hg
    exact .inl ⟨g, hg, hname, ht⟩
  | rule heading =>
    obtain ⟨s', hs', hrule, rfl, o, ho, inverted, hname⟩ := hd'.mentions_rule_iff.mp ht
    rcases h.mentions s' hs' hrule o ho with ⟨s, hs, hrule, hheading, ho⟩ | ⟨user, inverted', huser⟩
    · exact .inl (hd.mentions_rule_iff.mpr ⟨s, hs, hrule, hheading, o, ho, inverted, hname⟩)
    · rw [hname] at huser
      cases huser
      exact .inr ⟨user, rfl⟩

variable {rules rules' : String} {groups groups' : Option String} {m : Model}

theorem exists_load_of_revision (hload : load rules groups = .ok m) (hcompiles : TextsCompile rules' groups')
    (h : Revises (sectionsOfTexts rules groups) (sectionsOfTexts rules' groups')) :
    ∃ m' d d', load rules' groups' = .ok m' ∧ (m.IsOf d ∧ d.IsOf (sectionsOfTexts rules groups)) ∧
      (m'.IsOf d' ∧ d'.IsOf (sectionsOfTexts rules' groups')) ∧ d.aliases = d'.aliases ∧ m.roster = m'.roster := by
  obtain ⟨d, -, hd, hm, hdefined, hcycle⟩ := resolvable_of_load hload
  obtain ⟨d', hdraft'⟩ := Draft.ofTexts_isOk_iff.mpr hcompiles
  have hd' := Draft.isOf_ofTexts hdraft'
  have hg : d.groups = d'.groups := by rw [hd.groups, hd'.groups, h.groups]
  have ha : d.aliases = d'.aliases := by rw [hd.aliases, hd'.aliases, h.aliases]
  have hdefines : ∀ t, d.Defines t → d'.Defines t := by
    intro t ht
    cases t with
    | user name => trivial
    | group name =>
      obtain ⟨g, hmem, hname⟩ := ht
      exact ⟨g, hg ▸ hmem, hname⟩
    | viaAlias name =>
      obtain ⟨a, hmem, hname⟩ := ht
      exact ⟨a, ha ▸ hmem, hname⟩
  obtain ⟨hdefined', hcycle'⟩ :=
    Draft.resolvable_of_mentions (fun _ _ => mentions_of_revises h hd hd') hdefines hdefined hcycle
  obtain ⟨m', hmodel'⟩ := exists_ofDraft_of_resolvable hdefined' hcycle'
  have hm' := isOf_ofDraft hmodel'
  exact ⟨m', d, d', bind_eq_ok_iff.mpr ⟨d', hdraft', hmodel'⟩, ⟨hm, hd⟩, ⟨hm', hd'⟩, ha, hm.roster_eq hm' hg ha⟩

end Model

end PathAuthz
