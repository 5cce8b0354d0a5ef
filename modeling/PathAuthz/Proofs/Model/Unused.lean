/-
  PathAuthz.Proofs.Model.Unused — what a group that nothing refers to changes.

  (1) Every entry means whom it meant, so every rule grants what it granted
  (`meaning_of_enlarges`, `rules_of_enlarges`): answers on a path, and the grants that look-ups sum
  up, are the same.

  (2) But a definition names its members. A member whom no section named before is pooled
  from then on if some section grants to every authenticated user (`pooled_of_oneMoreGroup`).

  (3) `unused_group` adds this up: the texts still load, and nothing changes but the floors of
  the newly pooled.
-/

import PathAuthz.Proofs.Draft.Unused
import PathAuthz.Proofs.Model.Answers
import PathAuthz.Proofs.Model.References

namespace PathAuthz

open Source
open Buckets (regional)

/-! ## (1) Grants -/

/-- A roster of all groups of a draft, as expanding them yields it. -/
structure Roster.Complete (d : Draft) (r : Roster) : Prop where
  exact : Exact d r
  all : ∀ g ∈ d.groups, ∃ t ∈ r.teams, t.name = g.name

theorem Roster.complete_of_ofDraft {d : Draft} {r : Roster} (h : ofDraft d = .ok r) : Complete d r := by
  have hfaithful := ofDraft_faithful d
  rw [h] at hfaithful
  exact ⟨hfaithful.1, hfaithful.2⟩

theorem Roster.isMember_iff_reaches {d : Draft} {r : Roster} (h : r.Complete d) {group user : String} :
    r.isMember group user = true ↔ d.Reaches group user := by
  unfold isMember
  rcases hm : r.members? group with _ | members
  · have hundefined := (members?_eq_none_iff_of_exact h.exact h.all).mp hm
    refine iff_of_false Bool.false_ne_true fun hr => hundefined ?_
    cases hr with
    | user hg _ => exact Draft.defines_of_group? hg
    | viaAlias hg _ _ => exact Draft.defines_of_group? hg
    | nested hg _ _ => exact Draft.defines_of_group? hg
  · rw [List.contains_iff_mem]
    exact h.exact.mem_iff _ (members?_eq_some hm) user

section

variable {d d' : Draft} {g : GroupDefinition} {r r' : Roster} (h : d.Enlarges g d') (hnew : d.group? g.name = none)
  (hdefined : ∀ referrer s, d.Mentions referrer s → d.Defines s) (hr : r.Complete d) (hr' : r'.Complete d')

include h hnew hdefined hr hr'

theorem means_of_enlarges {s : Subject} (hs : d.Defines s) (user : String) : s.means d' r' user = s.means d r user := by
  cases s with
  | user name => rfl
  | viaAlias name =>
    simp only [Subject.means, h.alias?_eq]
  | group name =>
    have hne := Draft.ne_of_defines hnew hs
    simp only [Subject.means]
    rw [Bool.eq_iff_iff, Roster.isMember_iff_reaches hr', Roster.isMember_iff_reaches hr]
    exact Draft.reaches_of_enlarges h hnew hdefined hne

theorem meaning_of_enlarges {w : WrittenRule} (hw : w ∈ d.rules) (who : Identity) :
    w.meaning d' r' who = w.meaning d r who := by
  cases who with
  | anonymous => rfl
  | user user =>
    have hparts : w.entries.map (WrittenRule.part d' r' user) = w.entries.map (WrittenRule.part d r user) := by
      refine List.map_congr_left fun e he => ?_
      have hs : d.Defines e.subject := hdefined (.rule w.heading) e.subject ⟨w, hw, rfl, e, he, rfl⟩
      simp only [WrittenRule.part, means_of_enlarges h hnew hdefined hr hr' hs]
    simp only [WrittenRule.meaning, hparts]

end

theorem forall₂_of_common {α β γ : Type} {R : α → β → Prop} {S : α → γ → Prop} {as : List α} {bs : List β} {cs : List γ}
    (h : List.Forall₂ R as bs) (h' : List.Forall₂ S as cs) :
    List.Forall₂ (fun b c => ∃ a ∈ as, R a b ∧ S a c) bs cs := by
  induction h generalizing cs with
  | nil => cases h'; exact .nil
  | cons hr _ ih =>
    cases h' with
    | cons hs h' =>
      refine .cons ⟨_, List.mem_cons_self, hr, hs⟩ ((ih h').imp fun b c h => ?_)
      obtain ⟨a, ha, h⟩ := h
      exact ⟨a, List.mem_cons_of_mem _ ha, h⟩

namespace Model

variable {m m' : Model} {d d' : Draft} {g : GroupDefinition}

/-- Each rule is made of the written rule that it was made of. -/
theorem rules_of_enlarges (h : d.Enlarges g d') (hm : m.IsOf d) (hm' : m'.IsOf d') :
    List.Forall₂ (fun r r' => ∃ w ∈ d.rules, Rule.ofWritten d m.roster w = .ok r ∧ Rule.ofWritten d' m'.roster w = .ok r')
      m.rules m'.rules :=
  forall₂_of_common hm.rules (h.rules ▸ hm'.rules)

theorem alike_of_written {w : WrittenRule} {roster roster' : Roster} {r r' : Rule} {access : Rule → Option Access}
    (hr : Rule.ofWritten d roster w = .ok r) (hr' : Rule.ofWritten d' roster' w = .ok r') (h : access r = access r') :
    Rule.Alike Eq access r r' := by
  have hkept := Rule.resolves_of_ofWritten hr
  have hkept' := Rule.resolves_of_ofWritten hr'
  exact ⟨hkept.seq.trans hkept'.seq.symm, hkept.scope.trans hkept'.scope.symm, hkept.pattern.trans hkept'.pattern.symm,
    rel_of_eq (fun _ => rfl) h⟩

theorem alike_of_enlarges (h : d.Enlarges g d') (hnew : d.group? g.name = none)
    (hdefined : ∀ referrer s, d.Mentions referrer s → d.Defines s) (hm : m.IsOf d) (hm' : m'.IsOf d') (who : Identity) :
    List.Forall₂ (Rule.Alike Eq (·.accessFor who)) m.rules m'.rules ∧
      List.Forall₂ (Rule.Alike Eq (·.authenticated)) m.rules m'.rules := by
  have hr := Roster.complete_of_ofDraft hm.roster
  have hr' := Roster.complete_of_ofDraft hm'.roster
  constructor
  · refine (rules_of_enlarges h hm hm').imp fun r r' hrules => ?_
    obtain ⟨w, hw, hwr, hwr'⟩ := hrules
    refine alike_of_written hwr hwr' ?_
    rw [Rule.accessFor_ofWritten hwr, Rule.accessFor_ofWritten hwr', meaning_of_enlarges h hnew hdefined hr hr' hw]
  · refine (rules_of_enlarges h hm hm').imp fun r r' hrules => ?_
    obtain ⟨w, hw, hwr, hwr'⟩ := hrules
    refine alike_of_written hwr hwr' ?_
    rw [(Rule.resolves_of_ofWritten hwr).authenticated, (Rule.resolves_of_ofWritten hwr').authenticated]

end Model

/-! ## (2) Newly pooled users -/

section

variable {o : String × String} {ss ss' : List Section}

theorem any_names_of_oneMoreGroup (h : OneMoreGroup o ss ss') (user : String) :
    ss'.any (·.names user) = (ss.any (·.names user) || (Subject.membersOf o.2).contains (.user user)) := by
  rw [Bool.eq_iff_iff]
  cases h with
  | option before after front back =>
    simp only [List.any_append, List.any_cons, Section.names, Bool.or_eq_true, if_pos]
    tauto
  | ownSection before after =>
    simp only [List.any_append, List.any_cons, List.any_nil, Section.names, Bool.or_eq_true, if_pos, Bool.or_false]
    tauto

theorem any_grantsToAll_of_oneMoreGroup (h : OneMoreGroup o ss ss') :
    ss'.any (·.grantsToAll) = ss.any (·.grantsToAll) := by
  cases h <;> simp [Section.grantsToAll, Section.isRule]

theorem pooled_of_oneMoreGroup (h : OneMoreGroup o ss ss') (who : Identity) :
    pooled ss' who = true ↔ pooled ss who = true ∨
      ∃ user, who = .user user ∧ .user user ∈ Subject.membersOf o.2 ∧ ss.any (·.grantsToAll) = true := by
  cases who with
  | anonymous => simp [pooled]
  | user user =>
    simp only [pooled, any_names_of_oneMoreGroup h, any_grantsToAll_of_oneMoreGroup h, Bool.and_eq_true,
      Bool.or_eq_true, List.contains_iff_mem, Identity.user.injEq, exists_eq_left']
    tauto

theorem newly_pooled_of_oneMoreGroup (h : OneMoreGroup o ss ss') {who : Identity} (hne : pooled ss' who ≠ pooled ss who) :
    pooled ss who = false ∧ pooled ss' who = true ∧
      ∃ user, who = .user user ∧ .user user ∈ Subject.membersOf o.2 ∧ (∀ s ∈ ss, s.names user = false) ∧
        ∃ s ∈ ss, s.grantsToAll = true := by
  have hiff := pooled_of_oneMoreGroup h who
  have hp : pooled ss who = false := by
    rw [Bool.eq_false_iff]
    intro hp
    exact hne ((hiff.mpr (.inl hp)).trans hp.symm)
  have hp' : pooled ss' who = true := by
    rw [hp] at hne
    exact Bool.of_not_eq_false hne
  rcases hiff.mp hp' with hp₀ | ⟨user, rfl, huser, hgrants⟩
  · exact absurd (hp.symm.trans hp₀) Bool.false_ne_true
  · have hunnamed : ss.any (·.names user) = false := by rwa [pooled, hgrants, Bool.and_true] at hp
    exact ⟨hp, hp', user, rfl, huser, by simpa using hunnamed, List.any_eq_true.mp hgrants⟩

end

/-! ## (3) Answers -/

namespace Model

section

variable {rules rules' : String} {groups groups' : Option String} {o : String × String} {m : Model}

/-- Texts with one more group load, and each rule grants what it granted. -/
theorem exists_load_of_textsWith (hload : load rules groups = .ok m) (htexts : TextsWith o rules groups rules' groups')
    (hname : isPlainName o.1.toList = true) (hnew : o.1 ∉ (groupsOf (sectionsOfTexts rules groups)).map (·.name))
    (husers : ∀ s ∈ Subject.membersOf o.2, ∃ user, s = .user user) :
    ∃ d m' d', load rules' groups' = .ok m' ∧
      (m.IsOf d ∧ d.IsOf (sectionsOfTexts rules groups)) ∧ (m'.IsOf d' ∧ d'.IsOf (sectionsOfTexts rules' groups')) ∧
      ∀ who, List.Forall₂ (Rule.Alike Eq (·.accessFor who)) m.rules m'.rules ∧
        List.Forall₂ (Rule.Alike Eq (·.authenticated)) m.rules m'.rules := by
  obtain ⟨d, hdraft, hd, hm, hdefined, hcycle⟩ := resolvable_of_load hload
  obtain ⟨d', hdraft'⟩ :=
    Draft.ofTexts_isOk_iff.mpr (textsCompile_of_textsWith htexts hname hnew (Draft.ofTexts_isOk_iff.mp ⟨d, hdraft⟩))
  have hd' := Draft.isOf_ofTexts hdraft'
  have henlarges := Draft.enlarges_of_sections hd hd' (oneMoreGroup_of_textsWith htexts)
  obtain ⟨hdefined', hcycle'⟩ := Draft.resolvable_of_enlarges husers henlarges hdefined hcycle
  obtain ⟨m', hmodel'⟩ := exists_ofDraft_of_resolvable hdefined' hcycle'
  have hm' := isOf_ofDraft hmodel'
  have hnone : d.group? o.1 = none := by
    rw [← hd.groups] at hnew
    exact Draft.group?_eq_none_iff.mpr fun hdef => hnew (List.mem_map.mpr hdef)
  exact ⟨d, m', d', bind_eq_ok_iff.mpr ⟨d', hdraft', hmodel'⟩, ⟨hm, hd⟩, ⟨hm', hd'⟩,
    alike_of_enlarges henlarges hnone hdefined hm hm'⟩

/-- A new group of users that nothing refers to changes no answer, but for the floors of those of its members whom no
    section named before while some section grants to every authenticated user. -/
theorem unused_group (hload : load rules groups = .ok m) (htexts : TextsWith o rules groups rules' groups')
    (hname : isPlainName o.1.toList = true) (hnew : o.1 ∉ (groupsOf (sectionsOfTexts rules groups)).map (·.name))
    (husers : ∀ s ∈ Subject.membersOf o.2, ∃ user, s = .user user) :
    ∃ m', load rules' groups' = .ok m' ∧ ∀ who,
      (∀ repo path, m'.effectiveAccess repo path who false = m.effectiveAccess repo path who false) ∧
      (∀ repo path required, m'.check repo path who required false = m.check repo path who required false) ∧
      (∀ repo required, m'.checkAnywhere repo who required = m.checkAnywhere repo who required) ∧
      (pooled (sectionsOfTexts rules' groups') who = pooled (sectionsOfTexts rules groups) who →
        (∀ region, m'.lookupRights who region = m.lookupRights who region) ∧
        (∀ repo path, m'.effectiveAccess repo path who true = m.effectiveAccess repo path who true) ∧
        ∀ repo path required, m'.check repo path who required true = m.check repo path who required true) ∧
      (pooled (sectionsOfTexts rules' groups') who ≠ pooled (sectionsOfTexts rules groups) who →
        (∃ user, who = .user user ∧ .user user ∈ Subject.membersOf o.2 ∧
          (∀ s ∈ sectionsOfTexts rules groups, s.names user = false) ∧
          ∃ s ∈ sectionsOfTexts rules groups, s.grantsToAll = true) ∧
        (∀ region, m'.lookupRights who region =
          (⟨(m.lookupRights who region).1.floor ∩ (regional region m.grantsToAll).1.floor,
            (m.lookupRights who region).1.ceiling⟩, (m.lookupRights who region).2)) ∧
        ∀ repo path, m'.effectiveAccess repo path who true =
          m.effectiveAccess repo path who true ∩ (regional (repoGiven repo) m.grantsToAll).1.floor) := by
  obtain ⟨d, m', d', hload', ⟨hm, hd⟩, ⟨hm', hd'⟩, halike⟩ := exists_load_of_textsWith hload htexts hname hnew husers
  refine ⟨m', hload', fun who => ?_⟩
  obtain ⟨hto, hall⟩ := halike who
  obtain ⟨hpath, hcheck, hanywhere⟩ := answers_on_paths hm hd hm' hd' hto
  refine ⟨hpath, hcheck, hanywhere, answers_of_same_pooled hm hd hm' hd' hto hall, fun hne => ?_⟩
  obtain ⟨hp, hp', hmember⟩ := newly_pooled_of_oneMoreGroup (oneMoreGroup_of_textsWith htexts) hne
  exact ⟨hmember, answers_of_newly_pooled hm hd hm' hd' hto hall hp hp'⟩

theorem unused_group_team :
    ∃ m m', load "[a:/]\n* = r\n~eve = w\n" none = .ok m ∧ load "[groups]\nteam = bob\n[a:/]\n* = r\n~eve = w\n" none = .ok m' ∧
      m'.effectiveAccess "a" "/" (.user "bob") false = m.effectiveAccess "a" "/" (.user "bob") false ∧
      m'.lookupRights (.user "eve") (some "a") = m.lookupRights (.user "eve") (some "a") := by
  have hload : (load "[a:/]\n* = r\n~eve = w\n" none).toOption.any (fun _ => true) = true := by decide +kernel
  obtain ⟨m, hm, -⟩ := exists_ok_of_any hload
  have hsections : sections "[a:/]\n* = r\n~eve = w\n" = [] ++ [⟨"a:/", [("*", "r"), ("~eve", "w")]⟩] := by decide +kernel
  have hsections' : sections "[groups]\nteam = bob\n[a:/]\n* = r\n~eve = w\n" =
      [] ++ ⟨"groups", [("team", "bob")]⟩ :: [⟨"a:/", [("*", "r"), ("~eve", "w")]⟩] := by decide +kernel
  have hmore : OneMoreGroup ("team", "bob") (sections "[a:/]\n* = r\n~eve = w\n")
      (sections "[groups]\nteam = bob\n[a:/]\n* = r\n~eve = w\n") := by
    rw [hsections, hsections']
    exact .ownSection [] _
  have hmembers : Subject.membersOf "bob" = [.user "bob"] := by decide +kernel
  obtain ⟨m', hm', hanswers⟩ := unused_group hm (.inRules ⟨by decide +kernel, by decide +kernel, hmore⟩) (by decide +kernel)
    (by decide +kernel) (by rw [hmembers]; simp)
  obtain ⟨hpath, -⟩ := hanswers (.user "bob")
  obtain ⟨-, -, -, hsame, -⟩ := hanswers (.user "eve")
  exact ⟨m, m', hm, hm', hpath "a" "/", (hsame (by decide +kernel)).1 (some "a")⟩

/-- A member who was a stranger to the rules held more on a subtree before some group named them. -/
theorem an_unused_group_lowers_the_floor_of_its_members :
    ∃ m m', load "[a:/]\n* = r\n~eve = w\n" none = .ok m ∧ load "[groups]\nteam = bob\n[a:/]\n* = r\n~eve = w\n" none = .ok m' ∧
      sections "[a:/]\n* = r\n~eve = w\n" = [⟨"a:/", [("*", "r"), ("~eve", "w")]⟩] ∧
      sections "[groups]\nteam = bob\n[a:/]\n* = r\n~eve = w\n" =
        [⟨"groups", [("team", "bob")]⟩, ⟨"a:/", [("*", "r"), ("~eve", "w")]⟩] ∧
      m.check "a" "/" (.user "bob") .all true = true ∧ m'.check "a" "/" (.user "bob") .all true = false := by
  have hold : (load "[a:/]\n* = r\n~eve = w\n" none).toOption.any
      (fun m => m.check "a" "/" (.user "bob") .all true) = true := by decide +kernel
  have hnew : (load "[groups]\nteam = bob\n[a:/]\n* = r\n~eve = w\n" none).toOption.any
      (fun m => !m.check "a" "/" (.user "bob") .all true) = true := by decide +kernel
  obtain ⟨m, hm, hcheck⟩ := exists_ok_of_any hold
  obtain ⟨m', hm', hcheck'⟩ := exists_ok_of_any hnew
  exact ⟨m, m', hm, hm', by decide +kernel, by decide +kernel, hcheck, by simpa using hcheck'⟩

end

end Model

end PathAuthz
