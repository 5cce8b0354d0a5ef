/-
  PathAuthz.Proofs.Draft.Unused — one more group that nothing refers to.

  (1) `Draft.Enlarges`: the same rules and aliases, and one more group somewhere among the
  others. If its name is new and its members are users, no chain of references leads through
  it: what was defined is still defined, no cycle appears (`resolvable_of_enlarges`), and every
  other group reaches whom it reached (`reaches_of_enlarges`).

  (2) `OneMoreGroup` says the same of sections, whether the new option stands among others or
  in a section of its own. The rule sections and the aliases are the same, and the drafts of the
  sections enlarge one another (`enlarges_of_sections`).

  (3) `TextsWith` says it of texts. What compiled still compiles (`textsCompile_of_textsWith`).
-/

import PathAuthz.Proofs.Draft.Compiles
import PathAuthz.Proofs.Draft.References

namespace PathAuthz

open Source

/-! ## (1) Drafts -/

namespace Draft

structure Enlarges (d : Draft) (g : GroupDefinition) (d' : Draft) : Prop where
  rules : d'.rules = d.rules
  aliases : d'.aliases = d.aliases
  groups : ∃ before after, d.groups = before ++ after ∧ d'.groups = before ++ g :: after

variable {d d' : Draft} {g : GroupDefinition}

theorem Enlarges.mem_groups_iff (h : d.Enlarges g d') {f : GroupDefinition} : f ∈ d'.groups ↔ f = g ∨ f ∈ d.groups := by
  obtain ⟨before, after, hd, hd'⟩ := h.groups
  rw [hd, hd', List.mem_append, List.mem_append, List.mem_cons]
  tauto

theorem Enlarges.group?_of_ne (h : d.Enlarges g d') {name : String} (hne : name ≠ g.name) :
    d'.group? name = d.group? name := by
  obtain ⟨before, after, hd, hd'⟩ := h.groups
  have hg : (g.name == name) = false := by simpa using fun he : g.name = name => hne he.symm
  rw [group?, group?, hd, hd', List.find?_append, List.find?_append, List.find?_cons_of_neg (by simp [hg])]

theorem Enlarges.alias?_eq (h : d.Enlarges g d') (name : String) : d'.alias? name = d.alias? name := by
  rw [alias?, alias?, h.aliases]

theorem Enlarges.defines (h : d.Enlarges g d') {s : Subject} (hs : d.Defines s) : d'.Defines s := by
  cases s with
  | user name => trivial
  | group name =>
    obtain ⟨f, hf, hname⟩ := hs
    exact ⟨f, h.mem_groups_iff.mpr (.inr hf), hname⟩
  | viaAlias name =>
    obtain ⟨a, ha, hname⟩ := hs
    exact ⟨a, h.aliases ▸ ha, hname⟩

variable (hplain : ∀ s ∈ g.members, ∃ user, s = .user user)

include hplain

/-- All that is new to mention is a user. -/
theorem Enlarges.mentions_cases (h : d.Enlarges g d') {referrer : Referrer} {s : Subject} (hs : d'.Mentions referrer s) :
    d.Mentions referrer s ∨ ∃ user, s = .user user := by
  cases referrer with
  | group name =>
    obtain ⟨f, hf, hname, hs⟩ := hs
    rcases h.mem_groups_iff.mp hf with rfl | hf
    · exact .inr (hplain s hs)
    · exact .inl ⟨f, hf, hname, hs⟩
  | rule heading =>
    obtain ⟨w, hw, hheading, hs⟩ := hs
    exact .inl ⟨w, h.rules ▸ hw, hheading, hs⟩

theorem resolvable_of_enlarges (h : d.Enlarges g d') (hdefined : ∀ referrer s, d.Mentions referrer s → d.Defines s)
    (hcycle : ∀ group, ¬d.OnCycle group) :
    (∀ referrer s, d'.Mentions referrer s → d'.Defines s) ∧ ∀ group, ¬d'.OnCycle group :=
  resolvable_of_mentions (fun _ _ => h.mentions_cases hplain) (fun _ => h.defines) hdefined hcycle

omit hplain

/-- A group that is defined is not the new one. -/
theorem ne_of_defines (hnew : d.group? g.name = none) {name : String} (h : d.Defines (.group name)) : name ≠ g.name := by
  rintro rfl
  exact group?_eq_none_iff.mp hnew h

theorem reaches_of_enlarges (h : d.Enlarges g d') (hnew : d.group? g.name = none)
    (hdefined : ∀ referrer s, d.Mentions referrer s → d.Defines s) {group user : String} (hne : group ≠ g.name) :
    d'.Reaches group user ↔ d.Reaches group user := by
  have hinner : ∀ {group inner : String} {f : GroupDefinition}, d.group? group = some f → .group inner ∈ f.members →
      inner ≠ g.name := by
    intro group inner f hf hs
    exact ne_of_defines hnew (hdefined _ _ (mentions_of_group? hf hs))
  constructor
  · intro hr
    induction hr with
    | user hf hs => exact .user (h.group?_of_ne hne ▸ hf) hs
    | viaAlias hf hs ha => exact .viaAlias (h.group?_of_ne hne ▸ hf) hs (h.alias?_eq _ ▸ ha)
    | nested hf hs _ ih =>
      rw [h.group?_of_ne hne] at hf
      exact .nested hf hs (ih (hinner hf hs))
  · intro hr
    induction hr with
    | user hf hs => exact .user (h.group?_of_ne hne ▸ hf) hs
    | viaAlias hf hs ha => exact .viaAlias (h.group?_of_ne hne ▸ hf) hs (h.alias?_eq _ ▸ ha)
    | nested hf hs _ ih => exact .nested (h.group?_of_ne hne ▸ hf) hs (ih (hinner hf hs))

end Draft

/-! ## (2) Sections -/

inductive OneMoreGroup (o : String × String) : List Section → List Section → Prop
  | option (before after : List Section) (front back : List (String × String)) :
      OneMoreGroup o (before ++ ⟨"groups", front ++ back⟩ :: after) (before ++ ⟨"groups", front ++ o :: back⟩ :: after)
  | ownSection (before after : List Section) :
      OneMoreGroup o (before ++ after) (before ++ ⟨"groups", [o]⟩ :: after)

namespace OneMoreGroup

variable {o : String × String} {ss ss' : List Section}

theorem append (h : OneMoreGroup o ss ss') (before after : List Section) :
    OneMoreGroup o (before ++ ss ++ after) (before ++ ss' ++ after) := by
  cases h with
  | option before' after' front back =>
    have := OneMoreGroup.option (o := o) (before ++ before') (after' ++ after) front back
    simpa using this
  | ownSection before' after' =>
    have := OneMoreGroup.ownSection (o := o) (before ++ before') (after' ++ after)
    simpa using this

theorem filter_isRule (h : OneMoreGroup o ss ss') : ss'.filter Section.isRule = ss.filter Section.isRule := by
  cases h <;> simp [Section.isRule]

theorem aliasesOf_eq (h : OneMoreGroup o ss ss') : aliasesOf ss' = aliasesOf ss := by
  cases h <;> simp [aliasesOf]

theorem groupsOf_eq (h : OneMoreGroup o ss ss') :
    ∃ before after, groupsOf ss = before ++ after ∧ groupsOf ss' = before ++ ⟨o.1, Subject.membersOf o.2⟩ :: after := by
  cases h with
  | option before after front back =>
    let define (o : String × String) : GroupDefinition := ⟨o.1, Subject.membersOf o.2⟩
    exact ⟨groupsOf before ++ front.map define, back.map define ++ groupsOf after, by simp [groupsOf, define],
      by simp [groupsOf, define]⟩
  | ownSection before after => exact ⟨groupsOf before, groupsOf after, by simp [groupsOf], by simp [groupsOf]⟩

theorem mem_heading (h : OneMoreGroup o ss ss') {s : Section} (hs : s ∈ ss') :
    s.heading = "groups" ∨ ∃ t ∈ ss, t.heading = s.heading := by
  cases h with
  | option before after front back =>
    rcases List.mem_append.mp hs with hs | hs
    · exact .inr ⟨s, List.mem_append_left _ hs, rfl⟩
    · rcases List.mem_cons.mp hs with rfl | hs
      · exact .inl rfl
      · exact .inr ⟨s, List.mem_append_right _ (List.mem_cons_of_mem _ hs), rfl⟩
  | ownSection before after =>
    rcases List.mem_append.mp hs with hs | hs
    · exact .inr ⟨s, List.mem_append_left _ hs, rfl⟩
    · rcases List.mem_cons.mp hs with rfl | hs
      · exact .inl rfl
      · exact .inr ⟨s, List.mem_append_right _ hs, rfl⟩

theorem isWellFormed (h : OneMoreGroup o ss ss') (ho : isPlainName o.1.toList = true)
    (hss : ∀ s ∈ ss, s.isWellFormed = true) : ∀ s ∈ ss', s.isWellFormed = true := by
  cases h with
  | option before after front back =>
    obtain ⟨hbefore, hrest⟩ := List.forall_mem_append.mp hss
    obtain ⟨hgroups, hafter⟩ := List.forall_mem_cons.mp hrest
    have hgroups' : Section.isWellFormed ⟨"groups", front ++ o :: back⟩ = true := by
      simp only [Section.isWellFormed, Section.isRule, List.all_append, List.all_cons, ho] at hgroups ⊢
      exact hgroups
    exact List.forall_mem_append.mpr ⟨hbefore, List.forall_mem_cons.mpr ⟨hgroups', hafter⟩⟩
  | ownSection before after =>
    obtain ⟨hbefore, hafter⟩ := List.forall_mem_append.mp hss
    have hgroups : Section.isWellFormed ⟨"groups", [o]⟩ = true := by
      simp [Section.isWellFormed, Section.isRule, ho]
    exact List.forall_mem_append.mpr ⟨hbefore, List.forall_mem_cons.mpr ⟨hgroups, hafter⟩⟩

/-- A name that is new among the groups of a text and of an earlier one is no second definition. -/
theorem nodup_groups (h : OneMoreGroup o ss ss') (hnew : o.1 ∉ (groupsOf ss).map (·.name))
    (hss : ((groupsOf ss).map (·.name)).Nodup) : ((groupsOf ss').map (·.name)).Nodup := by
  obtain ⟨before, after, hbefore, hafter⟩ := h.groupsOf_eq
  rw [hbefore, List.map_append] at hnew hss
  rw [hafter, List.map_append, List.map_cons]
  exact List.nodup_middle.mpr (List.nodup_cons.mpr ⟨hnew, hss⟩)

end OneMoreGroup

theorem Draft.enlarges_of_sections {d d' : Draft} {ss ss' : List Section} {o : String × String} (hd : d.IsOf ss)
    (hd' : d'.IsOf ss') (h : OneMoreGroup o ss ss') : d.Enlarges ⟨o.1, Subject.membersOf o.2⟩ d' := by
  refine ⟨?_, ?_, ?_⟩
  · have hrules := hd'.rules
    rw [h.filter_isRule, ← hd.rules] at hrules
    exact List.map_injective_iff.mpr (fun _ _ => Option.some.inj) hrules
  · rw [hd.aliases, hd'.aliases, h.aliasesOf_eq]
  · rw [hd.groups, hd'.groups]
    exact h.groupsOf_eq

/-! ## (3) Texts -/

/-- A text with one more group, in which no section is there twice. -/
structure TextWith (o : String × String) (text text' : String) : Prop where
  fault : (trace text').2 = none
  headings : ((sections text').map (·.heading)).Nodup
  sections : OneMoreGroup o (sections text) (sections text')

/-- Texts with one more group, in the one of them that may define groups. -/
inductive TextsWith (o : String × String) : String → Option String → String → Option String → Prop
  | inRules {rules rules' : String} : TextWith o rules rules' → TextsWith o rules none rules' none
  | inGroups {rules text text' : String} : TextWith o text text' → TextsWith o rules (some text) rules (some text')

variable {o : String × String}

theorem Compiles.of_textWith {role : TextRole} {groupsGiven : Bool} {text text' : String} (h : TextWith o text text')
    (ho : isPlainName o.1.toList = true) (hadmits : role.admits groupsGiven "groups" = true)
    (hnew : o.1 ∉ (groupsOf (sections text)).map (·.name)) (hc : Compiles role groupsGiven [] (sections text)) :
    Compiles role groupsGiven [] (sections text') := by
  refine ⟨h.headings, fun s hs => ?_, h.sections.isWellFormed ho hc.wellFormed, h.sections.nodup_groups hnew hc.groups, ?_⟩
  · rcases h.sections.mem_heading hs with hg | ⟨t, ht, he⟩
    · rw [hg]; exact hadmits
    · rw [← he]; exact hc.admitted t ht
  · rw [List.nil_append, h.sections.aliasesOf_eq]
    exact hc.aliases

variable {rules rules' : String} {groups groups' : Option String}

theorem oneMoreGroup_of_textsWith (h : TextsWith o rules groups rules' groups') :
    OneMoreGroup o (sectionsOfTexts rules groups) (sectionsOfTexts rules' groups') := by
  cases h with
  | inRules h => simpa [sectionsOfTexts] using h.sections
  | inGroups h => simpa [sectionsOfTexts] using h.sections.append [] (sections rules)

theorem textsCompile_of_textsWith (h : TextsWith o rules groups rules' groups') (ho : isPlainName o.1.toList = true)
    (hnew : o.1 ∉ (groupsOf (sectionsOfTexts rules groups)).map (·.name)) (hc : TextsCompile rules groups) :
    TextsCompile rules' groups' := by
  have hmore := oneMoreGroup_of_textsWith h
  cases h with
  | inRules h =>
    obtain ⟨-, hc⟩ := hc
    exact ⟨h.fault, hc.of_textWith h ho rfl hnew⟩
  | inGroups h =>
    rename_i text text'
    obtain ⟨⟨-, hc⟩, hfault, hrules⟩ := hc
    have hsections : ∀ text, sectionsOfTexts rules (some text) = sections text ++ sections rules := by
      simp [sectionsOfTexts]
    rw [hsections, hsections] at hmore
    rw [hsections] at hnew
    have hnew' : o.1 ∉ (groupsOf (sections text)).map (·.name) := by
      intro hmem
      rw [groupsOf_append, List.map_append] at hnew
      exact hnew (List.mem_append_left _ hmem)
    refine ⟨⟨h.fault, hc.of_textWith h ho rfl hnew'⟩, hfault, hrules.headings, hrules.admitted, hrules.wellFormed,
      hmore.nodup_groups hnew hrules.groups, ?_⟩
    rw [hmore.aliasesOf_eq]
    exact hrules.aliases

end PathAuthz
