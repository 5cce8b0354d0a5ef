/-
  PathAuthz.Proofs.Draft.Sections — the draft of a text, read off its sections.

  (1) What sections say, taken one by one: `groupsOf` and `aliasesOf` for the two sections of
  definitions, and `WrittenRule.ofSection?` for a rule section, whose options are grants made
  one after the other.

  (2) `Draft.Tracks` is what opening a section and taking an option keep, of a draft and the
  sections it was made of, while the place of the compiler is the last section (`Place.IsLast`).
  What tracks the sections is true of every text that compiles, on top of those compiled before
  (`Tracks.compile`, `Tracks.ofTexts`).

  (3) `Draft.IsOf` says that a draft holds the rules, groups and aliases of a list of sections,
  the i-th rule being made of the i-th rule section with the number i. It tracks them
  (`tracks_isOf`), so it is what the draft of two texts is (`isOf_ofTexts`).
-/

import Mathlib.Data.List.Nodup
import PathAuthz.Draft
import PathAuthz.Proofs.Outcome
import PathAuthz.Proofs.Source.Sections

namespace PathAuthz

open Source

/-! ## (1) What sections say -/

/-- Whether a section is about a path, and not one of the two that hold definitions. -/
def Source.Section.isRule (s : Section) : Bool := s.heading != "groups" && s.heading != "aliases"

def groupsOf (ss : List Section) : List GroupDefinition :=
  (ss.filter (·.heading == "groups")).flatMap fun s => s.options.map fun o => ⟨o.1, Subject.membersOf o.2⟩

def aliasesOf (ss : List Section) : List AliasDefinition :=
  (ss.filter (·.heading == "aliases")).flatMap fun s => s.options.map fun o => ⟨o.1, Text.trimmed o.2⟩

/-- The grant an option of a rule section makes, if it is well formed. -/
def grantOf? (o : String × String) : Option (Grantee × Access) :=
  match Grantee.ofOption? o.1, Access.ofRights o.2.toList with
  | some g, .ok a => some (g, a)
  | _, _ => none

def RuleHeader.scope (h : RuleHeader) : RepoScope :=
  match h.repo with
  | some repo => .named repo
  | none => .any

/-- The repository a heading names, if it is well formed and names one. -/
def repoOf? (heading : String) : Option String :=
  match RuleHeader.read heading with
  | .ok header => header.repo
  | .error _ => none

namespace WrittenRule

def grantAll (w : WrittenRule) (gs : List (Grantee × Access)) : WrittenRule := gs.foldl (fun w g => w.grant g.1 g.2) w

/-- The rule a heading stands for before it grants anything. -/
def ofHeading? (seq : Nat) (heading : String) : Option WrittenRule :=
  match RuleHeader.read heading with
  | .error _ => none
  | .ok header =>
    match PathPattern.compile heading header.glob header.path with
    | .error _ => none
    | .ok pattern => some ⟨seq, heading, header.scope, pattern, none, none, []⟩

/-- The rule a section makes as rule number `seq`, if it is well formed. -/
def ofSection? (seq : Nat) (s : Section) : Option WrittenRule :=
  (ofHeading? seq s.heading).bind fun w => (s.options.mapM grantOf?).map w.grantAll

/-- Granting touches nothing that the heading says. -/
theorem grant_frame (w : WrittenRule) (g : Grantee) (a : Access) :
    (w.grant g a).seq = w.seq ∧ (w.grant g a).heading = w.heading ∧ (w.grant g a).scope = w.scope ∧
      (w.grant g a).pattern = w.pattern := by
  unfold grant
  split <;> exact ⟨rfl, rfl, rfl, rfl⟩

theorem grantAll_frame (w : WrittenRule) (gs : List (Grantee × Access)) :
    (w.grantAll gs).seq = w.seq ∧ (w.grantAll gs).heading = w.heading ∧ (w.grantAll gs).scope = w.scope ∧
      (w.grantAll gs).pattern = w.pattern := by
  induction gs generalizing w with
  | nil => exact ⟨rfl, rfl, rfl, rfl⟩
  | cons g gs ih =>
    obtain ⟨hs, hh, hc, hp⟩ := ih (w.grant g.1 g.2)
    obtain ⟨hs', hh', hc', hp'⟩ := w.grant_frame g.1 g.2
    exact ⟨hs.trans hs', hh.trans hh', hc.trans hc', hp.trans hp'⟩

theorem ofHeading?_eq_some {seq : Nat} {heading : String} {w : WrittenRule} (h : ofHeading? seq heading = some w) :
    ∃ header, RuleHeader.read heading = .ok header ∧
      PathPattern.compile heading header.glob header.path = .ok w.pattern ∧
      w = ⟨seq, heading, header.scope, w.pattern, none, none, []⟩ := by
  unfold ofHeading? at h
  split at h
  · cases h
  · rename_i header hheader
    split at h
    · cases h
    · rename_i pattern hpattern
      cases h
      exact ⟨header, hheader, hpattern, rfl⟩

/-- One more option of a section is one more grant of its rule. -/
theorem ofSection?_snoc {seq : Nat} {heading : String} {options : List (String × String)} {w : WrittenRule}
    {o : String × String} {g : Grantee × Access} (hw : ofSection? seq ⟨heading, options⟩ = some w)
    (hg : grantOf? o = some g) : ofSection? seq ⟨heading, options ++ [o]⟩ = some (w.grant g.1 g.2) := by
  simp only [ofSection?, Option.bind_eq_some_iff, Option.map_eq_some_iff] at hw ⊢
  obtain ⟨w0, h0, gs, hgs, rfl⟩ := hw
  refine ⟨w0, h0, gs ++ [g], ?_, ?_⟩
  · simp [List.mapM_append, hgs, hg]
  · simp [grantAll]

end WrittenRule

theorem mem_groupsOf {ss : List Section} {g : GroupDefinition} :
    g ∈ groupsOf ss ↔ ∃ s ∈ ss, s.heading = "groups" ∧ ∃ o ∈ s.options, g = ⟨o.1, Subject.membersOf o.2⟩ := by
  simp only [groupsOf, List.mem_flatMap, List.mem_filter, beq_iff_eq, List.mem_map, and_assoc, @eq_comm _ g]

theorem mem_aliasesOf {ss : List Section} {a : AliasDefinition} :
    a ∈ aliasesOf ss ↔ ∃ s ∈ ss, s.heading = "aliases" ∧ ∃ o ∈ s.options, a = ⟨o.1, Text.trimmed o.2⟩ := by
  simp only [aliasesOf, List.mem_flatMap, List.mem_filter, beq_iff_eq, List.mem_map, and_assoc, @eq_comm _ a]

theorem groupsOf_append (ss ts : List Section) : groupsOf (ss ++ ts) = groupsOf ss ++ groupsOf ts := by simp [groupsOf]

theorem aliasesOf_append (ss ts : List Section) : aliasesOf (ss ++ ts) = aliasesOf ss ++ aliasesOf ts := by
  simp [aliasesOf]

theorem groupsOf_of_ne {s : Section} (h : s.heading ≠ "groups") : groupsOf [s] = [] := by
  simp [groupsOf, h]

theorem aliasesOf_of_ne {s : Section} (h : s.heading ≠ "aliases") : aliasesOf [s] = [] := by
  simp [aliasesOf, h]

/-- A rule section among others defines nothing. -/
theorem definitions_append_cons {s : Section} (h : s.isRule = true) (before after : List Section) :
    groupsOf (before ++ s :: after) = groupsOf (before ++ after) ∧
      aliasesOf (before ++ s :: after) = aliasesOf (before ++ after) := by
  have hne : s.heading ≠ "groups" ∧ s.heading ≠ "aliases" := by simpa [Section.isRule] using h
  have hcons : s :: after = [s] ++ after := rfl
  constructor
  · rw [hcons, groupsOf_append, groupsOf_append, groupsOf_append, groupsOf_of_ne hne.1, List.nil_append]
  · rw [hcons, aliasesOf_append, aliasesOf_append, aliasesOf_append, aliasesOf_of_ne hne.2, List.nil_append]

theorem groupsOf_groups (options : List (String × String)) :
    groupsOf [⟨"groups", options⟩] = options.map fun o => ⟨o.1, Subject.membersOf o.2⟩ := by simp [groupsOf]

theorem aliasesOf_aliases (options : List (String × String)) :
    aliasesOf [⟨"aliases", options⟩] = options.map fun o => ⟨o.1, Text.trimmed o.2⟩ := by simp [aliasesOf]

theorem filter_isRule_snoc (ss : List Section) {s : Section} (h : s.isRule = true) :
    (ss ++ [s]).filter Section.isRule = ss.filter Section.isRule ++ [s] := by simp [h]

theorem filter_isRule_snoc_of_not (ss : List Section) {s : Section} (h : s.isRule = false) :
    (ss ++ [s]).filter Section.isRule = ss.filter Section.isRule := by simp [h]

/-! ## (2) Following the compiler -/

/-- The place a compiler is at while it takes the last section, under its heading. -/
def Place.IsLast (d : Draft) (heading : String) : Place → Prop
  | .groups => heading = "groups"
  | .aliases => heading = "aliases"
  | .rule i => (heading != "groups" && heading != "aliases") = true ∧ d.rules.length = i + 1

namespace Draft

/-- Take an option at a place. -/
def addTo (p : Place) (heading : String) (d : Draft) (o : String × String) : Except LoadError Draft :=
  match p with
  | .groups => d.addGroup heading o.1 o.2
  | .aliases => d.addAlias heading o.1 o.2
  | .rule i => d.addEntry i heading o.1 o.2

theorem addGroup_eq_ok {d d' : Draft} {heading option value : String} (h : d.addGroup heading option value = .ok d') :
    d.group? option = none ∧ d'.groups = d.groups ++ [⟨option, Subject.membersOf value⟩] ∧ d'.rules = d.rules ∧
      d'.aliases = d.aliases ∧ d'.names = option :: (Subject.membersOf value).map Subject.label ++ d.names := by
  unfold addGroup at h
  split at h
  · cases h
  · split at h
    · cases h
    · rename_i hn
      cases h
      exact ⟨by simpa using hn, rfl, rfl, rfl, rfl⟩

theorem addAlias_eq_ok {d d' : Draft} {heading option value : String} (h : d.addAlias heading option value = .ok d') :
    d.alias? option = none ∧ d'.aliases = d.aliases ++ [⟨option, Text.trimmed value⟩] ∧ d'.rules = d.rules ∧
      d'.groups = d.groups ∧ d'.names = [option, Text.trimmed value] ++ d.names := by
  unfold addAlias at h
  split at h
  · cases h
  · split at h
    · cases h
    · rename_i hn
      cases h
      exact ⟨by simpa using hn, rfl, rfl, rfl, rfl⟩

theorem addEntry_eq_ok {d d' : Draft} {i : Nat} {heading option value : String}
    (h : d.addEntry i heading option value = .ok d') :
    ∃ g, grantOf? (option, value) = some g ∧ d'.rules = d.rules.modify i (·.grant g.1 g.2) ∧ d'.groups = d.groups ∧
      d'.aliases = d.aliases ∧ d'.names = nameOf g.1 ++ d.names := by
  unfold addEntry at h
  split at h
  · cases h
  · rename_i a ha
    split at h
    · cases h
    · rename_i g hg
      cases h
      exact ⟨(g, a), by simp [grantOf?, ha, hg], rfl, rfl, rfl, rfl⟩

theorem openRule_eq_ok {d d' : Draft} {heading : String} (h : d.openRule heading = .ok d') :
    ∃ w, WrittenRule.ofHeading? d.rules.length heading = some w ∧ d'.rules = d.rules ++ [w] ∧ d'.groups = d.groups ∧
      d'.aliases = d.aliases ∧ d'.names = heading :: (repoOf? heading).toList ++ d.names := by
  obtain ⟨header, hheader, h⟩ := bind_eq_ok_iff.mp h
  obtain ⟨pattern, hpattern, h⟩ := bind_eq_ok_iff.mp h
  cases pure_eq_ok_iff.mp h
  exact ⟨⟨d.rules.length, heading, header.scope, pattern, none, none, []⟩,
    by simp [WrittenRule.ofHeading?, hheader, hpattern], rfl, rfl, rfl, by rw [repoOf?, hheader]⟩

theorem isLast_addTo {p : Place} {d d' : Draft} {heading : String} {o : String × String} (hp : p.IsLast d heading)
    (ha : d.addTo p heading o = .ok d') : p.IsLast d' heading := by
  cases p with
  | groups => exact hp
  | aliases => exact hp
  | rule i =>
    obtain ⟨g, -, hr, -⟩ := addEntry_eq_ok ha
    exact ⟨hp.1, by rw [hr, List.length_modify]; exact hp.2⟩

/-- What opening a section comes down to. -/
theorem enter_eq_ok {c : Compiler} {p : Place} {d : Draft} {heading : String} (he : c.enter heading = .ok (p, d)) :
    (heading = "groups" ∧ p = .groups ∧ d = c.draft) ∨ (heading = "aliases" ∧ p = .aliases ∧ d = c.draft) ∨
      (Section.isRule ⟨heading, []⟩ = true ∧ p = .rule c.draft.rules.length ∧ c.draft.openRule heading = .ok d) := by
  unfold Compiler.enter at he
  split at he
  · split at he
    · rename_i hh; cases he; exact .inl ⟨hh, rfl, rfl⟩
    · cases he
  · split at he
    · split at he
      · cases he
      · rename_i hh _; cases he; exact .inl ⟨hh, rfl, rfl⟩
    · split at he
      · rename_i hh; cases he; exact .inr (.inl ⟨hh, rfl, rfl⟩)
      · rename_i hg ha
        obtain ⟨d', hd', hpd⟩ := map_eq_ok_iff.mp he
        cases hpd
        exact .inr (.inr ⟨by simp [Section.isRule, hg, ha], rfl, hd'⟩)

theorem isLast_enter {c : Compiler} {p : Place} {d : Draft} {heading : String} (he : c.enter heading = .ok (p, d)) :
    p.IsLast d heading := by
  obtain ⟨hh, rfl, -⟩ | ⟨hh, rfl, -⟩ | ⟨hrule, rfl, ho⟩ := enter_eq_ok he
  · exact hh
  · exact hh
  · obtain ⟨w, -, hr, -⟩ := openRule_eq_ok ho
    exact ⟨hrule, by rw [hr, List.length_append, List.length_singleton]⟩

/-- What is kept, of a draft and the sections it is made of, as sections are opened and options are taken. -/
structure Tracks (P : Draft → List Section → Prop) : Prop where
  empty : P .empty []
  enter : ∀ {c : Compiler} {p : Place} {d : Draft} {heading : String} {done : List Section},
    P c.draft done → c.enter heading = .ok (p, d) → P d (done ++ [⟨heading, []⟩])
  addTo : ∀ {p : Place} {d d' : Draft} {heading : String} {done : List Section} {options : List (String × String)}
    {o : String × String}, p.IsLast d heading → P d (done ++ [⟨heading, options⟩]) → d.addTo p heading o = .ok d' →
      P d' (done ++ [⟨heading, options ++ [o]⟩])

end Draft

/-- The sections of a groups text, if there is one, and of a rules text. -/
def sectionsOfTexts (rules : String) (groups : Option String) : List Section :=
  groups.toList.flatMap sections ++ sections rules

namespace Compiler

/-- A compiler that takes the front of a list of events takes its first event, and then the rest. -/
theorem feed_cons_eq {c c' : Compiler} {e : Event} {es : List Event} (h : feed receive c (e :: es) = (c', none)) :
    ∃ c₁, c.take e = .ok c₁ ∧ feed receive c₁ es = (c', none) := by
  unfold feed receive at h
  cases ht : c.take e with
  | ok c₁ => rw [ht] at h; exact ⟨c₁, rfl, h⟩
  | error err => rw [ht] at h; simp at h

theorem feed_append_eq {c c' : Compiler} {es fs : List Event} (h : feed receive c (es ++ fs) = (c', none)) :
    ∃ c₁, feed receive c es = (c₁, none) ∧ feed receive c₁ fs = (c', none) := by
  rw [feed_append] at h
  rcases hf : feed receive c es with ⟨c₁, _ | err⟩ <;> rw [hf] at h
  · exact ⟨c₁, rfl, h⟩
  · cases h

theorem value_eq_ok {c c' : Compiler} {p : Place} {heading option value : String} (hp : c.place = some p)
    (h : c.value heading option value = .ok c') :
    ∃ d, c.draft.addTo p heading (option, value) = .ok d ∧ c' = { c with draft := d } := by
  unfold Compiler.value at h
  rw [hp] at h
  cases p <;> obtain ⟨d, hd, rfl⟩ := map_eq_ok_iff.mp h <;> exact ⟨d, hd, by rw [← hp]⟩

end Compiler

namespace Draft.Tracks

open Compiler

variable {P : Draft → List Section → Prop}

/-- A run over the options of the open section. -/
theorem feed_values (hP : Tracks P) {c c' : Compiler} {p : Place} {heading : String} {done : List Section}
    {before options : List (String × String)} (hp : c.place = some p) (hl : p.IsLast c.draft heading)
    (hd : P c.draft (done ++ [⟨heading, before⟩]))
    (h : feed receive c (options.map fun o => .value heading o.1 o.2) = (c', none)) :
    P c'.draft (done ++ [⟨heading, before ++ options⟩]) := by
  induction options generalizing c before with
  | nil => cases h; simpa using hd
  | cons o options ih =>
    obtain ⟨c₁, ht, h⟩ := feed_cons_eq h
    obtain ⟨d, hadd, rfl⟩ := value_eq_ok hp ht
    have := ih (c := { c with draft := d }) hp (isLast_addTo hl hadd) (hP.addTo hl hd hadd) h
    rwa [List.append_assoc] at this

theorem feed_section (hP : Tracks P) {c c' : Compiler} {s : Section} {done : List Section} (hd : P c.draft done)
    (h : feed receive c s.events = (c', none)) : P c'.draft (done ++ [s]) := by
  obtain ⟨c₁, ht, hrest⟩ := feed_cons_eq h
  obtain ⟨c₂, hvalues, hclose⟩ := feed_append_eq hrest
  obtain ⟨c₃, hclose, hnil⟩ := feed_cons_eq hclose
  cases hclose
  cases hnil
  simp only [Compiler.take, Compiler.opened] at ht
  split at ht
  · cases ht
  · obtain ⟨⟨p, d⟩, he, ht⟩ := bind_eq_ok_iff.mp ht
    cases pure_eq_ok_iff.mp ht
    have hd' : P d (done ++ [⟨s.heading, []⟩]) := hP.enter hd he
    exact hP.feed_values rfl (isLast_enter he) hd' hvalues

theorem feed_sections (hP : Tracks P) {c c' : Compiler} {ss done : List Section} (hd : P c.draft done)
    (h : feed receive c (ss.flatMap Section.events) = (c', none)) : P c'.draft (done ++ ss) := by
  induction ss generalizing c done with
  | nil => cases h; simpa using hd
  | cons s ss ih =>
    rw [List.flatMap_cons] at h
    obtain ⟨c₁, hs, h⟩ := feed_append_eq h
    have := ih (hP.feed_section hd hs) h
    rwa [List.append_assoc] at this

theorem compile (hP : Tracks P) {c c' : Compiler} {role : TextRole} {text : String} {done : List Section}
    (hd : P c.draft done) (h : c.compile role text = .ok c') : P c'.draft (done ++ sections text) := by
  unfold Compiler.compile at h
  split at h
  · rename_i c₁ hs
    cases h
    obtain ⟨hf, hfault⟩ := feed_of_stream receive hs
    rw [trace_eq_flatMap hfault] at hf
    exact hP.feed_sections (c := { c with role, seen := [], place := none }) hd hf
  · cases h

theorem ofTexts (hP : Tracks P) {rules : String} {groups : Option String} {d : Draft}
    (h : Draft.ofTexts rules groups = .ok d) : P d (sectionsOfTexts rules groups) := by
  unfold Draft.ofTexts at h
  cases groups with
  | none =>
    obtain ⟨c, hc, h⟩ := bind_eq_ok_iff.mp (show (Compiler.start.compile .rules rules >>= _) = _ from h)
    cases pure_eq_ok_iff.mp h
    exact hP.compile hP.empty hc
  | some text =>
    obtain ⟨c', hc', h⟩ := bind_eq_ok_iff.mp (show (Except.map _ _ >>= _) = _ from h)
    obtain ⟨c, hc, rfl⟩ := map_eq_ok_iff.mp hc'
    obtain ⟨c', hc', h⟩ := bind_eq_ok_iff.mp h
    cases pure_eq_ok_iff.mp h
    have hgroups : P c.draft (sections text) := hP.compile hP.empty hc
    simpa [sectionsOfTexts] using hP.compile (c := { c with groupsGiven := true }) hgroups hc'

end Draft.Tracks

/-! ## (3) Drafts of sections -/

structure Draft.IsOf (d : Draft) (ss : List Section) : Prop where
  rules : d.rules.map some = (ss.filter Section.isRule).mapIdx WrittenRule.ofSection?
  groups : d.groups = groupsOf ss
  aliases : d.aliases = aliasesOf ss
  /-- No group and no alias is defined twice. -/
  groupNames : (d.groups.map (·.name)).Nodup
  aliasNames : (d.aliases.map (·.name)).Nodup

namespace Draft

theorem isOf_empty : Draft.empty.IsOf [] := ⟨rfl, rfl, rfl, List.nodup_nil, List.nodup_nil⟩

/-- A name that is not found among the names of a list is new to it. -/
theorem nodup_snoc {α : Type} {name : α → String} {as : List α} {a : α} (h : (as.map name).Nodup)
    (hnew : as.find? (name · == name a) = none) : ((as ++ [a]).map name).Nodup := by
  rw [List.map_append, List.map_singleton, ← List.concat_eq_append]
  refine h.concat fun hmem => ?_
  obtain ⟨b, hb, hname⟩ := List.mem_map.mp hmem
  exact List.find?_eq_none.mp hnew b hb (beq_iff_eq.mpr hname)

variable {d d' : Draft} {done : List Section} {heading : String} {options : List (String × String)}

theorem isOf_addGroup {o : String × String} (h : d.IsOf (done ++ [⟨"groups", options⟩]))
    (ha : d.addGroup heading o.1 o.2 = .ok d') : d'.IsOf (done ++ [⟨"groups", options ++ [o]⟩]) := by
  obtain ⟨hnew, hg, hr, ha, -⟩ := addGroup_eq_ok ha
  have hrules := h.rules
  have hgroups := h.groups
  have haliases := h.aliases
  rw [filter_isRule_snoc_of_not _ (by rfl)] at hrules
  rw [groupsOf_append, groupsOf_groups] at hgroups
  rw [aliasesOf_append, aliasesOf_of_ne (by simp)] at haliases
  refine ⟨?_, ?_, ?_, ?_, ?_⟩
  · rw [hr, hrules, filter_isRule_snoc_of_not _ (by rfl)]
  · rw [hg, hgroups, groupsOf_append, groupsOf_groups]
    simp
  · rw [ha, haliases, aliasesOf_append, aliasesOf_of_ne (by simp)]
  · rw [hg]; exact nodup_snoc h.groupNames hnew
  · rw [ha]; exact h.aliasNames

theorem isOf_addAlias {o : String × String} (h : d.IsOf (done ++ [⟨"aliases", options⟩]))
    (ha : d.addAlias heading o.1 o.2 = .ok d') : d'.IsOf (done ++ [⟨"aliases", options ++ [o]⟩]) := by
  obtain ⟨hnew, ha, hr, hg, -⟩ := addAlias_eq_ok ha
  have hrules := h.rules
  have hgroups := h.groups
  have haliases := h.aliases
  rw [filter_isRule_snoc_of_not _ (by rfl)] at hrules
  rw [groupsOf_append, groupsOf_of_ne (by simp)] at hgroups
  rw [aliasesOf_append, aliasesOf_aliases] at haliases
  refine ⟨?_, ?_, ?_, ?_, ?_⟩
  · rw [hr, hrules, filter_isRule_snoc_of_not _ (by rfl)]
  · rw [hg, hgroups, groupsOf_append, groupsOf_of_ne (by simp)]
  · rw [ha, haliases, aliasesOf_append, aliasesOf_aliases]
    simp
  · rw [hg]; exact h.groupNames
  · rw [ha]; exact nodup_snoc h.aliasNames hnew

/-- The last rule of a draft whose last section is a rule section. -/
theorem IsOf.rules_eq_snoc {s : Section} (h : d.IsOf (done ++ [s])) (hs : s.isRule = true) :
    ∃ rules w, d.rules = rules ++ [w] ∧ rules.map some = (done.filter Section.isRule).mapIdx WrittenRule.ofSection? ∧
      WrittenRule.ofSection? rules.length s = some w := by
  have hrules := h.rules
  rw [filter_isRule_snoc _ hs, List.mapIdx_concat] at hrules
  obtain ⟨rules, ws, hd, hinit, hlast⟩ := List.map_eq_append_iff.mp hrules
  obtain ⟨w, rfl, hw⟩ := List.map_eq_singleton_iff.mp hlast
  refine ⟨rules, w, hd, hinit, ?_⟩
  have hlen := congrArg List.length hinit
  rw [List.length_map, List.length_mapIdx] at hlen
  rw [hlen, hw]

theorem isOf_addEntry {i : Nat} {o : String × String} (hrule : Section.isRule ⟨heading, options⟩ = true)
    (hi : d.rules.length = i + 1) (h : d.IsOf (done ++ [⟨heading, options⟩]))
    (ha : d.addEntry i heading o.1 o.2 = .ok d') : d'.IsOf (done ++ [⟨heading, options ++ [o]⟩]) := by
  obtain ⟨g, hg, hr, hgr, hal, -⟩ := addEntry_eq_ok ha
  obtain ⟨rules, w, hd, hinit, hw⟩ := h.rules_eq_snoc hrule
  have hne : heading ≠ "groups" ∧ heading ≠ "aliases" := by simpa [Section.isRule] using hrule
  have hgroups := h.groups
  have haliases := h.aliases
  rw [groupsOf_append, groupsOf_of_ne hne.1] at hgroups
  rw [aliasesOf_append, aliasesOf_of_ne hne.2] at haliases
  have hlen : i = rules.length := by
    rw [hd, List.length_append, List.length_singleton] at hi
    omega
  have hmod : d'.rules = rules ++ [w.grant g.1 g.2] := by
    rw [hr, hd, hlen, List.modify_eq_take_cons_drop (by simp)]
    simp
  refine ⟨?_, ?_, ?_, ?_, ?_⟩
  · have hlen' : rules.length = (done.filter Section.isRule).length := by
      simpa using congrArg List.length hinit
    have hrule' : Section.isRule ⟨heading, options ++ [o]⟩ = true := hrule
    rw [hmod, filter_isRule_snoc _ hrule', List.mapIdx_concat, List.map_append, hinit, ← hlen',
      WrittenRule.ofSection?_snoc hw hg, List.map_singleton]
  · rw [hgr, hgroups, groupsOf_append, groupsOf_of_ne hne.1]
  · rw [hal, haliases, aliasesOf_append, aliasesOf_of_ne hne.2]
  · rw [hgr]; exact h.groupNames
  · rw [hal]; exact h.aliasNames

/-- Taking an option keeps the draft in step with the sections. -/
theorem isOf_addTo {p : Place} {o : String × String} (hp : p.IsLast d heading) (h : d.IsOf (done ++ [⟨heading, options⟩]))
    (ha : d.addTo p heading o = .ok d') : d'.IsOf (done ++ [⟨heading, options ++ [o]⟩]) := by
  cases p with
  | groups => cases hp; exact isOf_addGroup h ha
  | aliases => cases hp; exact isOf_addAlias h ha
  | rule i => exact isOf_addEntry hp.1 hp.2 h ha

theorem isOf_openRule (h : d.IsOf done) (hrule : Section.isRule ⟨heading, []⟩ = true) (ho : d.openRule heading = .ok d') :
    d'.IsOf (done ++ [⟨heading, []⟩]) := by
  obtain ⟨w, hw, hr, hgr, hal, -⟩ := openRule_eq_ok ho
  have hne : heading ≠ "groups" ∧ heading ≠ "aliases" := by simpa [Section.isRule] using hrule
  have hlen : d.rules.length = (done.filter Section.isRule).length := by simpa using congrArg List.length h.rules
  refine ⟨?_, ?_, ?_, ?_, ?_⟩
  · have hs : WrittenRule.ofSection? d.rules.length ⟨heading, []⟩ = some w := by
      simp [WrittenRule.ofSection?, hw, WrittenRule.grantAll]
    rw [hr, filter_isRule_snoc _ hrule, List.mapIdx_concat, List.map_append, h.rules, ← hlen, hs, List.map_singleton]
  · rw [hgr, h.groups, groupsOf_append, groupsOf_of_ne hne.1, List.append_nil]
  · rw [hal, h.aliases, aliasesOf_append, aliasesOf_of_ne hne.2, List.append_nil]
  · rw [hgr]; exact h.groupNames
  · rw [hal]; exact h.aliasNames

/-- Opening a section adds it to the sections, with no option yet. -/
theorem isOf_enter {c : Compiler} {p : Place} (h : c.draft.IsOf done) (he : c.enter heading = .ok (p, d)) :
    d.IsOf (done ++ [⟨heading, []⟩]) := by
  have hdefs : ∀ heading, Section.isRule ⟨heading, []⟩ = false → c.draft.IsOf (done ++ [⟨heading, []⟩]) := by
    intro heading hs
    refine ⟨?_, ?_, ?_, h.groupNames, h.aliasNames⟩
    · rw [filter_isRule_snoc_of_not _ hs, h.rules]
    · rw [groupsOf_append, h.groups]; simp [groupsOf]
    · rw [aliasesOf_append, h.aliases]; simp [aliasesOf]
  obtain ⟨rfl, -, rfl⟩ | ⟨rfl, -, rfl⟩ | ⟨hrule, -, ho⟩ := enter_eq_ok he
  · exact hdefs _ rfl
  · exact hdefs _ rfl
  · exact isOf_openRule h hrule ho

theorem tracks_isOf : Tracks IsOf where
  empty := isOf_empty
  enter := isOf_enter
  addTo := isOf_addTo

theorem isOf_ofTexts {rules : String} {groups : Option String} {d : Draft} (h : ofTexts rules groups = .ok d) :
    d.IsOf (sectionsOfTexts rules groups) :=
  tracks_isOf.ofTexts h

end Draft

end PathAuthz
