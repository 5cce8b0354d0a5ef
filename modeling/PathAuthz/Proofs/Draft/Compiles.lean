/-
  PathAuthz.Proofs.Draft.Compiles — which texts compile.

  (1) A section is taken on its own merits if its heading and each of its options are well
  formed (`Section.isWellFormed`), and in its text if such a heading may stand there
  (`TextRole.admits`). What else can stop a compiler is a name that is already taken.

  (2) A compiler accepts the options of a section iff they are well formed at their place and
  define nothing twice (`accepts_values`), and a whole section iff in addition it may be
  opened (`accepts_section`). `accepts_sections` is the run over all sections of a text; the
  induction carries that the draft is of the sections so far.

  (3) So whether texts compile can be read off their sections (`ofTexts_isOk_iff`): the order
  of the sections, and of the options in them, has no part in it. A rules text with the same
  headings and the same definitions compiles too if its sections are well formed
  (`textsCompile_of_headings`).
-/

import PathAuthz.Proofs.Draft.Sections

namespace PathAuthz

open Source

/-! ## (1) Well-formed sections -/

def Source.Section.isWellFormed (s : Section) : Bool :=
  if s.isRule then (WrittenRule.ofHeading? 0 s.heading).isSome && s.options.all fun o => (grantOf? o).isSome
  else s.options.all fun o => isPlainName o.1.toList

/-- Whether a heading may stand in a text; the groups come from one text only. -/
def TextRole.admits (groupsGiven : Bool) (heading : String) : TextRole → Bool
  | .groupsOnly => heading == "groups"
  | .rules => !(groupsGiven && heading == "groups")

namespace Draft

variable {d : Draft} {heading : String} {o : String × String}

theorem addGroup_isOk_iff :
    (∃ d', d.addGroup heading o.1 o.2 = .ok d') ↔ isPlainName o.1.toList = true ∧ d.group? o.1 = none := by
  constructor
  · intro h
    obtain ⟨d', h⟩ := h
    refine ⟨?_, (addGroup_eq_ok h).1⟩
    unfold addGroup at h
    by_contra hplain
    rw [Bool.not_eq_true] at hplain
    simp [hplain] at h
  · intro h
    obtain ⟨hplain, hnew⟩ := h
    exact ⟨_, by simp only [addGroup, hplain, hnew]; rfl⟩

theorem addAlias_isOk_iff :
    (∃ d', d.addAlias heading o.1 o.2 = .ok d') ↔ isPlainName o.1.toList = true ∧ d.alias? o.1 = none := by
  constructor
  · intro h
    obtain ⟨d', h⟩ := h
    refine ⟨?_, (addAlias_eq_ok h).1⟩
    unfold addAlias at h
    by_contra hplain
    rw [Bool.not_eq_true] at hplain
    simp [hplain] at h
  · intro h
    obtain ⟨hplain, hnew⟩ := h
    exact ⟨_, by simp only [addAlias, hplain, hnew]; rfl⟩

theorem addEntry_isOk_iff {i : Nat} : (∃ d', d.addEntry i heading o.1 o.2 = .ok d') ↔ (grantOf? o).isSome = true := by
  constructor
  · intro h
    obtain ⟨d', h⟩ := h
    obtain ⟨g, hg, -⟩ := addEntry_eq_ok h
    exact Option.isSome_of_mem hg
  · intro h
    obtain ⟨g, hg⟩ := Option.isSome_iff_exists.mp h
    unfold grantOf? at hg
    split at hg
    · rename_i grantee access hname hvalue
      exact ⟨_, by simp only [addEntry, hname, hvalue]; rfl⟩
    · cases hg

theorem openRule_isOk_iff : (∃ d', d.openRule heading = .ok d') ↔ (WrittenRule.ofHeading? 0 heading).isSome = true := by
  constructor
  · intro h
    obtain ⟨d', h⟩ := h
    obtain ⟨header, hheader, h⟩ := bind_eq_ok_iff.mp h
    obtain ⟨pattern, hpattern, -⟩ := bind_eq_ok_iff.mp h
    simp [WrittenRule.ofHeading?, hheader, hpattern]
  · intro h
    obtain ⟨w, hw⟩ := Option.isSome_iff_exists.mp h
    unfold WrittenRule.ofHeading? at hw
    split at hw
    · cases hw
    · rename_i header hheader
      split at hw
      · cases hw
      · rename_i pattern hpattern
        exact ⟨_, bind_eq_ok_iff.mpr ⟨header, hheader, bind_eq_ok_iff.mpr ⟨pattern, hpattern, rfl⟩⟩⟩

end Draft

/-! ## (2) Sections that are accepted -/

/-- Options define plain names, none of them twice, and none that is taken. -/
structure DefinesNew (taken : String → Bool) (options : List (String × String)) : Prop where
  plain : ∀ o ∈ options, isPlainName o.1.toList = true
  nodup : (options.map (·.1)).Nodup
  fresh : ∀ o ∈ options, taken o.1 = false

theorem definesNew_cons {taken : String → Bool} {o : String × String} {options : List (String × String)} :
    DefinesNew taken (o :: options) ↔
      (isPlainName o.1.toList = true ∧ taken o.1 = false) ∧ DefinesNew (fun name => taken name || name == o.1) options := by
  constructor
  · intro h
    obtain ⟨hplain, hplains⟩ := List.forall_mem_cons.mp h.plain
    obtain ⟨hfresh, hfreshs⟩ := List.forall_mem_cons.mp h.fresh
    obtain ⟨hnot, hnodup⟩ := List.nodup_cons.mp h.nodup
    refine ⟨⟨hplain, hfresh⟩, hplains, hnodup, ?_⟩
    intro o' ho'
    have hne : o'.1 ≠ o.1 := fun he => hnot (List.mem_map.mpr ⟨o', ho', he⟩)
    simp [hfreshs o' ho', hne]
  · intro h
    obtain ⟨⟨hplain, hfresh⟩, hrest⟩ := h
    have hfreshs : ∀ o' ∈ options, taken o'.1 = false ∧ o'.1 ≠ o.1 := by
      intro o' ho'
      simpa using hrest.fresh o' ho'
    refine ⟨List.forall_mem_cons.mpr ⟨hplain, hrest.plain⟩, List.nodup_cons.mpr ⟨?_, hrest.nodup⟩,
      List.forall_mem_cons.mpr ⟨hfresh, fun o' ho' => (hfreshs o' ho').1⟩⟩
    intro hmem
    obtain ⟨o', ho', he⟩ := List.mem_map.mp hmem
    exact (hfreshs o' ho').2 he

/-- Whether options may be taken at a place on top of a draft. -/
def Place.Takes (d : Draft) (options : List (String × String)) : Place → Prop
  | .groups => DefinesNew (fun name => (d.group? name).isSome) options
  | .aliases => DefinesNew (fun name => (d.alias? name).isSome) options
  | .rule _ => ∀ o ∈ options, (grantOf? o).isSome = true

theorem Place.takes_nil (p : Place) (d : Draft) : p.Takes d [] := by
  have hnew : ∀ taken, DefinesNew taken [] := fun _ => ⟨List.forall_mem_nil _, List.nodup_nil, List.forall_mem_nil _⟩
  cases p with
  | groups => exact hnew _
  | aliases => exact hnew _
  | rule i => exact List.forall_mem_nil _

theorem isSome_find?_snoc {α : Type} (name : α → String) (as : List α) (a : α) :
    (fun n => ((as ++ [a]).find? (name · == n)).isSome) = fun n => (as.find? (name · == n)).isSome || n == name a := by
  funext n
  by_cases h : name a = n
  · simp [h]
  · have hne : (n == name a) = false := by simpa using fun he : n = name a => h he.symm
    simp [h, hne]

/-- A first step and what holds behind it, where the step decides nothing about that. -/
theorem isOk_and_iff {α : Type} {x : Except LoadError α} {P Q : Prop} {R : α → Prop} (hx : (∃ a, x = .ok a) ↔ P)
    (hR : ∀ a, x = .ok a → (R a ↔ Q)) : P ∧ Q ↔ ∃ a, x = .ok a ∧ R a := by
  constructor
  · intro h
    obtain ⟨a, ha⟩ := hx.mpr h.1
    exact ⟨a, ha, (hR a ha).mpr h.2⟩
  · intro h
    obtain ⟨a, ha, hr⟩ := h
    exact ⟨hx.mp ⟨a, ha⟩, (hR a ha).mp hr⟩

theorem Place.takes_cons {p : Place} {d : Draft} (heading : String) {o : String × String}
    {options : List (String × String)} :
    p.Takes d (o :: options) ↔ ∃ d₁, d.addTo p heading o = .ok d₁ ∧ p.Takes d₁ options := by
  cases p with
  | groups =>
    rw [Takes, definesNew_cons, Option.isSome_eq_false_iff, Option.isNone_iff_eq_none]
    refine isOk_and_iff Draft.addGroup_isOk_iff fun d₁ hd₁ => ?_
    simp only [Takes, Draft.group?, (Draft.addGroup_eq_ok hd₁).2.1, isSome_find?_snoc]
  | aliases =>
    rw [Takes, definesNew_cons, Option.isSome_eq_false_iff, Option.isNone_iff_eq_none]
    refine isOk_and_iff Draft.addAlias_isOk_iff fun d₁ hd₁ => ?_
    simp only [Takes, Draft.alias?, (Draft.addAlias_eq_ok hd₁).2.1, isSome_find?_snoc]
  | rule i =>
    rw [Takes, List.forall_mem_cons]
    exact isOk_and_iff Draft.addEntry_isOk_iff fun d₁ _ => Iff.rfl

namespace Compiler

def Accepts (c : Compiler) (es : List Event) : Prop := ∃ c', feed receive c es = (c', none)

theorem feed_cons_of_take {c c₁ : Compiler} {e : Event} (h : c.take e = .ok c₁) (es : List Event) :
    feed receive c (e :: es) = feed receive c₁ es := by
  have hreceive : receive c e = (c₁, none) := by rw [receive, h]
  simp only [feed, hreceive]

theorem accepts_cons {c : Compiler} {e : Event} {es : List Event} :
    c.Accepts (e :: es) ↔ ∃ c₁, c.take e = .ok c₁ ∧ c₁.Accepts es := by
  constructor
  · intro h
    obtain ⟨c', h⟩ := h
    obtain ⟨c₁, htake, h⟩ := feed_cons_eq h
    exact ⟨c₁, htake, c', h⟩
  · intro h
    obtain ⟨c₁, htake, c', h⟩ := h
    exact ⟨c', by rw [feed_cons_of_take htake, h]⟩

theorem accepts_append {c : Compiler} {es fs : List Event} :
    c.Accepts (es ++ fs) ↔ ∃ c₁, feed receive c es = (c₁, none) ∧ c₁.Accepts fs := by
  constructor
  · intro h
    obtain ⟨c', h⟩ := h
    obtain ⟨c₁, hfront, h⟩ := feed_append_eq h
    exact ⟨c₁, hfront, c', h⟩
  · intro h
    obtain ⟨c₁, hfront, c', h⟩ := h
    refine ⟨c', ?_⟩
    rw [feed_append, hfront]
    exact h

theorem value_of_addTo {c : Compiler} {p : Place} {heading : String} {o : String × String} {d : Draft}
    (hp : c.place = some p) (h : c.draft.addTo p heading o = .ok d) :
    c.value heading o.1 o.2 = .ok { c with draft := d } := by
  cases p <;> simp only [value, hp] <;> exact map_eq_ok_iff.mpr ⟨d, h, rfl⟩

theorem accepts_values {c : Compiler} {p : Place} (hp : c.place = some p) (heading : String)
    (options : List (String × String)) :
    c.Accepts (options.map fun o => .value heading o.1 o.2) ↔ p.Takes c.draft options := by
  induction options generalizing c with
  | nil =>
    exact iff_of_true ⟨c, rfl⟩ (Place.takes_nil p c.draft)
  | cons o options ih =>
    rw [List.map_cons, accepts_cons, Place.takes_cons heading]
    constructor
    · intro h
      obtain ⟨c₁, htake, h⟩ := h
      obtain ⟨d, hd, rfl⟩ := value_eq_ok hp htake
      exact ⟨d, hd, (ih (c := { c with draft := d }) hp).mp h⟩
    · intro h
      obtain ⟨d, hd, h⟩ := h
      exact ⟨_, value_of_addTo hp hd, (ih (c := { c with draft := d }) hp).mpr h⟩

/-- What taking the options of a section leaves as it was. -/
theorem feed_values_eq {c c' : Compiler} {p : Place} (hp : c.place = some p) {heading : String}
    {options : List (String × String)}
    (h : feed receive c (options.map fun o => .value heading o.1 o.2) = (c', none)) :
    ∃ d, c' = { c with draft := d } := by
  induction options generalizing c with
  | nil => cases h; exact ⟨c'.draft, rfl⟩
  | cons o options ih =>
    obtain ⟨c₁, htake, h⟩ := feed_cons_eq h
    obtain ⟨d, -, rfl⟩ := value_eq_ok hp htake
    exact ih (c := { c with draft := d }) hp h

theorem opened_eq_ok {c c' : Compiler} {heading : String} (h : c.opened heading = .ok c') :
    heading ∉ c.seen ∧ ∃ p d, c.enter heading = .ok (p, d) ∧
      c' = { c with seen := heading :: c.seen, place := some p, draft := d } := by
  unfold opened at h
  split at h
  · cases h
  · rename_i hnew
    obtain ⟨⟨p, d⟩, he, h⟩ := bind_eq_ok_iff.mp h
    cases pure_eq_ok_iff.mp h
    exact ⟨hnew, p, d, he, rfl⟩

theorem feed_section_eq {c c' : Compiler} {s : Section} (h : feed receive c s.events = (c', none)) :
    ∃ d, c' = { c with seen := s.heading :: c.seen, place := none, draft := d } := by
  obtain ⟨c₁, htake, h⟩ := feed_cons_eq h
  obtain ⟨c₂, hvalues, h⟩ := feed_append_eq h
  obtain ⟨c₃, hclose, hnil⟩ := feed_cons_eq h
  cases hclose
  cases hnil
  obtain ⟨-, p, d, -, rfl⟩ := opened_eq_ok htake
  obtain ⟨d', rfl⟩ := feed_values_eq rfl hvalues
  exact ⟨d', rfl⟩

/-- A heading leads somewhere iff it may stand in the text and is well formed. -/
theorem enter_isOk_iff {c : Compiler} {heading : String} :
    (∃ p d, c.enter heading = .ok (p, d)) ↔
      c.role.admits c.groupsGiven heading = true ∧
        (Section.isRule ⟨heading, []⟩ = true → (WrittenRule.ofHeading? 0 heading).isSome = true) := by
  unfold enter TextRole.admits Section.isRule
  rcases c.role with _ | _
  · by_cases hg : heading = "groups" <;> simp [hg]
  · by_cases hg : heading = "groups"
    · rcases c.groupsGiven with _ | _ <;> simp [hg]
    · by_cases ha : heading = "aliases"
      · simp [ha]
      · rw [← Draft.openRule_isOk_iff (d := c.draft)]
        simp [hg, ha, map_eq_ok_iff]

theorem definesNew_iff {α : Type} {name : α → String} {as : List α} (has : (as.map name).Nodup)
    {options : List (String × String)} :
    DefinesNew (fun n => (as.find? (name · == n)).isSome) options ↔
      (∀ o ∈ options, isPlainName o.1.toList = true) ∧ (as.map name ++ options.map (·.1)).Nodup := by
  have hfresh : ∀ n, (as.find? (name · == n)).isSome = false ↔ n ∉ as.map name := by
    intro n
    simp
  constructor
  · intro h
    refine ⟨h.plain, List.nodup_append.mpr ⟨has, h.nodup, ?_⟩⟩
    intro n hn n' hn' he
    obtain ⟨o, ho, rfl⟩ := List.mem_map.mp hn'
    exact (hfresh _).mp (h.fresh o ho) (he ▸ hn)
  · intro h
    obtain ⟨hplain, h⟩ := h
    obtain ⟨-, hnodup, hdisjoint⟩ := List.nodup_append.mp h
    refine ⟨hplain, hnodup, fun o ho => (hfresh _).mpr fun hn => ?_⟩
    exact hdisjoint _ hn _ (List.mem_map_of_mem ho) rfl

/-- The options of a section are taken at its place iff they are well formed and define nothing that is defined before. -/
theorem takes_iff {done : List Section} {heading : String} {options : List (String × String)} {p : Place} {d : Draft}
    (hd : d.IsOf (done ++ [⟨heading, []⟩])) (hp : p.IsLast d heading)
    (hheading : Section.isRule ⟨heading, []⟩ = true → (WrittenRule.ofHeading? 0 heading).isSome = true) :
    p.Takes d options ↔ Section.isWellFormed ⟨heading, options⟩ = true ∧
      ((groupsOf (done ++ [⟨heading, options⟩])).map (·.name)).Nodup ∧
      ((aliasesOf (done ++ [⟨heading, options⟩])).map (·.name)).Nodup := by
  have hgroups := hd.groups
  have haliases := hd.aliases
  have hgroupNames := hd.groupNames
  have haliasNames := hd.aliasNames
  rw [groupsOf_append] at hgroups ⊢
  rw [aliasesOf_append] at haliases ⊢
  cases p with
  | groups =>
    cases hp
    rw [groupsOf_groups, List.map_nil, List.append_nil] at hgroups
    rw [aliasesOf_of_ne (by simp), List.append_nil] at haliases
    rw [groupsOf_groups, aliasesOf_of_ne (by simp), List.append_nil, ← hgroups, ← haliases]
    refine (definesNew_iff hgroupNames).trans ?_
    simp [Section.isWellFormed, Section.isRule, haliasNames, Function.comp_def]
  | aliases =>
    cases hp
    rw [groupsOf_of_ne (by simp), List.append_nil] at hgroups
    rw [aliasesOf_aliases, List.map_nil, List.append_nil] at haliases
    rw [groupsOf_of_ne (by simp), aliasesOf_aliases, List.append_nil, ← hgroups, ← haliases]
    refine (definesNew_iff haliasNames).trans ?_
    simp [Section.isWellFormed, Section.isRule, hgroupNames, Function.comp_def]
  | rule i =>
    have hne : heading ≠ "groups" ∧ heading ≠ "aliases" := by simpa using hp.1
    rw [groupsOf_of_ne hne.1, List.append_nil] at hgroups
    rw [aliasesOf_of_ne hne.2, List.append_nil] at haliases
    rw [groupsOf_of_ne hne.1, aliasesOf_of_ne hne.2, List.append_nil, List.append_nil, ← hgroups, ← haliases]
    have hrule : ∀ options, Section.isRule ⟨heading, options⟩ = true := fun _ => hp.1
    simp [Section.isWellFormed, hrule, hheading (hrule []), Place.Takes, hgroupNames, haliasNames]

theorem accepts_closed (c : Compiler) (heading : String) : c.Accepts [.closed heading] :=
  ⟨{ c with place := none }, rfl⟩

theorem opened_of_enter {c : Compiler} {heading : String} {p : Place} {d : Draft} (hnew : heading ∉ c.seen)
    (h : c.enter heading = .ok (p, d)) :
    c.opened heading = .ok { c with seen := heading :: c.seen, place := some p, draft := d } := by
  rw [opened, if_neg hnew, h]
  rfl

theorem accepts_section {c : Compiler} {s : Section} {done : List Section} (hd : c.draft.IsOf done) :
    c.Accepts s.events ↔ s.heading ∉ c.seen ∧ c.role.admits c.groupsGiven s.heading = true ∧ s.isWellFormed = true ∧
      ((groupsOf (done ++ [s])).map (·.name)).Nodup ∧ ((aliasesOf (done ++ [s])).map (·.name)).Nodup := by
  constructor
  · intro h
    obtain ⟨c₁, htake, h⟩ := accepts_cons.mp h
    obtain ⟨c₂, hvalues, -⟩ := accepts_append.mp h
    obtain ⟨hnew, p, d, henter, rfl⟩ := opened_eq_ok htake
    have hd := Draft.isOf_enter hd henter
    have hp := Draft.isLast_enter henter
    obtain ⟨hadmits, hheading⟩ := enter_isOk_iff.mp ⟨p, d, henter⟩
    have htakes := (accepts_values rfl s.heading s.options).mp ⟨c₂, hvalues⟩
    exact ⟨hnew, hadmits, (takes_iff hd hp hheading).mp htakes⟩
  · intro h
    obtain ⟨hnew, hadmits, hwell, hnames⟩ := h
    have hheading : Section.isRule ⟨s.heading, []⟩ = true → (WrittenRule.ofHeading? 0 s.heading).isSome = true := by
      intro hrule
      have hrule : s.isRule = true := hrule
      rw [Section.isWellFormed, if_pos hrule, Bool.and_eq_true] at hwell
      exact hwell.1
    obtain ⟨p, d, henter⟩ := enter_isOk_iff.mpr ⟨hadmits, hheading⟩
    have hd := Draft.isOf_enter hd henter
    have hp := Draft.isLast_enter henter
    refine accepts_cons.mpr ⟨_, opened_of_enter hnew henter, accepts_append.mpr ?_⟩
    have htakes := (takes_iff hd hp hheading).mpr ⟨hwell, hnames⟩
    obtain ⟨c₂, hvalues⟩ := (accepts_values (c := { c with seen := s.heading :: c.seen, place := some p, draft := d }) rfl
      s.heading s.options).mpr htakes
    exact ⟨c₂, hvalues, accepts_closed c₂ s.heading⟩

end Compiler

/-- Sections that may follow one another in a text, with those of an earlier text before them. -/
structure Compiles (role : TextRole) (groupsGiven : Bool) (done ss : List Section) : Prop where
  headings : (ss.map (·.heading)).Nodup
  admitted : ∀ s ∈ ss, role.admits groupsGiven s.heading = true
  wellFormed : ∀ s ∈ ss, s.isWellFormed = true
  groups : ((groupsOf (done ++ ss)).map (·.name)).Nodup
  aliases : ((aliasesOf (done ++ ss)).map (·.name)).Nodup

/-- One section at a time, each with those before it. -/
theorem compiles_cons {role : TextRole} {groupsGiven : Bool} {done ss : List Section} {s : Section} :
    Compiles role groupsGiven done (s :: ss) ↔
      (∀ t ∈ ss, t.heading ≠ s.heading) ∧ role.admits groupsGiven s.heading = true ∧ s.isWellFormed = true ∧
        (((groupsOf (done ++ [s])).map (·.name)).Nodup ∧ ((aliasesOf (done ++ [s])).map (·.name)).Nodup) ∧
        Compiles role groupsGiven (done ++ [s]) ss := by
  have hcons : done ++ s :: ss = done ++ [s] ++ ss := List.append_cons ..
  have hapart : s.heading ∉ ss.map (·.heading) ↔ ∀ t ∈ ss, t.heading ≠ s.heading := by simp
  constructor
  · intro h
    obtain ⟨hnot, hheadings⟩ := List.nodup_cons.mp h.headings
    obtain ⟨hadmits, hadmitted⟩ := List.forall_mem_cons.mp h.admitted
    obtain ⟨hwell, hwellFormed⟩ := List.forall_mem_cons.mp h.wellFormed
    have hgroups := hcons ▸ h.groups
    have haliases := hcons ▸ h.aliases
    refine ⟨hapart.mp hnot, hadmits, hwell, ⟨?_, ?_⟩, hheadings, hadmitted, hwellFormed, hgroups, haliases⟩
    · rw [groupsOf_append, List.map_append] at hgroups
      exact (List.nodup_append.mp hgroups).1
    · rw [aliasesOf_append, List.map_append] at haliases
      exact (List.nodup_append.mp haliases).1
  · rintro ⟨hnot, hadmits, hwell, -, h⟩
    exact ⟨List.nodup_cons.mpr ⟨hapart.mpr hnot, h.headings⟩, List.forall_mem_cons.mpr ⟨hadmits, h.admitted⟩,
      List.forall_mem_cons.mpr ⟨hwell, h.wellFormed⟩, hcons ▸ h.groups, hcons ▸ h.aliases⟩

namespace Compiler

theorem accepts_sections (ss : List Section) {c : Compiler} {done : List Section} (hd : c.draft.IsOf done) :
    c.Accepts (ss.flatMap Section.events) ↔
      (∀ s ∈ ss, s.heading ∉ c.seen) ∧ Compiles c.role c.groupsGiven done ss := by
  induction ss generalizing c done with
  | nil =>
    have hgroups := hd.groups ▸ hd.groupNames
    have haliases := hd.aliases ▸ hd.aliasNames
    refine iff_of_true ⟨c, rfl⟩ ⟨List.forall_mem_nil _, List.nodup_nil, List.forall_mem_nil _, List.forall_mem_nil _, ?_, ?_⟩
    · rwa [List.append_nil]
    · rwa [List.append_nil]
  | cons s ss ih =>
    rw [List.flatMap_cons, accepts_append, compiles_cons, List.forall_mem_cons]
    constructor
    · rintro ⟨c₁, hs, hss⟩
      obtain ⟨hnew, hadmits, hwell, hnames⟩ := (accepts_section hd).mp ⟨c₁, hs⟩
      have hd₁ := Draft.tracks_isOf.feed_section hd hs
      obtain ⟨d, rfl⟩ := feed_section_eq hs
      obtain ⟨hseen, hrest⟩ := (ih hd₁).mp hss
      have hapart : ∀ t ∈ ss, t.heading ≠ s.heading := fun t ht he => hseen t ht (he ▸ List.mem_cons_self)
      exact ⟨⟨hnew, fun t ht hmem => hseen t ht (List.mem_cons_of_mem _ hmem)⟩, hapart, hadmits, hwell, hnames, hrest⟩
    · rintro ⟨⟨hnew, hseen⟩, hapart, hadmits, hwell, hnames, hrest⟩
      obtain ⟨c₁, hs⟩ := (accepts_section hd).mpr ⟨hnew, hadmits, hwell, hnames⟩
      have hd₁ := Draft.tracks_isOf.feed_section hd hs
      refine ⟨c₁, hs, (ih hd₁).mpr ?_⟩
      obtain ⟨d, rfl⟩ := feed_section_eq hs
      refine ⟨fun t ht hmem => ?_, hrest⟩
      rcases List.mem_cons.mp hmem with he | hmem
      · exact hapart t ht he
      · exact hseen t ht hmem

theorem compile_isOk_iff (role : TextRole) (text : String) {c : Compiler} {done : List Section} (hd : c.draft.IsOf done) :
    (∃ c', c.compile role text = .ok c') ↔
      (trace text).2 = none ∧ Compiles role c.groupsGiven done (sections text) := by
  have hsections := accepts_sections (sections text) (c := { c with role, seen := [], place := none }) hd
  have hnil : ∀ s ∈ sections text, s.heading ∉ ([] : List String) := fun _ _ => List.not_mem_nil
  constructor
  · intro h
    obtain ⟨c', h⟩ := h
    unfold compile at h
    split at h
    · rename_i c₁ hs
      obtain ⟨hfeed, hfault⟩ := feed_of_stream receive hs
      rw [trace_eq_flatMap hfault] at hfeed
      exact ⟨hfault, (hsections.mp ⟨c₁, hfeed⟩).2⟩
    · cases h
  · intro h
    obtain ⟨hfault, h⟩ := h
    obtain ⟨c₁, hfeed⟩ := hsections.mpr ⟨hnil, h⟩
    rw [← trace_eq_flatMap hfault] at hfeed
    have hstream := stream_eq_feed receive { c with role, seen := [], place := none } text
    rw [hfeed, hfault] at hstream
    exact ⟨c₁, by rw [compile, hstream]; rfl⟩

end Compiler

/-! ## (3) Texts -/

/-- What is asked of a rules text and, if there is one, a groups text. -/
def TextsCompile (rules : String) : Option String → Prop
  | none => (trace rules).2 = none ∧ Compiles .rules false [] (sections rules)
  | some text =>
    ((trace text).2 = none ∧ Compiles .groupsOnly false [] (sections text)) ∧
      (trace rules).2 = none ∧ Compiles .rules true (sections text) (sections rules)

namespace Draft

variable {rules : String}

theorem ofTexts_none : ofTexts rules none = (Compiler.start.compile .rules rules).map (·.draft) := by
  show (Compiler.start.compile .rules rules >>= _) = _
  cases Compiler.start.compile .rules rules <;> rfl

theorem ofTexts_some (text : String) :
    ofTexts rules (some text) = Compiler.start.compile .groupsOnly text >>= fun c =>
      (Compiler.compile { c with groupsGiven := true } .rules rules).map (·.draft) := by
  show (Except.map _ _ >>= _) = _
  rcases Compiler.start.compile .groupsOnly text with err | c
  · rfl
  · show (Compiler.compile { c with groupsGiven := true } .rules rules >>= _) = _
    cases hc : Compiler.compile { c with groupsGiven := true } .rules rules <;> simp only [bind, Except.bind, hc] <;> rfl

theorem ofTexts_isOk_iff {groups : Option String} : (∃ d, ofTexts rules groups = .ok d) ↔ TextsCompile rules groups := by
  cases groups with
  | none =>
    have hrules := Compiler.compile_isOk_iff .rules rules (c := .start) isOf_empty
    refine Iff.trans ?_ hrules
    simp only [ofTexts_none, map_eq_ok_iff]
    exact ⟨fun ⟨_, c, hc, _⟩ => ⟨c, hc⟩, fun ⟨c, hc⟩ => ⟨_, c, hc, rfl⟩⟩
  | some text =>
    have hgroups := Compiler.compile_isOk_iff .groupsOnly text (c := .start) isOf_empty
    have hrules : ∀ c, Compiler.start.compile .groupsOnly text = .ok c →
        ((∃ d, (Compiler.compile { c with groupsGiven := true } .rules rules).map (·.draft) = .ok d) ↔
          (trace rules).2 = none ∧ Compiles .rules true (sections text) (sections rules)) := by
      intro c hc
      have hd : c.draft.IsOf (sections text) := Draft.tracks_isOf.compile isOf_empty hc
      refine Iff.trans ?_ (Compiler.compile_isOk_iff .rules rules (c := { c with groupsGiven := true }) hd)
      simp only [map_eq_ok_iff]
      exact ⟨fun ⟨_, c, hc, _⟩ => ⟨c, hc⟩, fun ⟨c, hc⟩ => ⟨_, c, hc, rfl⟩⟩
    refine Iff.trans ?_ (isOk_and_iff hgroups hrules).symm
    simp only [ofTexts_some, bind_eq_ok_iff]
    exact ⟨fun ⟨d, c, hc, hd⟩ => ⟨c, hc, d, hd⟩, fun ⟨c, hc, d, hd⟩ => ⟨d, c, hc, hd⟩⟩

end Draft

/-- The same headings and the same definitions, with whatever well-formed options of the rules. -/
theorem Compiles.of_headings {role : TextRole} {groupsGiven : Bool} {done ss ss' : List Section}
    (h : Compiles role groupsGiven done ss) (hheadings : (ss'.map (·.heading)).Perm (ss.map (·.heading)))
    (hwell : ∀ s ∈ ss', s.isWellFormed = true) (hg : groupsOf ss' = groupsOf ss) (ha : aliasesOf ss' = aliasesOf ss) :
    Compiles role groupsGiven done ss' := by
  refine ⟨hheadings.nodup_iff.mpr h.headings, ?_, hwell, ?_, ?_⟩
  · intro s hs
    obtain ⟨t, ht, he⟩ := List.mem_map.mp (hheadings.mem_iff.mp (List.mem_map_of_mem hs))
    rw [← he]
    exact h.admitted t ht
  · rw [groupsOf_append, hg, ← groupsOf_append]
    exact h.groups
  · rw [aliasesOf_append, ha, ← aliasesOf_append]
    exact h.aliases

namespace TextsCompile

variable {rules : String} {groups : Option String} (h : TextsCompile rules groups)

include h

/-- Whatever comes before it, the rules text is read to the end and compiles. -/
theorem rules_compile : (trace rules).2 = none ∧ ∃ groupsGiven done, Compiles .rules groupsGiven done (sections rules) := by
  cases groups with
  | none => exact ⟨h.1, false, [], h.2⟩
  | some text => exact ⟨h.2.1, true, sections text, h.2.2⟩

theorem fault : (trace rules).2 = none := h.rules_compile.1

theorem wellFormed : ∀ s ∈ sections rules, s.isWellFormed = true := by
  obtain ⟨-, groupsGiven, done, hcompiles⟩ := h.rules_compile
  exact hcompiles.wellFormed

theorem headings : ((sections rules).map (·.heading)).Nodup := by
  obtain ⟨-, groupsGiven, done, hcompiles⟩ := h.rules_compile
  exact hcompiles.headings

/-- A groups text holds no rules. -/
theorem filter_isRule :
    (sectionsOfTexts rules groups).filter Section.isRule = (sections rules).filter Section.isRule := by
  cases groups with
  | none => rfl
  | some text =>
    have hnone : (sections text).filter Section.isRule = [] := by
      refine List.filter_eq_nil_iff.mpr fun s hs => ?_
      have hgroups : s.heading = "groups" := beq_iff_eq.mp (h.1.2.admitted s hs)
      simp [Section.isRule, hgroups]
    have hsections : sectionsOfTexts rules (some text) = sections text ++ sections rules := by simp [sectionsOfTexts]
    rw [hsections, List.filter_append, hnone, List.nil_append]

end TextsCompile

theorem textsCompile_of_headings {rules rules' : String} {groups : Option String} (h : TextsCompile rules groups)
    (hfault : (trace rules').2 = none)
    (hheadings : ((sections rules').map (·.heading)).Perm ((sections rules).map (·.heading)))
    (hwell : ∀ s ∈ sections rules', s.isWellFormed = true) (hg : groupsOf (sections rules') = groupsOf (sections rules))
    (ha : aliasesOf (sections rules') = aliasesOf (sections rules)) : TextsCompile rules' groups := by
  cases groups with
  | none => exact ⟨hfault, h.2.of_headings hheadings hwell hg ha⟩
  | some text => exact ⟨h.1, hfault, h.2.2.of_headings hheadings hwell hg ha⟩

end PathAuthz
