/-
  PathAuthz.Proofs.Model.Knows — the strings that a model knows.

  (1) A compiler keeps strings of every section (`Section.kept`): the heading of a rule and its
  repository, the names its options grant to, and of a definition its name and what is written
  behind it. The strings of a draft are those of its sections (`tracks_keeps`).

  (2) A subject occurs in sections where it is written or defined (`Source.Occurs`), and a name is
  that of a subject or of a repository (`IsName`). Where the sections load, a reference has a
  definition behind it, so every name is kept (`kept_of_isName`); what else is kept of them is a
  heading, or a member as it is written (`origin_of_kept`).

  (3) A loaded model knows all names, and beside them the headings of its rules and the members of
  its groups as they are written (`knows_iff`). So it knows strings that name nothing
  (`a_heading_is_known`).
-/

import PathAuthz.Proofs.Model.References

namespace PathAuthz

open Source

/-! ## (1) Strings of sections -/

/-- The strings kept of an option, by the heading it stands under. -/
def keptOf (heading : String) (o : String × String) : List String :=
  if heading = "groups" then o.1 :: (Subject.membersOf o.2).map Subject.label
  else if heading = "aliases" then [o.1, Text.trimmed o.2]
  else (Grantee.ofOption? o.1).toList.flatMap Draft.nameOf

/-- The strings kept of a heading alone. -/
def keptOfHeading (heading : String) : List String :=
  if Section.isRule ⟨heading, []⟩ then heading :: (repoOf? heading).toList else []

def Source.Section.kept (s : Section) : List String := keptOfHeading s.heading ++ s.options.flatMap (keptOf s.heading)

theorem Source.Section.kept_nil (heading : String) : Section.kept ⟨heading, []⟩ = keptOfHeading heading := by
  rw [kept, List.flatMap_nil, List.append_nil]

theorem Source.Section.kept_snoc (heading : String) (options : List (String × String)) (o : String × String) :
    Section.kept ⟨heading, options ++ [o]⟩ = Section.kept ⟨heading, options⟩ ++ keptOf heading o := by
  rw [kept, kept, List.flatMap_append, List.flatMap_singleton, List.append_assoc]

namespace Draft

variable {d d' : Draft} {heading : String}

/-- A draft has the strings of the sections it was made of. -/
def Keeps (d : Draft) (ss : List Section) : Prop := ∀ n, n ∈ d.names ↔ n ∈ ss.flatMap Section.kept

theorem names_enter {c : Compiler} {p : Place} (h : c.enter heading = .ok (p, d)) :
    d.names = keptOfHeading heading ++ c.draft.names := by
  obtain ⟨rfl, -, rfl⟩ | ⟨rfl, -, rfl⟩ | ⟨hrule, -, ho⟩ := enter_eq_ok h
  · rfl
  · rfl
  · obtain ⟨w, -, -, -, -, hnames⟩ := openRule_eq_ok ho
    rw [hnames, keptOfHeading, if_pos hrule]

theorem names_addTo {p : Place} {o : String × String} (hp : p.IsLast d heading) (h : d.addTo p heading o = .ok d') :
    d'.names = keptOf heading o ++ d.names := by
  cases p with
  | groups =>
    cases hp
    exact (addGroup_eq_ok h).2.2.2.2
  | aliases =>
    cases hp
    exact (addAlias_eq_ok h).2.2.2.2
  | rule i =>
    have hne : heading ≠ "groups" ∧ heading ≠ "aliases" := by simpa using hp.1
    obtain ⟨g, hg, -, -, -, hnames⟩ := addEntry_eq_ok h
    rw [keptOf, if_neg hne.1, if_neg hne.2, (grantOf?_eq_some_iff.mp hg).1, hnames, Option.toList_some,
      List.flatMap_singleton]

theorem tracks_keeps : Tracks Keeps where
  empty n := Iff.rfl
  enter := by
    intro c p d heading done hd he n
    rw [names_enter he, List.flatMap_append, List.flatMap_singleton, Section.kept_nil, List.mem_append, List.mem_append,
      hd n, or_comm]
  addTo := by
    intro p d d' heading done options o hp hd ha n
    have hold := hd n
    rw [List.flatMap_append, List.flatMap_singleton] at hold
    rw [names_addTo hp ha, List.flatMap_append, List.flatMap_singleton, Section.kept_snoc, ← List.append_assoc,
      List.mem_append, List.mem_append, hold, or_comm]

end Draft

/-! ## (2) Names -/

def Subject.name : Subject → String
  | .user name => name
  | .group name => name
  | .viaAlias name => name

/-- The subjects that sections write or define: users, groups and aliases. -/
inductive Source.Occurs (ss : List Section) : Subject → Prop
  | entry {s : Section} {o : String × String} {subject : Subject} {inverted : Bool} :
      s ∈ ss → s.isRule = true → o ∈ s.options → Grantee.ofOption? o.1 = some (.subject subject inverted) →
        Occurs ss subject
  | member {g : GroupDefinition} {subject : Subject} : g ∈ groupsOf ss → subject ∈ g.members → Occurs ss subject
  | definedGroup {g : GroupDefinition} : g ∈ groupsOf ss → Occurs ss (.group g.name)
  | definedAlias {a : AliasDefinition} : a ∈ aliasesOf ss → Occurs ss (.viaAlias a.name)
  | target {a : AliasDefinition} : a ∈ aliasesOf ss → Occurs ss (.user a.user)

/-- Whether a string is the name of a user, a group, an alias or a repository. -/
def IsName (ss : List Section) (n : String) : Prop :=
  (∃ subject, Occurs ss subject ∧ subject.name = n) ∨ ∃ s ∈ ss, s.isRule = true ∧ repoOf? s.heading = some n

variable {ss : List Section} {n : String}

theorem mem_kept_groups {s : Section} (h : s.heading = "groups") :
    n ∈ s.kept ↔ ∃ o ∈ s.options, n = o.1 ∨ ∃ subject ∈ Subject.membersOf o.2, subject.label = n := by
  simp [Section.kept, keptOfHeading, keptOf, Section.isRule, h]

theorem mem_kept_aliases {s : Section} (h : s.heading = "aliases") :
    n ∈ s.kept ↔ ∃ o ∈ s.options, n = o.1 ∨ n = Text.trimmed o.2 := by
  simp [Section.kept, keptOfHeading, keptOf, Section.isRule, h]

theorem Draft.mem_nameOf {g : Grantee} :
    n ∈ Draft.nameOf g ↔ ∃ subject inverted, g = .subject subject inverted ∧ subject.name = n := by
  cases g with
  | subject subject inverted => cases subject <;> simp [Draft.nameOf, Subject.name, eq_comm]
  | everyone => simp [Draft.nameOf]
  | anonymous => simp [Draft.nameOf]
  | authenticated => simp [Draft.nameOf]

theorem mem_kept_rule {s : Section} (h : s.isRule = true) :
    n ∈ s.kept ↔ n = s.heading ∨ repoOf? s.heading = some n ∨
      ∃ o ∈ s.options, ∃ subject inverted,
        Grantee.ofOption? o.1 = some (.subject subject inverted) ∧ subject.name = n := by
  have hne : s.heading ≠ "groups" ∧ s.heading ≠ "aliases" := by simpa [Section.isRule] using h
  have hrule : Section.isRule ⟨s.heading, []⟩ = true := h
  simp only [Section.kept, keptOfHeading, keptOf, if_pos hrule, if_neg hne.1, if_neg hne.2, List.mem_append,
    List.mem_cons, List.mem_flatMap, Option.mem_toList, Draft.mem_nameOf]
  constructor
  · intro h
    obtain (hn | hn) | ⟨o, ho, g, hg, subject, inverted, rfl, hname⟩ := h
    · exact .inl hn
    · exact .inr (.inl hn)
    · exact .inr (.inr ⟨o, ho, subject, inverted, hg, hname⟩)
  · intro h
    obtain hn | hn | ⟨o, ho, subject, inverted, hg, hname⟩ := h
    · exact .inl (.inl hn)
    · exact .inl (.inr hn)
    · exact .inr ⟨o, ho, _, hg, subject, inverted, rfl, hname⟩

theorem kept_of_group {g : GroupDefinition} (hg : g ∈ groupsOf ss) :
    g.name ∈ ss.flatMap Section.kept ∧ ∀ subject ∈ g.members, subject.label ∈ ss.flatMap Section.kept := by
  obtain ⟨s, hs, hheading, o, ho, rfl⟩ := mem_groupsOf.mp hg
  constructor
  · exact List.mem_flatMap.mpr ⟨s, hs, (mem_kept_groups hheading).mpr ⟨o, ho, .inl rfl⟩⟩
  · intro subject hsubject
    exact List.mem_flatMap.mpr ⟨s, hs, (mem_kept_groups hheading).mpr ⟨o, ho, .inr ⟨subject, hsubject, rfl⟩⟩⟩

theorem kept_of_alias {a : AliasDefinition} (ha : a ∈ aliasesOf ss) :
    a.name ∈ ss.flatMap Section.kept ∧ a.user ∈ ss.flatMap Section.kept := by
  obtain ⟨s, hs, hheading, o, ho, rfl⟩ := mem_aliasesOf.mp ha
  constructor
  · exact List.mem_flatMap.mpr ⟨s, hs, (mem_kept_aliases hheading).mpr ⟨o, ho, .inl rfl⟩⟩
  · exact List.mem_flatMap.mpr ⟨s, hs, (mem_kept_aliases hheading).mpr ⟨o, ho, .inr rfl⟩⟩

/-- The name of a member is kept: a user is written without more, and a reference has its definition. -/
theorem kept_of_member {d : Draft} (hd : d.IsOf ss) (hdefined : ∀ referrer s, d.Mentions referrer s → d.Defines s)
    {g : GroupDefinition} (hg : g ∈ groupsOf ss) {subject : Subject} (hs : subject ∈ g.members) :
    subject.name ∈ ss.flatMap Section.kept := by
  have hbehind : d.Defines subject := hdefined (.group g.name) subject ⟨g, hd.groups ▸ hg, rfl, hs⟩
  cases subject with
  | user name => exact (kept_of_group hg).2 _ hs
  | group name =>
    obtain ⟨inner, hinner, rfl⟩ := hbehind
    exact (kept_of_group (hd.groups ▸ hinner)).1
  | viaAlias name =>
    obtain ⟨a, ha, rfl⟩ := hbehind
    exact (kept_of_alias (hd.aliases ▸ ha)).1

theorem kept_of_isName {d : Draft} (hd : d.IsOf ss) (hdefined : ∀ referrer s, d.Mentions referrer s → d.Defines s)
    (h : IsName ss n) : n ∈ ss.flatMap Section.kept := by
  obtain ⟨subject, hoccurs, rfl⟩ | ⟨s, hs, hrule, hrepo⟩ := h
  · cases hoccurs with
    | entry hs hrule ho hoption =>
      exact List.mem_flatMap.mpr ⟨_, hs, (mem_kept_rule hrule).mpr (.inr (.inr ⟨_, ho, _, _, hoption, rfl⟩))⟩
    | member hg hsubject => exact kept_of_member hd hdefined hg hsubject
    | definedGroup hg => exact (kept_of_group hg).1
    | definedAlias ha => exact (kept_of_alias ha).1
    | target ha => exact (kept_of_alias ha).2
  · exact List.mem_flatMap.mpr ⟨s, hs, (mem_kept_rule hrule).mpr (.inr (.inl hrepo))⟩

/-- What is kept of sections names something, or is a heading or a member as it is written. -/
theorem origin_of_kept (h : n ∈ ss.flatMap Section.kept) :
    IsName ss n ∨ (∃ s ∈ ss, s.isRule = true ∧ s.heading = n) ∨
      ∃ g ∈ groupsOf ss, ∃ subject ∈ g.members, subject.label = n := by
  obtain ⟨s, hs, hkept⟩ := List.mem_flatMap.mp h
  by_cases hrule : s.isRule = true
  · obtain rfl | hrepo | ⟨o, ho, subject, inverted, hoption, hname⟩ := (mem_kept_rule hrule).mp hkept
    · exact .inr (.inl ⟨s, hs, hrule, rfl⟩)
    · exact .inl (.inr ⟨s, hs, hrule, hrepo⟩)
    · exact .inl (.inl ⟨subject, .entry hs hrule ho hoption, hname⟩)
  · by_cases hheading : s.heading = "groups"
    · obtain ⟨o, ho, hn⟩ := (mem_kept_groups hheading).mp hkept
      have hg : ⟨o.1, Subject.membersOf o.2⟩ ∈ groupsOf ss := mem_groupsOf.mpr ⟨s, hs, hheading, o, ho, rfl⟩
      obtain rfl | ⟨subject, hsubject, hlabel⟩ := hn
      · exact .inl (.inl ⟨_, .definedGroup hg, rfl⟩)
      · exact .inr (.inr ⟨_, hg, subject, hsubject, hlabel⟩)
    · have hheading : s.heading = "aliases" := by simpa [Section.isRule, hheading] using hrule
      obtain ⟨o, ho, hn⟩ := (mem_kept_aliases hheading).mp hkept
      have ha : ⟨o.1, Text.trimmed o.2⟩ ∈ aliasesOf ss := mem_aliasesOf.mpr ⟨s, hs, hheading, o, ho, rfl⟩
      obtain rfl | rfl := hn
      · exact .inl (.inl ⟨_, .definedAlias ha, rfl⟩)
      · exact .inl (.inl ⟨_, .target ha, rfl⟩)

/-! ## (3) Models -/

namespace Model

variable {m : Model} {rules : String} {groups : Option String}

/-- A model knows the names in its texts, the headings of its rules, and the members of its groups as they are
    written. -/
theorem knows_iff (h : load rules groups = .ok m) (n : String) :
    m.knows n = true ↔
      IsName (sectionsOfTexts rules groups) n ∨
      (∃ s ∈ sectionsOfTexts rules groups, s.isRule = true ∧ s.heading = n) ∨
      ∃ g ∈ groupsOf (sectionsOfTexts rules groups), ∃ subject ∈ g.members, subject.label = n := by
  obtain ⟨d, hdraft, hd, hm, hdefined, -⟩ := resolvable_of_load h
  have hkeeps : n ∈ d.names ↔ n ∈ (sectionsOfTexts rules groups).flatMap Section.kept :=
    Draft.tracks_keeps.ofTexts hdraft n
  rw [knows, List.contains_iff_mem, hm.names, hkeeps]
  constructor
  · exact origin_of_kept
  · intro h
    obtain hname | ⟨s, hs, hrule, rfl⟩ | ⟨g, hg, subject, hsubject, rfl⟩ := h
    · exact kept_of_isName hd hdefined hname
    · exact List.mem_flatMap.mpr ⟨s, hs, (mem_kept_rule hrule).mpr (.inl rfl)⟩
    · exact (kept_of_group hg).2 subject hsubject

/-- A group that another one refers to is known by its name, and again with the sign of a reference. -/
theorem a_reference_is_known_twice :
    ∃ m, load "[groups]\nsub = sally\nteam = @sub\n[greek:/]\n@team = r\n" none = .ok m ∧
      m.knows "sub" = true ∧ m.knows "@sub" = true ∧ m.knows "greek" = true := by
  have hload : (load "[groups]\nsub = sally\nteam = @sub\n[greek:/]\n@team = r\n"
      none).toOption.any (fun _ => true) = true := by decide +kernel
  obtain ⟨m, hm, -⟩ := exists_ok_of_any hload
  have hteam : (⟨"team", [.group "sub"]⟩ : GroupDefinition) ∈
      groupsOf (sectionsOfTexts "[groups]\nsub = sally\nteam = @sub\n[greek:/]\n@team = r\n" none) := by decide +kernel
  have hrepo : ∃ s ∈ sectionsOfTexts "[groups]\nsub = sally\nteam = @sub\n[greek:/]\n@team = r\n" none,
      s.isRule = true ∧ repoOf? s.heading = some "greek" := by decide +kernel
  refine ⟨m, hm, ?_, ?_, ?_⟩
  · exact (knows_iff hm "sub").mpr (.inl (.inl ⟨_, .member hteam (List.mem_singleton_self _), rfl⟩))
  · exact (knows_iff hm "@sub").mpr (.inr (.inr ⟨_, hteam, .group "sub", List.mem_singleton_self _, rfl⟩))
  · exact (knows_iff hm "greek").mpr (.inl (.inr hrepo))

/-- The heading of a rule is known, though nobody and nothing has that name. -/
theorem a_heading_is_known :
    ∃ m, load "[greek:/]\n* = r\n" none = .ok m ∧
      ¬∀ n, m.knows n = true ↔ IsName (sectionsOfTexts "[greek:/]\n* = r\n" none) n := by
  have hload : (load "[greek:/]\n* = r\n" none).toOption.any (·.knows "greek:/") = true := by decide +kernel
  obtain ⟨m, hm, hknown⟩ := exists_ok_of_any hload
  have hsections : sectionsOfTexts "[greek:/]\n* = r\n" none = [⟨"greek:/", [("*", "r")]⟩] := by decide +kernel
  refine ⟨m, hm, fun hall => ?_⟩
  have hname : IsName [⟨"greek:/", [("*", "r")]⟩] "greek:/" := by
    rw [← hsections]
    exact (hall "greek:/").mp hknown
  obtain ⟨subject, hoccurs, -⟩ | ⟨s, hs, -, hrepo⟩ := hname
  · cases hoccurs with
    | entry hs _ ho hoption =>
      rw [List.mem_singleton] at hs
      rw [hs, List.mem_singleton] at ho
      have heveryone : Grantee.ofOption? "*" = some .everyone := by decide
      rw [ho, heveryone] at hoption
      cases hoption
    | member hg _ => cases hg
    | definedGroup hg => cases hg
    | definedAlias ha => cases ha
    | target ha => cases ha
  · rw [List.mem_singleton] at hs
    have hgreek : repoOf? "greek:/" = some "greek" := by decide +kernel
    rw [hs, hgreek] at hrepo
    exact absurd hrepo (by decide)

end Model

end PathAuthz
