/-
  PathAuthz.Proofs.Model.Named — the users that the rules name.

  (1) A section names the members of its groups, the targets of its aliases and the users it
  grants to (`Section.names`). Uniting entries keeps which subjects a rule has
  (`mem_subjects_grantAll`). A resolved rule has its users before its groups
  (`Resolves.filter_entries`), and the users are those for whom a written entry stands
  (`Resolves.mem_names_iff`).

  (2) So the users of a loaded model, who have buckets of their own, are those whom some
  section names (`mem_usersOf_iff`).

  (3) No entry means any other user (`means_eq_false`), so their bucket holds what the rules
  grant them (`unnamedAccess_of_not_mem`).
-/

import PathAuthz.Proofs.Model.Loaded
import PathAuthz.Proofs.Roster.Members

namespace PathAuthz

open Source

/-! ## (1) Names in sections and in entries -/

def Grantee.names (user : String) : Grantee → Bool
  | .subject (.user name) _ => name == user
  | _ => false

/-- Whether a section names a user, and not only as one of a group or a class. -/
def Source.Section.names (s : Section) (user : String) : Bool :=
  if s.heading = "groups" then s.options.any fun o => (Subject.membersOf o.2).contains (.user user)
  else if s.heading = "aliases" then s.options.any fun o => Text.trimmed o.2 == user
  else s.options.any fun o => (Grantee.ofOption? o.1).any (·.names user)

theorem Grantee.names_iff {user : String} {g : Grantee} :
    g.names user = true ↔ ∃ inverted, g = .subject (.user user) inverted := by
  unfold names
  split
  · rename_i name inverted
    simp
  · rename_i h
    simp only [Bool.false_eq_true, false_iff]
    intro h
    obtain ⟨inverted, rfl⟩ := h
    exact h _ _ rfl

namespace WrittenRule

theorem mem_subjects_uniteEntry {s : Subject} {e : WrittenEntry} {es : List WrittenEntry} :
    s ∈ (uniteEntry e es).map (·.subject) ↔ s = e.subject ∨ s ∈ es.map (·.subject) := by
  induction es with
  | nil => simp [uniteEntry]
  | cons f fs ih =>
    unfold uniteEntry
    split
    · rename_i hkey
      rw [List.map_cons, List.map_cons, List.mem_cons, hkey.1]
      tauto
    · rw [List.map_cons, List.map_cons, List.mem_cons, List.mem_cons, ih]
      tauto

theorem mem_subjects_grantAll {s : Subject} {w : WrittenRule} {gs : List (Grantee × Access)} :
    s ∈ (w.grantAll gs).entries.map (·.subject) ↔
      s ∈ w.entries.map (·.subject) ∨ ∃ g ∈ gs, ∃ inverted, g.1 = .subject s inverted := by
  induction gs generalizing w with
  | nil => simp [grantAll]
  | cons g gs ih =>
    have hcons : w.grantAll (g :: gs) = (w.grant g.1 g.2).grantAll gs := rfl
    have hgrant : s ∈ (w.grant g.1 g.2).entries.map (·.subject) ↔
        s ∈ w.entries.map (·.subject) ∨ ∃ inverted, g.1 = .subject s inverted := by
      unfold grant
      split
      · simp [*]
      · simp [*]
      · simp [*]
      · rename_i t inverted hg
        rw [mem_subjects_uniteEntry, hg, or_comm]
        simp [eq_comm]
    rw [hcons, ih, hgrant, List.exists_mem_cons_iff, or_assoc]

end WrittenRule

namespace Rule

theorem mem_names_uniteEntry {user : String} {e : Entry} {es : List Entry} :
    user ∈ (uniteEntry e es).map (·.name) ↔ user = e.name ∨ user ∈ es.map (·.name) := by
  induction es with
  | nil => simp [uniteEntry]
  | cons f fs ih =>
    unfold uniteEntry
    split
    · rename_i hkey
      rw [List.map_cons, List.map_cons, List.mem_cons, hkey.1]
      tauto
    · rw [List.map_cons, List.map_cons, List.mem_cons, List.mem_cons, ih]
      tauto

theorem mem_names_foldl_uniteEntry {user : String} {us es : List Entry} :
    user ∈ (us.foldl (fun es e => uniteEntry e es) es).map (·.name) ↔
      user ∈ es.map (·.name) ∨ user ∈ us.map (·.name) := by
  induction us generalizing es with
  | nil => simp
  | cons e us ih =>
    rw [List.foldl_cons, ih, mem_names_uniteEntry, List.map_cons, List.mem_cons]
    tauto

theorem members_foldl_uniteEntry {us es : List Entry} (hus : ∀ e ∈ us, e.members = none)
    (hes : ∀ e ∈ es, e.members = none) : ∀ e ∈ us.foldl (fun es e => uniteEntry e es) es, e.members = none := by
  induction us generalizing es with
  | nil => exact hes
  | cons e us ih =>
    obtain ⟨he, hus⟩ := List.forall_mem_cons.mp hus
    exact ih hus (members_uniteEntry he hes)

variable {d : Draft} {roster : Roster} {heading : String}

/-- The user entries are those of the users whom a written entry stands for. -/
theorem mem_names_userEntries {es : List WrittenEntry} {us : List Entry} (h : userEntries d heading es = .ok us)
    {user : String} : user ∈ us.map (·.name) ↔ ∃ e ∈ es, d.StandsFor e.subject user := by
  induction es generalizing us with
  | nil => cases h; simp
  | cons e es ih =>
    obtain ⟨subject, inverted, access⟩ := e
    rw [List.exists_mem_cons_iff]
    cases subject with
    | user name =>
      obtain ⟨us', hus, rfl⟩ := map_eq_ok_iff.mp h
      rw [List.map_cons, List.mem_cons, ih hus]
      rfl
    | viaAlias name =>
      simp only [userEntries] at h
      split at h
      · cases h
      · rename_i a ha
        obtain ⟨us', hus, rfl⟩ := map_eq_ok_iff.mp h
        rw [List.map_cons, List.mem_cons, ih hus]
        simp [Draft.StandsFor, ha]
    | group name => rw [ih h, Draft.StandsFor, false_or]

theorem mem_groupEntries {es : List WrittenEntry} {gs : List Entry} (h : groupEntries roster heading es = .ok gs) :
    ∀ e ∈ gs, ∃ members, e.members = some members ∧ roster.members? e.name = some members := by
  induction es generalizing gs with
  | nil => cases h; simp
  | cons e es ih =>
    unfold groupEntries at h
    split at h
    · split at h
      · cases h
      · rename_i members hm
        obtain ⟨gs', hgs, rfl⟩ := map_eq_ok_iff.mp h
        exact List.forall_mem_cons.mpr ⟨⟨members, rfl, hm⟩, ih hgs⟩
    · exact ih h

/-- A resolved entry is that of a user, or carries the members of its group. -/
theorem Resolves.members_of_mem {w : WrittenRule} {r : Rule} (h : Resolves d roster w r) :
    ∀ e ∈ r.entries,
      e.members = none ∨ ∃ members, e.members = some members ∧ roster.members? e.name = some members := by
  obtain ⟨us, gs, hus, hgs, hentries⟩ := h.entries
  intro e he
  rw [hentries] at he
  rcases List.mem_append.mp he with he | he
  · exact Or.inl (members_foldl_uniteEntry (members_userEntries hus) (by simp) e he)
  · exact Or.inr (mem_groupEntries hgs e he)

/-- The user entries of a rule and its group entries, in this order. -/
theorem Resolves.filter_entries {w : WrittenRule} {r : Rule} (h : Resolves d roster w r) :
    ∃ us gs, userEntries d w.heading w.entries = .ok us ∧ groupEntries roster w.heading w.entries = .ok gs ∧
      r.entries.filter (!·.isGroup) = us.foldl (fun es e => uniteEntry e es) [] ∧
      r.entries.filter (·.isGroup) = gs ∧
      r.entries = r.entries.filter (!·.isGroup) ++ r.entries.filter (·.isGroup) := by
  obtain ⟨us, gs, hus, hgs, hentries⟩ := h.entries
  have husers : ∀ e ∈ us.foldl (fun es e => uniteEntry e es) [], e.isGroup = false := by
    intro e he
    simp [Entry.isGroup, members_foldl_uniteEntry (members_userEntries hus) (by simp) e he]
  have hgroups : ∀ e ∈ gs, e.isGroup = true := by
    intro e he
    obtain ⟨members, hm, -⟩ := mem_groupEntries hgs e he
    simp [Entry.isGroup, hm]
  have hfirst : r.entries.filter (!·.isGroup) = us.foldl (fun es e => uniteEntry e es) [] := by
    rw [hentries, List.filter_append, List.filter_eq_self.mpr fun e he => by simp [husers e he],
      List.filter_eq_nil_iff.mpr fun e he => by simp [hgroups e he], List.append_nil]
  have hlast : r.entries.filter (·.isGroup) = gs := by
    rw [hentries, List.filter_append, List.filter_eq_self.mpr hgroups,
      List.filter_eq_nil_iff.mpr fun e he => by simp [husers e he], List.nil_append]
  exact ⟨us, gs, hus, hgs, hfirst, hlast, by rw [hfirst, hlast, hentries]⟩

/-- The names a rule is listed under are those of its user entries. -/
theorem Resolves.mem_names_iff {w : WrittenRule} {r : Rule} (h : Resolves d roster w r) {user : String} :
    user ∈ (r.entries.filter (!·.isGroup)).map (·.name) ↔ ∃ e ∈ w.entries, d.StandsFor e.subject user := by
  obtain ⟨us, -, hus, -, husers, -, -⟩ := h.filter_entries
  rw [husers, mem_names_foldl_uniteEntry, List.map_nil, mem_names_userEntries hus]
  simp

end Rule

/-! ## (2) Users with buckets -/

theorem WrittenRule.mem_subjects_ofSection? {seq : Nat} {s : Section} {w : WrittenRule} (h : ofSection? seq s = some w)
    {t : Subject} :
    t ∈ w.entries.map (·.subject) ↔ ∃ o ∈ s.options, ∃ inverted, Grantee.ofOption? o.1 = some (.subject t inverted) := by
  obtain ⟨w₀, gs, hw₀, hgs, rfl⟩ := ofSection?_eq_some h
  have hnil : w₀.entries = [] := by
    obtain ⟨header, -, -, hw⟩ := ofHeading?_eq_some hw₀
    rw [hw]
  rw [mem_subjects_grantAll, hnil, List.map_nil]
  constructor
  · intro h
    rcases h with h | ⟨g, hg, inverted, ht⟩
    · cases h
    · obtain ⟨o, ho, hog⟩ := (mem_grants_iff hgs).mp hg
      exact ⟨o, ho, inverted, ht ▸ (grantOf?_eq_some_iff.mp hog).1⟩
  · intro h
    obtain ⟨o, ho, inverted, ht⟩ := h
    obtain ⟨g, hg, hname, -⟩ := exists_grant_of_mem hgs ho
    rw [ht] at hname
    exact Or.inr ⟨g, hg, inverted, (Option.some.inj hname).symm⟩

theorem mem_users_aliasesOf {ss : List Section} {user : String} :
    user ∈ (aliasesOf ss).map (·.user) ↔ ∃ s ∈ ss, s.heading = "aliases" ∧ ∃ o ∈ s.options, Text.trimmed o.2 = user := by
  simp [aliasesOf, and_assoc]

theorem mem_users_groupsOf {ss : List Section} {user : String} :
    user ∈ (groupsOf ss).flatMap (·.users) ↔
      ∃ s ∈ ss, s.heading = "groups" ∧ ∃ o ∈ s.options, .user user ∈ Subject.membersOf o.2 := by
  have husers : ∀ g : GroupDefinition, user ∈ g.users ↔ .user user ∈ g.members := by
    intro g
    unfold GroupDefinition.users
    rw [List.mem_filterMap]
    constructor
    · intro h
      obtain ⟨t, ht, h⟩ := h
      cases t <;> simp_all
    · intro h
      exact ⟨_, h, rfl⟩
  simp [groupsOf, husers, and_assoc]

theorem Source.Section.names_iff {s : Section} {user : String} :
    s.names user = true ↔
      (s.heading = "aliases" ∧ ∃ o ∈ s.options, Text.trimmed o.2 = user) ∨
      (s.heading = "groups" ∧ ∃ o ∈ s.options, .user user ∈ Subject.membersOf o.2) ∨
      (s.isRule = true ∧ ∃ o ∈ s.options, ∃ inverted, Grantee.ofOption? o.1 = some (.subject (.user user) inverted)) := by
  unfold Section.names
  split
  · rename_i h
    simp [h, Section.isRule]
  · split
    · rename_i h
      simp [h, Section.isRule]
    · rename_i hg ha
      simp only [List.any_eq_true, Option.any_eq_true, Grantee.names_iff, hg, ha, false_and, false_or, Section.isRule,
        bne_iff_ne, ne_eq, not_false_eq_true, true_and, Bool.and_eq_true]
      constructor
      · intro h
        obtain ⟨o, ho, g, hg, inverted, rfl⟩ := h
        exact ⟨o, ho, inverted, hg⟩
      · intro h
        obtain ⟨o, ho, inverted, hg⟩ := h
        exact ⟨o, ho, _, hg, inverted, rfl⟩

namespace Model.IsOf

variable {m : Model} {d : Draft} {ss : List Section} {user : String}

theorem mem_usersOf_iff (hm : m.IsOf d) (hd : d.IsOf ss) :
    user ∈ usersOf d m.rules ↔ ∃ s ∈ ss, s.names user = true := by
  simp only [usersOf, List.mem_append, List.mem_flatMap (l := m.rules), hd.aliases, hd.groups, mem_users_aliasesOf,
    mem_users_groupsOf, Section.names_iff]
  constructor
  · intro h
    rcases h with (⟨s, hs, h⟩ | ⟨s, hs, h⟩) | ⟨r, hr, hu⟩
    · exact ⟨s, hs, Or.inl h⟩
    · exact ⟨s, hs, Or.inr (Or.inl h)⟩
    · obtain ⟨i, hi⟩ := List.mem_iff_getElem?.mp hr
      obtain ⟨s, w, hs, hsw, hwr⟩ := hm.section_of_rule hd hi
      obtain ⟨⟨subject, inverted, access⟩, he, hu⟩ := (Rule.resolves_of_ofWritten hwr).mem_names_iff.mp hu
      cases subject with
      | user name =>
        cases hu
        obtain ⟨hs, hrule⟩ := List.mem_filter.mp (List.mem_of_getElem? hs)
        exact ⟨s, hs, Or.inr (Or.inr ⟨hrule, (WrittenRule.mem_subjects_ofSection? hsw).mp (List.mem_map_of_mem he)⟩)⟩
      | viaAlias name =>
        obtain ⟨a, ha, rfl⟩ := hu
        have hu : a.user ∈ d.aliases.map (·.user) := List.mem_map_of_mem (List.mem_of_find?_eq_some ha)
        rw [hd.aliases, mem_users_aliasesOf] at hu
        obtain ⟨s, hs, h⟩ := hu
        exact ⟨s, hs, Or.inl h⟩
      | group name => cases hu
  · intro h
    rcases h with ⟨s, hs, h | h | ⟨hrule, h⟩⟩
    · exact Or.inl (Or.inl ⟨s, hs, h⟩)
    · exact Or.inl (Or.inr ⟨s, hs, h⟩)
    · obtain ⟨i, hi⟩ := List.mem_iff_getElem?.mp (List.mem_filter.mpr ⟨hs, hrule⟩)
      obtain ⟨r, w, hr, hsw, hwr⟩ := hm.rule_of_section hd hi
      obtain ⟨e, he, hsubject⟩ := List.mem_map.mp ((WrittenRule.mem_subjects_ofSection? hsw).mpr h)
      have hu := (Rule.resolves_of_ofWritten hwr).mem_names_iff.mpr ⟨e, he, by rw [hsubject]; rfl⟩
      exact Or.inr ⟨r, List.mem_of_getElem? hr, hu⟩

/-! ## (3) Other users -/

theorem means_eq_false (hm : m.IsOf d) (hu : user ∉ usersOf d m.rules) {r : Rule} (hr : r ∈ m.rules) :
    ∀ e ∈ r.entries, e.means user = false := by
  intro e he
  obtain ⟨i, hi⟩ := List.mem_iff_getElem?.mp hr
  obtain ⟨w, -, hwr⟩ := hm.written_of_rule hi
  rcases (Rule.resolves_of_ofWritten hwr).members_of_mem e he with hnone | ⟨members, hsome, hmembers⟩
  · have hname : e.name ∈ usersOf d m.rules := by
      refine List.mem_append_right _ (List.mem_flatMap.mpr ⟨r, hr, List.mem_map_of_mem (List.mem_filter.mpr ⟨he, ?_⟩)⟩)
      simp [Entry.isGroup, hnone]
    have hne : e.name ≠ user := fun h => hu (h ▸ hname)
    simpa [Entry.means, hnone] using hne
  · have hnot : user ∉ members := fun h =>
      hu (List.mem_append_left _ (Roster.named_of_reaches (Roster.reaches_of_ofDraft hm.roster hmembers h)))
    simpa [Entry.means, hsome] using hnot

theorem unnamedAccess_of_not_mem (hm : m.IsOf d) (hu : user ∉ usersOf d m.rules) {r : Rule} (hr : r ∈ m.rules) :
    r.unnamedAccess = r.accessFor (.user user) :=
  Rule.unnamedAccess_eq (hm.means_eq_false hu hr)

end Model.IsOf

end PathAuthz
