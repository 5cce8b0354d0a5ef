/-
  PathAuthz.Proofs.Model.References — following the references of a draft is exact.

  (1) The entries of a rule are resolved faithfully: each alias and each group among them is
  defined, or the rule is refused with an error that says which of them is not
  (`ofWritten_faithful`). A roster finds the defined groups and no others
  (`members?_eq_none_iff_of_exact`).

  (2) So a draft yields a model iff everything it mentions is defined and no group lies on a
  cycle; the roster of the model then holds the defined groups, each with exactly the users
  whom it reaches; and a refusal is true of the draft (`ofDraft_resolves`).
-/

import PathAuthz.Proofs.Model.Loaded
import PathAuthz.Proofs.Roster.Expansion

namespace PathAuthz

/-! ## (1) Rules -/

theorem Roster.members?_eq_none_iff_of_exact {d : Draft} {r : Roster} (h : Exact d r)
    (hall : ∀ g ∈ d.groups, ∃ t ∈ r.teams, t.name = g.name) {group : String} :
    r.members? group = none ↔ ¬d.Defines (.group group) := by
  rw [members?_eq_none_iff]
  constructor
  · intro hnone hdefined
    obtain ⟨g, hg, rfl⟩ := hdefined
    obtain ⟨t, ht, hname⟩ := hall g hg
    exact hnone t ht hname
  · intro hundefined t ht hname
    obtain ⟨hg, -, -⟩ := h.grounded t ht
    exact hundefined (hname ▸ Draft.defines_of_group? hg)

namespace Rule

variable {d : Draft} {roster : Roster} {heading : String}

theorem userEntries_faithful {es : List WrittenEntry} (hes : ∀ e ∈ es, d.Mentions (.rule heading) e.subject) :
    d.Faithful (fun _ => ∀ e ∈ es, ∀ name, e.subject = .viaAlias name → d.Defines e.subject)
      (userEntries d heading es) := by
  induction es with
  | nil => exact List.forall_mem_nil _
  | cons e es ih =>
    obtain ⟨he, hes⟩ := List.forall_mem_cons.mp hes
    unfold userEntries
    split
    · rename_i hs
      exact Draft.faithful_map (ih hes) fun _ h => List.forall_mem_cons.mpr ⟨by simp [hs], h⟩
    · rename_i name hs
      split
      · rename_i ha
        exact ⟨Draft.alias?_eq_none_iff.mp ha, hs ▸ he⟩
      · rename_i a ha
        refine Draft.faithful_map (ih hes) fun _ h => List.forall_mem_cons.mpr ⟨fun _ _ => ?_, h⟩
        rw [hs]
        exact ⟨a, Draft.alias?_eq_some ha⟩
    · rename_i hs
      exact Draft.faithful_mono (ih hes) fun _ h => List.forall_mem_cons.mpr ⟨by simp [hs], h⟩

theorem groupEntries_faithful (hroster : ∀ group, roster.members? group = none ↔ ¬d.Defines (.group group))
    {es : List WrittenEntry} (hes : ∀ e ∈ es, d.Mentions (.rule heading) e.subject) :
    d.Faithful (fun _ => ∀ e ∈ es, ∀ name, e.subject = .group name → d.Defines e.subject)
      (groupEntries roster heading es) := by
  induction es with
  | nil => exact List.forall_mem_nil _
  | cons e es ih =>
    obtain ⟨he, hes⟩ := List.forall_mem_cons.mp hes
    unfold groupEntries
    split
    · rename_i name hs
      split
      · rename_i hm
        exact ⟨(hroster name).mp hm, hs ▸ he⟩
      · rename_i members hm
        refine Draft.faithful_map (ih hes) fun _ h => List.forall_mem_cons.mpr ⟨fun _ _ => ?_, h⟩
        rw [hs]
        by_contra hundefined
        rw [(hroster name).mpr hundefined] at hm
        cases hm
    · rename_i hs
      exact Draft.faithful_mono (ih hes) fun _ h =>
        List.forall_mem_cons.mpr ⟨fun name hname => absurd hname (hs name), h⟩

theorem ofWritten_faithful (hroster : ∀ group, roster.members? group = none ↔ ¬d.Defines (.group group))
    {w : WrittenRule} (hw : w ∈ d.rules) :
    d.Faithful (fun _ => ∀ e ∈ w.entries, d.Defines e.subject) (ofWritten d roster w) := by
  have hmentions : ∀ e ∈ w.entries, d.Mentions (.rule w.heading) e.subject :=
    fun e he => ⟨w, hw, rfl, e, he, rfl⟩
  refine Draft.faithful_bind (userEntries_faithful hmentions) fun users husers => ?_
  refine Draft.faithful_bind (groupEntries_faithful hroster hmentions) fun groups hgroups => ?_
  intro e he
  rcases hs : e.subject with name | name | name
  · trivial
  · exact hs ▸ hgroups e he name hs
  · exact hs ▸ husers e he name hs

end Rule

/-! ## (2) Drafts -/

namespace Model

open Roster (Exact)

theorem ofDraft_faithful (d : Draft) :
    d.Faithful
      (fun m => Exact d m.roster ∧ (∀ g ∈ d.groups, ∃ t ∈ m.roster.teams, t.name = g.name) ∧
        ∀ w ∈ d.rules, ∀ e ∈ w.entries, d.Defines e.subject)
      (ofDraft d) := by
  refine Draft.faithful_bind (Roster.ofDraft_faithful d) fun roster hroster => ?_
  obtain ⟨hexact, hall⟩ := hroster
  have hrules : d.Faithful (fun _ => ∀ w ∈ d.rules, ∀ e ∈ w.entries, d.Defines e.subject)
      (d.rules.mapM (Rule.ofWritten d roster)) :=
    Draft.faithful_mapM fun w hw =>
      Rule.ofWritten_faithful (fun _ => Roster.members?_eq_none_iff_of_exact hexact hall) hw
  exact Draft.faithful_bind hrules fun rules hdefined => ⟨hexact, hall, hdefined⟩

variable {d : Draft}

/-- The teams of an exact roster of all groups are the groups, in some order. -/
theorem perm_names_of_exact {r : Roster} (hnames : (d.groups.map (·.name)).Nodup) (h : Exact d r)
    (hall : ∀ g ∈ d.groups, ∃ t ∈ r.teams, t.name = g.name) :
    (r.teams.map (·.name)).Perm (d.groups.map (·.name)) := by
  refine (List.perm_ext_iff_of_nodup h.names hnames).mpr fun name => ?_
  constructor
  · intro hname
    obtain ⟨t, ht, rfl⟩ := List.mem_map.mp hname
    obtain ⟨hg, -, -⟩ := h.grounded t ht
    exact List.mem_map.mpr (Draft.defines_of_group? hg)
  · intro hname
    obtain ⟨g, hg, rfl⟩ := List.mem_map.mp hname
    exact List.mem_map.mpr (hall g hg)

/-- In a model everything is defined, and no group is on a cycle. -/
theorem defines_of_ofDraft {m : Model} (hnames : (d.groups.map (·.name)).Nodup) (h : Exact d m.roster)
    (hall : ∀ g ∈ d.groups, ∃ t ∈ m.roster.teams, t.name = g.name)
    (hrules : ∀ w ∈ d.rules, ∀ e ∈ w.entries, d.Defines e.subject) :
    (∀ referrer s, d.Mentions referrer s → d.Defines s) ∧ ∀ group, ¬d.OnCycle group := by
  have hgrounded : ∀ group, d.Defines (.group group) → d.Grounded group := by
    intro group hdefined
    obtain ⟨g, hg, rfl⟩ := hdefined
    obtain ⟨t, ht, hname⟩ := hall g hg
    exact hname ▸ h.grounded t ht
  refine ⟨?_, fun group hcycle => ?_⟩
  · intro referrer s hs
    cases referrer with
    | group name =>
      obtain ⟨g, hg, rfl, hs⟩ := hs
      obtain ⟨hg', hdefined, -⟩ := hgrounded g.name ⟨g, hg, rfl⟩
      exact hdefined s (Draft.mem_members_of_mentions hnames hg' ⟨g, hg, rfl, hs⟩)
    | rule heading =>
      obtain ⟨w, hw, -, e, he, rfl⟩ := hs
      exact hrules w hw e he
  · exact Draft.not_onCycle_of_grounded hnames (hgrounded group (Draft.defines_of_onCycle hcycle)) hcycle

/-- What is known of a draft that a model was loaded from. -/
theorem resolvable_of_load {rules : String} {groups : Option String} {m : Model} (h : load rules groups = .ok m) :
    ∃ d, Draft.ofTexts rules groups = .ok d ∧ d.IsOf (sectionsOfTexts rules groups) ∧ m.IsOf d ∧
      (∀ referrer s, d.Mentions referrer s → d.Defines s) ∧ ∀ group, ¬d.OnCycle group := by
  obtain ⟨d, hdraft, hmodel⟩ := bind_eq_ok_iff.mp h
  have hd := Draft.isOf_ofTexts hdraft
  have hfaithful := ofDraft_faithful d
  rw [hmodel] at hfaithful
  obtain ⟨hexact, hteams, hrules⟩ := hfaithful
  exact ⟨d, hdraft, hd, isOf_ofDraft hmodel, defines_of_ofDraft hd.groupNames hexact hteams hrules⟩

/-- Where no refusal is true, the draft becomes a model. -/
theorem exists_ofDraft_of_resolvable (hdefined : ∀ referrer s, d.Mentions referrer s → d.Defines s)
    (hcycle : ∀ group, ¬d.OnCycle group) : ∃ m, ofDraft d = .ok m := by
  have hfaithful := ofDraft_faithful d
  rcases hm : ofDraft d with err | m
  · rw [hm] at hfaithful
    exact absurd hfaithful (Draft.not_explains hdefined hcycle err)
  · exact ⟨m, rfl⟩

/-- References are followed to the end: a draft becomes a model iff everything it mentions is
    defined and no group lies on a cycle, the members of a group are the users whom it reaches,
    and each refusal is true. No group needs more fuel than there are definitions. -/
theorem ofDraft_resolves {rules : String} {groups : Option String} (hd : Draft.ofTexts rules groups = .ok d) :
    ((∃ m, ofDraft d = .ok m) ↔
      (∀ referrer s, d.Mentions referrer s → d.Defines s) ∧ ∀ group, ¬d.OnCycle group) ∧
    (∀ m, ofDraft d = .ok m →
      (m.roster.teams.map (·.name)).Perm (d.groups.map (·.name)) ∧
      ∀ g ∈ d.groups, ∃ members, m.roster.members? g.name = some members ∧ members.Nodup ∧
        ∀ u, u ∈ members ↔ d.Reaches g.name u) ∧
    (∀ err, ofDraft d = .error err → d.Explains err) ∧
    ∀ fuel, d.groups.length ≤ fuel → ∀ referrer done group,
      Roster.expand d fuel [] referrer done group = Roster.expand d d.groups.length [] referrer done group := by
  have hnames := (Draft.isOf_ofTexts hd).groupNames
  have hfaithful := ofDraft_faithful d
  refine ⟨⟨?_, ?_⟩, ?_, ?_, ?_⟩
  · intro h
    obtain ⟨m, hm⟩ := h
    rw [hm] at hfaithful
    exact defines_of_ofDraft hnames hfaithful.1 hfaithful.2.1 hfaithful.2.2
  · intro h
    rcases hm : ofDraft d with err | m
    · rw [hm] at hfaithful
      exact absurd hfaithful (Draft.not_explains h.1 h.2 err)
    · exact ⟨m, rfl⟩
  · intro m hm
    rw [hm] at hfaithful
    obtain ⟨hexact, hall, -⟩ := hfaithful
    refine ⟨perm_names_of_exact hnames hexact hall, fun g hg => ?_⟩
    rcases hmembers : m.roster.members? g.name with _ | members
    · exact absurd ⟨g, hg, rfl⟩ ((Roster.members?_eq_none_iff_of_exact hexact hall).mp hmembers)
    · have hteam := Roster.members?_eq_some hmembers
      exact ⟨members, rfl, hexact.nodup _ hteam, hexact.mem_iff _ hteam⟩
  · intro err herr
    rw [herr] at hfaithful
    exact hfaithful
  · intro fuel hfuel referrer done group
    obtain ⟨more, rfl⟩ := Nat.exists_eq_add_of_le hfuel
    exact Roster.expand_of_more_fuel more (.nil group) (Nat.le_add_right _ _) referrer done

/-- A subgroup that two groups share is no cycle, and a cycle that is entered from outside is one. -/
theorem ofDraft_resolves_shared_and_cyclic :
    (∃ d m, Draft.ofTexts "[groups]\na = @c, &boss\nb = @c, @a\nc = x\n[aliases]\nboss = al\n" none = .ok d ∧
      ofDraft d = .ok m ∧ ∃ members, m.roster.members? "b" = some members ∧ ∀ u, u ∈ members ↔ d.Reaches "b" u) ∧
    ∃ d, Draft.ofTexts "[groups]\na = @b\nb = @c\nc = x, @b\n" none = .ok d ∧
      ofDraft d = .error (.recursiveGroup "b") ∧ d.OnCycle "b" := by
  constructor
  · have hdraft : (Draft.ofTexts "[groups]\na = @c, &boss\nb = @c, @a\nc = x\n[aliases]\nboss = al\n" none).toOption.any
        (fun d => (ofDraft d).toOption.any (fun _ => true) && d.groups.any (·.name == "b")) = true := by decide +kernel
    obtain ⟨d, hd, hb⟩ := exists_ok_of_any hdraft
    obtain ⟨hm, hb⟩ := Bool.and_eq_true_iff.mp hb
    obtain ⟨m, hm, -⟩ := exists_ok_of_any hm
    obtain ⟨g, hg, hname⟩ := List.any_eq_true.mp hb
    obtain ⟨members, hmembers, -, hiff⟩ := ((ofDraft_resolves hd).2.1 m hm).2 g hg
    rw [beq_iff_eq.mp hname] at hmembers hiff
    exact ⟨d, m, hd, hm, members, hmembers, hiff⟩
  · have hdraft : (Draft.ofTexts "[groups]\na = @b\nb = @c\nc = x, @b\n" none).toOption.any
        (fun d => decide (ofDraft d = .error (.recursiveGroup "b"))) = true := by decide +kernel
    obtain ⟨d, hd, herr⟩ := exists_ok_of_any hdraft
    have herr := of_decide_eq_true herr
    exact ⟨d, hd, herr, (ofDraft_resolves hd).2.2.1 _ herr⟩

end Model

end PathAuthz
