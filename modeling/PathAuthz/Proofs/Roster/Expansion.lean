/-
  PathAuthz.Proofs.Roster.Expansion — the groups of a draft are expanded exactly.

  (1) A subject brings users into a group that holds it (`Draft.Brings`), and the group reaches
  whom its subjects bring (`reaches_iff`). A group is `Grounded` if every chain of references
  from it ends and meets nothing undefined; such a group lies on no cycle.

  (2) A roster is `Exact` if each of its groups is grounded and has for its members those whom
  it reaches, each of them once, and no group is in it twice.

  (3) The groups on the way to a group form a `Trail`: different, defined, and each of them
  leading to it. So a group that stands on its own trail lies on a cycle, and a trail has room
  for one more group as long as that group is defined (`Trail.length_lt`), which is why the
  fuel never runs out.

  (4) Every step keeps the roster exact and adds no group of the trail (`Progress`), or refuses
  with an error that the draft explains: `collect_faithful` for one definition, provided the
  groups inside it do; `expand_faithful` for a group, by induction on the fuel;
  `ofDraft_faithful` for all groups. More fuel changes nothing (`expand_of_more_fuel`).
-/

import Mathlib.Data.List.Perm.Subperm
import PathAuthz.Proofs.Draft.References
import PathAuthz.Roster

namespace PathAuthz

/-! ## (1) Subjects and groups -/

theorem not_self_of_acc {α : Type} {r : α → α → Prop} {a : α} (h : Acc r a) : ¬r a a := by
  induction h with
  | intro a _ ih => exact fun haa => ih a haa haa

namespace Draft

/-- Whom a subject brings into a group that holds it. -/
def Brings (d : Draft) : Subject → String → Prop
  | .user name, u => u = name
  | .viaAlias name, u => ∃ a, d.alias? name = some a ∧ u = a.user
  | .group inner, u => d.Reaches inner u

theorem brings_of_standsFor {d : Draft} {s : Subject} {u : String} (h : d.StandsFor s u) : d.Brings s u := by
  cases s with
  | user name => exact h
  | viaAlias name => exact h
  | group name => cases h

inductive Grounded (d : Draft) : String → Prop
  | intro {group : String} {g : GroupDefinition} : d.group? group = some g → (∀ s ∈ g.members, d.Defines s) →
      (∀ inner, .group inner ∈ g.members → Grounded d inner) → Grounded d group

variable {d : Draft} {group : String} {g : GroupDefinition}

theorem reaches_iff (hg : d.group? group = some g) {u : String} : d.Reaches group u ↔ ∃ s ∈ g.members, d.Brings s u := by
  constructor
  · intro h
    cases h with
    | user hg' hs =>
      cases hg.symm.trans hg'
      exact ⟨_, hs, rfl⟩
    | viaAlias hg' hs ha =>
      cases hg.symm.trans hg'
      exact ⟨_, hs, _, ha, rfl⟩
    | nested hg' hs h =>
      cases hg.symm.trans hg'
      exact ⟨_, hs, h⟩
  · intro h
    obtain ⟨s, hs, h⟩ := h
    cases s with
    | user name => cases h; exact .user hg hs
    | viaAlias name =>
      obtain ⟨a, ha, rfl⟩ := h
      exact .viaAlias hg hs ha
    | group inner => exact .nested hg hs h

variable (hnames : (d.groups.map (·.name)).Nodup)
include hnames

theorem mem_members_of_mentions (hg : d.group? group = some g) {s : Subject} (h : d.Mentions (.group group) s) :
    s ∈ g.members := by
  obtain ⟨f, hf, rfl, hs⟩ := h
  cases hg.symm.trans (group?_eq_some_of_mem hnames hf)
  exact hs

theorem not_onCycle_of_grounded (h : d.Grounded group) : ¬d.OnCycle group := by
  have hacc : Acc (Function.swap d.Refers) group := by
    induction h with
    | intro hg _ _ ih => exact ⟨_, fun inner hr => ih inner (mem_members_of_mentions hnames hg hr)⟩
  exact fun hcycle => not_self_of_acc hacc.transGen (Relation.transGen_swap.mpr hcycle)

end Draft

namespace Roster

/-! ## (2) Exact rosters -/

structure Exact (d : Draft) (r : Roster) : Prop where
  mem_iff : ∀ t ∈ r.teams, ∀ u, u ∈ t.members ↔ d.Reaches t.name u
  nodup : ∀ t ∈ r.teams, t.members.Nodup
  grounded : ∀ t ∈ r.teams, d.Grounded t.name
  names : (r.teams.map (·.name)).Nodup

theorem members?_eq_some {r : Roster} {group : String} {members : List String} (h : r.members? group = some members) :
    ⟨group, members⟩ ∈ r.teams := by
  obtain ⟨t, ht, rfl⟩ := Option.map_eq_some_iff.mp h
  have hname : t.name = group := by simpa using List.find?_some ht
  rw [← hname]
  exact List.mem_of_find?_eq_some ht

theorem members?_eq_none_iff {r : Roster} {group : String} : r.members? group = none ↔ ∀ t ∈ r.teams, t.name ≠ group := by
  simp [members?]

variable {d : Draft}

theorem exact_nil : Exact d ⟨[]⟩ :=
  ⟨List.forall_mem_nil _, List.forall_mem_nil _, List.forall_mem_nil _, List.nodup_nil⟩

theorem Exact.snoc {r : Roster} {t : Team} (h : Exact d r) (hnew : ∀ t' ∈ r.teams, t'.name ≠ t.name)
    (hmem : ∀ u, u ∈ t.members ↔ d.Reaches t.name u) (hnodup : t.members.Nodup) (hgrounded : d.Grounded t.name) :
    Exact d ⟨r.teams ++ [t]⟩ := by
  refine ⟨?_, ?_, ?_, ?_⟩
  · exact List.forall_mem_append.mpr ⟨h.mem_iff, List.forall_mem_singleton.mpr hmem⟩
  · exact List.forall_mem_append.mpr ⟨h.nodup, List.forall_mem_singleton.mpr hnodup⟩
  · exact List.forall_mem_append.mpr ⟨h.grounded, List.forall_mem_singleton.mpr hgrounded⟩
  · rw [List.map_append, List.map_singleton, ← List.concat_eq_append]
    refine h.names.concat fun hmem => ?_
    obtain ⟨t', ht', hname⟩ := List.mem_map.mp hmem
    exact hnew t' ht' hname

/-- What a step does to the roster while the groups of a trail are being expanded. -/
structure Progress (d : Draft) (trail : List String) (done done' : Roster) : Prop where
  exact : Exact d done'
  kept : ∀ t ∈ done.teams, t ∈ done'.teams
  fresh : ∀ t ∈ done'.teams, t ∈ done.teams ∨ t.name ∉ trail

theorem Progress.refl {trail : List String} {done : Roster} (h : Exact d done) : Progress d trail done done :=
  ⟨h, fun _ ht => ht, fun _ ht => Or.inl ht⟩

theorem Progress.trans {trail : List String} {r s t : Roster} (h : Progress d trail r s) (h' : Progress d trail s t) :
    Progress d trail r t := by
  refine ⟨h'.exact, fun a ha => h'.kept a (h.kept a ha), ?_⟩
  intro a ha
  rcases h'.fresh a ha with ha | ha
  · exact h.fresh a ha
  · exact Or.inr ha

/-! ## (3) Trails -/

structure Trail (d : Draft) (trail : List String) (group : String) : Prop where
  nodup : trail.Nodup
  defined : ∀ t ∈ trail, d.Defines (.group t)
  leads : ∀ t ∈ trail, Relation.TransGen d.Refers t group

theorem Trail.nil (group : String) : Trail d [] group :=
  ⟨List.nodup_nil, List.forall_mem_nil _, List.forall_mem_nil _⟩

theorem Trail.cons {trail : List String} {group inner : String} {g : GroupDefinition} (h : Trail d trail group)
    (hnew : group ∉ trail) (hg : d.group? group = some g) (hs : .group inner ∈ g.members) :
    Trail d (group :: trail) inner := by
  have hrefers : d.Refers group inner := Draft.mentions_of_group? hg hs
  refine ⟨List.nodup_cons.mpr ⟨hnew, h.nodup⟩, ?_, ?_⟩
  · exact List.forall_mem_cons.mpr ⟨Draft.defines_of_group? hg, h.defined⟩
  · exact List.forall_mem_cons.mpr ⟨.single hrefers, fun t ht => (h.leads t ht).tail hrefers⟩

theorem Trail.length_lt {trail : List String} {group : String} (h : Trail d trail group) (hnew : group ∉ trail)
    (hg : d.Defines (.group group)) : trail.length < d.groups.length := by
  have hsub : group :: trail ⊆ d.groups.map (·.name) := by
    intro t ht
    refine List.mem_map.mpr (show d.Defines (.group t) from ?_)
    rcases List.mem_cons.mp ht with rfl | ht
    · exact hg
    · exact h.defined t ht
  have hlen := ((List.nodup_cons.mpr ⟨hnew, h.nodup⟩).subperm hsub).length_le
  rw [List.length_map, List.length_cons] at hlen
  exact hlen

/-! ## (4) Expansion -/

theorem mem_addMember {members : List String} {user u : String} :
    u ∈ addMember members user ↔ u ∈ members ∨ u = user := by
  unfold addMember
  split
  · rename_i h
    exact ⟨Or.inl, fun hu => hu.elim id fun hu => hu ▸ h⟩
  · simp

theorem nodup_addMember {members : List String} (user : String) (h : members.Nodup) : (addMember members user).Nodup := by
  unfold addMember
  split
  · exact h
  · rename_i hnot
    rw [← List.concat_eq_append]
    exact h.concat hnot

theorem mem_addMembers {members others : List String} {u : String} :
    u ∈ addMembers members others ↔ u ∈ members ∨ u ∈ others := by
  simp only [addMembers, List.mem_append, List.mem_filter, List.contains_eq_mem, Bool.not_eq_true', decide_eq_false_iff_not]
  tauto

theorem nodup_addMembers {members others : List String} (h : members.Nodup) (h' : others.Nodup) :
    (addMembers members others).Nodup := by
  refine List.nodup_append.mpr ⟨h, h'.filter _, ?_⟩
  intro a ha b hb hab
  have hnot := (List.mem_filter.mp hb).2
  simp [← hab, ha] at hnot

/-- What collecting the users of some subjects comes to. -/
structure Collected (d : Draft) (trail : List String) (done : Roster) (found : List String) (subjects : List Subject)
    (members : List String) (done' : Roster) : Prop where
  progress : Progress d trail done done'
  nodup : found.Nodup → members.Nodup
  mem_iff : ∀ u, u ∈ members ↔ u ∈ found ∨ ∃ s ∈ subjects, d.Brings s u
  defined : ∀ s ∈ subjects, d.Defines s
  grounded : ∀ inner, .group inner ∈ subjects → d.Grounded inner

theorem Collected.cons {trail : List String} {done done₁ done' : Roster} {found found₁ members : List String} {s : Subject}
    {rest : List Subject} (hprogress : Progress d trail done done₁) (hnodup : found.Nodup → found₁.Nodup)
    (hmem : ∀ u, u ∈ found₁ ↔ u ∈ found ∨ d.Brings s u) (hdefined : d.Defines s)
    (hgrounded : ∀ inner, s = .group inner → d.Grounded inner) (h : Collected d trail done₁ found₁ rest members done') :
    Collected d trail done found (s :: rest) members done' := by
  refine ⟨hprogress.trans h.progress, fun hf => h.nodup (hnodup hf), ?_, ?_, ?_⟩
  · intro u
    rw [h.mem_iff, hmem, List.exists_mem_cons_iff, or_assoc]
  · exact List.forall_mem_cons.mpr ⟨hdefined, h.defined⟩
  · intro inner hinner
    rcases List.mem_cons.mp hinner with hs | hinner
    · exact hgrounded inner hs.symm
    · exact h.grounded inner hinner

theorem collect_faithful {group : String} {g : GroupDefinition} (hg : d.group? group = some g) {trail : List String}
    {nested : Roster → String → Except LoadError (List String × Roster)}
    (hnested : ∀ {done inner}, Exact d done → .group inner ∈ g.members →
      d.Faithful (fun r => Progress d trail done r.2 ∧ ⟨inner, r.1⟩ ∈ r.2.teams) (nested done inner))
    {subjects : List Subject} (hsub : ∀ s ∈ subjects, s ∈ g.members) {done : Roster} (hdone : Exact d done)
    (found : List String) :
    d.Faithful (fun r => Collected d trail done found subjects r.1 r.2) (collect d group nested done found subjects) := by
  induction subjects generalizing done found with
  | nil => exact ⟨.refl hdone, id, by simp, List.forall_mem_nil _, by simp⟩
  | cons s rest ih =>
    obtain ⟨hs, hrest⟩ := List.forall_mem_cons.mp hsub
    cases s with
    | user name =>
      refine Draft.faithful_mono (ih hrest hdone _) fun r hr => ?_
      exact .cons (.refl hdone) (nodup_addMember name) (fun u => mem_addMember) trivial (by simp) hr
    | viaAlias name =>
      simp only [collect]
      split
      · rename_i ha
        exact ⟨Draft.alias?_eq_none_iff.mp ha, Draft.mentions_of_group? hg hs⟩
      · rename_i a ha
        refine Draft.faithful_mono (ih hrest hdone _) fun r hr => ?_
        refine .cons (.refl hdone) (nodup_addMember a.user) (fun u => ?_) ⟨a, Draft.alias?_eq_some ha⟩ (by simp) hr
        rw [mem_addMember]
        simp [Draft.Brings, ha]
    | group inner =>
      have hinner := hnested hdone hs
      simp only [collect]
      split
      · rename_i err hn
        rw [hn] at hinner
        exact hinner
      · rename_i members done₁ hn
        rw [hn] at hinner
        obtain ⟨hprogress, hteam⟩ := hinner
        have hgrounded := hprogress.exact.grounded _ hteam
        refine Draft.faithful_mono (ih hrest hprogress.exact _) fun r hr => ?_
        refine .cons hprogress (fun hf => nodup_addMembers hf (hprogress.exact.nodup _ hteam)) (fun u => ?_) ?_ ?_ hr
        · rw [mem_addMembers, hprogress.exact.mem_iff _ hteam]
          rfl
        · obtain ⟨hg', -, -⟩ := hgrounded
          exact Draft.defines_of_group? hg'
        · intro inner' he
          cases he
          exact hgrounded

theorem expand_faithful {fuel : Nat} {trail : List String} {referrer : Referrer} {done : Roster} {group : String}
    (hdone : Exact d done) (htrail : Trail d trail group) (hfuel : d.groups.length ≤ fuel + trail.length)
    (href : ¬d.Defines (.group group) → d.Mentions referrer (.group group)) :
    d.Faithful (fun r => Progress d trail done r.2 ∧ ⟨group, r.1⟩ ∈ r.2.teams)
      (expand d fuel trail referrer done group) := by
  induction fuel using Nat.strongRecOn generalizing trail referrer done group with
  | ind fuel ih =>
    unfold expand
    split
    · rename_i hm
      exact ⟨.refl hdone, members?_eq_some hm⟩
    · rename_i hm
      split
      · rename_i hon
        exact htrail.leads group hon
      · rename_i hnew
        split
        · rename_i hg
          have hundefined := Draft.group?_eq_none_iff.mp hg
          exact ⟨hundefined, href hundefined⟩
        · rename_i g hg
          have hroom := htrail.length_lt hnew (Draft.defines_of_group? hg)
          cases fuel with
          | zero => omega
          | succ fuel =>
            have hnested : ∀ {done inner}, Exact d done → .group inner ∈ g.members →
                d.Faithful (fun r => Progress d (group :: trail) done r.2 ∧ ⟨inner, r.1⟩ ∈ r.2.teams)
                  (expand d fuel (group :: trail) (.group group) done inner) := by
              intro done inner hdone hs
              have hlonger : d.groups.length ≤ fuel + (group :: trail).length := by
                rw [List.length_cons]
                omega
              exact ih fuel (Nat.lt_succ_self fuel) hdone (htrail.cons hnew hg hs) hlonger
                fun _ => Draft.mentions_of_group? hg hs
            refine Draft.faithful_bind (collect_faithful hg hnested (fun _ hs => hs) hdone []) fun r hr => ?_
            obtain ⟨members, done₁⟩ := r
            have hfresh : ∀ t ∈ done₁.teams, t.name ≠ group := by
              intro t ht
              rcases hr.progress.fresh t ht with ht | ht
              · exact members?_eq_none_iff.mp hm t ht
              · exact fun he => ht (he ▸ List.mem_cons_self)
            have hmem : ∀ u, u ∈ members ↔ d.Reaches group u := by
              intro u
              rw [hr.mem_iff, Draft.reaches_iff hg]
              simp
            refine ⟨⟨?_, ?_, ?_⟩, List.mem_append_right _ (List.mem_singleton_self _)⟩
            · exact hr.progress.exact.snoc hfresh hmem (hr.nodup List.nodup_nil) (.intro hg hr.defined hr.grounded)
            · exact fun t ht => List.mem_append_left _ (hr.progress.kept t ht)
            · intro t ht
              rcases List.mem_append.mp ht with ht | ht
              · rcases hr.progress.fresh t ht with ht | ht
                · exact Or.inl ht
                · exact Or.inr fun hon => ht (List.mem_cons_of_mem _ hon)
              · rw [List.mem_singleton.mp ht]
                exact Or.inr hnew

theorem collect_congr {d' : Draft} (ha : d.aliases = d'.aliases) (group : String)
    {nested nested' : Roster → String → Except LoadError (List String × Roster)} {subjects : List Subject}
    (hn : ∀ done inner, .group inner ∈ subjects → nested done inner = nested' done inner) (done : Roster)
    (found : List String) :
    collect d group nested done found subjects = collect d' group nested' done found subjects := by
  induction subjects generalizing done found with
  | nil => rfl
  | cons s rest ih =>
    have hrest := ih fun done inner h => hn done inner (List.mem_cons_of_mem _ h)
    cases s with
    | user name => exact hrest _ _
    | viaAlias name =>
      simp only [collect, Draft.alias?, ha]
      split
      · rfl
      · exact hrest _ _
    | group inner =>
      simp only [collect, hn done inner List.mem_cons_self]
      split
      · rfl
      · exact hrest _ _

/-- The fuel only has to cover the groups that are not on the trail yet. -/
theorem expand_of_more_fuel {fuel : Nat} (more : Nat) {trail : List String} {group : String} (htrail : Trail d trail group)
    (hfuel : d.groups.length ≤ fuel + trail.length) (referrer : Referrer) (done : Roster) :
    expand d (fuel + more) trail referrer done group = expand d fuel trail referrer done group := by
  induction fuel generalizing trail referrer done group with
  | zero =>
    rcases hm : done.members? group with _ | members
    · by_cases hon : group ∈ trail
      · unfold expand
        simp only [hm, if_pos hon]
      · rcases hg : d.group? group with _ | g
        · unfold expand
          simp only [hm, if_neg hon, hg]
        · have hroom := htrail.length_lt hon (Draft.defines_of_group? hg)
          omega
    · unfold expand
      simp only [hm]
  | succ fuel ih =>
    rw [Nat.succ_add]
    rcases hm : done.members? group with _ | members
    · by_cases hon : group ∈ trail
      · simp only [expand, hm, if_pos hon]
      · rcases hg : d.group? group with _ | g
        · simp only [expand, hm, if_neg hon, hg]
        · have hnested : ∀ done inner, .group inner ∈ g.members →
              expand d (fuel + more) (group :: trail) (.group group) done inner =
                expand d fuel (group :: trail) (.group group) done inner := by
            intro done inner hs
            exact ih (htrail.cons hon hg hs) (by rw [List.length_cons]; omega) (.group group) done
          simp only [expand, hm, if_neg hon, hg, collect_congr rfl group hnested]
    · simp only [expand, hm]

theorem expandAll_faithful {gs : List GroupDefinition} (hgs : ∀ g ∈ gs, g ∈ d.groups) {done : Roster}
    (hdone : Exact d done) :
    d.Faithful (fun r => Progress d [] done r ∧ ∀ g ∈ gs, ∃ t ∈ r.teams, t.name = g.name) (expandAll d done gs) := by
  induction gs generalizing done with
  | nil => exact ⟨.refl hdone, List.forall_mem_nil _⟩
  | cons g gs ih =>
    obtain ⟨hg, hgs⟩ := List.forall_mem_cons.mp hgs
    have hdefined : d.Defines (.group g.name) := ⟨g, hg, rfl⟩
    refine Draft.faithful_bind (expand_faithful hdone (.nil g.name) (Nat.le_add_right _ _) fun h => absurd hdefined h)
      fun r hr => ?_
    obtain ⟨members, done₁⟩ := r
    refine Draft.faithful_mono (ih hgs hr.1.exact) fun r' hr' => ⟨hr.1.trans hr'.1, ?_⟩
    exact List.forall_mem_cons.mpr ⟨⟨_, hr'.1.kept _ hr.2, rfl⟩, hr'.2⟩

theorem ofDraft_faithful (d : Draft) :
    d.Faithful (fun r => Exact d r ∧ ∀ g ∈ d.groups, ∃ t ∈ r.teams, t.name = g.name) (ofDraft d) :=
  Draft.faithful_mono (expandAll_faithful (fun _ hg => hg) exact_nil) fun _ hr => ⟨hr.1.exact, hr.2⟩

end Roster

end PathAuthz
