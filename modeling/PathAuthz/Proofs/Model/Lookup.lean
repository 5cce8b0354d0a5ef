/-
  PathAuthz.Proofs.Model.Lookup — the rights a loaded model looks up, from its rules.

  (1) `grantsTo` and `grantsToAll` list what the rules grant an identity, and what they grant
  every authenticated user, each with the scope of its rule. Whoever is authenticated holds
  the latter as part of the former (`exists_grant_of_all`).

  (2) A user is `pooled` if some section names them while some section grants to every
  authenticated user.

  (3) A look-up answers with the span of the identity's own grants in the region
  (`lookupRights_of_not_pooled`). For a pooled user the floor is narrowed to that of the
  grants to all, and nothing else changes (`lookupRights_of_pooled`). In any case the floor
  lies below each grant in the region (`floor_lookupRights_subset`).
-/

import PathAuthz.Proofs.Model.Named
import PathAuthz.Proofs.Model.Options
import PathAuthz.Proofs.RightsTable.Span

namespace PathAuthz

open Source
open Buckets (regional inRegion)

/-! ## (1) Grants -/

namespace Model

def grantsTo (m : Model) (who : Identity) : List (RepoScope × Access) := RightsTable.grants (·.accessFor who) m.rules

def grantsToAll (m : Model) : List (RepoScope × Access) := RightsTable.grants (·.authenticated) m.rules

end Model

theorem RightsTable.mem_grants_iff {access : Rule → Option Access} {rules : List Rule} {scope : RepoScope} {a : Access} :
    (scope, a) ∈ grants access rules ↔ ∃ r ∈ rules, r.scope = scope ∧ access r = some a := by
  unfold grants
  rw [List.mem_filterMap]
  constructor
  · intro h
    obtain ⟨r, hr, h⟩ := h
    obtain ⟨b, hb, he⟩ := Option.map_eq_some_iff.mp h
    cases he
    exact ⟨r, hr, rfl, hb⟩
  · intro h
    obtain ⟨r, hr, rfl, ha⟩ := h
    exact ⟨r, hr, by rw [ha, Option.map_some]⟩

theorem Model.exists_grant_of_all {m : Model} (user : String) {scope : RepoScope} {a : Access}
    (h : (scope, a) ∈ m.grantsToAll) : ∃ b, a ⊆ b ∧ (scope, b) ∈ m.grantsTo (.user user) := by
  obtain ⟨r, hr, hs, ha⟩ := RightsTable.mem_grants_iff.mp h
  rcases hg : Grant.gather (r.entries.map (Rule.part user)) with _ | b
  · refine ⟨a, Access.Subset.refl a, RightsTable.mem_grants_iff.mpr ⟨r, hr, hs, ?_⟩⟩
    rw [Rule.accessFor_user, ha, hg, Grant.also_none]
  · refine ⟨a ∪ b, Access.subset_union_left a b, RightsTable.mem_grants_iff.mpr ⟨r, hr, hs, ?_⟩⟩
    rw [Rule.accessFor_user, ha, hg]
    rfl

/-- The grants to all reach no further than those to a user. -/
theorem Model.ceiling_grantsToAll_subset (m : Model) (user : String) (region : Option String) :
    (regional region m.grantsToAll).1.ceiling ⊆ (regional region (m.grantsTo (.user user))).1.ceiling := by
  refine Access.unionAll_subset_iff.mpr fun a ha => ?_
  obtain ⟨scope, hs, ha⟩ := Buckets.mem_grantsIn.mp ha
  obtain ⟨b, hab, hb⟩ := exists_grant_of_all user ha
  exact Access.Subset.trans hab (Buckets.subset_ceiling_of_mem (Buckets.mem_grantsIn.mpr ⟨scope, hs, hb⟩))

theorem Model.found_of_grantsToAll {m : Model} {region : Option String} (user : String)
    (h : (regional region m.grantsToAll).2 = true) : (regional region (m.grantsTo (.user user))).2 = true := by
  obtain ⟨⟨scope, a⟩, ha, hs⟩ := List.any_eq_true.mp h
  obtain ⟨b, -, hb⟩ := exists_grant_of_all user ha
  exact List.any_eq_true.mpr ⟨(scope, b), hb, hs⟩

/-! ## (2) Pooled users -/

/-- Whether a grantee takes in every authenticated user. -/
def Grantee.takesAll : Grantee → Bool
  | .everyone => true
  | .authenticated => true
  | _ => false

/-- Whether a section grants to every authenticated user. -/
def Source.Section.grantsToAll (s : Section) : Bool :=
  s.isRule && s.options.any fun o => (Grantee.ofOption? o.1).any Grantee.takesAll

def pooled (ss : List Section) : Identity → Bool
  | .anonymous => false
  | .user user => ss.any (·.names user) && ss.any (·.grantsToAll)

/-- Whether the name of an option takes in every authenticated user. -/
def takesAll (option : String) : Bool := (Grantee.ofOption? option).any Grantee.takesAll

theorem WrittenRule.authenticated_grantAll (w : WrittenRule) (gs : List (Grantee × Access)) :
    (w.grantAll gs).authenticated =
      Grant.also w.authenticated (Grant.gather (gs.map fun g => Grant.onlyIf g.1.takesAll g.2)) := by
  induction gs generalizing w with
  | nil => simp [grantAll]
  | cons g gs ih =>
    have hcons : w.grantAll (g :: gs) = (w.grant g.1 g.2).grantAll gs := rfl
    have hgrant : (w.grant g.1 g.2).authenticated = Grant.also w.authenticated (Grant.onlyIf g.1.takesAll g.2) := by
      unfold grant
      split <;> rename_i hg <;> simp [hg, Grantee.takesAll, Grant.uniteSlot_eq_also]
    rw [hcons, ih, hgrant, Grant.also_assoc, List.map_cons, Grant.gather_cons]

theorem WrittenRule.authenticated_ofSection? {seq : Nat} {s : Section} {w : WrittenRule}
    (h : ofSection? seq s = some w) : w.authenticated = s.granted takesAll := by
  obtain ⟨w₀, gs, hw₀, hgs, rfl⟩ := ofSection?_eq_some h
  have hnone : w₀.authenticated = none := by
    obtain ⟨header, -, -, hw⟩ := ofHeading?_eq_some hw₀
    rw [hw]
  rw [authenticated_grantAll, hnone, Grant.none_also]
  exact gather_grants hgs fun o _ g hname => by rw [takesAll, hname, Option.any_some]

theorem WrittenRule.isSome_authenticated_ofSection? {seq : Nat} {s : Section} {w : WrittenRule}
    (h : ofSection? seq s = some w) :
    w.authenticated.isSome = s.options.any fun o => (Grantee.ofOption? o.1).any Grantee.takesAll := by
  rw [authenticated_ofSection? h, Section.granted, Grant.isSome_gather, List.any_map]
  simp only [Function.comp_def, Grant.isSome_onlyIf, takesAll]

namespace Model.IsOf

variable {m : Model} {d : Draft} {ss : List Section}

theorem grantsToAll_ne_nil_iff (hm : m.IsOf d) (hd : d.IsOf ss) :
    m.grantsToAll ≠ [] ↔ ss.any (·.grantsToAll) = true := by
  rw [List.any_eq_true]
  constructor
  · intro h
    obtain ⟨⟨scope, a⟩, ha⟩ := List.exists_mem_of_ne_nil _ h
    obtain ⟨r, hr, -, ha⟩ := RightsTable.mem_grants_iff.mp ha
    obtain ⟨i, hi⟩ := List.mem_iff_getElem?.mp hr
    obtain ⟨s, w, hs, hsw, hwr⟩ := hm.section_of_rule hd hi
    obtain ⟨hs, hrule⟩ := List.mem_filter.mp (List.mem_of_getElem? hs)
    refine ⟨s, hs, ?_⟩
    rw [Section.grantsToAll, hrule, Bool.true_and, ← WrittenRule.isSome_authenticated_ofSection? hsw,
      ← (Rule.resolves_of_ofWritten hwr).authenticated, ha, Option.isSome_some]
  · intro h
    obtain ⟨s, hs, h⟩ := h
    obtain ⟨hrule, h⟩ := Bool.and_eq_true_iff.mp h
    obtain ⟨i, hi⟩ := List.mem_iff_getElem?.mp (List.mem_filter.mpr ⟨hs, hrule⟩)
    obtain ⟨r, w, hr, hsw, hwr⟩ := hm.rule_of_section hd hi
    rw [← WrittenRule.isSome_authenticated_ofSection? hsw, ← (Rule.resolves_of_ofWritten hwr).authenticated] at h
    obtain ⟨a, ha⟩ := Option.isSome_iff_exists.mp h
    exact List.ne_nil_of_mem (RightsTable.mem_grants_iff.mpr ⟨r, List.mem_of_getElem? hr, rfl, ha⟩)

/-! ## (3) Look-ups -/

end Model.IsOf

theorem lookup_map {β : Type} (keys : List String) (f : String → β) (key : String) :
    (keys.map fun k => (k, f k)).lookup key = if key ∈ keys then some (f key) else none := by
  induction keys with
  | nil => rfl
  | cons k keys ih =>
    rw [List.map_cons, List.lookup_cons, ih]
    by_cases h : key = k
    · simp [h]
    · have hb : (key == k) = false := by simpa using h
      simp [hb, h]

namespace Model.IsOf

variable {m : Model} {d : Draft} {ss : List Section}

theorem lookup_users (hm : m.IsOf d) (hd : d.IsOf ss) (user : String) :
    m.rights.users.lookup user =
      if ss.any (·.names user) then some (.ofGrants (m.grantsTo (.user user))) else none := by
  have hnames : user ∈ (usersOf d m.rules).eraseDups ↔ ss.any (·.names user) = true := by
    rw [List.mem_eraseDups, hm.mem_usersOf_iff hd, List.any_eq_true]
  rw [hm.rights]
  simp only [RightsTable.ofRules, lookup_map, hnames]
  rfl

theorem authenticated_eq (hm : m.IsOf d) (hd : d.IsOf ss) :
    m.rights.authenticated = if ss.any (·.grantsToAll) then some (.ofGrants m.grantsToAll) else none := by
  have hslots : m.rights.authenticated = if m.grantsToAll.isEmpty then none else some (.ofGrants m.grantsToAll) := by
    rw [hm.rights]
    rfl
  rw [hslots]
  by_cases hall : ss.any (·.grantsToAll) = true
  · have hne := (hm.grantsToAll_ne_nil_iff hd).mpr hall
    rw [if_pos hall, if_neg (by simpa using hne)]
  · have hnil : m.grantsToAll = [] := by
      by_contra hne
      exact hall ((hm.grantsToAll_ne_nil_iff hd).mp hne)
    rw [if_neg hall, if_pos (by simp [hnil])]

theorem unnamed_eq (hm : m.IsOf d) (hd : d.IsOf ss) {user : String} (hu : ss.any (·.names user) = false) :
    m.rights.unnamed = .ofGrants (m.grantsTo (.user user)) := by
  have hnot : user ∉ usersOf d m.rules := by
    rw [hm.mem_usersOf_iff hd, ← List.any_eq_true, hu]
    exact Bool.false_ne_true
  have hgrants : RightsTable.grants (·.unnamedAccess) m.rules = m.grantsTo (.user user) :=
    List.filterMap_congr fun r hr => congrArg (Option.map _) (hm.unnamedAccess_of_not_mem hnot hr)
  rw [hm.rights, ← hgrants]
  rfl

theorem lookupRights_of_not_pooled (hm : m.IsOf d) (hd : d.IsOf ss) {who : Identity} (h : pooled ss who = false)
    (region : Option String) : m.lookupRights who region = regional region (m.grantsTo who) := by
  rw [← Buckets.rights_ofGrants]
  cases who with
  | anonymous =>
    unfold lookupRights RightsTable.lookup
    rw [hm.rights]
    rfl
  | user user =>
    simp only [lookupRights, RightsTable.lookup, hm.lookup_users hd]
    by_cases hu : ss.any (·.names user) = true
    · have hall : ss.any (·.grantsToAll) = false := by rwa [pooled, hu, Bool.true_and] at h
      simp only [if_pos hu, hm.authenticated_eq hd, hall, Bool.false_eq_true, if_false]
    · have hu := Bool.not_eq_true _ ▸ hu
      simp only [hu, Bool.false_eq_true, if_false]
      rw [hm.unnamed_eq hd hu]

theorem lookupRights_of_pooled (hm : m.IsOf d) (hd : d.IsOf ss) {who : Identity} (h : pooled ss who = true)
    (region : Option String) :
    m.lookupRights who region =
      (⟨(regional region (m.grantsTo who)).1.floor ∩ (regional region m.grantsToAll).1.floor,
        (regional region (m.grantsTo who)).1.ceiling⟩, (regional region (m.grantsTo who)).2) := by
  cases who with
  | anonymous => cases h
  | user user =>
    obtain ⟨hu, hall⟩ := Bool.and_eq_true_iff.mp h
    have hslots : m.rights.authenticated = some (.ofGrants m.grantsToAll) := by rw [hm.authenticated_eq hd, if_pos hall]
    have hceiling := Access.union_eq_left_iff.mpr (m.ceiling_grantsToAll_subset user region)
    have hfound : ((regional region (m.grantsTo (.user user))).2 || (regional region m.grantsToAll).2) =
        (regional region (m.grantsTo (.user user))).2 := by
      cases hall : (regional region m.grantsToAll).2
      · exact Bool.or_false _
      · rw [m.found_of_grantsToAll user hall]
        rfl
    simp only [lookupRights, RightsTable.lookup, hm.lookup_users hd, if_pos hu, hslots, Buckets.rights_ofGrants,
      Rights.combine, hceiling, hfound]

/-- What is guaranteed in a region is part of every grant there. -/
theorem floor_lookupRights_subset (hm : m.IsOf d) (hd : d.IsOf ss) {who : Identity} {region : Option String} {r : Rule}
    {a : Access} (hr : r ∈ m.rules) (hs : inRegion r.scope region = true) (ha : r.accessFor who = some a) :
    (m.lookupRights who region).1.floor ⊆ a := by
  have hown : (regional region (m.grantsTo who)).1.floor ⊆ a :=
    Buckets.floor_subset_of_mem
      (Buckets.mem_grantsIn.mpr ⟨r.scope, hs, RightsTable.mem_grants_iff.mpr ⟨r, hr, rfl, ha⟩⟩)
  cases hp : pooled ss who
  · rw [hm.lookupRights_of_not_pooled hd hp]
    exact hown
  · rw [hm.lookupRights_of_pooled hd hp]
    exact Access.Subset.trans (Access.inter_subset_left _ _) hown

end Model.IsOf

namespace Model

theorem repoGiven_of_ne {repo : String} (h : repo ≠ "") : repoGiven repo = some repo := if_neg h

/-- On a subtree the access on its path is narrowed to the floor. -/
theorem effectiveAccess_recursive (m : Model) (repo path : String) (who : Identity) :
    m.effectiveAccess repo path who true =
      m.effectiveAccess repo path who false ∩ (m.lookupRights who (repoGiven repo)).1.floor := rfl

end Model

end PathAuthz
