/-
  PathAuthz.Proofs.RightsTable.Span — what the buckets sum up, in closed form.

  (1) The span of some grants is their intersection and their union. Adding grants one by one
  to an empty slot yields it (`addTo_spanOf`), so the three kinds of buckets hold the spans of
  all grants, of those for any repository and of those for each named one (`ofGrants_*`).

  (2) `regional` is the answer for one repository or for all of them, said without buckets:
  the ceiling is the union of the grants in the region; the floor is their intersection if one
  of them is the region's own, and nothing otherwise. The buckets give that answer
  (`rights_ofGrants`).

  (3) The floor lies below every grant in the region, and the ceiling above
  (`floor_subset_of_mem`, `subset_ceiling_of_mem`). Grants outside of the region do not
  matter (`regional_congr`), nor does the order of the grants (`regional_congr_of_mem`), and
  wider grants make a wider span (`regional_mono`).
-/

import Mathlib.Data.List.Induction
import PathAuthz.Proofs.Access
import PathAuthz.RightsTable

namespace PathAuthz

open Access (interAll unionAll interAll_append unionAll_append inter_assoc union_assoc)

namespace Buckets

/-! ## (1) Spans -/

def spanOf (as : List Access) : Option Rights := if as = [] then none else some ⟨interAll as, unionAll as⟩

theorem addTo_spanOf (as : List Access) (a : Access) : addTo (spanOf as) a = spanOf (as ++ [a]) := by
  cases as with
  | nil => simp [spanOf, addTo, Rights.unset, Rights.add]
  | cons b bs => simp [spanOf, addTo, Rights.add, interAll_append, unionAll_append, inter_assoc, union_assoc]

/-- The grants with one scope. -/
def grantsWith (scope : RepoScope) (gs : List (RepoScope × Access)) : List Access :=
  (gs.filter (·.1 == scope)).map (·.2)

theorem grantsWith_snoc (scope : RepoScope) (gs : List (RepoScope × Access)) (g : RepoScope × Access) :
    grantsWith scope (gs ++ [g]) = if g.1 = scope then grantsWith scope gs ++ [g.2] else grantsWith scope gs := by
  unfold grantsWith
  by_cases h : g.1 = scope <;> simp [h]

theorem ofGrants_snoc (gs : List (RepoScope × Access)) (g : RepoScope × Access) :
    ofGrants (gs ++ [g]) = (ofGrants gs).add g.1 g.2 := by
  simp [ofGrants]

theorem lookup_addToRepo (repo name : String) (a : Access) (buckets : List (String × Rights)) :
    (addToRepo repo a buckets).lookup name =
      if repo = name then addTo (buckets.lookup name) a else buckets.lookup name := by
  induction buckets with
  | nil =>
    by_cases h : repo = name
    · simp [addToRepo, addTo, h]
    · have hb : (name == repo) = false := by simpa using Ne.symm h
      simp [addToRepo, List.lookup_cons, hb, h]
  | cons b bs ih =>
    obtain ⟨key, rights⟩ := b
    unfold addToRepo
    by_cases hk : key = repo
    · subst hk
      by_cases h : key = name
      · simp [addTo, h]
      · have hb : (name == key) = false := by simpa using Ne.symm h
        simp [List.lookup_cons, hb, h]
    · rw [if_neg hk, List.lookup_cons, List.lookup_cons, ih]
      by_cases h : repo = name
      · have hb : (name == key) = false := by simpa [h] using Ne.symm hk
        rw [hb]
      · simp only [if_neg h]

theorem ofGrants_everywhere (gs : List (RepoScope × Access)) : (ofGrants gs).everywhere = spanOf (gs.map (·.2)) := by
  induction gs using List.reverseRecOn with
  | nil => rfl
  | append_singleton gs g ih =>
    rw [ofGrants_snoc, List.map_append, List.map_singleton, ← addTo_spanOf, ← ih]
    unfold add
    split <;> rfl

theorem ofGrants_anyRepo (gs : List (RepoScope × Access)) : (ofGrants gs).anyRepo = spanOf (grantsWith .any gs) := by
  induction gs using List.reverseRecOn with
  | nil => rfl
  | append_singleton gs g ih =>
    rw [ofGrants_snoc, grantsWith_snoc]
    unfold add
    split
    · rename_i h
      rw [if_pos h, ← addTo_spanOf, ← ih]
    · rename_i h
      rw [if_neg (by simp [h])]
      exact ih

theorem ofGrants_perRepo (gs : List (RepoScope × Access)) (repo : String) :
    (ofGrants gs).perRepo.lookup repo = spanOf (grantsWith (.named repo) gs) := by
  induction gs using List.reverseRecOn with
  | nil => rfl
  | append_singleton gs g ih =>
    rw [ofGrants_snoc, grantsWith_snoc]
    unfold add
    split
    · rename_i h
      rw [if_neg (by simp [h])]
      exact ih
    · rename_i name h
      simp only [h, lookup_addToRepo, RepoScope.named.injEq, ih]
      by_cases hn : name = repo <;> simp [hn, addTo_spanOf]

/-! ## (2) Regions -/

/-- Whether rules with a scope count in a repository, or everywhere. -/
def inRegion (scope : RepoScope) : Option String → Bool
  | none => true
  | some repo => scope == .any || scope == .named repo

/-- Whether rules with a scope are a region's own. -/
def isOwn (scope : RepoScope) : Option String → Bool
  | none => true
  | some repo => scope == .named repo

/-- The grants that count in a region. -/
def grantsIn (region : Option String) (gs : List (RepoScope × Access)) : List Access :=
  (gs.filter (inRegion ·.1 region)).map (·.2)

/-- The span of some grants in a region, and whether one of them is its own. -/
def regional (region : Option String) (gs : List (RepoScope × Access)) : Rights × Bool :=
  let found := gs.any (isOwn ·.1 region)
  (⟨if found then interAll (grantsIn region gs) else .none, unionAll (grantsIn region gs)⟩, found)

theorem mem_grantsWith {scope : RepoScope} {gs : List (RepoScope × Access)} {a : Access} :
    a ∈ grantsWith scope gs ↔ (scope, a) ∈ gs := by
  unfold grantsWith
  constructor
  · intro h
    obtain ⟨g, hg, rfl⟩ := List.mem_map.mp h
    obtain ⟨hg, hs⟩ := List.mem_filter.mp hg
    rw [← eq_of_beq hs]
    exact hg
  · intro h
    exact List.mem_map.mpr ⟨(scope, a), List.mem_filter.mpr ⟨h, beq_self_eq_true _⟩, rfl⟩

theorem mem_grantsIn {region : Option String} {gs : List (RepoScope × Access)} {a : Access} :
    a ∈ grantsIn region gs ↔ ∃ scope, inRegion scope region = true ∧ (scope, a) ∈ gs := by
  unfold grantsIn
  constructor
  · intro h
    obtain ⟨g, hg, rfl⟩ := List.mem_map.mp h
    obtain ⟨hg, hs⟩ := List.mem_filter.mp hg
    exact ⟨g.1, hs, hg⟩
  · intro h
    obtain ⟨scope, hs, h⟩ := h
    exact List.mem_map.mpr ⟨(scope, a), List.mem_filter.mpr ⟨h, hs⟩, rfl⟩

theorem mem_grantsIn_some {repo : String} {gs : List (RepoScope × Access)} {a : Access} :
    a ∈ grantsIn (some repo) gs ↔ a ∈ grantsWith (.named repo) gs ++ grantsWith .any gs := by
  rw [mem_grantsIn, List.mem_append, mem_grantsWith, mem_grantsWith]
  constructor
  · intro h
    obtain ⟨scope, hs, h⟩ := h
    simp only [inRegion, Bool.or_eq_true, beq_iff_eq] at hs
    rcases hs with rfl | rfl
    · exact Or.inr h
    · exact Or.inl h
  · intro h
    rcases h with h | h
    · exact ⟨.named repo, by simp [inRegion], h⟩
    · exact ⟨.any, by simp [inRegion], h⟩

theorem any_isOwn_some (repo : String) (gs : List (RepoScope × Access)) :
    gs.any (isOwn ·.1 (some repo)) = (spanOf (grantsWith (.named repo) gs)).isSome := by
  rw [Bool.eq_iff_iff, List.any_eq_true]
  constructor
  · intro h
    obtain ⟨⟨scope, a⟩, hg, hs⟩ := h
    have hscope : scope = .named repo := beq_iff_eq.mp hs
    have ha : a ∈ grantsWith (.named repo) gs := mem_grantsWith.mpr (hscope ▸ hg)
    simp [spanOf, List.ne_nil_of_mem ha]
  · intro h
    have hne : grantsWith (.named repo) gs ≠ [] := by
      intro he; simp [spanOf, he] at h
    obtain ⟨a, ha⟩ := List.exists_mem_of_ne_nil _ hne
    exact ⟨(.named repo, a), mem_grantsWith.mp ha, beq_self_eq_true (RepoScope.named repo)⟩

theorem rights_ofGrants (gs : List (RepoScope × Access)) (region : Option String) :
    (ofGrants gs).rights region = regional region gs := by
  cases region with
  | none =>
    have hall : grantsIn none gs = gs.map (·.2) := by simp [grantsIn, inRegion]
    unfold rights regional
    rw [ofGrants_everywhere, hall]
    cases gs with
    | nil => rfl
    | cons g gs => simp [spanOf, isOwn]
  | some repo =>
    have hfloor : interAll (grantsIn (some repo) gs) =
        interAll (grantsWith (.named repo) gs) ∩ interAll (grantsWith .any gs) := by
      rw [← interAll_append]
      exact Access.interAll_congr fun a => mem_grantsIn_some
    have hceiling : unionAll (grantsIn (some repo) gs) =
        unionAll (grantsWith (.named repo) gs) ∪ unionAll (grantsWith .any gs) := by
      rw [← unionAll_append]
      exact Access.unionAll_congr fun a => mem_grantsIn_some
    simp only [rights, regional, ofGrants_anyRepo, ofGrants_perRepo, any_isOwn_some, hfloor, hceiling, spanOf]
    by_cases hown : grantsWith (.named repo) gs = [] <;> by_cases hany : grantsWith .any gs = [] <;>
      simp [hown, hany, Rights.none, Rights.combine]

/-! ## (3) Bounds -/

theorem floor_subset_of_mem {region : Option String} {gs : List (RepoScope × Access)} {a : Access}
    (h : a ∈ grantsIn region gs) : (regional region gs).1.floor ⊆ a := by
  simp only [regional]
  split
  · exact Access.interAll_subset h
  · exact Access.none_subset a

theorem subset_ceiling_of_mem {region : Option String} {gs : List (RepoScope × Access)} {a : Access}
    (h : a ∈ grantsIn region gs) : a ⊆ (regional region gs).1.ceiling :=
  Access.subset_unionAll h

theorem inRegion_of_isOwn {scope : RepoScope} {region : Option String} (h : isOwn scope region = true) :
    inRegion scope region = true := by
  cases region with
  | none => rfl
  | some repo => simp only [inRegion, isOwn] at h ⊢; rw [h, Bool.or_true]

theorem regional_congr {region : Option String} {gs hs : List (RepoScope × Access)}
    (h : gs.filter (inRegion ·.1 region) = hs.filter (inRegion ·.1 region)) :
    regional region gs = regional region hs := by
  have hfound : ∀ ks : List (RepoScope × Access),
      ks.any (isOwn ·.1 region) = (ks.filter (inRegion ·.1 region)).any (isOwn ·.1 region) := by
    intro ks
    rw [List.any_filter]
    congr 1
    funext k
    cases hk : isOwn k.1 region
    · simp
    · simp [inRegion_of_isOwn hk]
  unfold regional grantsIn
  rw [hfound gs, hfound hs, h]

theorem regional_congr_of_mem {region : Option String} {gs hs : List (RepoScope × Access)} (h : ∀ g, g ∈ gs ↔ g ∈ hs) :
    regional region gs = regional region hs := by
  have hfound : gs.any (isOwn ·.1 region) = hs.any (isOwn ·.1 region) := by
    rw [Bool.eq_iff_iff, List.any_eq_true, List.any_eq_true]
    simp only [h]
  have hin : ∀ a, a ∈ grantsIn region gs ↔ a ∈ grantsIn region hs := by
    intro a
    simp only [mem_grantsIn, h]
  unfold regional
  rw [hfound, Access.interAll_congr hin, Access.unionAll_congr hin]

theorem grantsIn_cons (region : Option String) (g : RepoScope × Access) (gs : List (RepoScope × Access)) :
    grantsIn region (g :: gs) = if inRegion g.1 region then g.2 :: grantsIn region gs else grantsIn region gs := by
  unfold grantsIn
  by_cases h : inRegion g.1 region = true <;> simp [h]

section

variable {gs hs : List (RepoScope × Access)} (h : List.Forall₂ (fun g k => g.1 = k.1 ∧ g.2 ⊆ k.2) gs hs)

include h

theorem grantsIn_mono (region : Option String) : List.Forall₂ (· ⊆ ·) (grantsIn region gs) (grantsIn region hs) := by
  induction h with
  | nil => exact .nil
  | cons hgk _ ih =>
    rw [grantsIn_cons, grantsIn_cons, hgk.1]
    split
    · exact .cons hgk.2 ih
    · exact ih

theorem any_isOwn_eq (region : Option String) : gs.any (isOwn ·.1 region) = hs.any (isOwn ·.1 region) := by
  induction h with
  | nil => rfl
  | cons hgk _ ih => rw [List.any_cons, List.any_cons, ih, hgk.1]

theorem regional_mono (region : Option String) :
    (regional region gs).1.floor ⊆ (regional region hs).1.floor ∧
    (regional region gs).1.ceiling ⊆ (regional region hs).1.ceiling ∧
    (regional region gs).2 = (regional region hs).2 := by
  have hin := grantsIn_mono h region
  have hfound := any_isOwn_eq h region
  refine ⟨?_, Access.unionAll_mono hin, hfound⟩
  simp only [regional, hfound]
  split
  · exact Access.interAll_mono hin
  · exact Access.Subset.refl _

end

end Buckets

end PathAuthz
