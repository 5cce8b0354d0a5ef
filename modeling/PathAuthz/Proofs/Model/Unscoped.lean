/-
  PathAuthz.Proofs.Model.Unscoped — rules that are for no repository in particular.

  (1) If no section is for one repository, every rule has a say in every repository
  (`scope_of_unscoped`), so on a path all repositories are decided alike.

  (2) On a subtree the name of a repository does matter, because a floor is owed to a
  repository's own rules only: with a name nothing at all is guaranteed
  (`floor_of_unscoped`), and without one all rules count. `effectiveAccess_of_unscoped` has
  both.
-/

import PathAuthz.Proofs.Model.Isolation

namespace PathAuthz

open Source
open Buckets (regional inRegion isOwn)

/-! ## (1) Scopes -/

/-- Whether a section is for one repository. -/
def Source.Section.isScoped (s : Section) : Bool :=
  s.isRule && (RuleHeader.read s.heading).toOption.any (·.repo.isSome)

namespace Model

namespace IsOf

variable {m : Model} {d : Draft} {ss : List Section}

theorem scope_of_unscoped (hm : m.IsOf d) (hd : d.IsOf ss) (hss : ∀ s ∈ ss, s.isScoped = false) {r : Rule}
    (hr : r ∈ m.rules) : r.scope = .any := by
  obtain ⟨i, hi⟩ := List.mem_iff_getElem?.mp hr
  obtain ⟨s, w, hs, hsw, hwr⟩ := hm.section_of_rule hd hi
  obtain ⟨hs, hrule⟩ := List.mem_filter.mp (List.mem_of_getElem? hs)
  obtain ⟨w₀, gs, hw₀, -, -⟩ := WrittenRule.ofSection?_eq_some hsw
  obtain ⟨header, hheader, -, -⟩ := WrittenRule.ofHeading?_eq_some hw₀
  have hunscoped : header.repo.isSome = false := by
    have hs := hss s hs
    rwa [Section.isScoped, hrule, hheader, Bool.true_and] at hs
  have hrepo : header.repo = none := by simpa using hunscoped
  rw [scope_of_section hheader hsw hwr, RuleHeader.scope, hrepo]

end IsOf

variable {m : Model} {d : Draft} {ss : List Section}

theorem deciding_of_any (h : ∀ r ∈ m.rules, r.scope = .any) (repo : String) (who : Identity) (components : List String) :
    m.deciding repo who components = m.deciding "" who components := by
  have hcandidates : m.candidates repo who components = m.candidates "" who components :=
    List.filterMap_congr fun r hr => by simp only [h r hr, RepoScope.appliesTo]
  rw [deciding, deciding, hcandidates]

theorem effectiveAccess_of_any (h : ∀ r ∈ m.rules, r.scope = .any) (repo path : String) (who : Identity) :
    m.effectiveAccess repo path who false = m.effectiveAccess "" path who false := by
  refine accessUpTo_of_deciding rfl (fun components => ?_) _ _
  rw [deciding_of_any h]
  cases m.deciding "" who components with
  | none => exact .none
  | some c => exact .some rfl

/-! ## (2) Floors -/

theorem floor_of_not_found {region : Option String} {gs : List (RepoScope × Access)} (h : (regional region gs).2 = false) :
    (regional region gs).1.floor = .none := by
  simp only [regional] at h ⊢
  rw [h]
  rfl

theorem floor_of_unscoped (hm : m.IsOf d) (hd : d.IsOf ss) (h : ∀ r ∈ m.rules, r.scope = .any) (who : Identity)
    (repo : String) : (m.lookupRights who (some repo)).1.floor = .none := by
  have hfound : (regional (some repo) (m.grantsTo who)).2 = false := by
    rw [Bool.eq_false_iff]
    intro hfound
    obtain ⟨⟨scope, a⟩, hg, hown⟩ := List.any_eq_true.mp hfound
    obtain ⟨r, hr, rfl, -⟩ := RightsTable.mem_grants_iff.mp hg
    rw [h r hr] at hown
    cases hown
  cases hp : pooled ss who
  · rw [hm.lookupRights_of_not_pooled hd hp, floor_of_not_found hfound]
  · rw [hm.lookupRights_of_pooled hd hp, floor_of_not_found hfound, Access.none_inter]

/-- Where no section is for one repository, the name of a repository changes nothing on a path, and takes every guarantee
    from a subtree. -/
theorem effectiveAccess_of_unscoped {rules : String} {groups : Option String} (hload : load rules groups = .ok m)
    (hss : ∀ s ∈ sectionsOfTexts rules groups, s.isScoped = false) (repo path : String) (who : Identity) :
    m.effectiveAccess repo path who false = m.effectiveAccess "" path who false ∧
    (∀ required, m.check repo path who required false = m.check "" path who required false) ∧
    (repo ≠ "" → m.effectiveAccess repo path who true = .none ∧
      ∀ required, m.check repo path who required true = decide (required = .none)) := by
  obtain ⟨d, hd, hm⟩ := isOf_load hload
  have hany : ∀ r ∈ m.rules, r.scope = .any := fun r hr => hm.scope_of_unscoped hd hss hr
  have hpath := effectiveAccess_of_any hany repo path who
  refine ⟨hpath, fun required => by rw [check, check, hpath], fun hrepo => ?_⟩
  have hsubtree : m.effectiveAccess repo path who true = .none := by
    rw [effectiveAccess_recursive, repoGiven_of_ne hrepo, floor_of_unscoped hm hd hany, Access.inter_none]
  refine ⟨hsubtree, fun required => ?_⟩
  rw [check, hsubtree, Bool.eq_iff_iff, Access.satisfies_iff, Access.subset_none_iff, decide_eq_true_iff]

theorem effectiveAccess_of_unscoped_greek :
    ∃ m, load "[/]\n* = r\n" none = .ok m ∧ m.effectiveAccess "greek" "/A" .anonymous false = .reading ∧
      m.check "greek" "/A" .anonymous .reading true = false := by
  have hload : (load "[/]\n* = r\n" none).toOption.any
      (fun m => decide (m.effectiveAccess "" "/A" .anonymous false = .reading)) = true := by decide +kernel
  obtain ⟨m, hm, hread⟩ := exists_ok_of_any hload
  have hss : ∀ s ∈ sectionsOfTexts "[/]\n* = r\n" none, s.isScoped = false := by decide +kernel
  obtain ⟨hpath, -, hsubtree⟩ := effectiveAccess_of_unscoped hm hss "greek" "/A" .anonymous
  refine ⟨m, hm, hpath.trans (of_decide_eq_true hread), ?_⟩
  rw [(hsubtree (by decide)).2]
  decide

/-- Everyone may read everything, and yet no named repository is all readable. -/
theorem a_repository_name_takes_the_floor_away :
    ∃ m, load "[/]\n* = r\n" none = .ok m ∧ (∀ s ∈ sectionsOfTexts "[/]\n* = r\n" none, s.isScoped = false) ∧
      m.effectiveAccess "" "/" .anonymous true = .reading ∧ m.effectiveAccess "greek" "/" .anonymous true = .none := by
  have hload : (load "[/]\n* = r\n" none).toOption.any (fun m =>
      decide (m.effectiveAccess "" "/" .anonymous true = .reading) &&
        decide (m.effectiveAccess "greek" "/" .anonymous true = .none)) = true := by decide +kernel
  obtain ⟨m, hm, haccess⟩ := exists_ok_of_any hload
  simp only [Bool.and_eq_true, decide_eq_true_eq] at haccess
  exact ⟨m, hm, by decide +kernel, haccess⟩

end Model

end PathAuthz
