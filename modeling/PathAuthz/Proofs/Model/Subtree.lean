/-
  PathAuthz.Proofs.Model.Subtree — what is granted on a whole subtree holds everywhere in it.

  The answer for a subtree looks at one path and at the floor of the identity's rights, and at
  no path below.
  - A rule that decides somewhere in a repository is in the region whose floor is taken
    (`inRegion_of_appliesTo`), so the floor lies below what it grants.
  - Where no rule decides on a path, none does on the paths above it
    (`effectiveAccess_eq_none_above`), so nothing was granted there.
  Together: `effectiveAccess_recursive_subset`, on every path at or below the one in question.
-/

import PathAuthz.Proofs.Model.Lookup
import PathAuthz.Proofs.Model.Precedence

namespace PathAuthz.Model

theorem inRegion_of_appliesTo {scope : RepoScope} {repo : String} (h : scope.appliesTo repo = true) :
    Buckets.inRegion scope (repoGiven repo) = true := by
  unfold repoGiven
  split
  · rfl
  · cases scope with
    | any => rfl
    | named name =>
      have hname : name = repo := beq_iff_eq.mp (Bool.and_eq_true_iff.mp h).2
      simp [Buckets.inRegion, hname]

variable {m : Model} {repo p q : String} {who : Identity}

theorem effectiveAccess_eq_none_above (hpq : Path.components p <+: Path.components q)
    (hq : ∀ depth ≤ (Path.components q).length, m.candidates repo who ((Path.components q).take depth) = []) :
    m.effectiveAccess repo p who false = .none := by
  rcases accessUpTo_cases m repo who (Path.components p) (Path.components p).length with
    ⟨hnone, -⟩ | ⟨r, depth, hdepth, hmem, -, -⟩
  · exact hnone
  · obtain ⟨rest, hrest⟩ := hpq
    have hle : depth ≤ (Path.components q).length := by
      rw [← hrest, List.length_append]
      omega
    have hempty := hq depth hle
    rw [← hrest, List.take_append_of_le_length hdepth] at hempty
    rw [hempty] at hmem
    cases hmem

/-- What is granted from a path down is granted on each path from there down. -/
theorem effectiveAccess_recursive_subset {rules : String} {groups : Option String} (hload : load rules groups = .ok m)
    (repo : String) (who : Identity) (hpq : Path.components p <+: Path.components q) :
    m.effectiveAccess repo p who true ⊆ m.effectiveAccess repo q who false ∧
      ∀ required, m.check repo p who required true = true → m.check repo q who required false = true := by
  obtain ⟨d, hd, hm⟩ := isOf_load hload
  have hsub : m.effectiveAccess repo p who true ⊆ m.effectiveAccess repo q who false := by
    rw [effectiveAccess_recursive]
    rcases accessUpTo_cases m repo who (Path.components q) (Path.components q).length with
      ⟨-, hall⟩ | ⟨r, depth, -, hmem, -, -⟩
    · rw [effectiveAccess_eq_none_above hpq hall, Access.none_inter]
      exact Access.none_subset _
    · obtain ⟨hr, hscope, -, ha⟩ := mem_candidates_iff.mp hmem
      have hfloor := hm.floor_lookupRights_subset hd hr (inRegion_of_appliesTo hscope) ha
      exact Access.Subset.trans (Access.inter_subset_right _ _) hfloor
  exact ⟨hsub, fun required h => Access.satisfies_mono hsub h⟩

/-- A subtree is granted to a user whom no rule names, and so is a path in it. -/
theorem effectiveAccess_recursive_subset_unnamed :
    ∃ m, load "[a:/]\n$authenticated = rw\n[:glob:a:/**/log]\n$authenticated = r\n" none = .ok m ∧
      m.check "a" "/src" (.user "eve") .reading true = true ∧ m.check "a" "/src/log" (.user "eve") .reading false = true := by
  have hload : (load "[a:/]\n$authenticated = rw\n[:glob:a:/**/log]\n$authenticated = r\n" none).toOption.any
      (fun m => m.check "a" "/src" (.user "eve") .reading true) = true := by decide +kernel
  obtain ⟨m, hm, hcheck⟩ := exists_ok_of_any hload
  have hbelow : Path.components "/src" <+: Path.components "/src/log" := by decide +kernel
  exact ⟨m, hm, hcheck, (effectiveAccess_recursive_subset hm "a" (.user "eve") hbelow).2 .reading hcheck⟩

end PathAuthz.Model
