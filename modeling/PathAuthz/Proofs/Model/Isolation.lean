/-
  PathAuthz.Proofs.Model.Isolation — a section for one repository, seen from another.

  (1) A section for one repository has no say in another and is out of its region
  (`scope_out_of_sight`), so there the same rules decide and the same grants count as before
  (`alike_of_section`).

  (2) A new section may still name a user, or grant to every authenticated user, and so make a
  user pooled who was not. That alone can be noticed in another repository, and only as a
  lower floor: `isolated_from_section` has the exact change, and no change for anybody else.
-/

import PathAuthz.Proofs.Model.Answers
import PathAuthz.Proofs.Model.Insertion

namespace PathAuthz

open Source
open Buckets (regional inRegion)

/-! ## (1) Out of sight -/

theorem Source.Section.isRule_of_read {s : Section} {header : RuleHeader}
    (h : RuleHeader.read s.heading = .ok header) : s.isRule = true := by
  have hgroups : (RuleHeader.read "groups").isOk = false := by decide +kernel
  have haliases : (RuleHeader.read "aliases").isOk = false := by decide +kernel
  have hne : s.heading ≠ "groups" ∧ s.heading ≠ "aliases" := by
    refine ⟨fun he => ?_, fun he => ?_⟩
    · rw [← he, h] at hgroups; cases hgroups
    · rw [← he, h] at haliases; cases haliases
  simp [isRule, hne.1, hne.2]

theorem scope_of_section {d : Draft} {roster : Roster} {seq : Nat} {s : Section} {w : WrittenRule} {r : Rule}
    {header : RuleHeader} (hheader : RuleHeader.read s.heading = .ok header)
    (hw : WrittenRule.ofSection? seq s = some w) (hr : Rule.ofWritten d roster w = .ok r) :
    r.scope = header.scope := by
  obtain ⟨header', hheader', hscope, -⟩ := Rule.header_of_section hw hr
  rw [hheader] at hheader'
  cases hheader'
  exact hscope

theorem scope_out_of_sight {repo other : String} (h : other ≠ repo) :
    (RepoScope.named repo).appliesTo other = false ∧ inRegion (.named repo) (some other) = false := by
  have hne : repo ≠ other := fun he => h he.symm
  constructor
  · simp [RepoScope.appliesTo, hne]
  · simp [inRegion, hne]

/-- Seen from another repository, the same rules decide and the same grants are in the region. -/
theorem Model.alike_of_section {m m' : Model} {d d' : Draft} {before after : List Section} {s : Section}
    (hm : m.IsOf d) (hd : d.IsOf (before ++ after)) (hm' : m'.IsOf d') (hd' : d'.IsOf (before ++ s :: after))
    {header : RuleHeader} (hheader : RuleHeader.read s.heading = .ok header) {repo other : String}
    (hrepo : header.repo = some repo) (hother : other ≠ repo) (who : Identity) :
    (∀ path, m'.effectiveAccess other path who false = m.effectiveAccess other path who false) ∧
    regional (some other) (m'.grantsTo who) = regional (some other) (m.grantsTo who) ∧
    regional (some other) m'.grantsToAll = regional (some other) m.grantsToAll := by
  obtain ⟨k, x, w, hinserts, hw, hx⟩ := inserts_of_sections hm hd hm' hd' (Section.isRule_of_read hheader)
  have hscope : x.scope = .named repo := by rw [scope_of_section hheader hw hx, RuleHeader.scope, hrepo]
  obtain ⟨happlies, hregion⟩ := scope_out_of_sight hother
  rw [← hscope] at happlies hregion
  refine ⟨fun path => effectiveAccess_of_inserts hinserts happlies path who, ?_, ?_⟩
  · exact regional_of_inserts hinserts hregion fun r => r.accessFor_shift k who
  · exact regional_of_inserts hinserts hregion fun r => r.shift_authenticated k

/-! ## (2) Isolation -/

theorem pooled_mono {before after : List Section} {s : Section} {who : Identity}
    (h : pooled (before ++ after) who = true) : pooled (before ++ s :: after) who = true := by
  have hany : ∀ p : Section → Bool, (before ++ after).any p = true → (before ++ s :: after).any p = true := by
    intro p hp
    simp only [List.any_append, List.any_cons, Bool.or_eq_true] at hp ⊢
    tauto
  cases who with
  | anonymous => cases h
  | user user =>
    obtain ⟨hnames, hall⟩ := Bool.and_eq_true_iff.mp h
    exact Bool.and_eq_true_iff.mpr ⟨hany _ hnames, hany _ hall⟩

namespace Model

/-- What a section for one repository changes in another: the floor of users whom it makes
    pooled falls to that of the grants to all, and nothing else. -/
theorem isolated_from_section {old new : String} {groups : Option String} {m m' : Model}
    (hold : load old groups = .ok m) (hnew : load new groups = .ok m') {before after : List Section} {s : Section}
    (hbefore : sections old = before ++ after) (hafter : sections new = before ++ s :: after) {header : RuleHeader}
    (hheader : RuleHeader.read s.heading = .ok header) {repo other : String} (hrepo : header.repo = some repo)
    (hother : other ≠ repo) (hgiven : other ≠ "") (who : Identity) :
    (∀ path, m'.effectiveAccess other path who false = m.effectiveAccess other path who false) ∧
    (∀ path required, m'.check other path who required false = m.check other path who required false) ∧
    (∀ required, m'.checkAnywhere other who required = m.checkAnywhere other who required) ∧
    (pooled (sectionsOfTexts new groups) who = pooled (sectionsOfTexts old groups) who →
      m'.lookupRights who (some other) = m.lookupRights who (some other) ∧
      (∀ path, m'.effectiveAccess other path who true = m.effectiveAccess other path who true) ∧
      ∀ path required, m'.check other path who required true = m.check other path who required true) ∧
    (pooled (sectionsOfTexts new groups) who ≠ pooled (sectionsOfTexts old groups) who →
      m'.lookupRights who (some other) =
        (⟨(m.lookupRights who (some other)).1.floor ∩ (regional (some other) m.grantsToAll).1.floor,
          (m.lookupRights who (some other)).1.ceiling⟩, (m.lookupRights who (some other)).2) ∧
      ∀ path, m'.effectiveAccess other path who true =
        m.effectiveAccess other path who true ∩ (regional (some other) m.grantsToAll).1.floor) := by
  obtain ⟨d, hd, hm⟩ := isOf_load hold
  obtain ⟨d', hd', hm'⟩ := isOf_load hnew
  have hss : sectionsOfTexts old groups = (groups.toList.flatMap sections ++ before) ++ after := by
    rw [sectionsOfTexts, hbefore, List.append_assoc]
  have hss' : sectionsOfTexts new groups = (groups.toList.flatMap sections ++ before) ++ s :: after := by
    rw [sectionsOfTexts, hafter, List.append_assoc]
  obtain ⟨hpath, hto, hall⟩ := alike_of_section hm (hss ▸ hd) hm' (hss' ▸ hd') hheader hrepo hother who
  have hsame := lookupRights_of_same_pooled hm hd hm' hd' hto hall
  have hnarrowed : pooled (sectionsOfTexts new groups) who ≠ pooled (sectionsOfTexts old groups) who →
      m'.lookupRights who (some other) =
        (⟨(m.lookupRights who (some other)).1.floor ∩ (regional (some other) m.grantsToAll).1.floor,
          (m.lookupRights who (some other)).1.ceiling⟩, (m.lookupRights who (some other)).2) := by
    intro hp
    have hmono : pooled (sectionsOfTexts old groups) who = true → pooled (sectionsOfTexts new groups) who = true := by
      rw [hss, hss']
      exact pooled_mono
    cases hp₀ : pooled (sectionsOfTexts old groups) who
    · exact lookupRights_of_newly_pooled hm hd hm' hd' hto hall hp₀ (Bool.of_not_eq_false (hp₀ ▸ hp))
    · exact absurd ((hmono hp₀).trans hp₀.symm) hp
  have hceiling : (m'.lookupRights who (some other)).1.ceiling = (m.lookupRights who (some other)).1.ceiling := by
    by_cases hp : pooled (sectionsOfTexts new groups) who = pooled (sectionsOfTexts old groups) who
    · rw [hsame hp]
    · rw [hnarrowed hp]
  refine ⟨hpath, ?_, ?_, ?_, ?_⟩
  · intro path required
    rw [check, check, hpath]
  · intro required
    rw [checkAnywhere, checkAnywhere, repoGiven_of_ne hgiven, hceiling]
  · intro hp
    have hrec : ∀ path, m'.effectiveAccess other path who true = m.effectiveAccess other path who true := by
      intro path
      rw [effectiveAccess_recursive, effectiveAccess_recursive, repoGiven_of_ne hgiven, hpath, hsame hp]
    exact ⟨hsame hp, hrec, fun path required => by rw [check, check, hrec]⟩
  · intro hp
    refine ⟨hnarrowed hp, fun path => ?_⟩
    rw [effectiveAccess_recursive, effectiveAccess_recursive, repoGiven_of_ne hgiven, hpath, hnarrowed hp,
      Access.inter_assoc]

/-- A user whom no rule names sees nothing of a section elsewhere, nor does a named one on a single path. -/
theorem isolated_from_section_unnamed :
    ∃ m m', load "[a:/]\nbob = rw\n" none = .ok m ∧ load "[a:/]\nbob = rw\n[x:/]\n$authenticated = r\n" none = .ok m' ∧
      m'.lookupRights (.user "eve") (some "a") = m.lookupRights (.user "eve") (some "a") ∧
      m'.effectiveAccess "a" "/" (.user "bob") false = m.effectiveAccess "a" "/" (.user "bob") false := by
  have hold : (load "[a:/]\nbob = rw\n" none).toOption.any (fun _ => true) = true := by decide +kernel
  have hnew : (load "[a:/]\nbob = rw\n[x:/]\n$authenticated = r\n" none).toOption.any (fun _ => true) = true := by
    decide +kernel
  obtain ⟨m, hm, -⟩ := exists_ok_of_any hold
  obtain ⟨m', hm', -⟩ := exists_ok_of_any hnew
  have hbefore : sections "[a:/]\nbob = rw\n" = [⟨"a:/", [("bob", "rw")]⟩] ++ [] := by decide +kernel
  have hafter : sections "[a:/]\nbob = rw\n[x:/]\n$authenticated = r\n" =
      [⟨"a:/", [("bob", "rw")]⟩] ++ ⟨"x:/", [("$authenticated", "r")]⟩ :: [] := by decide +kernel
  have hheader : RuleHeader.read "x:/" = .ok ⟨false, some "x", "/"⟩ := by decide +kernel
  have hother : "a" ≠ "x" := by decide
  obtain ⟨-, -, -, hsame, -⟩ :=
    isolated_from_section hm hm' hbefore hafter hheader rfl hother (by decide) (.user "eve")
  obtain ⟨hpath, -⟩ := isolated_from_section hm hm' hbefore hafter hheader rfl hother (by decide) (.user "bob")
  exact ⟨m, m', hm, hm', (hsame (by decide +kernel)).1, hpath "/"⟩

/-- A grant to every authenticated user in one repository takes a guarantee in another from a user. -/
theorem a_grant_to_all_lowers_a_floor_elsewhere :
    ∃ m m' before after s header, load "[a:/]\nbob = rw\n" none = .ok m ∧
      load "[a:/]\nbob = rw\n[x:/]\n$authenticated = r\n" none = .ok m' ∧
      sections "[a:/]\nbob = rw\n" = before ++ after ∧
      sections "[a:/]\nbob = rw\n[x:/]\n$authenticated = r\n" = before ++ s :: after ∧
      RuleHeader.read s.heading = .ok header ∧ header.repo = some "x" ∧
      m.check "a" "/" (.user "bob") .all true = true ∧ m'.check "a" "/" (.user "bob") .all true = false := by
  have hold : (load "[a:/]\nbob = rw\n" none).toOption.any
      (fun m => m.check "a" "/" (.user "bob") .all true) = true := by decide +kernel
  have hnew : (load "[a:/]\nbob = rw\n[x:/]\n$authenticated = r\n" none).toOption.any
      (fun m => !m.check "a" "/" (.user "bob") .all true) = true := by decide +kernel
  obtain ⟨m, hm, hcheck⟩ := exists_ok_of_any hold
  obtain ⟨m', hm', hcheck'⟩ := exists_ok_of_any hnew
  exact ⟨m, m', [⟨"a:/", [("bob", "rw")]⟩], [], ⟨"x:/", [("$authenticated", "r")]⟩, ⟨false, some "x", "/"⟩, hm, hm',
    by decide +kernel, by decide +kernel, by decide +kernel, rfl, hcheck, by simpa using hcheck'⟩

end Model

end PathAuthz
