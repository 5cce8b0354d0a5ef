/-
  PathAuthz.Proofs.Model.Anonymous — what is answered to those who are not authenticated.

  (1) Three names of options take in the anonymous, with no regard to groups, aliases or anything
  else in the texts (`anonymousNames`). Sections that have the same options under these names
  grant the anonymous the same, whatever else they say and in whatever order
  (`granted_congr`).

  (2) The anonymous are never pooled, so nothing that is granted to others reaches their
  look-ups either. Texts whose rule sections are the same for the anonymous one by one answer
  them the same (`anonymous_answers`).
-/

import PathAuthz.Proofs.Model.Answers
import PathAuthz.Proofs.Model.Revision

namespace PathAuthz

open Source

/-! ## (1) Options for the anonymous -/

def anonymousNames : List String := ["*", "$anonymous", "~$authenticated"]

theorem optionApplies_anonymous_iff {ss : List Section} {roster : Roster} {option : String} :
    optionApplies ss roster option .anonymous = true ↔ option ∈ anonymousNames := by
  simp [optionApplies, anonymousNames, or_assoc]

namespace Source.Section

/-- Sections with one heading and the same options for the anonymous. -/
structure SameForAnonymous (s s' : Section) : Prop where
  heading : s.heading = s'.heading
  options : ∀ o : String × String, o.1 ∈ anonymousNames → (o ∈ s.options ↔ o ∈ s'.options)

theorem granted_congr {s s' : Section} {p : String → Bool}
    (h : ∀ o, p o.1 = true → (o ∈ s.options ↔ o ∈ s'.options)) : s.granted p = s'.granted p := by
  have hpart : ∀ (o : String × String) (a : Access),
      Grant.onlyIf (p o.1) (rightsOf o.2) = some a → p o.1 = true := by
    intro o a ha
    by_contra hp
    rw [Bool.not_eq_true] at hp
    rw [hp, Grant.onlyIf_false] at ha
    cases ha
  apply Grant.gather_congr
  intro a
  rw [List.mem_map, List.mem_map]
  constructor
  · intro hmem
    obtain ⟨o, ho, ha⟩ := hmem
    exact ⟨o, (h o (hpart o a ha)).mp ho, ha⟩
  · intro hmem
    obtain ⟨o, ho, ha⟩ := hmem
    exact ⟨o, (h o (hpart o a ha)).mpr ho, ha⟩

end Source.Section

/-! ## (2) Answers -/

namespace Model

/-- Anonymous access rests on the anonymous entries alone: texts that load and have the same rule headings with the same
    options for the anonymous answer them the same, whatever they grant to users, to groups and to the authenticated,
    and whatever groups and aliases they define. -/
theorem anonymous_answers {rules rules' : String} {groups groups' : Option String} {m m' : Model}
    (hload : load rules groups = .ok m) (hload' : load rules' groups' = .ok m')
    (h : List.Forall₂ Section.SameForAnonymous ((sections rules).filter Section.isRule)
      ((sections rules').filter Section.isRule)) : SameAnswers m m' .anonymous := by
  rw [← (textsCompile_of_load hload).filter_isRule, ← (textsCompile_of_load hload').filter_isRule] at h
  obtain ⟨d, hd, hm⟩ := isOf_load hload
  obtain ⟨d', hd', hm'⟩ := isOf_load hload'
  have hto : List.Forall₂ (Rule.Alike Eq (·.accessFor .anonymous)) m.rules m'.rules := by
    refine hm.accessFor_alike_of_sections hd hm' hd' (fun _ => rfl) (h.imp fun s s' hs => ⟨hs.heading, ?_⟩)
    apply rel_of_eq (fun _ => rfl)
    apply Section.granted_congr
    intro o ho
    exact hs.options o (optionApplies_anonymous_iff.mp ho)
  exact sameAnswers_of_not_pooled hm hd hm' hd' hto rfl rfl

/-- What a group is kept from, and what the authenticated get, is no matter of the anonymous. -/
theorem anonymous_answers_outsiders :
    ∃ m m', load "[groups]\nteam = bob\n[a:/]\n~@team = rw\n* = r\n" none = .ok m ∧
      load "[a:/]\n* = r\n$authenticated = rw\nbob =\n" none = .ok m' ∧
      m'.effectiveAccess "a" "/x" .anonymous true = m.effectiveAccess "a" "/x" .anonymous true ∧
      m'.lookupRights .anonymous (some "a") = m.lookupRights .anonymous (some "a") := by
  have hold : (load "[groups]\nteam = bob\n[a:/]\n~@team = rw\n* = r\n" none).toOption.any (fun _ => true) = true := by
    decide +kernel
  have hnew : (load "[a:/]\n* = r\n$authenticated = rw\nbob =\n" none).toOption.any (fun _ => true) = true := by
    decide +kernel
  obtain ⟨m, hm, -⟩ := exists_ok_of_any hold
  obtain ⟨m', hm', -⟩ := exists_ok_of_any hnew
  have hrules : (sections "[groups]\nteam = bob\n[a:/]\n~@team = rw\n* = r\n").filter Section.isRule =
      [⟨"a:/", [("~@team", "rw"), ("*", "r")]⟩] := by decide +kernel
  have hrules' : (sections "[a:/]\n* = r\n$authenticated = rw\nbob =\n").filter Section.isRule =
      [⟨"a:/", [("*", "r"), ("$authenticated", "rw"), ("bob", "")]⟩] := by decide +kernel
  have hsame : Section.SameForAnonymous ⟨"a:/", [("~@team", "rw"), ("*", "r")]⟩
      ⟨"a:/", [("*", "r"), ("$authenticated", "rw"), ("bob", "")]⟩ := by
    refine ⟨rfl, ?_⟩
    intro o ho
    obtain ⟨name, value⟩ := o
    simp only [anonymousNames, List.mem_cons, List.not_mem_nil, or_false] at ho
    rcases ho with rfl | rfl | rfl <;> simp
  have hanswers := anonymous_answers hm hm' (by rw [hrules, hrules']; exact .cons hsame .nil)
  exact ⟨m, m', hm, hm', hanswers.effectiveAccess "a" "/x" true, hanswers.lookupRights (some "a")⟩

end Model

end PathAuthz
