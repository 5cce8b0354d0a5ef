/-
  PathAuthz.Proofs.Model.Widening — a grant that is widened.

  (1) A section `Widens` another one if it has the same options, each of them with at least the
  same rights. Whatever its options grant together is wider then, and present for the same
  reasons (`granted_mono`).

  (2) Which rule decides on a path does not depend on what the rules grant, and a look-up sums up
  what they grant. So where every rule grants an identity at least as much, and all who are
  authenticated, it is answered more or the same (`effectiveAccess_mono`, `lookupRights_mono`), and
  found in the same regions. `WiderAnswers` has all questions.

  (3) That is so of texts that differ in the rights of one entry (`widened_grant`).
-/

import PathAuthz.Proofs.Model.Revision

namespace PathAuthz

open Source
open Buckets (regional)

/-! ## (1) Wider sections -/

structure Source.Section.Widens (s s' : Section) : Prop where
  heading : s.heading = s'.heading
  options : List.Forall₂ (fun o o' => o.1 = o'.1 ∧ rightsOf o.2 ⊆ rightsOf o'.2) s.options s'.options

namespace Source.Section

theorem widens_of_value {heading option value value' : String} (front back : List (String × String))
    (h : rightsOf value ⊆ rightsOf value') :
    Widens ⟨heading, front ++ (option, value) :: back⟩ ⟨heading, front ++ (option, value') :: back⟩ := by
  have hsame : ∀ os : List (String × String),
      List.Forall₂ (fun o o' => o.1 = o'.1 ∧ rightsOf o.2 ⊆ rightsOf o'.2) os os := by
    intro os
    exact List.forall₂_same.mpr fun o _ => ⟨rfl, Access.Subset.refl _⟩
  exact ⟨rfl, List.rel_append (hsame front) (.cons ⟨rfl, h⟩ (hsame back))⟩

variable {s s' : Section} (h : s.Widens s')

include h

theorem granted_mono (p : String → Bool) : Option.Rel (· ⊆ ·) (s.granted p) (s'.granted p) := by
  apply Grant.gather_mono
  rw [List.forall₂_map_left_iff, List.forall₂_map_right_iff]
  apply h.options.imp
  intro o o' ho
  obtain ⟨hname, hrights⟩ := ho
  rw [hname]
  by_cases hp : p o'.1 = true
  · rw [hp, Grant.onlyIf_true, Grant.onlyIf_true]
    exact .some hrights
  · rw [Bool.not_eq_true] at hp
    rw [hp, Grant.onlyIf_false, Grant.onlyIf_false]
    exact .none

theorem any_name_of_widens (p : String → Bool) : s'.options.any (p ·.1) = s.options.any (p ·.1) := by
  have hnames : List.Forall₂ Eq (s.options.map (·.1)) (s'.options.map (·.1)) := by
    rw [List.forall₂_map_left_iff, List.forall₂_map_right_iff]
    exact h.options.imp fun o o' ho => ho.1
  rw [List.forall₂_eq_eq_eq] at hnames
  have hany : ∀ os : List (String × String), os.any (p ·.1) = (os.map (·.1)).any p := by
    intro os
    rw [List.any_map]
    rfl
  rw [hany, hany, hnames]

end Source.Section

namespace Model

/-! ## (2) Wider answers -/

/-- What an identity is answered by the second model is nowhere narrower than by the first, and it has rights of its own in
    the same regions. -/
structure WiderAnswers (m m' : Model) (who : Identity) : Prop where
  effectiveAccess : ∀ repo path recursive,
    m.effectiveAccess repo path who recursive ⊆ m'.effectiveAccess repo path who recursive
  check : ∀ repo path required recursive,
    m.check repo path who required recursive = true → m'.check repo path who required recursive = true
  checkAnywhere : ∀ repo required, m.checkAnywhere repo who required = true → m'.checkAnywhere repo who required = true
  floor : ∀ region, (m.lookupRights who region).1.floor ⊆ (m'.lookupRights who region).1.floor
  ceiling : ∀ region, (m.lookupRights who region).1.ceiling ⊆ (m'.lookupRights who region).1.ceiling
  found : ∀ region, (m.lookupRights who region).2 = (m'.lookupRights who region).2

section

variable {m m' : Model} {d d' : Draft} {ss ss' : List Section} {who : Identity} (hm : m.IsOf d) (hd : d.IsOf ss)
  (hm' : m'.IsOf d') (hd' : d'.IsOf ss')
  (hto : List.Forall₂ (Rule.Alike (· ⊆ ·) (·.accessFor who)) m.rules m'.rules)
  (hall : List.Forall₂ (Rule.Alike (· ⊆ ·) (·.authenticated)) m.rules m'.rules) (hp : pooled ss' who = pooled ss who)

include hm hd hm' hd' hto hall hp

theorem lookupRights_mono (region : Option String) :
    (m.lookupRights who region).1.floor ⊆ (m'.lookupRights who region).1.floor ∧
      (m.lookupRights who region).1.ceiling ⊆ (m'.lookupRights who region).1.ceiling ∧
      (m.lookupRights who region).2 = (m'.lookupRights who region).2 := by
  obtain ⟨hfloor, hceiling, hfound⟩ := Buckets.regional_mono (forall₂_grants_of_alike hto) region
  by_cases h : pooled ss who = true
  · obtain ⟨hfloor', -, -⟩ := Buckets.regional_mono (forall₂_grants_of_alike hall) region
    rw [hm.lookupRights_of_pooled hd h, hm'.lookupRights_of_pooled hd' (hp.trans h)]
    exact ⟨Access.inter_subset_inter hfloor hfloor', hceiling, hfound⟩
  · rw [Bool.not_eq_true] at h
    rw [hm.lookupRights_of_not_pooled hd h, hm'.lookupRights_of_not_pooled hd' (hp.trans h)]
    exact ⟨hfloor, hceiling, hfound⟩

theorem effectiveAccess_mono (repo path : String) (recursive : Bool) :
    m.effectiveAccess repo path who recursive ⊆ m'.effectiveAccess repo path who recursive := by
  have hpath : m.effectiveAccess repo path who false ⊆ m'.effectiveAccess repo path who false :=
    effectiveAccess_of_alike (Access.Subset.refl _) hto repo path
  cases recursive with
  | false => exact hpath
  | true =>
    rw [effectiveAccess_recursive, effectiveAccess_recursive]
    exact Access.inter_subset_inter hpath (lookupRights_mono hm hd hm' hd' hto hall hp _).1

theorem widerAnswers_of_alike : WiderAnswers m m' who := by
  have haccess := effectiveAccess_mono hm hd hm' hd' hto hall hp
  have hlookup := lookupRights_mono hm hd hm' hd' hto hall hp
  refine ⟨haccess, ?_, ?_, fun region => (hlookup region).1, fun region => (hlookup region).2.1,
    fun region => (hlookup region).2.2⟩
  · intro repo path required recursive h
    exact Access.satisfies_mono (haccess repo path recursive) h
  · intro repo required h
    exact Access.satisfies_mono (hlookup (repoGiven repo)).2.1 h

end

/-! ## (3) One wider section -/

theorem widerAnswers_of_widens {m m' : Model} {d d' : Draft} {before after : List Section} {s s' : Section}
    (hs : s.isRule = true) (h : s.Widens s') (hm : m.IsOf d) (hd : d.IsOf (before ++ s :: after)) (hm' : m'.IsOf d')
    (hd' : d'.IsOf (before ++ s' :: after)) (who : Identity) : WiderAnswers m m' who := by
  have hto : List.Forall₂ (Rule.Alike (· ⊆ ·) (·.accessFor who)) m.rules m'.rules :=
    accessFor_of_revised hs h.heading Access.Subset.refl hm hd hm' hd' (Section.granted_mono h _)
  have hall : List.Forall₂ (Rule.Alike (· ⊆ ·) (·.authenticated)) m.rules m'.rules :=
    authenticated_of_revised hs h.heading Access.Subset.refl hm hd hm' hd' (Section.granted_mono h _)
  have hnames : ∀ user, who = .user user → s'.names user = s.names user := by
    intro user _
    rw [Section.names_of_isRule hs, Section.names_of_isRule (isRule_of_revised hs h.heading)]
    exact Section.any_name_of_widens h fun name => (Grantee.ofOption? name).any (·.names user)
  have hp : pooled (before ++ s' :: after) who = pooled (before ++ s :: after) who :=
    pooled_of_revised hs h.heading hnames (Section.any_name_of_widens h takesAll)
  exact widerAnswers_of_alike hm hd hm' hd' hto hall hp

/-- Where the rights of one entry are widened, nobody is answered less than before, by any question. -/
theorem widened_grant {rules rules' : String} {groups : Option String} {m m' : Model} (hload : load rules groups = .ok m)
    (hload' : load rules' groups = .ok m') {before after : List Section} {heading option value value' : String}
    {front back : List (String × String)} (hrule : Section.isRule ⟨heading, []⟩ = true)
    (hsections : sections rules = before ++ ⟨heading, front ++ (option, value) :: back⟩ :: after)
    (hsections' : sections rules' = before ++ ⟨heading, front ++ (option, value') :: back⟩ :: after)
    (hwider : rightsOf value ⊆ rightsOf value') (who : Identity) : WiderAnswers m m' who := by
  obtain ⟨d, hd, hm⟩ := isOf_load hload
  obtain ⟨d', hd', hm'⟩ := isOf_load hload'
  rw [sectionsOfTexts_of_append hsections] at hd
  rw [sectionsOfTexts_of_append hsections'] at hd'
  have hs : Section.isRule ⟨heading, front ++ (option, value) :: back⟩ = true := hrule
  exact widerAnswers_of_widens hs (Section.widens_of_value front back hwider) hm hd hm' hd' who

/-- An entry for all but one that is widened to say something at all: the others gain, and the one loses nothing. -/
theorem widened_grant_inverted :
    ∃ m m', load "[a:/]\n* = r\n~bob =\n" none = .ok m ∧ load "[a:/]\n* = r\n~bob = w\n" none = .ok m' ∧
      m.effectiveAccess "a" "/x" (.user "eve") true ⊆ m'.effectiveAccess "a" "/x" (.user "eve") true ∧
      (m.lookupRights (.user "bob") (some "a")).2 = (m'.lookupRights (.user "bob") (some "a")).2 := by
  have hold : (load "[a:/]\n* = r\n~bob =\n" none).toOption.any (fun _ => true) = true := by decide +kernel
  have hnew : (load "[a:/]\n* = r\n~bob = w\n" none).toOption.any (fun _ => true) = true := by decide +kernel
  obtain ⟨m, hm, -⟩ := exists_ok_of_any hold
  obtain ⟨m', hm', -⟩ := exists_ok_of_any hnew
  have hsections : sections "[a:/]\n* = r\n~bob =\n" = [] ++ ⟨"a:/", [("*", "r")] ++ ("~bob", "") :: []⟩ :: [] := by
    decide +kernel
  have hsections' : sections "[a:/]\n* = r\n~bob = w\n" = [] ++ ⟨"a:/", [("*", "r")] ++ ("~bob", "w") :: []⟩ :: [] := by
    decide +kernel
  have hwider := widened_grant hm hm' (by decide) hsections hsections' (by decide +kernel)
  exact ⟨m, m', hm, hm', (hwider (.user "eve")).effectiveAccess "a" "/x" true, (hwider (.user "bob")).found (some "a")⟩

end Model

end PathAuthz
