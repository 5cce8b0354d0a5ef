/-
  PathAuthz.Proofs.Model.Answers — what two models answer to one identity.

  (1) The floor of a look-up depends on whether the identity is pooled; the ceiling and whether
  anything was found do not (`ceiling_lookupRights`).

  (2) Where the grants in a region are the same, so are the look-ups there
  (`lookupRights_of_same_pooled`), but for an identity that only the second model pools
  (`lookupRights_of_newly_pooled`).

  (3) Where every rule grants the identity the same, and the authenticated slots are the same,
  all answers are (`answers_of_same_pooled`), again but for the newly pooled
  (`answers_of_newly_pooled`).

  (4) `SameAnswers` says that no question about an identity is answered differently. All of
  them go back to the access on a path and to the look-ups (`sameAnswers_of_path`), and so to
  what the rules grant the identity and, if it is pooled, to all (`sameAnswers_of_alike`,
  `sameAnswers_of_not_pooled`).
-/

import PathAuthz.Proofs.Model.Alike
import PathAuthz.Proofs.Model.Lookup

namespace PathAuthz.Model

open Source
open Buckets (regional)

variable {m m' : Model} {d d' : Draft} {ss ss' : List Section} {who : Identity}

/-! ## (1) Ceilings -/

theorem ceiling_lookupRights (hm : m.IsOf d) (hd : d.IsOf ss) (who : Identity) (region : Option String) :
    (m.lookupRights who region).1.ceiling = (regional region (m.grantsTo who)).1.ceiling := by
  cases hp : pooled ss who
  · rw [hm.lookupRights_of_not_pooled hd hp]
  · rw [hm.lookupRights_of_pooled hd hp]

/-! ## (2) The same grants in a region -/

section

variable {region : Option String} (hm : m.IsOf d) (hd : d.IsOf ss) (hm' : m'.IsOf d') (hd' : d'.IsOf ss')
  (hto : regional region (m'.grantsTo who) = regional region (m.grantsTo who))
  (hall : regional region m'.grantsToAll = regional region m.grantsToAll)

include hm hd hm' hd' hto hall

theorem lookupRights_of_same_pooled (hp : pooled ss' who = pooled ss who) :
    m'.lookupRights who region = m.lookupRights who region := by
  cases h : pooled ss who
  · rw [hm.lookupRights_of_not_pooled hd h, hm'.lookupRights_of_not_pooled hd' (hp.trans h), hto]
  · rw [hm.lookupRights_of_pooled hd h, hm'.lookupRights_of_pooled hd' (hp.trans h), hto, hall]

theorem lookupRights_of_newly_pooled (hp : pooled ss who = false) (hp' : pooled ss' who = true) :
    m'.lookupRights who region =
      (⟨(m.lookupRights who region).1.floor ∩ (regional region m.grantsToAll).1.floor,
        (m.lookupRights who region).1.ceiling⟩, (m.lookupRights who region).2) := by
  rw [hm.lookupRights_of_not_pooled hd hp, hm'.lookupRights_of_pooled hd' hp', hto, hall]

end

/-! ## (3) The same grants by every rule -/

theorem answers_on_paths (hm : m.IsOf d) (hd : d.IsOf ss) (hm' : m'.IsOf d') (hd' : d'.IsOf ss')
    (hto : List.Forall₂ (Rule.Alike Eq (·.accessFor who)) m.rules m'.rules) :
    (∀ repo path, m'.effectiveAccess repo path who false = m.effectiveAccess repo path who false) ∧
    (∀ repo path required, m'.check repo path who required false = m.check repo path who required false) ∧
    ∀ repo required, m'.checkAnywhere repo who required = m.checkAnywhere repo who required := by
  have hpath : ∀ repo path, m'.effectiveAccess repo path who false = m.effectiveAccess repo path who false :=
    fun repo path => (effectiveAccess_of_alike rfl hto repo path).symm
  have hgrants : m.grantsTo who = m'.grantsTo who := grants_of_alike hto
  refine ⟨hpath, fun repo path required => ?_, fun repo required => ?_⟩
  · rw [check, check, hpath]
  · rw [checkAnywhere, checkAnywhere, ceiling_lookupRights hm hd, ceiling_lookupRights hm' hd', hgrants]

section

variable (hm : m.IsOf d) (hd : d.IsOf ss) (hm' : m'.IsOf d') (hd' : d'.IsOf ss')
  (hto : List.Forall₂ (Rule.Alike Eq (·.accessFor who)) m.rules m'.rules)
  (hall : List.Forall₂ (Rule.Alike Eq (·.authenticated)) m.rules m'.rules)

include hm hd hm' hd' hto hall

theorem answers_of_same_pooled (hp : pooled ss' who = pooled ss who) :
    (∀ region, m'.lookupRights who region = m.lookupRights who region) ∧
    (∀ repo path, m'.effectiveAccess repo path who true = m.effectiveAccess repo path who true) ∧
    ∀ repo path required, m'.check repo path who required true = m.check repo path who required true := by
  have hgrants : m.grantsTo who = m'.grantsTo who := grants_of_alike hto
  have hgrants' : m.grantsToAll = m'.grantsToAll := grants_of_alike hall
  have hlookup : ∀ region, m'.lookupRights who region = m.lookupRights who region :=
    fun region => lookupRights_of_same_pooled hm hd hm' hd' (by rw [hgrants]) (by rw [hgrants']) hp
  have hrec : ∀ repo path, m'.effectiveAccess repo path who true = m.effectiveAccess repo path who true := by
    intro repo path
    rw [effectiveAccess_recursive, effectiveAccess_recursive, hlookup, (answers_on_paths hm hd hm' hd' hto).1]
  exact ⟨hlookup, hrec, fun repo path required => by rw [check, check, hrec]⟩

theorem answers_of_newly_pooled (hp : pooled ss who = false) (hp' : pooled ss' who = true) :
    (∀ region, m'.lookupRights who region =
      (⟨(m.lookupRights who region).1.floor ∩ (regional region m.grantsToAll).1.floor,
        (m.lookupRights who region).1.ceiling⟩, (m.lookupRights who region).2)) ∧
    ∀ repo path, m'.effectiveAccess repo path who true =
      m.effectiveAccess repo path who true ∩ (regional (repoGiven repo) m.grantsToAll).1.floor := by
  have hgrants : m.grantsTo who = m'.grantsTo who := grants_of_alike hto
  have hgrants' : m.grantsToAll = m'.grantsToAll := grants_of_alike hall
  have hto' : ∀ region, regional region (m'.grantsTo who) = regional region (m.grantsTo who) := fun _ => by rw [hgrants]
  have hall' : ∀ region, regional region m'.grantsToAll = regional region m.grantsToAll := fun _ => by rw [hgrants']
  refine ⟨fun region => lookupRights_of_newly_pooled hm hd hm' hd' (hto' region) (hall' region) hp hp', fun repo path => ?_⟩
  rw [effectiveAccess_recursive, effectiveAccess_recursive, (answers_on_paths hm hd hm' hd' hto).1,
    lookupRights_of_newly_pooled hm hd hm' hd' (hto' _) (hall' _) hp hp', Access.inter_assoc]

end

/-! ## (4) The same answers -/

structure SameAnswers (m m' : Model) (who : Identity) : Prop where
  effectiveAccess : ∀ repo path recursive,
    m'.effectiveAccess repo path who recursive = m.effectiveAccess repo path who recursive
  check : ∀ repo path required recursive,
    m'.check repo path who required recursive = m.check repo path who required recursive
  checkAnywhere : ∀ repo required, m'.checkAnywhere repo who required = m.checkAnywhere repo who required
  lookupRights : ∀ region, m'.lookupRights who region = m.lookupRights who region

theorem sameAnswers_of_path
    (hpath : ∀ repo path, m'.effectiveAccess repo path who false = m.effectiveAccess repo path who false)
    (hlookup : ∀ region, m'.lookupRights who region = m.lookupRights who region) : SameAnswers m m' who := by
  have haccess : ∀ repo path recursive,
      m'.effectiveAccess repo path who recursive = m.effectiveAccess repo path who recursive := by
    intro repo path recursive
    cases recursive with
    | false => exact hpath repo path
    | true => rw [effectiveAccess_recursive, effectiveAccess_recursive, hpath, hlookup]
  refine ⟨haccess, ?_, ?_, hlookup⟩
  · intro repo path required recursive
    rw [check, check, haccess]
  · intro repo required
    rw [checkAnywhere, checkAnywhere, hlookup]

theorem sameAnswers_of_alike (hm : m.IsOf d) (hd : d.IsOf ss) (hm' : m'.IsOf d') (hd' : d'.IsOf ss')
    (hto : List.Forall₂ (Rule.Alike Eq (·.accessFor who)) m.rules m'.rules)
    (hall : List.Forall₂ (Rule.Alike Eq (·.authenticated)) m.rules m'.rules) (hp : pooled ss' who = pooled ss who) :
    SameAnswers m m' who :=
  sameAnswers_of_path (answers_on_paths hm hd hm' hd' hto).1 (answers_of_same_pooled hm hd hm' hd' hto hall hp).1

theorem sameAnswers_of_not_pooled (hm : m.IsOf d) (hd : d.IsOf ss) (hm' : m'.IsOf d') (hd' : d'.IsOf ss')
    (hto : List.Forall₂ (Rule.Alike Eq (·.accessFor who)) m.rules m'.rules) (hp : pooled ss who = false)
    (hp' : pooled ss' who = false) : SameAnswers m m' who := by
  have hgrants : m.grantsTo who = m'.grantsTo who := grants_of_alike hto
  apply sameAnswers_of_path (answers_on_paths hm hd hm' hd' hto).1
  intro region
  rw [hm.lookupRights_of_not_pooled hd hp, hm'.lookupRights_of_not_pooled hd' hp', hgrants]

end PathAuthz.Model
