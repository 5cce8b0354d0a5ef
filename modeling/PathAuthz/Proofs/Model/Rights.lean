/-
  PathAuthz.Proofs.Model.Rights — the rights of an identity in closed form.

  (1) The rules with a say in a region are those in scope whose grant is present
  (`rulesIn`). They have something of their own there if there is any of them, or, in a named
  repository, if one of them is for that repository (`foundIn`). The floor is the intersection
  of what they grant if so, and nothing otherwise (`floorIn`). All three are said of any way in
  which a rule may grant: to an identity, or to all who are authenticated.

  (2) The buckets sum up exactly that (`regional_grants`).

  (3) A look-up answers with the union of the grants as its ceiling and with the floor, and for
  a named user with the part of it that is also the floor of the authenticated entries alone, if
  there are any (`lookupRights_closed_form`).
-/

import PathAuthz.Proofs.Model.Lookup

namespace PathAuthz

open Access (interAll unionAll)
open Buckets (grantsIn inRegion isOwn regional)
open Source (Section)

namespace Model

/-! ## (1) Rules with a say in a region -/

def rulesIn (m : Model) (access : Rule → Option Access) (region : Option String) : List Rule :=
  m.rules.filter fun r => inRegion r.scope region && (access r).isSome

def foundIn (m : Model) (access : Rule → Option Access) (region : Option String) : Bool :=
  match region with
  | none => !(m.rulesIn access none).isEmpty
  | some repo => (m.rulesIn access (some repo)).any (·.scope == .named repo)

def floorIn (m : Model) (access : Rule → Option Access) (region : Option String) : Access :=
  if m.foundIn access region then interAll ((m.rulesIn access region).filterMap access) else .none

variable {m : Model} {access : Rule → Option Access} {region : Option String}

theorem mem_rulesIn_iff {r : Rule} :
    r ∈ m.rulesIn access region ↔ r ∈ m.rules ∧ inRegion r.scope region = true ∧ (access r).isSome = true := by
  rw [rulesIn, List.mem_filter, Bool.and_eq_true]

theorem foundIn_iff :
    m.foundIn access region = true ↔ ∃ r ∈ m.rulesIn access region, isOwn r.scope region = true := by
  cases region with
  | none => simp [foundIn, isOwn, List.eq_nil_iff_forall_not_mem]
  | some repo => rw [foundIn, List.any_eq_true]; rfl

/-! ## (2) Buckets -/

theorem grantsIn_grants :
    grantsIn region (RightsTable.grants access m.rules) = (m.rulesIn access region).filterMap access := by
  unfold grantsIn RightsTable.grants rulesIn
  rw [List.filter_filterMap, List.map_filterMap, List.filterMap_filter]
  refine List.filterMap_congr fun r _ => ?_
  cases ha : access r <;> cases hs : inRegion r.scope region <;> simp [hs]

theorem any_isOwn_grants :
    (RightsTable.grants access m.rules).any (isOwn ·.1 region) = m.foundIn access region := by
  rw [Bool.eq_iff_iff, foundIn_iff, List.any_eq_true]
  constructor
  · intro h
    obtain ⟨⟨scope, a⟩, hg, hown⟩ := h
    obtain ⟨r, hr, rfl, ha⟩ := RightsTable.mem_grants_iff.mp hg
    exact ⟨r, mem_rulesIn_iff.mpr ⟨hr, Buckets.inRegion_of_isOwn hown, by rw [ha, Option.isSome_some]⟩, hown⟩
  · intro h
    obtain ⟨r, hr, hown⟩ := h
    obtain ⟨hr, -, ha⟩ := mem_rulesIn_iff.mp hr
    obtain ⟨a, ha⟩ := Option.isSome_iff_exists.mp ha
    exact ⟨(r.scope, a), RightsTable.mem_grants_iff.mpr ⟨r, hr, rfl, ha⟩, hown⟩

theorem regional_grants :
    regional region (RightsTable.grants access m.rules) =
      (⟨m.floorIn access region, unionAll ((m.rulesIn access region).filterMap access)⟩, m.foundIn access region) := by
  simp only [regional, grantsIn_grants, any_isOwn_grants, floorIn]

theorem floorIn_subset {r : Rule} (hr : r ∈ m.rulesIn access region) {a : Access} (ha : access r = some a) :
    m.floorIn access region ⊆ a := by
  unfold floorIn
  split
  · exact Access.interAll_subset (List.mem_filterMap.mpr ⟨r, hr, ha⟩)
  · exact Access.none_subset a

theorem floorIn_subset_unionAll :
    m.floorIn access region ⊆ unionAll ((m.rulesIn access region).filterMap access) := by
  by_cases hfound : m.foundIn access region = true
  · obtain ⟨r, hr, -⟩ := foundIn_iff.mp hfound
    obtain ⟨a, ha⟩ := Option.isSome_iff_exists.mp (mem_rulesIn_iff.mp hr).2.2
    exact Access.Subset.trans (floorIn_subset hr ha) (Access.subset_unionAll (List.mem_filterMap.mpr ⟨r, hr, ha⟩))
  · rw [floorIn, if_neg hfound]
    exact Access.none_subset _

/-! ## (3) Look-ups -/

/-- Whether some section names an identity. -/
def named (ss : List Section) : Identity → Bool
  | .anonymous => false
  | .user user => ss.any (·.names user)

theorem pooled_eq {d : Draft} {ss : List Section} (hm : m.IsOf d) (hd : d.IsOf ss) (who : Identity) :
    pooled ss who = (named ss who && m.rules.any (·.authenticated.isSome)) := by
  have hall : ss.any (·.grantsToAll) = m.rules.any (·.authenticated.isSome) := by
    rw [Bool.eq_iff_iff, ← hm.grantsToAll_ne_nil_iff hd, List.any_eq_true]
    constructor
    · intro h
      obtain ⟨⟨scope, a⟩, ha⟩ := List.exists_mem_of_ne_nil _ h
      obtain ⟨r, hr, -, ha⟩ := RightsTable.mem_grants_iff.mp ha
      exact ⟨r, hr, by rw [ha, Option.isSome_some]⟩
    · intro h
      obtain ⟨r, hr, ha⟩ := h
      obtain ⟨a, ha⟩ := Option.isSome_iff_exists.mp ha
      exact List.ne_nil_of_mem (RightsTable.mem_grants_iff.mpr ⟨r, hr, rfl, ha⟩)
  cases who with
  | anonymous => rfl
  | user user => rw [pooled, hall]; rfl

/-- The ceiling is the union of the grants in a region, and the floor their intersection where
    the region has something of its own; for a named user the floor is shared with the
    authenticated entries. -/
theorem lookupRights_closed_form {rules : String} {groups : Option String} (hload : load rules groups = .ok m)
    (who : Identity) (region : Option String) :
    (m.lookupRights who region).1.ceiling =
      unionAll ((m.rulesIn (·.accessFor who) region).filterMap (·.accessFor who)) ∧
    (m.lookupRights who region).2 = m.foundIn (·.accessFor who) region ∧
    (m.lookupRights who region).1.floor =
      (if named (sectionsOfTexts rules groups) who && m.rules.any (·.authenticated.isSome) then
        m.floorIn (·.accessFor who) region ∩ m.floorIn (·.authenticated) region
      else m.floorIn (·.accessFor who) region) ∧
    (∀ r ∈ m.rulesIn (·.accessFor who) region, ∀ a, r.accessFor who = some a →
      (m.lookupRights who region).1.floor ⊆ a) ∧
    (m.lookupRights who region).1.floor ⊆ (m.lookupRights who region).1.ceiling := by
  obtain ⟨d, hd, hm⟩ := isOf_load hload
  have hto : regional region (m.grantsTo who) = _ := regional_grants
  have hall : regional region m.grantsToAll = _ := regional_grants
  rw [← pooled_eq hm hd who]
  cases hp : pooled (sectionsOfTexts rules groups) who
  · rw [hm.lookupRights_of_not_pooled hd hp, hto]
    exact ⟨rfl, rfl, rfl, fun r hr a ha => floorIn_subset hr ha, floorIn_subset_unionAll⟩
  · rw [hm.lookupRights_of_pooled hd hp, hto, hall]
    refine ⟨rfl, rfl, rfl, fun r hr a ha => ?_, ?_⟩
    · exact Access.Subset.trans (Access.inter_subset_left _ _) (floorIn_subset hr ha)
    · exact Access.Subset.trans (Access.inter_subset_left _ _) floorIn_subset_unionAll

/-- A named user is sure of less than a stranger where the entry for all grants less than both hold. -/
theorem lookupRights_closed_form_named :
    ∃ m, load "[a:/]\n* = r\n~bob = w\nbob = rw\n[/]\neve = r\n" none = .ok m ∧
      (m.lookupRights (.user "bob") (some "a")).1.floor = .reading ∧
      (m.lookupRights (.user "stranger") (some "a")).1.floor = .all := by
  have hload : (load "[a:/]\n* = r\n~bob = w\nbob = rw\n[/]\neve = r\n" none).toOption.any
      (fun m => m.rules.any (·.authenticated.isSome) && decide (m.floorIn (·.accessFor (.user "bob")) (some "a") = .all) &&
        decide (m.floorIn (·.authenticated) (some "a") = .reading) &&
        decide (m.floorIn (·.accessFor (.user "stranger")) (some "a") = .all)) = true := by decide +kernel
  obtain ⟨m, hm, hfloors⟩ := exists_ok_of_any hload
  simp only [Bool.and_eq_true, decide_eq_true_eq] at hfloors
  obtain ⟨⟨⟨hall, hbob⟩, hslots⟩, hstranger⟩ := hfloors
  have hnamed : named (sectionsOfTexts "[a:/]\n* = r\n~bob = w\nbob = rw\n[/]\neve = r\n" none) (.user "bob") = true ∧
      named (sectionsOfTexts "[a:/]\n* = r\n~bob = w\nbob = rw\n[/]\neve = r\n" none) (.user "stranger") = false := by
    decide +kernel
  obtain ⟨-, -, hfloor, -⟩ := lookupRights_closed_form hm (.user "bob") (some "a")
  obtain ⟨-, -, hfloor', -⟩ := lookupRights_closed_form hm (.user "stranger") (some "a")
  rw [hnamed.1, hall, Bool.true_and, if_pos rfl, hbob, hslots] at hfloor
  rw [hnamed.2, Bool.false_and, if_neg Bool.false_ne_true, hstranger] at hfloor'
  exact ⟨m, hm, hfloor, hfloor'⟩

end Model

end PathAuthz
