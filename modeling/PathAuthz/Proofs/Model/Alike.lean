/-
  PathAuthz.Proofs.Model.Alike — two models whose rules stand at the same places.

  Two questions are compared, often the same one put to two models. `Q` says how what is
  granted in one is related to what is granted in the other; it may be equality.

  (1) Which candidate is preferred depends on numbers and scopes, not on what is granted, so
  candidates that match one by one are preferred alike (`foldl_prefer_of_ranked`).

  (2) If at every place both questions are decided alike, or both undecided, then both walks
  up a path stop at the same place (`accessUpTo_of_deciding`).

  (3) Rules are `Alike` if they have the same number, scope and pattern, and their grants are
  related. Models with such rules answer alike on a path (`effectiveAccess_of_alike`), and their
  grants are related one by one (`forall₂_grants_of_alike`), which makes them the same where `Q`
  is equality (`grants_of_alike`).
-/

import Mathlib.Data.List.Forall2
import PathAuthz.Model

namespace PathAuthz

variable {Q : Access → Access → Prop}

/-- Related options are both empty or both filled. -/
theorem rel_cases {α β : Type} {R : α → β → Prop} {a : Option α} {b : Option β} (h : Option.Rel R a b) :
    (a = none ∧ b = none) ∨ ∃ x y, a = some x ∧ b = some y ∧ R x y := by
  cases h with
  | none => exact .inl ⟨rfl, rfl⟩
  | some hxy => exact .inr ⟨_, _, rfl, rfl, hxy⟩

theorem rel_of_eq (hrefl : ∀ a, Q a a) {g h : Option Access} (he : g = h) : Option.Rel Q g h := by
  subst he
  cases g with
  | none => exact .none
  | some a => exact .some (hrefl a)

namespace Model

/-! ## (1) Candidates -/

structure Ranked (Q : Access → Access → Prop) (c c' : Rule × Access) : Prop where
  seq : c.1.seq = c'.1.seq
  scope : c.1.scope = c'.1.scope
  access : Q c.2 c'.2

theorem outranks_of_ranked {c c' b b' : Rule × Access} (hc : Ranked Q c c') (hb : Ranked Q b b') :
    outranks c.1 b.1 = outranks c'.1 b'.1 := by
  simp only [outranks, hc.seq, hc.scope, hb.seq, hb.scope]

theorem prefer_of_ranked {best best' : Option (Rule × Access)} (hbest : Option.Rel (Ranked Q) best best')
    {c c' : Rule × Access} (hc : Ranked Q c c') : Option.Rel (Ranked Q) (prefer best c) (prefer best' c') := by
  cases hbest with
  | none => exact .some hc
  | some hb =>
    simp only [prefer, outranks_of_ranked hc hb]
    split
    · exact .some hc
    · exact .some hb

theorem foldl_prefer_of_ranked {cs cs' : List (Rule × Access)} (h : List.Forall₂ (Ranked Q) cs cs')
    {best best' : Option (Rule × Access)} (hbest : Option.Rel (Ranked Q) best best') :
    Option.Rel (Ranked Q) (cs.foldl prefer best) (cs'.foldl prefer best') := by
  induction h generalizing best best' with
  | nil => exact hbest
  | cons hc _ ih => exact ih (prefer_of_ranked hbest hc)

/-! ## (2) The walk -/

section

variable {m m' : Model} {repo repo' : String} {who who' : Identity}

theorem accessUpTo_of_deciding (hnone : Q .none .none)
    (h : ∀ components, Option.Rel (fun c c' => Q c.2 c'.2) (m.deciding repo who components)
      (m'.deciding repo' who' components)) (components : List String) (depth : Nat) :
    Q (m.accessUpTo repo who components depth) (m'.accessUpTo repo' who' components depth) := by
  induction depth with
  | zero =>
    unfold accessUpTo
    rcases rel_cases (h []) with ⟨hc, hc'⟩ | ⟨c, c', hc, hc', ha⟩ <;> rw [hc, hc']
    · exact hnone
    · exact ha
  | succ depth ih =>
    unfold accessUpTo
    rcases rel_cases (h (components.take (depth + 1))) with ⟨hc, hc'⟩ | ⟨c, c', hc, hc', ha⟩ <;> rw [hc, hc']
    · exact ih
    · exact ha

end

end Model

/-! ## (3) Rules -/

structure Rule.Alike (Q : Access → Access → Prop) (access : Rule → Option Access) (r r' : Rule) : Prop where
  seq : r.seq = r'.seq
  scope : r.scope = r'.scope
  pattern : r.pattern = r'.pattern
  grant : Option.Rel Q (access r) (access r')

namespace Model

variable {m m' : Model} {who : Identity}

theorem candidates_of_alike (h : List.Forall₂ (Rule.Alike Q (·.accessFor who)) m.rules m'.rules) (repo : String)
    (components : List String) :
    List.Forall₂ (Ranked Q) (m.candidates repo who components) (m'.candidates repo who components) := by
  refine List.rel_filterMap (fun r r' hr => ?_) h
  rw [hr.scope, hr.pattern]
  split
  · rcases rel_cases hr.grant with ⟨hg, hg'⟩ | ⟨a, a', hg, hg', ha⟩ <;> rw [hg, hg']
    · exact .none
    · exact .some ⟨hr.seq, hr.scope, ha⟩
  · exact .none

theorem effectiveAccess_of_alike (hnone : Q .none .none)
    (h : List.Forall₂ (Rule.Alike Q (·.accessFor who)) m.rules m'.rules) (repo path : String) :
    Q (m.effectiveAccess repo path who false) (m'.effectiveAccess repo path who false) := by
  refine accessUpTo_of_deciding hnone (fun components => ?_) _ _
  have hdeciding : Option.Rel (Ranked Q) (m.deciding repo who components) (m'.deciding repo who components) :=
    foldl_prefer_of_ranked (candidates_of_alike h repo components) .none
  rcases rel_cases hdeciding with ⟨hc, hc'⟩ | ⟨c, c', hc, hc', hranked⟩ <;> rw [hc, hc']
  · exact .none
  · exact .some hranked.access

theorem forall₂_grants_of_alike {access : Rule → Option Access} {rules rules' : List Rule}
    (h : List.Forall₂ (Rule.Alike Q access) rules rules') :
    List.Forall₂ (fun g g' => g.1 = g'.1 ∧ Q g.2 g'.2) (RightsTable.grants access rules)
      (RightsTable.grants access rules') := by
  refine List.rel_filterMap (fun r r' hr => ?_) h
  rcases rel_cases hr.grant with ⟨hg, hg'⟩ | ⟨a, a', hg, hg', ha⟩ <;> rw [hg, hg']
  · exact .none
  · exact .some ⟨hr.scope, ha⟩

theorem grants_of_alike {access : Rule → Option Access} {rules rules' : List Rule}
    (h : List.Forall₂ (Rule.Alike Eq access) rules rules') :
    RightsTable.grants access rules = RightsTable.grants access rules' := by
  have hgrants := (forall₂_grants_of_alike h).imp fun g g' hg => Prod.ext hg.1 hg.2
  rwa [List.forall₂_eq_eq_eq] at hgrants

end Model

end PathAuthz
