/-
  PathAuthz.Proofs.Model.Precedence — which rule decides on a path.

  (1) `HasSay`: a rule applies to the repository, matches the first components of the path,
  and grants the identity something, be it no access.

  (2) At one place the candidate that decides stands highest by its scope and its number
  (`deciding_eq_some`); `outranks` is that order (`outranks_iff`).

  (3) The walk stops at the deepest place that has a candidate (`accessUpTo_cases`), by
  induction on the depth.

  (4) So on a path the rule decides that is greatest by depth, scope and number, in this order,
  and it is the only greatest one (`effectiveAccess_by_precedence`).
-/

import Mathlib.Data.Prod.Lex
import Mathlib.Order.BooleanAlgebra.Basic
import PathAuthz.Proofs.Model.Loaded

namespace PathAuthz

/-! ## (1) Having a say -/

/-- Where a rule stands among the rules of one place: by its scope, then by its number. -/
def Rule.standing (r : Rule) : Bool ×ₗ Nat := toLex (r.scope.isSpecific, r.seq)

/-- Where a rule stands on a whole path if it has a say at some depth. -/
def Rule.rank (r : Rule) (depth : Nat) : Nat ×ₗ (Bool ×ₗ Nat) := toLex (depth, r.standing)

namespace Model

structure HasSay (m : Model) (repo path : String) (who : Identity) (r : Rule) (depth : Nat) : Prop where
  mem : r ∈ m.rules
  depth_le : depth ≤ (Path.components path).length
  applies : r.scope.appliesTo repo = true
  accepts : r.pattern.accepts ((Path.components path).take depth) = true
  present : (r.accessFor who).isSome = true

theorem mem_candidates_iff {m : Model} {repo : String} {who : Identity} {components : List String} {r : Rule}
    {a : Access} :
    (r, a) ∈ m.candidates repo who components ↔
      r ∈ m.rules ∧ r.scope.appliesTo repo = true ∧ r.pattern.accepts components = true ∧
        r.accessFor who = some a := by
  unfold candidates
  rw [List.mem_filterMap]
  constructor
  · intro h
    obtain ⟨r', hr, h⟩ := h
    split at h
    · rename_i hmatch
      obtain ⟨b, hb, he⟩ := Option.map_eq_some_iff.mp h
      cases he
      obtain ⟨hscope, hpattern⟩ := Bool.and_eq_true_iff.mp hmatch
      exact ⟨hr, hscope, hpattern, hb⟩
    · cases h
  · intro h
    obtain ⟨hr, hscope, hpattern, ha⟩ := h
    exact ⟨r, hr, by rw [hscope, hpattern, ha]; rfl⟩

/-! ## (2) One place -/

theorem outranks_iff {a b : Rule} : outranks a b = true ↔ b.standing ≤ a.standing := by
  unfold outranks Rule.standing
  rw [Prod.Lex.toLex_le_toLex]
  cases ha : a.scope.isSpecific <;> cases hb : b.scope.isSpecific <;> simp

theorem foldl_prefer (b : Rule × Access) (cs : List (Rule × Access)) :
    ∃ best, cs.foldl prefer (some b) = some best ∧ best ∈ b :: cs ∧
      ∀ c ∈ b :: cs, c.1.standing ≤ best.1.standing := by
  induction cs generalizing b with
  | nil => exact ⟨b, rfl, List.mem_singleton_self b, by simp⟩
  | cons c cs ih =>
    by_cases h : outranks c.1 b.1 = true
    · have hstep : prefer (some b) c = some c := if_pos h
      obtain ⟨best, hfold, hmem, hbest⟩ := ih c
      refine ⟨best, by rw [List.foldl_cons, hstep, hfold], List.mem_cons_of_mem _ hmem, ?_⟩
      have hb : b.1.standing ≤ best.1.standing := le_trans (outranks_iff.mp h) (hbest c List.mem_cons_self)
      exact List.forall_mem_cons.mpr ⟨hb, hbest⟩
    · have hstep : prefer (some b) c = some b := if_neg h
      obtain ⟨best, hfold, hmem, hbest⟩ := ih b
      refine ⟨best, by rw [List.foldl_cons, hstep, hfold], ?_, ?_⟩
      · rcases List.mem_cons.mp hmem with rfl | hmem
        · exact List.mem_cons_self
        · exact List.mem_cons_of_mem _ (List.mem_cons_of_mem _ hmem)
      · obtain ⟨hb, hcs⟩ := List.forall_mem_cons.mp hbest
        have hlt : c.1.standing < b.1.standing := lt_of_not_ge fun hle => h (outranks_iff.mpr hle)
        exact List.forall_mem_cons.mpr ⟨hb, List.forall_mem_cons.mpr ⟨le_trans (le_of_lt hlt) hb, hcs⟩⟩

variable {m : Model} {repo : String} {who : Identity} {components : List String}

theorem deciding_of_nil (h : m.candidates repo who components = []) : m.deciding repo who components = none := by
  rw [deciding, h, List.foldl_nil]

theorem deciding_of_ne_nil (h : m.candidates repo who components ≠ []) :
    ∃ best, m.deciding repo who components = some best ∧ best ∈ m.candidates repo who components ∧
      ∀ c ∈ m.candidates repo who components, c.1.standing ≤ best.1.standing := by
  unfold deciding
  rcases hc : m.candidates repo who components with _ | ⟨c, cs⟩
  · exact absurd hc h
  · exact foldl_prefer c cs

/-! ## (3) The walk -/

/-- The walk meets no candidate, or ends at the deepest place that has one. -/
theorem accessUpTo_cases (m : Model) (repo : String) (who : Identity) (components : List String) (limit : Nat) :
    (m.accessUpTo repo who components limit = .none ∧
      ∀ depth ≤ limit, m.candidates repo who (components.take depth) = []) ∨
    ∃ r depth, depth ≤ limit ∧
      (r, m.accessUpTo repo who components limit) ∈ m.candidates repo who (components.take depth) ∧
      (∀ c ∈ m.candidates repo who (components.take depth), c.1.standing ≤ r.standing) ∧
      ∀ deeper ≤ limit, depth < deeper → m.candidates repo who (components.take deeper) = [] := by
  induction limit with
  | zero =>
    unfold accessUpTo
    by_cases h : m.candidates repo who [] = []
    · refine Or.inl ⟨by rw [deciding_of_nil h], ?_⟩
      intro depth hdepth
      rw [Nat.le_zero.mp hdepth]
      exact h
    · obtain ⟨best, hbest, hmem, hle⟩ := deciding_of_ne_nil h
      refine Or.inr ⟨best.1, 0, Nat.le_refl 0, by rw [hbest]; exact hmem, hle, ?_⟩
      intro deeper hdeeper hlt
      omega
  | succ limit ih =>
    unfold accessUpTo
    by_cases h : m.candidates repo who (components.take (limit + 1)) = []
    · rw [deciding_of_nil h]
      rcases ih with ⟨hnone, hall⟩ | ⟨r, depth, hdepth, hmem, hle, hall⟩
      · refine Or.inl ⟨hnone, ?_⟩
        intro depth hdepth
        rcases Nat.le_succ_iff.mp hdepth with hdepth | rfl
        · exact hall depth hdepth
        · exact h
      · refine Or.inr ⟨r, depth, Nat.le_succ_of_le hdepth, hmem, hle, ?_⟩
        intro deeper hdeeper hlt
        rcases Nat.le_succ_iff.mp hdeeper with hdeeper | rfl
        · exact hall deeper hdeeper hlt
        · exact h
    · obtain ⟨best, hbest, hmem, hle⟩ := deciding_of_ne_nil h
      refine Or.inr ⟨best.1, limit + 1, Nat.le_refl _, by rw [hbest]; exact hmem, hle, ?_⟩
      intro deeper hdeeper hlt
      omega

theorem HasSay.exists_candidate {path : String} {r : Rule} {depth : Nat} (h : m.HasSay repo path who r depth) :
    ∃ a, (r, a) ∈ m.candidates repo who ((Path.components path).take depth) := by
  obtain ⟨a, ha⟩ := Option.isSome_iff_exists.mp h.present
  exact ⟨a, mem_candidates_iff.mpr ⟨h.mem, h.applies, h.accepts, ha⟩⟩

theorem hasSay_of_candidate {path : String} {r : Rule} {a : Access} {depth : Nat}
    (hdepth : depth ≤ (Path.components path).length)
    (h : (r, a) ∈ m.candidates repo who ((Path.components path).take depth)) : m.HasSay repo path who r depth := by
  obtain ⟨hr, hscope, hpattern, ha⟩ := mem_candidates_iff.mp h
  exact ⟨hr, hdepth, hscope, hpattern, by rw [ha, Option.isSome_some]⟩

/-! ## (4) Precedence -/

/-- The access on a path is what the rule of the greatest rank grants, if any has a say. -/
theorem effectiveAccess_by_precedence {rules : String} {groups : Option String} (hload : load rules groups = .ok m)
    (repo path : String) (who : Identity) :
    ((∀ r depth, ¬m.HasSay repo path who r depth) → m.effectiveAccess repo path who false = .none) ∧
    ((∃ r depth, m.HasSay repo path who r depth) →
      ∃ r depth, m.HasSay repo path who r depth ∧ r.accessFor who = some (m.effectiveAccess repo path who false) ∧
        ∀ r' depth', m.HasSay repo path who r' depth' → (r', depth') ≠ (r, depth) → r'.rank depth' < r.rank depth) := by
  obtain ⟨d, hd, hm⟩ := isOf_load hload
  have haccess : m.effectiveAccess repo path who false =
      m.accessUpTo repo who (Path.components path) (Path.components path).length := rfl
  rw [haccess]
  rcases accessUpTo_cases m repo who (Path.components path) (Path.components path).length with
    ⟨hnone, hall⟩ | ⟨r, depth, hdepth, hmem, hle, hall⟩
  · refine ⟨fun _ => hnone, ?_⟩
    intro h
    obtain ⟨r, depth, hsay⟩ := h
    obtain ⟨a, ha⟩ := hsay.exists_candidate
    rw [hall depth hsay.depth_le] at ha
    cases ha
  · have hsay : m.HasSay repo path who r depth := hasSay_of_candidate hdepth hmem
    refine ⟨fun hno => absurd hsay (hno r depth), fun _ => ⟨r, depth, hsay, (mem_candidates_iff.mp hmem).2.2.2, ?_⟩⟩
    intro r' depth' hsay' hne
    obtain ⟨a', ha'⟩ := hsay'.exists_candidate
    rw [Rule.rank, Rule.rank, Prod.Lex.toLex_lt_toLex]
    rcases Nat.lt_trichotomy depth' depth with hlt | rfl | hlt
    · exact Or.inl hlt
    · refine Or.inr ⟨rfl, lt_of_le_of_ne (hle _ ha') ?_⟩
      intro hstanding
      have hseq : r'.seq = r.seq := congrArg (fun k : Bool ×ₗ Nat => (ofLex k).2) hstanding
      exact hne (by rw [hm.eq_of_seq_eq hd hsay'.mem hsay.mem hseq])
    · -- The walk would have stopped there.
      rw [hall depth' hsay'.depth_le hlt] at ha'
      cases ha'

/-- A deeper rule that is silent is passed over, and a later one for any repository is outranked. -/
theorem effectiveAccess_by_precedence_scopes :
    ∃ m, load "[a:/]\nbob = r\n[/]\nbob = rw\n[/docs]\neve = rw\n" none = .ok m ∧
      m.effectiveAccess "a" "/docs" (.user "bob") false = .reading ∧
      ∃ r depth, m.HasSay "a" "/docs" (.user "bob") r depth ∧ r.accessFor (.user "bob") = some .reading ∧
        ∀ r' depth', m.HasSay "a" "/docs" (.user "bob") r' depth' → (r', depth') ≠ (r, depth) →
          r'.rank depth' < r.rank depth := by
  have hload : (load "[a:/]\nbob = r\n[/]\nbob = rw\n[/docs]\neve = rw\n" none).toOption.any
      (fun m => decide (m.effectiveAccess "a" "/docs" (.user "bob") false = .reading)) = true := by decide +kernel
  obtain ⟨m, hm, haccess⟩ := exists_ok_of_any hload
  have haccess := of_decide_eq_true haccess
  obtain ⟨hnone, hsome⟩ := effectiveAccess_by_precedence hm "a" "/docs" (.user "bob")
  have hsay : ∃ r depth, m.HasSay "a" "/docs" (.user "bob") r depth := by
    by_contra hno
    have := hnone fun r depth h => hno ⟨r, depth, h⟩
    rw [haccess] at this
    cases this
  refine ⟨m, hm, haccess, ?_⟩
  rw [← haccess]
  exact hsome hsay

end Model

end PathAuthz
