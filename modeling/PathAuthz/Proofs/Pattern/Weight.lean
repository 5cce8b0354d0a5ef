/-
  PathAuthz.Proofs.Pattern.Weight — how heavy a glob can get at most.

  (1) Spans make no more steps than they have bytes (`states_addSpans_le`). So whatever a piece
  is, it makes an automaton heavier by no more than a fixed weight, and a set by no more than
  that for each of its ranges (`weight_readRanges_le`).

  (2) Ten thousand pieces without a set fit (`fits_of_no_sets`), and so does one set with 2400
  ranges (`fits_of_set`).
-/

import Mathlib.Algebra.Group.Action.Defs
import Mathlib.Algebra.Order.BigOperators.Group.List
import Mathlib.Algebra.Order.Ring.Nat
import Mathlib.Tactic.Ring
import PathAuthz.Pattern.Glob

namespace PathAuthz.Pattern

open Text.Utf8 (Span spansOf spansBetween behind widths)

/-! ## (1) What is read makes heavier -/

namespace Steps

variable (place : Step → Nat) (k : Steps)

theorem states_state_le (s : Step) : (k.state place s).1.states ≤ k.states + 1 := by
  unfold state
  split
  · split
    · exact Nat.le_succ _
    · exact Nat.le_refl _
  · exact Nat.le_refl _

theorem states_addSpan_le (next : Nat) (span : Span) : (k.addSpan place next span).states ≤ k.states + span.length := by
  induction span generalizing k next with
  | nil => exact Nat.le_refl _
  | cons r rest ih =>
    have hstep := states_state_le place k ⟨next, r⟩
    have hrest := ih (k.state place ⟨next, r⟩).1 (k.state place ⟨next, r⟩).2
    show ((k.state place ⟨next, r⟩).1.addSpan place (k.state place ⟨next, r⟩).2 rest).states ≤ _
    rw [List.length_cons]
    omega

theorem states_addSpans_le (next : Nat) (spans : List Span) :
    (k.addSpans place next spans).states ≤ k.states + (spans.map List.length).sum := by
  unfold addSpans
  induction spans generalizing k with
  | nil => exact Nat.le_refl _
  | cons s rest ih =>
    have hspan := states_addSpan_le place k next s
    have hrest := ih (k.addSpan place next s)
    rw [List.foldl_cons, List.map_cons, List.sum_cons]
    omega

end Steps

theorem length_ite_nil_le {p : Prop} [Decidable p] {spans : List Span} {n : Nat} (h : spans.length ≤ n) :
    (if p then spans else []).length ≤ n := by
  split
  · exact h
  · exact Nat.zero_le n

theorem length_spansBetween_le (lead more lo hi : Nat) : (spansBetween lead more lo hi).length ≤ 2 ^ (more + 1) - 1 := by
  induction more generalizing lead lo hi with
  | zero => exact Nat.le_refl _
  | succ more ih =>
    have hpow : 2 ^ (more + 1 + 1) = 2 * 2 ^ (more + 1) := Nat.pow_succ'
    have hpos : 0 < 2 ^ (more + 1) := Nat.two_pow_pos _
    have hbehind : ∀ byte lo hi, (behind byte (spansBetween 0x80 more lo hi)).length ≤ 2 ^ (more + 1) - 1 := by
      intro byte lo hi
      rw [behind, List.length_map]
      exact ih _ _ _
    simp only [spansBetween]
    split
    · have := hbehind (lead + lo / Nat.pow 64 (more + 1)) (lo % Nat.pow 64 (more + 1)) (hi % Nat.pow 64 (more + 1))
      omega
    · have hmiddle : ∀ span : Span, [span].length ≤ 1 := fun _ => Nat.le_refl 1
      rw [List.length_append, List.length_append]
      refine Nat.le_trans (Nat.add_le_add (Nat.add_le_add (length_ite_nil_le (hbehind _ _ _))
        (length_ite_nil_le (hmiddle _))) (length_ite_nil_le (hbehind _ _ _))) ?_
      omega

theorem length_of_mem_spansBetween {lead more lo hi : Nat} {span : Span} (h : span ∈ spansBetween lead more lo hi) :
    span.length = more + 1 := by
  induction more generalizing lead lo hi span with
  | zero =>
    rw [spansBetween, List.mem_singleton] at h
    rw [h]
    rfl
  | succ more ih =>
    have hbehind : ∀ {byte lo hi}, span ∈ behind byte (spansBetween 0x80 more lo hi) → span.length = more + 1 + 1 := by
      intro byte lo hi hmem
      obtain ⟨rest, hrest, rfl⟩ := List.mem_map.1 hmem
      rw [List.length_cons, ih hrest]
    have hpart : ∀ {p : Prop} [Decidable p] {spans : List Span}, span ∈ (if p then spans else []) → span ∈ spans := by
      intro p _ spans hmem
      split at hmem
      · exact hmem
      · cases hmem
    simp only [spansBetween] at h
    split at h
    · exact hbehind h
    · rcases List.mem_append.1 h with h | h
      · rcases List.mem_append.1 h with h | h
        · exact hbehind (hpart h)
        · rw [List.mem_singleton.1 (hpart h), List.length_cons, List.length_replicate]
      · exact hbehind (hpart h)

theorem length_spansOf_le (lo hi : Nat) : (spansOf lo hi).length ≤ 33 := by
  have hwidth : ∀ lead more lo hi, (if lo ≤ hi then spansBetween lead more lo hi else []).length ≤ 2 ^ (more + 1) - 1 :=
    fun lead more lo hi => length_ite_nil_le (length_spansBetween_le lead more lo hi)
  simp only [spansOf, widths, List.flatMap_cons, List.flatMap_nil, List.length_append, List.length_nil]
  have h₁ := hwidth 0 0 (max lo 0) (min hi 0x7F)
  have h₂ := hwidth 0xC0 1 (max lo 0x80) (min hi 0x7FF)
  have h₃ := hwidth 0xE0 2 (max lo 0x800) (min hi 0xD7FF)
  have h₄ := hwidth 0xE0 2 (max lo 0xE000) (min hi 0xFFFF)
  have h₅ := hwidth 0xF0 3 (max lo 0x10000) (min hi 0x10FFFF)
  omega

theorem length_le_of_mem_spansOf {lo hi : Nat} {span : Span} (h : span ∈ spansOf lo hi) : span.length ≤ 4 := by
  obtain ⟨w, hw, h⟩ := List.mem_flatMap.1 h
  have hmore : w.more ≤ 3 := by
    revert w
    simp [widths]
  simp only at h
  split at h
  · rw [length_of_mem_spansBetween h]
    omega
  · cases h

theorem length_flatMap_spansOf_le (ranges : List (Nat × Nat)) :
    (ranges.flatMap fun r => spansOf r.1 r.2).length ≤ ranges.length * 33 := by
  rw [List.length_flatMap]
  refine Nat.le_trans (List.sum_le_card_nsmul _ 33 ?_) (by simp)
  intro n hn
  obtain ⟨r, -, rfl⟩ := List.mem_map.1 hn
  exact length_spansOf_le r.1 r.2

theorem sum_length_flatMap_spansOf_le (ranges : List (Nat × Nat)) :
    ((ranges.flatMap fun r => spansOf r.1 r.2).map List.length).sum ≤ ranges.length * 132 := by
  have hlength := length_flatMap_spansOf_le ranges
  have hbytes : ((ranges.flatMap fun r => spansOf r.1 r.2).map List.length).sum ≤
      ((ranges.flatMap fun r => spansOf r.1 r.2).map List.length).length • 4 := by
    refine List.sum_le_card_nsmul _ 4 fun n hn => ?_
    obtain ⟨span, hspan, rfl⟩ := List.mem_map.1 hn
    obtain ⟨r, -, hspan⟩ := List.mem_flatMap.1 hspan
    exact length_le_of_mem_spansOf hspan
  rw [List.length_map, smul_eq_mul] at hbytes
  omega

namespace Automaton

variable (a : Automaton)

theorem weight_readChar_le (c : Char) : (a.readChar c).weight ≤ a.weight + 128 := by
  have := c.utf8Size_le_four
  simp only [readChar, weight]
  omega

theorem weight_readSpans_le (spans : List Span) :
    (a.readSpans spans).weight ≤ a.weight + 64 + 32 * (spans.map List.length).sum + 4 * spans.length := by
  have := Steps.states_addSpans_le Step.place (Steps.ofStates (a.states + 2)) (a.states + 1) spans
  simp only [readSpans, weight, Steps.ofStates] at this ⊢
  omega

theorem weight_readAny_le : a.readAny.weight ≤ a.weight + 1000 := by
  have hlength : anySpans.length = 10 := by decide +kernel
  have hbytes : (anySpans.map List.length).sum = 28 := by decide +kernel
  have := a.weight_readSpans_le anySpans
  rw [hlength, hbytes] at this
  exact this

theorem weight_readRun_le : a.readRun.weight ≤ a.weight + 1040 := by
  have := weight_readAny_le ⟨a.states + 1, a.ways + 8⟩
  simp only [readRun, weight] at this ⊢
  omega

theorem several_eq (ranges : List (Nat × Nat)) :
    readRanges.several a ranges =
      if ranges.all (·.2 < 0x80) then ⟨a.states + 2, a.ways + 8 * ranges.length⟩
      else a.readSpans (ranges.flatMap fun r => spansOf r.1 r.2) := rfl

theorem weight_several_le (ranges : List (Nat × Nat)) :
    (readRanges.several a ranges).weight ≤ a.weight + 128 + 4356 * ranges.length := by
  rw [several_eq]
  split
  · simp only [weight]
    omega
  · have hspans := length_flatMap_spansOf_le ranges
    have hbytes := sum_length_flatMap_spansOf_le ranges
    have hread := a.weight_readSpans_le (ranges.flatMap fun r => spansOf r.1 r.2)
    omega

/-- A set is no heavier than its ranges, each with all the spans it may fall into. -/
theorem weight_readRanges_le (ranges : List (Nat × Nat)) :
    (a.readRanges ranges).weight ≤ a.weight + 128 + 4356 * ranges.length := by
  unfold readRanges
  split
  · split
    · exact Nat.le_trans (a.weight_readChar_le _) (Nat.le_add_right (a.weight + 128) _)
    · exact a.weight_several_le _
  · exact a.weight_several_le _

end Automaton

/-! ## (2) What fits -/

theorem weight_before_le {p : Piece} (h : ∀ s, p ≠ .oneOf s) (a : Automaton) : (p.before a).weight ≤ a.weight + 1040 := by
  cases p with
  | run => exact a.weight_readRun_le
  | anyOne => exact Nat.le_trans a.weight_readAny_le (Nat.add_le_add_left (by decide) _)
  | exactly c => exact Nat.le_trans (a.weight_readChar_le c) (Nat.add_le_add_left (by decide) _)
  | oneOf s => exact absurd rfl (h s)

theorem weight_le {ps : List Piece} (h : ∀ p ∈ ps, ∀ s, p ≠ .oneOf s) : weight ps ≤ 128 + 1040 * ps.length := by
  unfold weight
  induction ps with
  | nil => decide
  | cons p ps ih =>
    obtain ⟨hp, hps⟩ := List.forall_mem_cons.1 h
    have hrest := ih hps
    have hfirst := weight_before_le hp (ps.foldr Piece.before .empty)
    calc ((p :: ps).foldr Piece.before .empty).weight
        ≤ (ps.foldr Piece.before .empty).weight + 1040 := hfirst
      _ ≤ 128 + 1040 * ps.length + 1040 := Nat.add_le_add_right hrest _
      _ = 128 + 1040 * (p :: ps).length := by rw [List.length_cons]; ring

/-- Ten thousand pieces fit, if no set is among them. -/
theorem fits_of_no_sets {ps : List Piece} (h : ∀ p ∈ ps, ∀ s, p ≠ .oneOf s) (hlength : ps.length ≤ 10000) :
    fits ps = true := by
  have := weight_le h
  rw [fits_eq_weight_le, decide_eq_true_eq, heaviest]
  omega

/-- A set with 2400 ranges fits. -/
theorem fits_of_set {s : CharClass} (h : s.codes.ranges.length ≤ 2400) : fits [.oneOf s] = true := by
  have hset : weight [.oneOf s] ≤ 128 + 128 + 4356 * s.codes.ranges.length := Automaton.weight_readRanges_le .empty _
  rw [fits_eq_weight_le, decide_eq_true_eq, heaviest]
  omega

end PathAuthz.Pattern
