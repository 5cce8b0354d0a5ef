/-
  PathAuthz.Proofs.Pattern.Covering — where pieces cut the texts they cover.

  (1) `behindRun` asks a question behind any number of items, and `behindOne` behind one of
  them: the list can be cut so that the question holds of what is left (`behindRun_iff`,
  `behindOne_iff`).

  (2) So pieces cover what the first of them takes in front of what the others cover
  (`covers_run_cons`, `covers_cons`), characters that stand for themselves cover themselves
  (`covers_exactly_append`), and a set covers its characters (`covers_oneOf`).
-/

import Mathlib.Data.List.Basic
import PathAuthz.Pattern.Glob

namespace PathAuthz.Pattern

/-! ## (1) Cuts -/

variable {α : Type}

theorem behindOne_iff {p : α → Bool} {goOn : List α → Bool} {cs : List α} :
    behindOne p goOn cs = true ↔ ∃ c rest, cs = c :: rest ∧ p c = true ∧ goOn rest = true := by
  cases cs with
  | nil => simp [behindOne]
  | cons c cs => simp [behindOne]

theorem behindRun_iff {p : α → Bool} {goOn : List α → Bool} {cs : List α} :
    behindRun p goOn cs = true ↔ ∃ run rest, cs = run ++ rest ∧ (∀ c ∈ run, p c = true) ∧ goOn rest = true := by
  induction cs with
  | nil => simp [behindRun]
  | cons c cs ih =>
    rw [behindRun, Bool.or_eq_true, Bool.and_eq_true, ih]
    constructor
    · rintro (hnow | ⟨hc, run, rest, rfl, hrun, hrest⟩)
      · exact ⟨[], c :: cs, rfl, by simp, hnow⟩
      · exact ⟨c :: run, rest, rfl, List.forall_mem_cons.2 ⟨hc, hrun⟩, hrest⟩
    · rintro ⟨run, rest, hcut, hrun, hrest⟩
      cases run with
      | nil =>
        left
        rw [List.nil_append] at hcut
        rw [hcut]
        exact hrest
      | cons d run =>
        obtain ⟨rfl, rfl⟩ := List.cons_eq_cons.1 hcut
        obtain ⟨hc, hrun⟩ := List.forall_mem_cons.1 hrun
        exact Or.inr ⟨hc, run, rest, rfl, hrun, hrest⟩

/-! ## (2) Pieces -/

theorem covers_nil {text : List Char} : covers [] text = true ↔ text = [] := by
  rw [covers, List.isEmpty_iff]

theorem covers_run_cons {ps : List Piece} {text : List Char} :
    covers (.run :: ps) text = true ↔ ∃ run rest, text = run ++ rest ∧ '\n' ∉ run ∧ covers ps rest = true := by
  rw [covers, behindRun_iff]
  have hrun : ∀ run : List Char, (∀ c ∈ run, Piece.run.accepts c = true) ↔ '\n' ∉ run := by
    intro run
    simp only [Piece.accepts, bne_iff_ne, ne_eq]
    exact ⟨fun h hmem => h _ hmem rfl, fun h c hc he => h (he ▸ hc)⟩
  simp only [hrun]

/-- A piece that is no run takes one character. -/
theorem covers_cons {p : Piece} {ps : List Piece} {text : List Char} (h : p ≠ .run) :
    covers (p :: ps) text = true ↔ ∃ c rest, text = c :: rest ∧ p.accepts c = true ∧ covers ps rest = true := by
  cases p with
  | run => exact absurd rfl h
  | anyOne => exact behindOne_iff
  | exactly d => exact behindOne_iff
  | oneOf s => exact behindOne_iff

theorem covers_exactly_cons {c : Char} {ps : List Piece} {text : List Char} :
    covers (.exactly c :: ps) text = true ↔ ∃ rest, text = c :: rest ∧ covers ps rest = true := by
  rw [covers_cons (by simp)]
  simp [Piece.accepts]

theorem covers_exactly_append {cs : List Char} {ps : List Piece} {text : List Char} :
    covers (cs.map .exactly ++ ps) text = true ↔ ∃ rest, text = cs ++ rest ∧ covers ps rest = true := by
  induction cs generalizing text with
  | nil => simp
  | cons c cs ih =>
    rw [List.map_cons, List.cons_append, covers_exactly_cons]
    constructor
    · rintro ⟨behind, rfl, hbehind⟩
      obtain ⟨rest, rfl, hrest⟩ := ih.1 hbehind
      exact ⟨rest, rfl, hrest⟩
    · rintro ⟨rest, rfl, hrest⟩
      exact ⟨cs ++ rest, rfl, ih.2 ⟨rest, rfl, hrest⟩⟩

theorem covers_exactly {cs text : List Char} : covers (cs.map .exactly) text = true ↔ text = cs := by
  rw [← List.append_nil (cs.map Piece.exactly), covers_exactly_append]
  simp [covers_nil]

theorem covers_oneOf {s : CharClass} {text : List Char} :
    covers [.oneOf s] text = true ↔ ∃ c, text = [c] ∧ s.contains c = true := by
  rw [covers_cons (by simp)]
  simp only [covers_nil, Piece.accepts]
  constructor
  · rintro ⟨c, rest, rfl, hc, rfl⟩
    exact ⟨c, rfl, hc⟩
  · rintro ⟨c, rfl, hc⟩
    exact ⟨c, [], rfl, hc, rfl⟩

end PathAuthz.Pattern
