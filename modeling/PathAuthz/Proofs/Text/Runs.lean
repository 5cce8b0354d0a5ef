/-
  PathAuthz.Proofs.Text.Runs — how many runs a set of code points is written in.

  Cutting runs makes at most one more of them (`length_cutAt_le`), so two sets made one have
  no more runs than both together (`length_zipRuns_le`), and neither tidying nor listing the
  ranges adds any. A set of single characters has at most two runs for each of them
  (`length_runs_unions_le`).
-/

import PathAuthz.Text.CodeSet

namespace PathAuthz.Text

namespace CodeMap

variable {α β γ : Type}

theorem length_cutAt_le (d : α) (n : Nat) (runs : List (Nat × α)) :
    (cutAt d n runs).1.length + (cutAt d n runs).2.length ≤ runs.length + 1 := by
  fun_induction cutAt d n runs with
  | case1 n => simp
  | case2 n m x rest hm => simp; omega
  | case3 n m x rest hm front back hcut ih =>
    rw [hcut] at ih
    simp only [List.length_cons] at ih ⊢
    omega

theorem length_zipRuns_le (f : α → β → γ) (dx : α) (dy : β) (xs : List (Nat × α)) (ys : List (Nat × β)) :
    (zipRuns f dx dy xs ys).length ≤ xs.length + ys.length := by
  induction xs generalizing ys with
  | nil => simp [zipRuns]
  | cons x xs ih =>
    have hcut := length_cutAt_le dy x.1 ys
    have hrest := ih (cutAt dy x.1 ys).2
    simp only [zipRuns, List.length_append, List.length_map, List.length_cons]
    omega

theorem length_tidyRuns_le [DecidableEq α] (runs : List (Nat × α)) : (tidyRuns runs).length ≤ runs.length := by
  induction runs with
  | nil => exact Nat.le_refl _
  | cons run rest ih =>
    have hcons : ∀ (n : Nat) (x : α) (rs : List (Nat × α)), (consRun n x rs).length ≤ rs.length + 1 := by
      intro n x rs
      fun_cases consRun n x rs <;> simp
    have := hcons run.1 run.2 (tidyRuns rest)
    simp only [tidyRuns, List.length_cons]
    omega

end CodeMap

namespace CodeSet

open CodeMap (length_zipRuns_le length_tidyRuns_le)

variable (s t : CodeSet)

theorem length_runs_union_le : (s ∪ t).runs.length ≤ s.runs.length + t.runs.length :=
  Nat.le_trans (length_tidyRuns_le _) (length_zipRuns_le _ _ _ _ _)

theorem length_runs_inter_le : (s ∩ t).runs.length ≤ s.runs.length + t.runs.length :=
  Nat.le_trans (length_tidyRuns_le _) (length_zipRuns_le _ _ _ _ _)

theorem length_runs_sdiff_le : (s \ t).runs.length ≤ s.runs.length + t.runs.length :=
  Nat.le_trans (length_tidyRuns_le _) (length_zipRuns_le _ _ _ _ _)

theorem length_runs_unions_le (cs : List Char) : (unions (cs.map single)).runs.length ≤ 2 * cs.length := by
  induction cs with
  | nil => exact Nat.le_refl _
  | cons c cs ih =>
    have hmore : (unions ((c :: cs).map single)).runs.length ≤ 2 + (unions (cs.map single)).runs.length :=
      length_runs_union_le (single c) _
    rw [List.length_cons]
    omega

theorem length_rangesFrom_le (start : Nat) (runs : List (Nat × Bool)) : (rangesFrom start runs).length ≤ runs.length := by
  induction runs generalizing start with
  | nil => exact Nat.le_refl _
  | cons run rest ih =>
    have := ih (start + run.1)
    rw [rangesFrom, List.length_cons]
    split
    · rw [List.length_cons]
      omega
    · omega

theorem length_ranges_le : s.ranges.length ≤ s.runs.length :=
  Nat.le_trans (length_rangesFrom_le 0 _) (length_tidyRuns_le _)

end CodeSet

end PathAuthz.Text
