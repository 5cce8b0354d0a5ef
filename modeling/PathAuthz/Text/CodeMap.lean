/-
  PathAuthz.Text.CodeMap — a value for every code point, written as runs of one value.

  (1) A map is a list of runs, each with its length, and the value of everything beyond them.
  Neighbouring runs may have the same value, and a run may be empty.

  (2) `map` and `zipWith` work on all values at once. `get_map` and `get_zipWith` say what
  they do at one code point.

  (3) `tidy` writes a map with no empty run and no two neighbouring runs of one value, and
  changes no value (`get_tidy`).
-/

namespace PathAuthz.Text

/-! ## (1) Maps -/

structure CodeMap (α : Type) where
  runs : List (Nat × α)
  beyond : α
  deriving DecidableEq, Repr

namespace CodeMap

variable {α β γ : Type}

/-- The value at a place counted from the first of some runs. -/
def valueIn (beyond : α) : List (Nat × α) → Nat → α
  | [], _ => beyond
  | (n, x) :: rest, i => if i < n then x else valueIn beyond rest (i - n)

/-- The value of a code point. -/
def get (m : CodeMap α) (i : Nat) : α := valueIn m.beyond m.runs i

/-! ## (2) All values at once -/

def map (f : α → β) (m : CodeMap α) : CodeMap β := ⟨m.runs.map fun (n, x) => (n, f x), f m.beyond⟩

theorem valueIn_map (f : α → β) (d : α) (runs : List (Nat × α)) (i : Nat) :
    valueIn (f d) (runs.map fun (n, x) => (n, f x)) i = f (valueIn d runs i) := by
  induction runs generalizing i with
  | nil => rfl
  | cons r rest ih => simp only [List.map_cons, valueIn, ih]; split <;> rfl

@[simp] theorem get_map (f : α → β) (m : CodeMap α) (i : Nat) : (m.map f).get i = f (m.get i) :=
  valueIn_map f m.beyond m.runs i

/-- The runs of the first `n` places, and what is left. -/
def cutAt (beyond : α) : Nat → List (Nat × α) → List (Nat × α) × List (Nat × α)
  | n, [] => ([(n, beyond)], [])
  | n, (m, x) :: rest =>
    if n < m then ([(n, x)], (m - n, x) :: rest)
    else
      let (front, back) := cutAt beyond (n - m) rest
      ((m, x) :: front, back)

def zipRuns (f : α → β → γ) (dx : α) (dy : β) : List (Nat × α) → List (Nat × β) → List (Nat × γ)
  | [], ys => ys.map fun (n, y) => (n, f dx y)
  | (n, x) :: xs, ys =>
    let (front, back) := cutAt dy n ys
    (front.map fun (m, y) => (m, f x y)) ++ zipRuns f dx dy xs back

/-- Two maps made one, value by value. -/
def zipWith (f : α → β → γ) (a : CodeMap α) (b : CodeMap β) : CodeMap γ :=
  ⟨zipRuns f a.beyond b.beyond a.runs b.runs, f a.beyond b.beyond⟩

/-- The first `n` places come from the front of a cut. -/
theorem valueIn_cutAt_append (d d' : α) {n : Nat} {runs : List (Nat × α)} {i : Nat} (h : i < n)
    (more : List (Nat × α)) : valueIn d' ((cutAt d n runs).1 ++ more) i = valueIn d runs i := by
  fun_induction cutAt d n runs generalizing i with
  | case1 n => simp [valueIn, h]
  | case2 n m x rest hm => simp [valueIn, h, Nat.lt_trans h hm]
  | case3 n m x rest hm front back hcut ih =>
    simp only [List.cons_append, valueIn]
    split
    · rfl
    · rw [hcut] at ih; exact ih (by omega)

/-- Behind the front of a cut, the places are those of what follows it. -/
theorem valueIn_append_cutAt (d d' : α) {n : Nat} {runs : List (Nat × α)} {i : Nat} (h : n ≤ i)
    (more : List (Nat × α)) : valueIn d' ((cutAt d n runs).1 ++ more) i = valueIn d' more (i - n) := by
  fun_induction cutAt d n runs generalizing i with
  | case1 n => simp [valueIn, Nat.not_lt.2 h]
  | case2 n m x rest hm => simp [valueIn, Nat.not_lt.2 h]
  | case3 n m x rest hm front back hcut ih =>
    simp only [List.cons_append, valueIn]
    split
    · omega
    · rw [hcut] at ih
      rw [ih (by omega)]
      congr 1; omega

/-- What a cut leaves starts at the place of the cut. -/
theorem valueIn_cutAt_snd (d : α) (n : Nat) (runs : List (Nat × α)) (i : Nat) :
    valueIn d (cutAt d n runs).2 i = valueIn d runs (n + i) := by
  fun_induction cutAt d n runs generalizing i with
  | case1 n => rfl
  | case2 n m x rest hm =>
    simp only [valueIn]
    split
    · rw [if_pos (by omega)]
    · rw [if_neg (by omega)]; congr 1; omega
  | case3 n m x rest hm front back hcut ih =>
    rw [hcut] at ih
    simp only [valueIn]
    rw [if_neg (by omega), ih]
    congr 1; omega

theorem cutAt_map (f : α → β) (d : α) (n : Nat) (runs : List (Nat × α)) :
    (cutAt (f d) n (runs.map fun (m, x) => (m, f x))).1 = (cutAt d n runs).1.map fun (m, x) => (m, f x) := by
  fun_induction cutAt d n runs with
  | case1 n => rfl
  | case2 n m x rest hm => simp [cutAt, hm]
  | case3 n m x rest hm front back hcut ih => rw [hcut] at ih; simp [cutAt, hm, ih]

theorem valueIn_zipRuns (f : α → β → γ) (dx : α) (dy : β) (xs : List (Nat × α)) (ys : List (Nat × β)) (i : Nat) :
    valueIn (f dx dy) (zipRuns f dx dy xs ys) i = f (valueIn dx xs i) (valueIn dy ys i) := by
  induction xs generalizing ys i with
  | nil => exact valueIn_map (f dx) dy ys i
  | cons x xs ih =>
    obtain ⟨n, x⟩ := x
    simp only [zipRuns, valueIn, ← cutAt_map]
    split
    · rename_i h
      rw [valueIn_cutAt_append (f x dy) _ h, valueIn_map]
    · rename_i h
      rw [valueIn_append_cutAt (f x dy) _ (by omega), ih, valueIn_cutAt_snd]
      congr 2; omega

@[simp] theorem get_zipWith (f : α → β → γ) (a : CodeMap α) (b : CodeMap β) (i : Nat) :
    (zipWith f a b).get i = f (a.get i) (b.get i) :=
  valueIn_zipRuns f a.beyond b.beyond a.runs b.runs i

/-! ## (3) Tidy maps -/

variable [DecidableEq α]

/-- Put a run in front of tidy runs. -/
def consRun (n : Nat) (x : α) : List (Nat × α) → List (Nat × α)
  | [] => if n = 0 then [] else [(n, x)]
  | (m, y) :: rest => if n = 0 then (m, y) :: rest else if x = y then (n + m, y) :: rest else (n, x) :: (m, y) :: rest

def tidyRuns : List (Nat × α) → List (Nat × α)
  | [] => []
  | (n, x) :: rest => consRun n x (tidyRuns rest)

def tidy (m : CodeMap α) : CodeMap α := ⟨tidyRuns m.runs, m.beyond⟩

theorem valueIn_consRun (d : α) (n : Nat) (x : α) (runs : List (Nat × α)) (i : Nat) :
    valueIn d (consRun n x runs) i = valueIn d ((n, x) :: runs) i := by
  fun_cases consRun n x runs with
  | case1 => simp_all [valueIn]
  | case2 => rfl
  | case3 => simp_all [valueIn]
  | case4 m rest hn =>
    simp only [valueIn]
    by_cases h : i < n
    · rw [if_pos h, if_pos (by omega)]
    · rw [if_neg h]
      by_cases h' : i < n + m
      · rw [if_pos h', if_pos (by omega)]
      · rw [if_neg h', if_neg (by omega)]; congr 1; omega
  | case5 => rfl

theorem valueIn_tidyRuns (d : α) (runs : List (Nat × α)) (i : Nat) : valueIn d (tidyRuns runs) i = valueIn d runs i := by
  induction runs generalizing i with
  | nil => rfl
  | cons r rest ih => simp only [tidyRuns, valueIn_consRun, valueIn, ih]

@[simp] theorem get_tidy (m : CodeMap α) (i : Nat) : m.tidy.get i = m.get i := valueIn_tidyRuns m.beyond m.runs i

end CodeMap

end PathAuthz.Text
