/-
  PathAuthz.Text.CodeSet — sets of code points.

  (1) A set says of every code point whether it holds it. Union, intersection and difference
  are taken code point by code point, and `contains_union`, `contains_inter` and
  `contains_sdiff` say so for characters.

  (2) `ranges` lists what a set holds within its runs; `get_iff_mem_ranges` says that the
  list is complete for a set that holds nothing beyond them.
-/

import PathAuthz.Text.CodeMap

namespace PathAuthz.Text

abbrev CodeSet := CodeMap Bool

namespace CodeSet

/-! ## (1) Sets -/

def contains (s : CodeSet) (c : Char) : Bool := s.get c.toNat

def empty : CodeSet := ⟨[], false⟩

/-- The code points from `lo` to `hi`, both included. -/
def range (lo hi : Nat) : CodeSet := ⟨[(lo, false), (hi + 1 - lo, true)], false⟩

def single (c : Char) : CodeSet := ⟨[(c.toNat, false), (1, true)], false⟩

/-- The code points that are characters: all but the surrogates. -/
def characters : CodeSet := ⟨[(0xD800, true), (0x800, false), (0x102000, true)], false⟩

instance : Union CodeSet := ⟨fun s t => (CodeMap.zipWith (· || ·) s t).tidy⟩

instance : Inter CodeSet := ⟨fun s t => (CodeMap.zipWith (· && ·) s t).tidy⟩

instance : SDiff CodeSet := ⟨fun s t => (CodeMap.zipWith (fun x y => x && !y) s t).tidy⟩

@[simp] theorem get_union (s t : CodeSet) (i : Nat) : (s ∪ t).get i = (s.get i || t.get i) := by
  show ((CodeMap.zipWith (· || ·) s t).tidy).get i = _
  simp

@[simp] theorem get_inter (s t : CodeSet) (i : Nat) : (s ∩ t).get i = (s.get i && t.get i) := by
  show ((CodeMap.zipWith (· && ·) s t).tidy).get i = _
  simp

@[simp] theorem get_sdiff (s t : CodeSet) (i : Nat) : (s \ t).get i = (s.get i && !t.get i) := by
  show ((CodeMap.zipWith (fun x y => x && !y) s t).tidy).get i = _
  simp

@[simp] theorem contains_union (s t : CodeSet) (c : Char) : (s ∪ t).contains c = (s.contains c || t.contains c) :=
  get_union s t c.toNat

@[simp] theorem contains_inter (s t : CodeSet) (c : Char) : (s ∩ t).contains c = (s.contains c && t.contains c) :=
  get_inter s t c.toNat

@[simp] theorem contains_sdiff (s t : CodeSet) (c : Char) : (s \ t).contains c = (s.contains c && !t.contains c) :=
  get_sdiff s t c.toNat

@[simp] theorem contains_empty (c : Char) : empty.contains c = false := rfl

theorem get_range (lo hi i : Nat) : (range lo hi).get i = (decide (lo ≤ i) && decide (i ≤ hi)) := by
  by_cases h : i < lo
  · simp [range, CodeMap.get, CodeMap.valueIn, h, Nat.not_le.2 h]
  · by_cases h' : i ≤ hi
    · simp [range, CodeMap.get, CodeMap.valueIn, h, h', Nat.not_lt.1 h]; omega
    · simp [range, CodeMap.get, CodeMap.valueIn, h, h']; omega

@[simp] theorem contains_single (d c : Char) : (single d).contains c = (c == d) := by
  have he : c = d ↔ c.toNat = d.toNat := ⟨congrArg _, fun h => Char.ext (UInt32.toNat_inj.1 h)⟩
  rw [Bool.eq_iff_iff, beq_iff_eq, he]
  simp only [contains, single, CodeMap.get, CodeMap.valueIn]
  split
  · simp; omega
  · split <;> simp <;> omega

/-- Every character is one of the characters. -/
@[simp] theorem contains_characters (c : Char) : characters.contains c = true := by
  have hv : c.toNat < 0xD800 ∨ (0xDFFF < c.toNat ∧ c.toNat < 0x110000) := c.valid
  simp only [contains, characters, CodeMap.get, CodeMap.valueIn]
  split
  · rfl
  · rw [if_neg (by omega), if_pos (by omega)]

/-- The union of some sets. -/
def unions (ss : List CodeSet) : CodeSet := ss.foldr (· ∪ ·) empty

theorem contains_unions (ss : List CodeSet) (c : Char) : (unions ss).contains c = ss.any (·.contains c) := by
  induction ss with
  | nil => rfl
  | cons s ss ih => simpa [unions] using congrArg (s.contains c || ·) ih

/-! ## (2) Ranges -/

/-- The ranges that some runs hold, counted from a place; both ends are included. -/
def rangesFrom : Nat → List (Nat × Bool) → List (Nat × Nat)
  | _, [] => []
  | at_, (n, holds) :: rest =>
    if holds ∧ n ≠ 0 then (at_, at_ + n - 1) :: rangesFrom (at_ + n) rest else rangesFrom (at_ + n) rest

def ranges (s : CodeSet) : List (Nat × Nat) := rangesFrom 0 s.tidy.runs

/-- Runs hold no place before they start. -/
theorem le_of_mem_rangesFrom {start : Nat} {runs : List (Nat × Bool)} {r : Nat × Nat} (h : r ∈ rangesFrom start runs) :
    start ≤ r.1 := by
  induction runs generalizing start with
  | nil => simp [rangesFrom] at h
  | cons run rest ih =>
    simp only [rangesFrom] at h
    split at h
    · rcases List.mem_cons.1 h with rfl | h
      · exact Nat.le_refl _
      · have := ih h; omega
    · have := ih h; omega

theorem valueIn_iff_mem_rangesFrom (start : Nat) (runs : List (Nat × Bool)) (i : Nat) :
    CodeMap.valueIn false runs i = true ↔ ∃ r ∈ rangesFrom start runs, r.1 ≤ start + i ∧ start + i ≤ r.2 := by
  induction runs generalizing start i with
  | nil => simp [CodeMap.valueIn, rangesFrom]
  | cons run rest ih =>
    obtain ⟨n, holds⟩ := run
    by_cases hi : i < n
    · have hrest : ¬ ∃ r ∈ rangesFrom (start + n) rest, r.1 ≤ start + i ∧ start + i ≤ r.2 := by
        rintro ⟨r, hr, hlo, -⟩
        have := le_of_mem_rangesFrom hr
        omega
      cases holds with
      | false => simp [CodeMap.valueIn, rangesFrom, hi]; simpa using hrest
      | true => simp [CodeMap.valueIn, rangesFrom, hi, Nat.ne_zero_of_lt hi]; left; omega
    · have := ih (start + n) (i - n)
      rw [show start + n + (i - n) = start + i by omega] at this
      simp only [CodeMap.valueIn, hi, if_false, rangesFrom, this]
      split
      · rename_i h
        have : ¬ start + i ≤ start + n - 1 := by omega
        simp [this]
      · rfl

/-- A set that holds nothing beyond its runs holds what its ranges hold. -/
theorem get_iff_mem_ranges {s : CodeSet} (h : s.beyond = false) (i : Nat) :
    s.get i = true ↔ ∃ r ∈ s.ranges, r.1 ≤ i ∧ i ≤ r.2 := by
  have := valueIn_iff_mem_rangesFrom 0 s.tidy.runs i
  rw [← CodeMap.get_tidy s i]
  simpa [CodeMap.get, ranges, CodeMap.tidy, h] using this

end CodeSet

end PathAuthz.Text
