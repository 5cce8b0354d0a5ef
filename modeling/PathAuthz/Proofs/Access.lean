/-
  PathAuthz.Proofs.Access — rights as sets, and grants that may be absent.

  (1) `∪` and `∩` are union and intersection for `⊆`. `unionAll` and `interAll` take them over
  a list; the least upper and the greatest lower bound are `unionAll_subset_iff` and
  `subset_interAll_iff`.

  (2) Whether an entry has a say and what it then grants is one `Option Access`. `Grant.also`
  unites two of them, absence being neutral, and `Grant.gather` a whole list. A gathered grant
  is present iff one of its parts is (`isSome_gather`) and is then their union
  (`gather_eq_some`). It depends on which parts there are (`gather_congr`) and grows with them
  (`gather_mono`).
-/

import Mathlib.Data.List.Forall2
import PathAuthz.Draft

namespace PathAuthz

namespace Access

/-! ## (1) Bounds -/

theorem subset_iff {a b : Access} : a ⊆ b ↔ (a.read = true → b.read = true) ∧ (a.write = true → b.write = true) :=
  Iff.rfl

@[simp] theorem union_read (a b : Access) : (a ∪ b).read = (a.read || b.read) := rfl
@[simp] theorem union_write (a b : Access) : (a ∪ b).write = (a.write || b.write) := rfl
@[simp] theorem inter_read (a b : Access) : (a ∩ b).read = (a.read && b.read) := rfl
@[simp] theorem inter_write (a b : Access) : (a ∩ b).write = (a.write && b.write) := rfl

theorem ext_iff {a b : Access} : a = b ↔ a.read = b.read ∧ a.write = b.write := by
  cases a; cases b; simp

theorem Subset.refl (a : Access) : a ⊆ a := ⟨id, id⟩

theorem Subset.trans {a b c : Access} (hab : a ⊆ b) (hbc : b ⊆ c) : a ⊆ c :=
  ⟨fun h => hbc.1 (hab.1 h), fun h => hbc.2 (hab.2 h)⟩

theorem Subset.antisymm {a b : Access} (hab : a ⊆ b) (hba : b ⊆ a) : a = b :=
  ext_iff.mpr ⟨Bool.eq_iff_iff.mpr ⟨hab.1, hba.1⟩, Bool.eq_iff_iff.mpr ⟨hab.2, hba.2⟩⟩

theorem none_subset (a : Access) : none ⊆ a := by simp [subset_iff, none]

theorem subset_all (a : Access) : a ⊆ all := ⟨fun _ => rfl, fun _ => rfl⟩

@[simp] theorem subset_none_iff {a : Access} : a ⊆ none ↔ a = none :=
  ⟨fun h => Subset.antisymm h (none_subset a), fun h => h ▸ Subset.refl a⟩

theorem union_subset_iff {a b c : Access} : a ∪ b ⊆ c ↔ a ⊆ c ∧ b ⊆ c := by
  simp only [subset_iff, union_read, union_write, Bool.or_eq_true]
  tauto

theorem subset_inter_iff {a b c : Access} : a ⊆ b ∩ c ↔ a ⊆ b ∧ a ⊆ c := by
  simp only [subset_iff, inter_read, inter_write, Bool.and_eq_true]
  tauto

theorem subset_union_left (a b : Access) : a ⊆ a ∪ b := (union_subset_iff.mp (Subset.refl _)).1
theorem subset_union_right (a b : Access) : b ⊆ a ∪ b := (union_subset_iff.mp (Subset.refl _)).2
theorem inter_subset_left (a b : Access) : a ∩ b ⊆ a := (subset_inter_iff.mp (Subset.refl _)).1
theorem inter_subset_right (a b : Access) : a ∩ b ⊆ b := (subset_inter_iff.mp (Subset.refl _)).2

theorem union_subset_union {a b c d : Access} (hab : a ⊆ b) (hcd : c ⊆ d) : a ∪ c ⊆ b ∪ d :=
  union_subset_iff.mpr ⟨Subset.trans hab (subset_union_left b d), Subset.trans hcd (subset_union_right b d)⟩

theorem inter_subset_inter {a b c d : Access} (hab : a ⊆ b) (hcd : c ⊆ d) : a ∩ c ⊆ b ∩ d :=
  subset_inter_iff.mpr ⟨Subset.trans (inter_subset_left a c) hab, Subset.trans (inter_subset_right a c) hcd⟩

theorem union_comm (a b : Access) : a ∪ b = b ∪ a := by simp [ext_iff, Bool.or_comm]
theorem union_assoc (a b c : Access) : a ∪ b ∪ c = a ∪ (b ∪ c) := by simp [ext_iff, Bool.or_assoc]
@[simp] theorem union_self (a : Access) : a ∪ a = a := by simp [ext_iff]
@[simp] theorem none_union (a : Access) : none ∪ a = a := by simp [ext_iff, none]
@[simp] theorem union_none (a : Access) : a ∪ none = a := by simp [ext_iff, none]
theorem inter_assoc (a b c : Access) : a ∩ b ∩ c = a ∩ (b ∩ c) := by simp [ext_iff, Bool.and_assoc]
@[simp] theorem all_inter (a : Access) : all ∩ a = a := by simp [ext_iff, all]
@[simp] theorem inter_all (a : Access) : a ∩ all = a := by simp [ext_iff, all]
@[simp] theorem none_inter (a : Access) : none ∩ a = none := by simp [ext_iff, none]
@[simp] theorem inter_none (a : Access) : a ∩ none = none := by simp [ext_iff, none]

theorem union_eq_left_iff {a b : Access} : a ∪ b = a ↔ b ⊆ a :=
  ⟨fun h => h ▸ subset_union_right a b,
    fun h => Subset.antisymm (union_subset_iff.mpr ⟨Subset.refl a, h⟩) (subset_union_left a b)⟩

/-- The more is held, the more requirements are met. -/
theorem satisfies_mono {a b required : Access} (hab : a ⊆ b) (h : a.satisfies required = true) :
    b.satisfies required = true :=
  satisfies_iff.mpr (Subset.trans (satisfies_iff.mp h) hab)

def unionAll (as : List Access) : Access := as.foldr (· ∪ ·) none

def interAll (as : List Access) : Access := as.foldr (· ∩ ·) all

@[simp] theorem unionAll_nil : unionAll [] = none := rfl
@[simp] theorem unionAll_cons (a : Access) (as : List Access) : unionAll (a :: as) = a ∪ unionAll as := rfl
@[simp] theorem interAll_nil : interAll [] = all := rfl
@[simp] theorem interAll_cons (a : Access) (as : List Access) : interAll (a :: as) = a ∩ interAll as := rfl

theorem unionAll_append (as bs : List Access) : unionAll (as ++ bs) = unionAll as ∪ unionAll bs := by
  induction as with
  | nil => simp
  | cons a as ih => simp [ih, union_assoc]

theorem interAll_append (as bs : List Access) : interAll (as ++ bs) = interAll as ∩ interAll bs := by
  induction as with
  | nil => simp
  | cons a as ih => simp [ih, inter_assoc]

theorem unionAll_subset_iff {as : List Access} {b : Access} : unionAll as ⊆ b ↔ ∀ a ∈ as, a ⊆ b := by
  induction as with
  | nil => simp [none_subset]
  | cons a as ih => simp [union_subset_iff, ih]

theorem subset_interAll_iff {as : List Access} {b : Access} : b ⊆ interAll as ↔ ∀ a ∈ as, b ⊆ a := by
  induction as with
  | nil => simp [subset_all]
  | cons a as ih => simp [subset_inter_iff, ih]

theorem subset_unionAll {a : Access} {as : List Access} (h : a ∈ as) : a ⊆ unionAll as :=
  unionAll_subset_iff.mp (Subset.refl _) a h

theorem interAll_subset {a : Access} {as : List Access} (h : a ∈ as) : interAll as ⊆ a :=
  subset_interAll_iff.mp (Subset.refl _) a h

theorem unionAll_congr {as bs : List Access} (h : ∀ a, a ∈ as ↔ a ∈ bs) : unionAll as = unionAll bs :=
  Subset.antisymm (unionAll_subset_iff.mpr fun a ha => subset_unionAll ((h a).mp ha))
    (unionAll_subset_iff.mpr fun a ha => subset_unionAll ((h a).mpr ha))

theorem interAll_congr {as bs : List Access} (h : ∀ a, a ∈ as ↔ a ∈ bs) : interAll as = interAll bs :=
  Subset.antisymm (subset_interAll_iff.mpr fun a ha => interAll_subset ((h a).mpr ha))
    (subset_interAll_iff.mpr fun a ha => interAll_subset ((h a).mp ha))

theorem unionAll_mono {as bs : List Access} (h : List.Forall₂ (· ⊆ ·) as bs) : unionAll as ⊆ unionAll bs := by
  induction h with
  | nil => exact Subset.refl none
  | cons hab _ ih => exact union_subset_union hab ih

theorem interAll_mono {as bs : List Access} (h : List.Forall₂ (· ⊆ ·) as bs) : interAll as ⊆ interAll bs := by
  induction h with
  | nil => exact Subset.refl all
  | cons hab _ ih => exact inter_subset_inter hab ih

end Access

/-! ## (2) Grants -/

namespace Grant

/-- Both of two grants, each of which may be absent. -/
def also : Option Access → Option Access → Option Access
  | none, h => h
  | some a, none => some a
  | some a, some b => some (a ∪ b)

@[simp] theorem none_also (g : Option Access) : also none g = g := rfl
@[simp] theorem also_none (g : Option Access) : also g none = g := by cases g <;> rfl

theorem also_comm (g h : Option Access) : also g h = also h g := by
  cases g <;> cases h <;> simp [also, Access.union_comm]

theorem also_assoc (g h k : Option Access) : also (also g h) k = also g (also h k) := by
  cases g <;> cases h <;> cases k <;> simp [also, Access.union_assoc]

theorem also_right_comm (g h k : Option Access) : also (also g h) k = also (also g k) h := by
  rw [also_assoc, also_comm h k, also_assoc]

@[simp] theorem isSome_also (g h : Option Access) : (also g h).isSome = (g.isSome || h.isSome) := by
  cases g <;> cases h <;> rfl

@[simp] theorem getD_also (g h : Option Access) : (also g h).getD .none = g.getD .none ∪ h.getD .none := by
  cases g <;> cases h <;> simp [also]

theorem also_mono {g g' h h' : Option Access} (hg : Option.Rel (· ⊆ ·) g g') (hh : Option.Rel (· ⊆ ·) h h') :
    Option.Rel (· ⊆ ·) (also g h) (also g' h') := by
  cases hg with
  | none => exact hh
  | some hab =>
    cases hh with
    | none => exact .some hab
    | some hcd => exact .some (Access.union_subset_union hab hcd)

def gather (gs : List (Option Access)) : Option Access := gs.foldr also none

@[simp] theorem gather_nil : gather [] = none := rfl
@[simp] theorem gather_cons (g : Option Access) (gs : List (Option Access)) : gather (g :: gs) = also g (gather gs) := rfl

theorem gather_append (gs hs : List (Option Access)) : gather (gs ++ hs) = also (gather gs) (gather hs) := by
  induction gs with
  | nil => simp
  | cons g gs ih => simp [ih, also_assoc]

theorem isSome_gather (gs : List (Option Access)) : (gather gs).isSome = gs.any Option.isSome := by
  induction gs with
  | nil => rfl
  | cons g gs ih => simp [ih]

theorem getD_gather (gs : List (Option Access)) : (gather gs).getD .none = Access.unionAll (gs.filterMap id) := by
  induction gs with
  | nil => rfl
  | cons g gs ih => cases g <;> simp [ih]

theorem gather_eq_some {gs : List (Option Access)} {a : Access} (h : gather gs = some a) :
    a = Access.unionAll (gs.filterMap id) := by
  rw [← getD_gather, h, Option.getD_some]

/-- It does not matter in which order grants are gathered, or how often. -/
theorem gather_congr {gs hs : List (Option Access)} (h : ∀ a, some a ∈ gs ↔ some a ∈ hs) : gather gs = gather hs := by
  have hsome : (gather gs).isSome = (gather hs).isSome := by
    rw [isSome_gather, isSome_gather, Bool.eq_iff_iff, List.any_eq_true, List.any_eq_true]
    simp only [Option.isSome_iff_exists]
    constructor
    · rintro ⟨_, hg, a, rfl⟩
      exact ⟨_, (h a).mp hg, a, rfl⟩
    · rintro ⟨_, hg, a, rfl⟩
      exact ⟨_, (h a).mpr hg, a, rfl⟩
  have hgetD : (gather gs).getD .none = (gather hs).getD .none := by
    rw [getD_gather, getD_gather]
    refine Access.unionAll_congr fun a => ?_
    simp only [List.mem_filterMap, id_eq, exists_eq_right]
    exact h a
  cases hg : gather gs <;> cases hh : gather hs <;> simp_all

theorem gather_mono {gs hs : List (Option Access)} (h : List.Forall₂ (Option.Rel (· ⊆ ·)) gs hs) :
    Option.Rel (· ⊆ ·) (gather gs) (gather hs) := by
  induction h with
  | nil => exact .none
  | cons hg _ ih => exact also_mono hg ih

theorem uniteSlot_eq_also (slot : Option Access) (a : Access) : uniteSlot slot a = also slot (some a) := by
  cases slot <;> simp [uniteSlot, also]

end Grant

end PathAuthz
