/-
  PathAuthz.Proofs.Path — paths as they are written, and where they lead.

  (1) `walk` follows a path from the components reached so far; from none it reaches the components
  of the path. A slash cuts a walk in two (`walk_slash`), so a piece of a path that leads back to
  where it starts can be left out (`components_detour`).

  (2) `IsName` says which texts name one component. A walk adds a name at the end, and whatever a
  path holds, what it reaches are names (`isName_of_mem_components`).

  (3) The normal form of a path is its components behind a slash each. Names written that way are
  read as themselves (`components_join`), so a path and its normal form reach the same components
  (`components_normalForm`).

  (4) A canonical path is its written components behind a slash each (`join_written`), all of them
  names. So it is read alike as the path of a rule and as the path of a question
  (`components_eq_written`), the canonical paths are those that are their own normal form
  (`isCanonical_iff_normalForm`), and they are those that pass a search of their text for slashes
  and dots out of place (`isCanonical_iff_passesSearch`).
-/

import PathAuthz.Path
import PathAuthz.Proofs.Text.Edges

namespace PathAuthz.Path

/-! ## (1) Walking -/

/-- Follow a path from the components reached so far. -/
def walk (reached : List String) (path : String) : List String := (Text.pieces '/' path.toList).foldl follow reached

theorem components_eq_walk (path : String) : components path = walk [] path := rfl

theorem walk_slash (reached : List String) (a b : String) : walk reached (a ++ "/" ++ b) = walk (walk reached a) b := by
  have hcut : (a ++ "/" ++ b).toList = a.toList ++ '/' :: b.toList := by simp
  rw [walk, hcut, Text.pieces_append, List.foldl_append]
  rfl

@[simp] theorem walk_empty (reached : List String) : walk reached "" = reached := rfl

@[simp] theorem walk_dot (reached : List String) : walk reached "." = reached := rfl

@[simp] theorem walk_dots (reached : List String) : walk reached ".." = reached.dropLast := rfl

/-- A piece of a path that leads back to where it starts changes nothing. -/
theorem components_detour {a detour : String} (h : walk (components a) detour = components a) (b : String) :
    components (a ++ "/" ++ detour ++ "/" ++ b) = components (a ++ "/" ++ b) := by
  have hslash : ∀ path, components (path ++ "/" ++ b) = walk (components path) b := fun path => walk_slash [] path b
  rw [hslash, hslash, components_eq_walk (a ++ "/" ++ detour), walk_slash, ← components_eq_walk, h]

/-! ## (2) Names -/

/-- Whether a text names one component: it has no slash in it, and is neither empty nor dots. -/
def IsName (c : String) : Prop := c ≠ "" ∧ c ≠ "." ∧ c ≠ ".." ∧ '/' ∉ c.toList

instance (c : String) : Decidable (IsName c) := inferInstanceAs (Decidable (_ ∧ _ ∧ _ ∧ _))

theorem isName_ofList {p : List Char} :
    IsName (String.ofList p) ↔ p ≠ [] ∧ p ≠ ['.'] ∧ p ≠ ['.', '.'] ∧ '/' ∉ p := by
  simp only [IsName, ne_eq, ← String.toList_inj, String.toList_ofList]
  rfl

theorem follow_name {c : String} (h : IsName c) (reached : List String) : follow reached c.toList = reached ++ [c] := by
  rw [← String.ofList_toList (s := c), isName_ofList] at h
  obtain ⟨hempty, hdot, hdots, -⟩ := h
  rw [follow, if_neg (not_or.mpr ⟨hempty, hdot⟩), if_neg hdots, String.ofList_toList]

theorem walk_name {c : String} (h : IsName c) (reached : List String) : walk reached c = reached ++ [c] := by
  rw [walk, Text.pieces_eq_singleton h.2.2.2]
  exact follow_name h reached

theorem walk_down_and_up {c : String} (h : IsName c) (reached : List String) : walk reached (c ++ "/" ++ "..") = reached := by
  rw [walk_slash, walk_name h, walk_dots, List.dropLast_concat]

theorem isName_of_mem_follow {reached : List String} (h : ∀ c ∈ reached, IsName c) {piece : List Char}
    (hpiece : '/' ∉ piece) : ∀ c ∈ follow reached piece, IsName c := by
  unfold follow
  split
  · exact h
  · rename_i hstays
    split
    · exact fun c hc => h c ((List.dropLast_prefix reached).subset hc)
    · rename_i hdots
      rw [not_or] at hstays
      have hname : IsName (String.ofList piece) := isName_ofList.mpr ⟨hstays.1, hstays.2, hdots, hpiece⟩
      intro c hc
      rcases List.mem_append.1 hc with hc | hc
      · exact h c hc
      · rw [List.mem_singleton.1 hc]
        exact hname

theorem isName_of_mem_foldl {pieces : List (List Char)} (hpieces : ∀ p ∈ pieces, '/' ∉ p) {reached : List String}
    (h : ∀ c ∈ reached, IsName c) : ∀ c ∈ pieces.foldl follow reached, IsName c := by
  induction pieces generalizing reached with
  | nil => exact h
  | cons p ps ih =>
    obtain ⟨hp, hps⟩ := List.forall_mem_cons.1 hpieces
    exact ih hps (isName_of_mem_follow h hp)

/-- Whatever a path holds, what it leads to is a list of names. -/
theorem isName_of_mem_components {path c : String} (h : c ∈ components path) : IsName c :=
  isName_of_mem_foldl (fun _ hp => Text.not_mem_of_mem_pieces hp) (by simp) c h

theorem foldl_follow_names {cs : List String} (h : ∀ c ∈ cs, IsName c) (reached : List String) :
    (cs.map String.toList).foldl follow reached = reached ++ cs := by
  induction cs generalizing reached with
  | nil => simp
  | cons c cs ih =>
    obtain ⟨hc, hcs⟩ := List.forall_mem_cons.1 h
    rw [List.map_cons, List.foldl_cons, follow_name hc, ih hcs, List.append_assoc, List.singleton_append]

/-! ## (3) Normal forms -/

theorem toList_join {cs : List String} (h : cs ≠ []) : (join cs).toList = cs.flatMap fun c => '/' :: c.toList := by
  rw [join, if_neg h, String.toList_join, List.flatMap_map]
  simp only [String.toList_append]
  rfl

theorem join_cons {c d : String} {cs : List String} : join (c :: d :: cs) = "/" ++ c ++ join (d :: cs) := by
  simp [join]

theorem join_eq_intercalate (cs : List String) : join cs = "/" ++ "/".intercalate cs := by
  induction cs with
  | nil => rfl
  | cons c cs ih =>
    rcases cs with _ | ⟨d, ds⟩
    · simp [join]
    · rw [join_cons, ih, String.intercalate_cons_cons]
      simp only [String.append_assoc]

/-- The components a path leads to, behind a slash and with a slash between any two. -/
def normalForm (path : String) : String := "/" ++ "/".intercalate (components path)

theorem normalForm_eq_join (path : String) : normalForm path = join (components path) := (join_eq_intercalate _).symm

theorem pieces_join {cs : List String} (hne : cs ≠ []) (h : ∀ c ∈ cs, '/' ∉ c.toList) :
    Text.pieces '/' (join cs).toList = [] :: cs.map String.toList := by
  have hjoin : (join cs).toList = (cs.map String.toList).flatMap ('/' :: ·) := by rw [toList_join hne, List.flatMap_map]
  rw [hjoin, Text.pieces_flatMap]
  intro p hp
  obtain ⟨c, hc, rfl⟩ := List.mem_map.1 hp
  exact h c hc

/-- Names behind a slash each lead to themselves. -/
theorem components_join {cs : List String} (h : ∀ c ∈ cs, IsName c) : components (join cs) = cs := by
  by_cases hne : cs = []
  · rw [hne]; rfl
  · rw [components, pieces_join hne fun c hc => (h c hc).2.2.2, List.foldl_cons]
    exact foldl_follow_names h []

theorem components_normalForm (path : String) : components (normalForm path) = components path := by
  rw [normalForm_eq_join, components_join fun _ hc => isName_of_mem_components hc]

theorem normalForm_inj {p q : String} : normalForm p = normalForm q ↔ components p = components q := by
  constructor
  · intro h
    rw [← components_normalForm p, h, components_normalForm]
  · intro h
    rw [normalForm, h, normalForm]

theorem normalForm_eq_root_iff {path : String} : normalForm path = "/" ↔ components path = [] := normalForm_inj (q := "/")

/-! ## (4) Canonical paths -/

theorem pieces_slash (rest : List Char) : Text.pieces '/' ('/' :: rest) = [] :: Text.pieces '/' rest := by
  rw [Text.pieces, if_pos rfl]

theorem isName_piece_iff {s p : List Char} (h : p ∈ Text.pieces '/' s) :
    IsName (String.ofList p) ↔ p ≠ [] ∧ p ≠ ['.'] ∧ p ≠ ['.', '.'] := by
  rw [isName_ofList]
  simp [Text.not_mem_of_mem_pieces h]

theorem isCanonical_iff_names {path : String} :
    isCanonical path = true ↔ ∃ rest, path.toList = '/' :: rest ∧
      (rest = [] ∨ ∀ p ∈ Text.pieces '/' rest, IsName (String.ofList p)) := by
  unfold isCanonical
  split
  · rename_i rest hpath
    simp only [hpath, List.cons.injEq, true_and, exists_eq_left', Bool.or_eq_true, List.isEmpty_iff, List.all_eq_true]
    refine or_congr_right (forall₂_congr fun p hp => ?_)
    rw [isName_piece_iff hp]
    simp [isDots]
  · rename_i hno
    refine iff_of_false (by simp) ?_
    intro h
    obtain ⟨rest, hpath, -⟩ := h
    exact hno rest hpath

theorem head?_of_isCanonical {path : String} (h : isCanonical path = true) : path.toList.head? = some '/' := by
  obtain ⟨rest, hpath, -⟩ := isCanonical_iff_names.mp h
  rw [hpath, List.head?_cons]

theorem join_written {path : String} (h : isCanonical path = true) : join (written path) = path := by
  obtain ⟨rest, hpath, hrest⟩ := isCanonical_iff_names.mp h
  rw [written, hpath, pieces_slash, List.filter_cons_of_neg (by simp)]
  rcases hrest with rfl | hnames
  · exact (String.toList_inj.mp hpath).symm
  · have hne : ∀ p ∈ Text.pieces '/' rest, decide (p ≠ []) = true :=
      fun p hp => decide_eq_true (isName_ofList.mp (hnames p hp)).1
    have hpieces : (Text.pieces '/' rest).map String.ofList ≠ [] := by simpa using Text.pieces_ne_nil '/' rest
    rw [List.filter_eq_self.mpr hne, ← String.toList_inj, toList_join hpieces, List.flatMap_map, hpath, ← Text.flatMap_pieces]
    simp only [String.toList_ofList]

theorem isCanonical_join {cs : List String} (h : ∀ c ∈ cs, IsName c) : isCanonical (join cs) = true := by
  by_cases hne : cs = []
  · rw [hne]; rfl
  · obtain ⟨rest, hrest⟩ : ∃ rest, (join cs).toList = '/' :: rest := by
      rw [toList_join hne]
      obtain ⟨c, ds, rfl⟩ := List.exists_cons_of_ne_nil hne
      exact ⟨_, rfl⟩
    have hpieces := pieces_join hne fun c hc => (h c hc).2.2.2
    rw [hrest, pieces_slash, List.cons.injEq] at hpieces
    refine isCanonical_iff_names.mpr ⟨rest, hrest, Or.inr ?_⟩
    rw [hpieces.2, List.forall_mem_map]
    intro c hc
    rw [String.ofList_toList]
    exact h c hc

theorem isName_of_mem_written {path c : String} (h : isCanonical path = true) (hc : c ∈ written path) : IsName c := by
  obtain ⟨rest, hpath, hrest⟩ := isCanonical_iff_names.mp h
  rw [written, hpath, pieces_slash, List.filter_cons_of_neg (by simp)] at hc
  obtain ⟨p, hp, rfl⟩ := List.mem_map.1 hc
  obtain ⟨hp, hne⟩ := List.mem_filter.1 hp
  rcases hrest with rfl | hnames
  · rw [Text.pieces, List.mem_singleton] at hp
    simp [hp] at hne
  · exact hnames p hp

/-- The path of a rule and the path of a question are read alike where the first is canonical. -/
theorem components_eq_written {path : String} (h : isCanonical path = true) : components path = written path := by
  rw [← components_join fun _ hc => isName_of_mem_written h hc, join_written h]

/-- A path is canonical iff it is its own normal form. -/
theorem isCanonical_iff_normalForm {path : String} : isCanonical path = true ↔ path = normalForm path := by
  constructor
  · intro h
    rw [normalForm_eq_join, components_eq_written h, join_written h]
  · intro h
    rw [h, normalForm_eq_join]
    exact isCanonical_join fun _ hc => isName_of_mem_components hc

/-- What a canonical path is known by when it is searched as a text. -/
def PassesSearch (path : List Char) : Prop :=
  path.head? = some '/' ∧
    (path = ['/'] ∨
      path.getLast? ≠ some '/' ∧ ¬['/', '/'] <:+: path ∧ ∀ p ∈ Text.pieces '/' path, p ≠ ['.'] ∧ p ≠ ['.', '.'])

theorem isCanonical_iff_passesSearch {path : String} : isCanonical path = true ↔ PassesSearch path.toList := by
  have hsearch : ∀ rest, PassesSearch ('/' :: rest) ↔
      rest = [] ∨ ∀ p ∈ Text.pieces '/' rest, IsName (String.ofList p) := by
    intro rest
    -- No piece is empty iff no two slashes meet and none stands at the end.
    have hempty : (∀ p ∈ Text.pieces '/' rest, p ≠ []) ↔
        ('/' :: rest).getLast? ≠ some '/' ∧ ¬['/', '/'] <:+: '/' :: rest := by
      rw [← not_or, or_comm, ← Text.infix_snoc_iff, ← Text.nil_mem_pieces_iff]
      exact ⟨fun h hnil => h [] hnil rfl, fun h p hp he => h (he ▸ hp)⟩
    have hnames : (∀ p ∈ Text.pieces '/' rest, IsName (String.ofList p)) ↔
        (∀ p ∈ Text.pieces '/' rest, p ≠ []) ∧ ∀ p ∈ Text.pieces '/' rest, p ≠ ['.'] ∧ p ≠ ['.', '.'] := by
      rw [← forall₂_and]
      exact forall₂_congr fun p hp => isName_piece_iff hp
    rw [PassesSearch, pieces_slash, List.forall_mem_cons, ← and_assoc, ← hempty, hnames]
    simp
  rw [isCanonical_iff_names]
  constructor
  · intro h
    obtain ⟨rest, hpath, hrest⟩ := h
    rw [hpath]
    exact (hsearch rest).mpr hrest
  · intro h
    obtain ⟨rest, hpath⟩ := List.head?_eq_some_iff.mp h.1
    rw [hpath] at h
    exact ⟨rest, hpath, (hsearch rest).mp h⟩

end PathAuthz.Path
