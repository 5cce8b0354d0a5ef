/-
  PathAuthz.Proofs.Pattern.Labels — patterns read back from their labels.

  (1) Without a backslash a component compiles to a segment whose label is the component
  (`Segment.label_of_ofGlob`), so the segment is read back from it.

  (2) Writing adjacent `**` once leaves a sublist that has none (`collapse_eq_destutter`), and
  commutes with writing labels (`map_label_collapse`).

  (3) Components behind a slash each are cut into the same components (`written_join`). So the label
  of a pattern is the path it was compiled from, without empty components and with adjacent `**`
  written once, and compiles to the same pattern again (`compile_label`).
-/

import Mathlib.Data.List.Destutter
import PathAuthz.Proofs.Header.Plain
import PathAuthz.Proofs.Path
import PathAuthz.Proofs.Pattern.Blocks
import PathAuthz.Proofs.Pattern.Shell

namespace PathAuthz

open Pattern

/-! ## (1) Segments -/

namespace Pattern

theorem Glob.source_of_ofSource {source : String} {glob : Glob} (h : Glob.ofSource source = .ok glob) :
    glob.source = source := by
  unfold ofSource at h
  split at h
  · cases h
  · split at h
    · cases h; rfl
    · cases h

namespace Segment

/-- A component that takes no character by a backslash is the label of its segment. -/
theorem label_of_ofGlob {component : String} {s : Segment} (hplain : '\\' ∉ component.toList)
    (h : ofGlob component = .ok s) : s.label = component := by
  simp only [ofGlob] at h
  split at h
  · rename_i hany
    cases h
    exact (String.toList_inj.mp hany).symm
  split at h
  · rename_i hrec
    cases h
    exact (String.toList_inj.mp hrec).symm
  split at h
  · cases h
    rw [label, unescape_of_not_mem hplain, String.ofList_toList]
  split at h
  · rename_i hlast
    cases h
    have hcut : component.toList.dropLast ++ ['*'] = component.toList := List.dropLast_append_getLast? _ hlast.1
    rw [label, unescape_of_not_mem fun hmem => hplain (List.dropLast_subset _ hmem), ← String.toList_inj,
      String.toList_append, String.toList_ofList]
    exact hcut
  split at h
  · rename_i hhead
    cases h
    have hcut : '*' :: component.toList.tail = component.toList := (List.eq_cons_of_mem_head? hhead.1).symm
    rw [label, unescape_of_not_mem fun hmem => hplain (List.mem_of_mem_tail hmem), ← String.toList_inj]
    simpa using hcut
  · obtain ⟨glob, hglob, rfl⟩ := map_eq_ok_iff.mp h
    exact Glob.source_of_ofSource hglob

end Segment

end Pattern

namespace PathPattern

/-! ## (2) Adjacent `**` -/

theorem collapse_eq_destutter (ss : List Segment) :
    collapse ss = ss.destutter fun s t => ¬(s = .recursive ∧ t = .recursive) := by
  induction ss using collapse.induct with
  | case1 => rfl
  | case2 rest ih => rw [collapse, ih, List.destutter_cons_cons, if_neg (by simp), List.destutter_cons']
  | case3 s rest hother ih =>
    rw [collapse.eq_3 _ _ hother, ih]
    cases rest with
    | nil => rfl
    | cons t rest =>
      have hapart : ¬(s = .recursive ∧ t = .recursive) := fun h => hother rest h.1 (by rw [h.2])
      rw [List.destutter_cons_cons, if_pos hapart, List.destutter_cons']

theorem collapse_collapse (ss : List Segment) : collapse (collapse ss) = collapse ss := by
  rw [collapse_eq_destutter (collapse ss), collapse_eq_destutter ss, List.destutter_idem]

theorem collapse_sublist (ss : List Segment) : (collapse ss).Sublist ss := by
  rw [collapse_eq_destutter]
  exact List.destutter_sublist _ _

theorem map_label_collapse {ss : List Segment} (h : ∀ s ∈ ss, s.label = "**" ↔ s = .recursive) :
    (collapse ss).map Segment.label = (ss.map Segment.label).destutter fun a b => ¬(a = "**" ∧ b = "**") := by
  rw [collapse_eq_destutter]
  refine List.map_destutter fun s hs t ht => ?_
  rw [h s hs, h t ht]

end PathPattern

/-! ## (3) Patterns -/

namespace Path

theorem of_mem_written {path c : String} (h : c ∈ written path) :
    c ≠ "" ∧ '/' ∉ c.toList ∧ ∀ x ∈ c.toList, x ∈ path.toList := by
  obtain ⟨p, hp, rfl⟩ := List.mem_map.mp h
  obtain ⟨hp, hne⟩ := List.mem_filter.mp hp
  refine ⟨?_, ?_, ?_⟩
  · intro he
    have hnil : p = [] := by simpa using congrArg String.toList he
    simp [hnil] at hne
  · rw [String.toList_ofList]
    exact Text.not_mem_of_mem_pieces hp
  · rw [String.toList_ofList]
    exact fun x hx => Text.mem_of_mem_pieces hp hx

theorem written_join {cs : List String} (h : ∀ c ∈ cs, c ≠ "" ∧ '/' ∉ c.toList) : written (join cs) = cs := by
  by_cases hne : cs = []
  · rw [hne]
    rfl
  · have hall : (cs.map String.toList).filter (· ≠ []) = cs.map String.toList := by
      rw [List.filter_eq_self, List.forall_mem_map]
      intro c hc
      simpa using (h c hc).1
    rw [written, pieces_join hne fun c hc => (h c hc).2, List.filter_cons_of_neg (by simp), hall, List.map_map]
    simp [Function.comp_def]

end Path

namespace PathPattern

variable {heading path : String} {glob : Bool}

theorem label_of_segmentOf {written : String} {s : Segment} (hplain : glob = true → '\\' ∉ written.toList)
    (h : segmentOf heading glob written = .ok s) : s.label = written := by
  cases glob with
  | false => cases h; rfl
  | true => exact Segment.label_of_ofGlob (hplain rfl) (segmentOf_eq_ok_iff.mp h)

/-- The heading is for errors only. -/
theorem segmentOf_of_heading (heading' : String) {written : String} {s : Segment}
    (h : segmentOf heading glob written = .ok s) : segmentOf heading' glob written = .ok s := by
  cases glob with
  | false => exact h
  | true => exact segmentOf_eq_ok_iff.mpr (segmentOf_eq_ok_iff.mp h)

/-- Components without backslashes are the labels of their segments. -/
theorem labels_of_segmentOf {ws : List String} {ss : List Segment}
    (h : List.Forall₂ (fun w s => segmentOf heading glob w = .ok s) ws ss)
    (hplain : ∀ w ∈ ws, glob = true → '\\' ∉ w.toList) :
    ss.map Segment.label = ws ∧ ∀ s ∈ ss, segmentOf heading glob s.label = .ok s := by
  induction h with
  | nil => exact ⟨rfl, List.forall_mem_nil _⟩
  | cons hs _ ih =>
    obtain ⟨hw, hws⟩ := List.forall_mem_cons.mp hplain
    obtain ⟨hlabels, hread⟩ := ih hws
    have hlabel := label_of_segmentOf hw hs
    refine ⟨by rw [List.map_cons, hlabel, hlabels], List.forall_mem_cons.mpr ⟨?_, hread⟩⟩
    rw [hlabel]
    exact hs

/-- Segments that are read back from their labels one by one are read back together. -/
theorem compile_join_labels {ss : List Segment} (h : ∀ s ∈ ss, segmentOf heading glob s.label = .ok s)
    (hlabels : ∀ s ∈ ss, s.label ≠ "" ∧ '/' ∉ s.label.toList) :
    compile heading glob (Path.join (ss.map Segment.label)) = .ok ⟨collapse ss⟩ := by
  have hmap : (ss.map Segment.label).mapM (segmentOf heading glob) = .ok ss :=
    mapM_eq_ok_iff.mpr (List.forall₂_map_left_iff.mpr (List.forall₂_same.mpr h))
  rw [compile, Path.written_join (List.forall_mem_map.mpr hlabels), hmap]
  rfl

/-- The label of a pattern is its path tidied up: components behind a slash each, and in a glob path adjacent `**` written
    once. It compiles to the pattern again, under any heading. -/
theorem compile_label {p : PathPattern} (h : compile heading glob path = .ok p)
    (hplain : glob = true → '\\' ∉ path.toList) :
    p.label = Path.join
        (if glob then (Path.written path).destutter fun a b => ¬(a = "**" ∧ b = "**") else Path.written path) ∧
      ∀ heading', compile heading' glob p.label = .ok p := by
  obtain ⟨ss, hss, rfl⟩ := map_eq_ok_iff.mp h
  have hplainWritten : ∀ w ∈ Path.written path, glob = true → '\\' ∉ w.toList := by
    intro w hw hglob hmem
    exact hplain hglob ((Path.of_mem_written hw).2.2 _ hmem)
  obtain ⟨hwritten, hread⟩ := labels_of_segmentOf (mapM_eq_ok_iff.mp hss) hplainWritten
  constructor
  · rw [label, ← hwritten]
    cases glob with
    | false =>
      have hliterals : ss = (Path.written path).map .literal := by
        rw [mapM_segmentOf_plain] at hss
        exact (Except.ok.inj hss).symm
      rw [hliterals, collapse_literals]
      rfl
    | true =>
      refine congrArg Path.join (map_label_collapse fun s hs => ?_)
      have hs := segmentOf_eq_ok_iff.mp (hread s hs)
      rw [← ofGlob_eq_recursive_iff, hs, Except.ok.injEq]
  · intro heading'
    have hsublist := (collapse_sublist ss).subset
    have hreadAgain : ∀ s ∈ collapse ss, segmentOf heading' glob s.label = .ok s := fun s hs =>
      segmentOf_of_heading heading' (hread s (hsublist hs))
    have hlabels : ∀ s ∈ collapse ss, s.label ≠ "" ∧ '/' ∉ s.label.toList := by
      intro s hs
      have hmem : s.label ∈ Path.written path := hwritten ▸ List.mem_map_of_mem (hsublist hs)
      exact ⟨(Path.of_mem_written hmem).1, (Path.of_mem_written hmem).2.1⟩
    have hagain := compile_join_labels hreadAgain hlabels
    rwa [collapse_collapse] at hagain

/-- A segment of each kind, empty components and `**` three times: the label is shorter than the path, and compiles. -/
theorem compile_label_mixed :
    ∃ p, compile ":glob:/**/**//A/**/é*/*.txt/*/[ab]c/" true "/**/**//A/**/é*/*.txt/*/[ab]c/" = .ok p ∧
      p.label = "/**/A/**/é*/*.txt/*/[ab]c" ∧
      compile ":glob:/**/A/**/é*/*.txt/*/[ab]c" true "/**/A/**/é*/*.txt/*/[ab]c" = .ok p := by
  have hcompile : (compile ":glob:/**/**//A/**/é*/*.txt/*/[ab]c/" true "/**/**//A/**/é*/*.txt/*/[ab]c/").toOption.any
      (fun _ => true) = true := by decide +kernel
  obtain ⟨p, hp, -⟩ := exists_ok_of_any hcompile
  obtain ⟨htext, hagain⟩ := compile_label hp fun _ => by decide +kernel
  have hlabel : p.label = "/**/A/**/é*/*.txt/*/[ab]c" := by
    rw [htext]
    decide +kernel
  rw [hlabel] at hagain
  exact ⟨p, hp, hlabel, hagain _⟩

end PathPattern

end PathAuthz
