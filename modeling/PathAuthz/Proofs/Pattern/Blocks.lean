/-
  PathAuthz.Proofs.Pattern.Blocks — how a glob path cuts the paths it accepts.

  (1) A segment takes a block of components: `**` takes any block, every other segment one
  component that it accepts (`Segment.Takes`). What segments cover is cut into what the first of
  them takes and what the others cover (`covers_cons`), and so into one block for each
  (`covers_iff_takes`).

  (2) Two adjacent `**` take together what one of them takes, so writing them once changes
  nothing (`covers_collapse`).

  (3) `Fills` says of a component as it is written which blocks it stands for. A glob path accepts
  the lists of components that can be cut into blocks that fill its written components, the
  adjacent `**` among them counted one by one (`accepts_iff_blocks`).
-/

import PathAuthz.Pattern
import PathAuthz.Proofs.Outcome
import PathAuthz.Proofs.Pattern.Covering

namespace PathAuthz

open Pattern

/-! ## (1) What segments take -/

namespace Pattern.Segment

/-- Whether a segment takes a block of components. -/
def Takes (s : Segment) (block : List String) : Prop := s = recursive ∨ ∃ name, block = [name] ∧ s.accepts name = true

theorem recursive_takes (block : List String) : recursive.Takes block := Or.inl rfl

theorem takes_iff {s : Segment} (h : s ≠ recursive) {block : List String} :
    s.Takes block ↔ ∃ name, block = [name] ∧ s.accepts name = true := or_iff_right h

end Pattern.Segment

namespace PathPattern

theorem covers_nil {cs : List String} : covers [] cs = true ↔ cs = [] := by rw [covers, List.isEmpty_iff]

theorem covers_recursive {ss : List Segment} {cs : List String} :
    covers (.recursive :: ss) cs = true ↔ ∃ block rest, cs = block ++ rest ∧ covers ss rest = true := by
  rw [covers, behindRun_iff]
  simp [Segment.accepts]

/-- The first segment takes what stands in front of what the others cover. -/
theorem covers_cons {s : Segment} {ss : List Segment} {cs : List String} :
    covers (s :: ss) cs = true ↔ ∃ block rest, cs = block ++ rest ∧ s.Takes block ∧ covers ss rest = true := by
  by_cases hs : s = .recursive
  · rw [hs, covers_recursive]
    simp [Segment.recursive_takes]
  · have hone : covers (s :: ss) cs = behindOne s.accepts (covers ss) cs := by
      cases s with
      | recursive => exact absurd rfl hs
      | literal | any | startingWith | endingWith | shell => rfl
    simp only [hone, behindOne_iff, Segment.takes_iff hs]
    constructor
    · intro h
      obtain ⟨c, rest, rfl, hc, hrest⟩ := h
      exact ⟨[c], rest, rfl, ⟨c, rfl, hc⟩, hrest⟩
    · intro h
      obtain ⟨block, rest, rfl, ⟨c, rfl, hc⟩, hrest⟩ := h
      exact ⟨c, rest, rfl, hc, hrest⟩

theorem covers_iff_takes {ss : List Segment} {cs : List String} :
    covers ss cs = true ↔ ∃ blocks : List (List String), blocks.flatten = cs ∧ List.Forall₂ Segment.Takes ss blocks := by
  induction ss generalizing cs with
  | nil =>
    rw [covers_nil]
    constructor
    · intro h
      exact ⟨[], h.symm, .nil⟩
    · intro h
      obtain ⟨blocks, rfl, hblocks⟩ := h
      cases hblocks
      rfl
  | cons s ss ih =>
    rw [covers_cons]
    constructor
    · intro h
      obtain ⟨block, rest, rfl, hblock, hrest⟩ := h
      obtain ⟨blocks, rfl, hblocks⟩ := ih.mp hrest
      exact ⟨block :: blocks, rfl, .cons hblock hblocks⟩
    · intro h
      obtain ⟨blocks, rfl, hblocks⟩ := h
      cases hblocks with
      | cons hblock hblocks => exact ⟨_, _, rfl, hblock, ih.mpr ⟨_, rfl, hblocks⟩⟩

/-! ## (2) Adjacent `**` -/

theorem covers_recursive_twice {ss : List Segment} {cs : List String} :
    covers (.recursive :: .recursive :: ss) cs = true ↔ covers (.recursive :: ss) cs = true := by
  constructor
  · intro h
    obtain ⟨block, rest, rfl, hrest⟩ := covers_recursive.mp h
    obtain ⟨block', rest', rfl, hrest'⟩ := covers_recursive.mp hrest
    exact covers_recursive.mpr ⟨block ++ block', rest', by rw [List.append_assoc], hrest'⟩
  · intro h
    exact covers_recursive.mpr ⟨[], cs, rfl, h⟩

theorem covers_collapse (ss : List Segment) (cs : List String) : covers (collapse ss) cs = covers ss cs := by
  rw [Bool.eq_iff_iff]
  induction ss using collapse.induct generalizing cs with
  | case1 => rfl
  | case2 rest ih => rw [collapse, ih, covers_recursive_twice]
  | case3 s rest hother ih =>
    rw [collapse, covers_cons, covers_cons]
    · simp only [ih]
    · exact hother

/-! ## (3) Written components -/

/-- Whether a block of components is what a written component stands for: anything for `**`, and for any other a single
    component that its segment accepts. -/
def Fills (written : String) (block : List String) : Prop :=
  written ≠ "**" → ∃ segment name, Segment.ofGlob written = .ok segment ∧ block = [name] ∧ segment.accepts name = true

theorem ofGlob_eq_recursive_iff {written : String} : Segment.ofGlob written = .ok .recursive ↔ written = "**" := by
  constructor
  · intro h
    rw [Segment.ofGlob] at h
    split at h
    · cases h
    · split at h
      · rename_i hstars
        exact String.toList_inj.mp hstars
      · split at h
        · cases h
        · split at h
          · cases h
          · split at h
            · cases h
            · obtain ⟨glob, -, hglob⟩ := map_eq_ok_iff.mp h
              cases hglob
  · intro h
    rw [h]
    rfl

theorem takes_iff_fills {written : String} {s : Segment} (h : Segment.ofGlob written = .ok s) {block : List String} :
    s.Takes block ↔ Fills written block := by
  have hrec : s = .recursive ↔ written = "**" := by rw [← ofGlob_eq_recursive_iff, h, Except.ok.injEq]
  rw [Segment.Takes, Fills, hrec, or_iff_not_imp_left]
  simp [h]

theorem segmentOf_eq_ok_iff {heading written : String} {s : Segment} :
    segmentOf heading true written = .ok s ↔ Segment.ofGlob written = .ok s := by
  rw [segmentOf, if_pos rfl]
  split <;> simp [*]

theorem forall₂_takes_iff_fills {ws : List String} {ss : List Segment}
    (h : List.Forall₂ (fun w s => Segment.ofGlob w = .ok s) ws ss) {blocks : List (List String)} :
    List.Forall₂ Segment.Takes ss blocks ↔ List.Forall₂ Fills ws blocks := by
  induction h generalizing blocks with
  | nil => rw [List.forall₂_nil_left_iff, List.forall₂_nil_left_iff]
  | cons hw _ ih => simp only [List.forall₂_cons_left_iff, takes_iff_fills hw, ih]

/-- A glob path accepts what can be cut into one block for each of its written components, in their order. -/
theorem accepts_iff_blocks {heading path : String} {pattern : PathPattern} (h : compile heading true path = .ok pattern)
    (components : List String) :
    pattern.accepts components = true ↔
      ∃ blocks : List (List String), blocks.flatten = components ∧ List.Forall₂ Fills (Path.written path) blocks := by
  obtain ⟨ss, hss, rfl⟩ := map_eq_ok_iff.mp h
  have hsegments : List.Forall₂ (fun w s => Segment.ofGlob w = .ok s) (Path.written path) ss :=
    (mapM_eq_ok_iff.mp hss).imp fun _ _ => segmentOf_eq_ok_iff.mp
  rw [accepts_eq_covers, covers_collapse, covers_iff_takes]
  simp only [forall₂_takes_iff_fills hsegments]

/-- Three `**`, two of them adjacent: one takes a component, one takes two, one takes none. -/
theorem accepts_iff_blocks_adjacent :
    ∃ pattern, compile ":glob:/**/v*/**/**/log" true "/**/v*/**/**/log" = .ok pattern ∧
      pattern.accepts ["src", "v1", "a", "b", "log"] = true ∧
      ¬∃ blocks : List (List String), blocks.flatten = ["v1", "src", "w1"] ∧
        List.Forall₂ Fills ["**", "v*", "**", "**", "log"] blocks := by
  have hcompile : (compile ":glob:/**/v*/**/**/log" true "/**/v*/**/**/log").toOption.any
      (fun pattern => !pattern.accepts ["v1", "src", "w1"]) = true := by decide +kernel
  obtain ⟨pattern, hpattern, hrejects⟩ := exists_ok_of_any hcompile
  have hwritten : Path.written "/**/v*/**/**/log" = ["**", "v*", "**", "**", "log"] := by decide +kernel
  have hversion : Fills "v*" ["v1"] := fun _ => ⟨.startingWith "v", "v1", by decide +kernel, rfl, by decide +kernel⟩
  have hlog : Fills "log" ["log"] := fun _ => ⟨.literal "log", "log", by decide +kernel, rfl, by decide +kernel⟩
  have hany : ∀ block, Fills "**" block := fun _ h => absurd rfl h
  have hblocks := accepts_iff_blocks hpattern
  rw [hwritten] at hblocks
  refine ⟨pattern, hpattern, (hblocks _).mpr ⟨[["src"], ["v1"], ["a", "b"], [], ["log"]], rfl, ?_⟩, ?_⟩
  · exact .cons (hany _) (.cons hversion (.cons (hany _) (.cons (hany _) (.cons hlog .nil))))
  · exact (hblocks _).not.mp (by simpa using hrejects)

end PathPattern

end PathAuthz
