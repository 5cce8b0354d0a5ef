/-
  PathAuthz.Proofs.Model.Loaded — what is known of a model that has been loaded.

  (1) `Model.IsOf`: the roster, the rules and the rights of a model come from one draft, each
  rule from the written rule at its place. Every loaded model is of the draft of its texts
  (`isOf_load`).

  (2) The i-th rule of a loaded model comes from its i-th rule section
  (`IsOf.rule_of_section`, `IsOf.section_of_rule`), has its scope and its pattern from the heading
  (`Rule.header_of_section`), and has the number i (`IsOf.seq_eq`), so two rules of one model with
  the same number are the same rule (`IsOf.eq_of_seq_eq`).
-/

import PathAuthz.Model
import PathAuthz.Proofs.Roster.Members
import PathAuthz.Proofs.Rule.Resolution

namespace PathAuthz

open Source

namespace Model

/-! ## (1) Models of drafts -/

structure IsOf (m : Model) (d : Draft) : Prop where
  names : m.names = d.names
  roster : Roster.ofDraft d = .ok m.roster
  rules : List.Forall₂ (fun w r => Rule.ofWritten d m.roster w = .ok r) d.rules m.rules
  rights : m.rights = .ofRules m.rules (usersOf d m.rules).eraseDups

theorem isOf_ofDraft {d : Draft} {m : Model} (h : ofDraft d = .ok m) : m.IsOf d := by
  obtain ⟨roster, hroster, h⟩ := bind_eq_ok_iff.mp h
  obtain ⟨resolved, hrules, h⟩ := bind_eq_ok_iff.mp h
  cases pure_eq_ok_iff.mp h
  exact ⟨rfl, hroster, mapM_eq_ok_iff.mp hrules, rfl⟩

theorem IsOf.roster_eq {m m' : Model} {d d' : Draft} (hm : m.IsOf d) (hm' : m'.IsOf d') (hg : d.groups = d'.groups)
    (ha : d.aliases = d'.aliases) : m.roster = m'.roster := by
  have hroster := hm'.roster
  rw [← Roster.ofDraft_congr hg ha, hm.roster] at hroster
  exact Except.ok.inj hroster

theorem isOf_load {rules : String} {groups : Option String} {m : Model} (h : load rules groups = .ok m) :
    ∃ d, d.IsOf (sectionsOfTexts rules groups) ∧ m.IsOf d := by
  obtain ⟨d, hd, h⟩ := bind_eq_ok_iff.mp h
  exact ⟨d, Draft.isOf_ofTexts hd, isOf_ofDraft h⟩

/-! ## (2) Rules and their sections -/

end Model

theorem grantOf?_eq_some_iff {o : String × String} {g : Grantee × Access} :
    grantOf? o = some g ↔ Grantee.ofOption? o.1 = some g.1 ∧ Access.ofRights o.2.toList = .ok g.2 := by
  unfold grantOf?
  split
  · rename_i hg ha
    rw [hg, ha, Option.some_inj, Option.some_inj, Except.ok.injEq, Prod.ext_iff]
  · rename_i hno
    simp only [reduceCtorEq, false_iff]
    intro h
    obtain ⟨hg, ha⟩ := h
    exact hno _ _ hg ha

theorem mem_grants_iff {options : List (String × String)} {gs : List (Grantee × Access)}
    (h : options.map grantOf? = gs.map some) {g : Grantee × Access} : g ∈ gs ↔ ∃ o ∈ options, grantOf? o = some g := by
  rw [← List.mem_map, h, List.mem_map]
  simp

theorem exists_grant_of_mem {options : List (String × String)} {gs : List (Grantee × Access)}
    (h : options.map grantOf? = gs.map some) {o : String × String} (ho : o ∈ options) :
    ∃ g ∈ gs, Grantee.ofOption? o.1 = some g.1 ∧ Access.ofRights o.2.toList = .ok g.2 := by
  have hmem : grantOf? o ∈ gs.map some := h ▸ List.mem_map_of_mem ho
  obtain ⟨g, hg, hog⟩ := List.mem_map.mp hmem
  exact ⟨g, hg, grantOf?_eq_some_iff.mp hog.symm⟩

/-- What a section makes of its heading, and of its options. -/
theorem WrittenRule.ofSection?_eq_some {seq : Nat} {s : Section} {w : WrittenRule} (h : ofSection? seq s = some w) :
    ∃ w₀ gs, ofHeading? seq s.heading = some w₀ ∧ s.options.map grantOf? = gs.map some ∧ w = w₀.grantAll gs := by
  simp only [ofSection?, Option.bind_eq_some_iff, Option.map_eq_some_iff] at h
  obtain ⟨w₀, hw₀, gs, hgs, rfl⟩ := h
  exact ⟨w₀, gs, hw₀, mapM_eq_some_iff.mp hgs, rfl⟩

theorem WrittenRule.seq_ofSection? {seq : Nat} {s : Section} {w : WrittenRule} (h : ofSection? seq s = some w) :
    w.seq = seq ∧ w.heading = s.heading := by
  obtain ⟨w₀, gs, hw₀, -, rfl⟩ := ofSection?_eq_some h
  obtain ⟨header, -, -, hw⟩ := ofHeading?_eq_some hw₀
  obtain ⟨hs, hh, -, -⟩ := w₀.grantAll_frame gs
  exact ⟨by rw [hs, hw], by rw [hh, hw]⟩

theorem Rule.header_of_section {d : Draft} {roster : Roster} {seq : Nat} {s : Section} {w : WrittenRule} {r : Rule}
    (hw : WrittenRule.ofSection? seq s = some w) (hr : ofWritten d roster w = .ok r) :
    ∃ header, RuleHeader.read s.heading = .ok header ∧ r.scope = header.scope ∧
      PathPattern.compile s.heading header.glob header.path = .ok r.pattern := by
  obtain ⟨w₀, gs, hw₀, -, rfl⟩ := WrittenRule.ofSection?_eq_some hw
  obtain ⟨header, hheader, hcompile, hw₀⟩ := WrittenRule.ofHeading?_eq_some hw₀
  have hkept := resolves_of_ofWritten hr
  obtain ⟨-, -, hscope, hpattern⟩ := w₀.grantAll_frame gs
  refine ⟨header, hheader, ?_, ?_⟩
  · rw [hkept.scope, hscope, hw₀]
  · rw [hkept.pattern, hpattern]
    exact hcompile

namespace Draft.IsOf

variable {d : Draft} {ss : List Section}

theorem length_rules (hd : d.IsOf ss) : d.rules.length = (ss.filter Section.isRule).length := by
  simpa using congrArg List.length hd.rules

theorem section_of_written (hd : d.IsOf ss) {i : Nat} {w : WrittenRule} (hw : d.rules[i]? = some w) :
    ∃ s, (ss.filter Section.isRule)[i]? = some s ∧ WrittenRule.ofSection? i s = some w := by
  have hi := congrArg (·[i]?) hd.rules
  simp only [List.getElem?_map, List.getElem?_mapIdx, hw, Option.map_some] at hi
  obtain ⟨s, hs, hsw⟩ := Option.map_eq_some_iff.mp hi.symm
  exact ⟨s, hs, hsw⟩

theorem written_of_section (hd : d.IsOf ss) {i : Nat} {s : Section} (hs : (ss.filter Section.isRule)[i]? = some s) :
    ∃ w, d.rules[i]? = some w ∧ WrittenRule.ofSection? i s = some w := by
  have hi := congrArg (·[i]?) hd.rules
  simp only [List.getElem?_map, List.getElem?_mapIdx, hs, Option.map_some] at hi
  obtain ⟨w, hw, hsw⟩ := Option.map_eq_some_iff.mp hi
  exact ⟨w, hw, hsw.symm⟩

end Draft.IsOf

namespace Model.IsOf

variable {m : Model} {d : Draft} {ss : List Section}

theorem length_rules (hm : m.IsOf d) (hd : d.IsOf ss) : m.rules.length = (ss.filter Section.isRule).length := by
  rw [← hm.rules.length_eq, hd.length_rules]

theorem written_of_rule (hm : m.IsOf d) {i : Nat} {r : Rule} (hr : m.rules[i]? = some r) :
    ∃ w, d.rules[i]? = some w ∧ Rule.ofWritten d m.roster w = .ok r := by
  obtain ⟨hi, rfl⟩ := List.getElem?_eq_some_iff.mp hr
  have hi' : i < d.rules.length := by rw [hm.rules.length_eq]; exact hi
  exact ⟨d.rules[i], List.getElem?_eq_getElem hi', hm.rules.get hi' hi⟩

theorem rule_of_written (hm : m.IsOf d) {i : Nat} {w : WrittenRule} (hw : d.rules[i]? = some w) :
    ∃ r, m.rules[i]? = some r ∧ Rule.ofWritten d m.roster w = .ok r := by
  obtain ⟨hi, rfl⟩ := List.getElem?_eq_some_iff.mp hw
  have hi' : i < m.rules.length := by rw [← hm.rules.length_eq]; exact hi
  exact ⟨m.rules[i], List.getElem?_eq_getElem hi', hm.rules.get hi hi'⟩

theorem rule_of_section (hm : m.IsOf d) (hd : d.IsOf ss) {i : Nat} {s : Section}
    (hs : (ss.filter Section.isRule)[i]? = some s) :
    ∃ r w, m.rules[i]? = some r ∧ WrittenRule.ofSection? i s = some w ∧ Rule.ofWritten d m.roster w = .ok r := by
  obtain ⟨w, hw, hsw⟩ := hd.written_of_section hs
  obtain ⟨r, hr, hwr⟩ := hm.rule_of_written hw
  exact ⟨r, w, hr, hsw, hwr⟩

theorem section_of_rule (hm : m.IsOf d) (hd : d.IsOf ss) {i : Nat} {r : Rule} (hr : m.rules[i]? = some r) :
    ∃ s w, (ss.filter Section.isRule)[i]? = some s ∧ WrittenRule.ofSection? i s = some w ∧
      Rule.ofWritten d m.roster w = .ok r := by
  obtain ⟨w, hw, hwr⟩ := hm.written_of_rule hr
  obtain ⟨s, hs, hsw⟩ := hd.section_of_written hw
  exact ⟨s, w, hs, hsw, hwr⟩

theorem seq_eq (hm : m.IsOf d) (hd : d.IsOf ss) {i : Nat} {r : Rule} (hr : m.rules[i]? = some r) : r.seq = i := by
  obtain ⟨s, w, -, hsw, hwr⟩ := hm.section_of_rule hd hr
  rw [(Rule.resolves_of_ofWritten hwr).seq, (WrittenRule.seq_ofSection? hsw).1]

theorem eq_of_seq_eq (hm : m.IsOf d) (hd : d.IsOf ss) {r r' : Rule} (hr : r ∈ m.rules) (hr' : r' ∈ m.rules)
    (h : r.seq = r'.seq) : r = r' := by
  obtain ⟨i, hi⟩ := List.mem_iff_getElem?.mp hr
  obtain ⟨j, hj⟩ := List.mem_iff_getElem?.mp hr'
  have hij : i = j := by rw [← hm.seq_eq hd hi, ← hm.seq_eq hd hj, h]
  rw [hij, hj] at hi
  exact (Option.some.inj hi).symm

end Model.IsOf

end PathAuthz
