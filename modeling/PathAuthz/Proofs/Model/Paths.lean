/-
  PathAuthz.Proofs.Model.Paths — what the path of a question and the path of a rule come down to.

  (1) An answer looks at the components a path leads to and at nothing else of it
  (`answersAlike_of_components`). So all the ways to write a path that have one normal form get the
  same answers, and empty components, `.`, a name with `..` behind it, and `..` at the root can be
  left out anywhere (`answersAlike_by_normalForm`).

  (2) The path of a rule header has to be canonical. In a plain section its pattern accepts what a
  path leads to iff the normal form of that path is the path of the header, letter by letter: no
  plain rule is dead, and none covers another path than the one it names
  (`plain_rule_covers_its_path`).
-/

import PathAuthz.Proofs.Model.WellFormed

namespace PathAuthz

namespace Model

/-! ## (1) The path of a question -/

/-- Whether a model tells two paths apart in no question about access. -/
def AnswersAlike (m : Model) (p q : String) : Prop :=
  ∀ repo who recursive, m.effectiveAccess repo p who recursive = m.effectiveAccess repo q who recursive

/-- An answer looks at the components a path leads to, and at nothing else of it. -/
theorem answersAlike_of_components (m : Model) {p q : String} (h : Path.components p = Path.components q) :
    m.AnswersAlike p q := by
  intro repo who recursive
  rw [effectiveAccess, pathAccess, h, effectiveAccess, pathAccess]

/-- A piece of a path that leads back to where it starts changes no answer. -/
theorem answersAlike_detour (m : Model) {a detour : String}
    (h : Path.walk (Path.components a) detour = Path.components a) (b : String) :
    m.AnswersAlike (a ++ ("/" ++ detour ++ "/") ++ b) (a ++ "/" ++ b) := by
  have hpath : a ++ ("/" ++ detour ++ "/") ++ b = a ++ "/" ++ detour ++ "/" ++ b := by simp only [String.append_assoc]
  rw [hpath]
  exact m.answersAlike_of_components (Path.components_detour h b)

/-- Answers go by the normal form of a path. -/
theorem answersAlike_by_normalForm (m : Model) :
    (∀ path, (∀ c ∈ Path.components path, Path.IsName c) ∧
      Path.components (Path.normalForm path) = Path.components path ∧ m.AnswersAlike (Path.normalForm path) path) ∧
    (∀ p q, Path.normalForm p = Path.normalForm q → m.AnswersAlike p q) ∧
    ∀ a b,
      m.AnswersAlike (a ++ "//" ++ b) (a ++ "/" ++ b) ∧
      m.AnswersAlike (a ++ "/./" ++ b) (a ++ "/" ++ b) ∧
      (∀ c, Path.IsName c → m.AnswersAlike (a ++ "/" ++ c ++ "/../" ++ b) (a ++ "/" ++ b)) ∧
      (Path.normalForm a = "/" → m.AnswersAlike (a ++ "/../" ++ b) (a ++ "/" ++ b)) ∧
      m.AnswersAlike ("../" ++ b) b := by
  refine ⟨fun path => ⟨fun c => Path.isName_of_mem_components, Path.components_normalForm path,
    m.answersAlike_of_components (Path.components_normalForm path)⟩,
    fun p q h => m.answersAlike_of_components (Path.normalForm_inj.mp h), fun a b => ⟨?_, ?_, ?_, ?_, ?_⟩⟩
  · exact m.answersAlike_detour (Path.walk_empty (Path.components a)) b
  · exact m.answersAlike_detour (Path.walk_dot (Path.components a)) b
  · intro c hc
    have hpath : a ++ "/" ++ c ++ "/../" ++ b = a ++ ("/" ++ (c ++ "/" ++ "..") ++ "/") ++ b := by
      simp only [String.append_assoc]
      rfl
    rw [hpath]
    exact m.answersAlike_detour (Path.walk_down_and_up hc (Path.components a)) b
  · intro hroot
    have hdots : Path.walk (Path.components a) ".." = Path.components a := by
      rw [Path.normalForm_eq_root_iff.mp hroot, Path.walk_dots, List.dropLast_nil]
    exact m.answersAlike_detour hdots b
  · refine m.answersAlike_of_components ?_
    have hpath : "../" ++ b = ".." ++ "/" ++ b := rfl
    rw [hpath, Path.components_eq_walk, Path.walk_slash]
    rfl

/-- One path written in four ways. -/
theorem answersAlike_by_normalForm_detours :
    ∃ m, load "[/]\n* = rw\n[/A/B]\n* = r\n" none = .ok m ∧
      Path.IsName "C" ∧ Path.normalForm "" = "/" ∧ Path.normalForm "x/../A/./B/" = Path.normalForm "/A/B" ∧
      m.effectiveAccess "" "/A/C/../B" .anonymous false = .reading ∧
      m.effectiveAccess "" "/../A/B" .anonymous true = .reading ∧
      m.effectiveAccess "" "x/../A/./B/" .anonymous false = .reading := by
  have hload : (load "[/]\n* = rw\n[/A/B]\n* = r\n" none).toOption.any (fun m =>
      decide (m.effectiveAccess "" "/A/B" .anonymous false = .reading) &&
        decide (m.effectiveAccess "" "/A/B" .anonymous true = .reading)) = true := by decide +kernel
  obtain ⟨m, hm, haccess⟩ := exists_ok_of_any hload
  simp only [Bool.and_eq_true, decide_eq_true_eq] at haccess
  have hname : Path.IsName "C" := by decide +kernel
  have hroot : Path.normalForm "" = "/" := by decide +kernel
  have hform : Path.normalForm "x/../A/./B/" = Path.normalForm "/A/B" := by decide +kernel
  obtain ⟨-, hforms, hdetours⟩ := m.answersAlike_by_normalForm
  obtain ⟨-, -, hdown, -, -⟩ := hdetours "/A" "B"
  obtain ⟨-, -, -, hup, -⟩ := hdetours "" "A/B"
  refine ⟨m, hm, hname, hroot, hform, ?_, ?_, ?_⟩
  · exact (hdown "C" hname "" .anonymous false).trans haccess.1
  · exact (hup hroot "" .anonymous true).trans haccess.2
  · exact (hforms _ _ hform "" .anonymous false).trans haccess.1

end Model

/-! ## (2) The path of a rule -/

namespace PathPattern

theorem exists_compile_plain (heading path : String) : ∃ pattern, compile heading false path = .ok pattern := by
  rw [compile, mapM_segmentOf_plain]
  exact ⟨_, rfl⟩

/-- A plain pattern accepts what a path leads to iff its rule path is the normal form of that path. -/
theorem accepts_components_iff {heading path : String} {pattern : PathPattern} (hcanonical : Path.isCanonical path = true)
    (h : compile heading false path = .ok pattern) (query : String) :
    pattern.accepts (Path.components query) = true ↔ Path.normalForm query = path := by
  rw [accepts_plain_iff h, ← Path.components_eq_written hcanonical, ← Path.normalForm_inj,
    ← Path.isCanonical_iff_normalForm.mp hcanonical]

end PathPattern

namespace Model

/-- A plain rule covers the path it names, and no other: its path is canonical, and canonical paths are the normal forms. -/
theorem plain_rule_covers_its_path :
    (∀ path, (Path.isCanonical path = true ↔ path = Path.normalForm path) ∧
      (Path.isCanonical path = true ↔ Path.PassesSearch path.toList)) ∧
    (∀ heading header, RuleHeader.read heading = .ok header → header.glob = false →
      ∃ pattern, PathPattern.compile heading header.glob header.path = .ok pattern ∧
        ∀ query, pattern.accepts (Path.components query) = true ↔ Path.normalForm query = header.path) ∧
    ∀ rules groups m, load rules groups = .ok m → ∀ r ∈ m.rules,
      ∃ header, RuleHeader.read r.heading = .ok header ∧ (header.glob = false →
        ∀ query, r.pattern.accepts (Path.components query) = true ↔ Path.normalForm query = header.path) := by
  refine ⟨fun path => ⟨Path.isCanonical_iff_normalForm, Path.isCanonical_iff_passesSearch⟩, ?_, ?_⟩
  · intro heading header hread hplain
    obtain ⟨pattern, hpattern⟩ := PathPattern.exists_compile_plain heading header.path
    rw [hplain]
    exact ⟨pattern, hpattern, PathPattern.accepts_components_iff (RuleHeader.heading_of_read hread hplain).1 hpattern⟩
  · intro rules groups m hload r hr
    obtain ⟨d, hd, hm⟩ := isOf_load hload
    obtain ⟨header, hread, -, hpattern⟩ := (hm.wellFormed_rule hd hr).header
    refine ⟨header, hread, fun hplain => ?_⟩
    rw [hplain] at hpattern
    exact PathPattern.accepts_components_iff (RuleHeader.heading_of_read hread hplain).1 hpattern

/-- A star and a backslash in a plain rule stand for themselves, however the path is written. -/
theorem plain_rule_covers_its_path_star :
    ∃ m, load "[a:/x*/\\y]\n* = r\n" none = .ok m ∧ ∀ r ∈ m.rules,
      r.pattern.accepts (Path.components "x*//./\\y/z/..") = true ∧ r.pattern.accepts (Path.components "/xx/y") = false := by
  have hload : (load "[a:/x*/\\y]\n* = r\n" none).toOption.any
      (fun m => m.rules.map (·.heading) = ["a:/x*/\\y"]) = true := by decide +kernel
  obtain ⟨m, hm, hheadings⟩ := exists_ok_of_any hload
  have hheadings := of_decide_eq_true hheadings
  refine ⟨m, hm, fun r hr => ?_⟩
  obtain ⟨header, hread, hcovers⟩ := plain_rule_covers_its_path.2.2 _ _ m hm r hr
  have hheading : r.heading = "a:/x*/\\y" := by
    have := List.mem_map_of_mem (f := (·.heading)) hr
    rwa [hheadings, List.mem_singleton] at this
  rw [hheading] at hread
  have hheader : RuleHeader.read "a:/x*/\\y" = .ok ⟨false, some "a", "/x*/\\y"⟩ := by decide +kernel
  rw [hheader] at hread
  cases hread
  refine ⟨(hcovers rfl _).mpr (by decide +kernel), ?_⟩
  rw [Bool.eq_false_iff, ne_eq, hcovers rfl]
  decide +kernel

end Model

end PathAuthz
