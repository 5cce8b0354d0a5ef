/-
  PathAuthz.Proofs.Header.Plain — what the heading of a plain section is known by.

  (1) The pattern of a plain path accepts the written components of that path and nothing else
  (`accepts_plain_iff`).

  (2) What a heading that is read consists of (`read_eq_ok`). Its repository has a name, and no
  slash in it (`repo_of_read`). A heading that is read as a plain header is the repository, a colon
  and the path, or the path alone (`heading_of_read`).

  (3) A canonical path is known by its written components, so plain rules with one scope that accept
  one list of components have the same heading (`heading_eq_of_accepts`). Behind a heading in a glob
  form this fails: `[:glob:/*]` and `[:glob:/**]` both accept `/a`.
-/

import PathAuthz.Proofs.Draft.Sections
import PathAuthz.Proofs.Outcome
import PathAuthz.Proofs.Path

namespace PathAuthz

open Text

/-! ## (1) Plain patterns -/

namespace PathPattern

open Pattern

theorem covers_literals (cs ds : List String) : covers (cs.map Segment.literal) ds = true ↔ ds = cs := by
  induction cs generalizing ds with
  | nil => simp [covers]
  | cons c cs ih =>
    cases ds with
    | nil => simp [covers, behindOne]
    | cons d ds => simp [covers, behindOne, Segment.accepts, ih]

theorem collapse_literals (cs : List String) : collapse (cs.map Segment.literal) = cs.map Segment.literal := by
  induction cs with
  | nil => rfl
  | cons c cs ih => rw [List.map_cons, collapse, ih]; simp

theorem mapM_segmentOf_plain (heading : String) (cs : List String) :
    cs.mapM (segmentOf heading false) = .ok (cs.map Segment.literal) := by
  induction cs with
  | nil => rfl
  | cons c cs ih =>
    rw [List.mapM_cons, ih]
    rfl

theorem compile_plain {heading path : String} {pattern : PathPattern} (h : compile heading false path = .ok pattern) :
    pattern.segments = (Path.written path).map Segment.literal := by
  rw [compile, mapM_segmentOf_plain] at h
  cases h
  exact collapse_literals _

theorem accepts_plain_iff {heading path : String} {pattern : PathPattern}
    (h : compile heading false path = .ok pattern) {components : List String} :
    pattern.accepts components = true ↔ components = Path.written path := by
  rw [accepts_eq_covers, compile_plain h, covers_literals]

end PathPattern

/-! ## (2) Headers that are read -/

namespace RuleHeader

theorem cutAtPath_eq_some {s a b : List Char} (h : cutAtPath s = some (a, b)) : s = a ++ ':' :: b := by
  induction s generalizing a with
  | nil => cases h
  | cons c cs ih =>
    unfold cutAtPath at h
    split at h
    · cases h
    · rename_i he
      cases h
      exact he
    · rename_i he
      cases he
      obtain ⟨⟨a', b'⟩, hcs, he⟩ := Option.map_eq_some_iff.mp h
      cases he
      rw [ih hcs, List.cons_append]

/-- A heading is its path, or its scope, a colon and its path. -/
theorem cutScope_eq_some {s path : List Char} {scope : Option (List Char)} (h : cutScope s = some (scope, path)) :
    s = match scope with
      | none => path
      | some scope => scope ++ ':' :: path := by
  unfold cutScope at h
  split at h
  · cases h
    rfl
  · split at h
    · rename_i hcut
      cases h
      exact cutAtPath_eq_some hcut
    · obtain ⟨⟨a, b⟩, hcut, he⟩ := Option.map_eq_some_iff.mp h
      cases he
      exact cutLast_eq_some hcut

theorem checkRepo_eq_ok_iff {heading repo : String} {cs : List Char} :
    checkRepo heading cs = .ok repo ↔ cs = repo.toList ∧ repo ≠ "" ∧ '/' ∉ repo.toList := by
  have hempty : repo ≠ "" ↔ repo.toList ≠ [] := by simp
  rw [hempty]
  constructor
  · intro h
    unfold checkRepo at h
    split at h
    · cases h
    · rename_i hne
      split at h
      · cases h
      · rename_i hslash
        cases h
        rw [String.toList_ofList]
        exact ⟨rfl, hne, hslash⟩
  · intro h
    obtain ⟨rfl, hne, hslash⟩ := h
    rw [checkRepo, if_neg hne, if_neg hslash, String.ofList_toList]

/-- A scope is a repository, if it holds no colon, or else a marker, perhaps behind a colon and perhaps with a colon and a
    repository behind it. -/
theorem cutMarker_eq {scope : List Char} {marker repo : Option (List Char)} (h : cutMarker scope = (marker, repo)) :
    (marker = none ∧ repo = some scope ∧ ':' ∉ scope) ∨
    (∃ token, marker = some token ∧ repo = none ∧ scope = ':' :: token) ∨
    ∃ token name, marker = some token ∧ repo = some name ∧
      (scope = ':' :: token ++ ':' :: name ∨ scope = token ++ ':' :: name) := by
  have hcolon : ∀ {s a b d}, cut (· == ':') s = some (a, d, b) → s = a ++ ':' :: b := by
    intro s a b d hcut
    obtain ⟨hs, hd, -⟩ := cut_eq_some hcut
    rwa [beq_iff_eq.mp hd] at hs
  unfold cutMarker at h
  split at h
  · rename_i rest
    split at h
    · rename_i token d name hcut
      cases h
      exact Or.inr (Or.inr ⟨token, name, rfl, rfl, Or.inl (by rw [hcolon hcut, List.cons_append])⟩)
    · cases h
      exact Or.inr (Or.inl ⟨rest, rfl, rfl, rfl⟩)
  · split at h
    · rename_i token d name hcut
      cases h
      exact Or.inr (Or.inr ⟨token, name, rfl, rfl, Or.inr (hcolon hcut)⟩)
    · rename_i hcut
      cases h
      refine Or.inl ⟨rfl, rfl, fun hmem => ?_⟩
      simpa using cut_eq_none_iff.mp hcut ':' hmem

/-- What a scope that is read consists of: perhaps the word `glob`, and perhaps a repository that passes its check. -/
theorem readScope_eq_ok {heading : String} {scope : List Char} {glob : Bool} {repo : Option String}
    (h : readScope heading scope = .ok (glob, repo)) :
    ∃ marker rest, cutMarker scope = (marker, rest) ∧
      (marker = none ∧ glob = false ∨ marker = some "glob".toList ∧ glob = true) ∧
      (rest = none ∧ repo = none ∨ ∃ cs name, rest = some cs ∧ checkRepo heading cs = .ok name ∧ repo = some name) := by
  unfold readScope at h
  rcases hcut : cutMarker scope with ⟨marker, rest⟩
  rw [hcut] at h
  refine ⟨marker, rest, rfl, ?_⟩
  have hcheck : ∀ flag cs, ((checkRepo heading cs).bind fun name => pure (flag, some name)) = Except.ok (glob, repo) →
      glob = flag ∧ ∃ name, checkRepo heading cs = .ok name ∧ repo = some name := by
    intro flag cs h
    obtain ⟨name, hname, h⟩ := bind_eq_ok_iff.mp h
    cases pure_eq_ok_iff.mp h
    exact ⟨rfl, name, hname, rfl⟩
  cases marker with
  | none =>
    cases rest with
    | none => cases h; exact ⟨Or.inl ⟨rfl, rfl⟩, Or.inl ⟨rfl, rfl⟩⟩
    | some cs =>
      obtain ⟨hglob, name, hname, hrepo⟩ := hcheck false cs h
      exact ⟨Or.inl ⟨rfl, hglob⟩, Or.inr ⟨cs, name, rfl, hname, hrepo⟩⟩
  | some token =>
    by_cases htoken : token = "glob".toList
    · simp only [if_pos htoken] at h
      cases rest with
      | none => cases h; exact ⟨Or.inr ⟨by rw [htoken], rfl⟩, Or.inl ⟨rfl, rfl⟩⟩
      | some cs =>
        obtain ⟨hglob, name, hname, hrepo⟩ := hcheck true cs h
        exact ⟨Or.inr ⟨by rw [htoken], hglob⟩, Or.inr ⟨cs, name, rfl, hname, hrepo⟩⟩
    · simp only [if_neg htoken] at h
      cases h

/-- The scopes that are read: a repository without a colon, or the word `glob`, and then perhaps a repository. -/
theorem scope_of_readScope {heading : String} {scope : List Char} {glob : Bool} {repo : Option String}
    (h : readScope heading scope = .ok (glob, repo)) :
    (∀ name, repo = some name → name ≠ "" ∧ '/' ∉ name.toList) ∧
    ((∃ name, glob = false ∧ repo = some name ∧ scope = name.toList ∧ ':' ∉ name.toList) ∨
    (glob = true ∧ repo = none ∧ scope = ":glob".toList) ∨
    ∃ name, glob = true ∧ repo = some name ∧
      (scope = ":glob:".toList ++ name.toList ∨ scope = "glob:".toList ++ name.toList)) := by
  obtain ⟨marker, rest, hcut, hmarker, hrest⟩ := readScope_eq_ok h
  have hname : ∀ {cs}, rest = some cs → ∃ name, repo = some name ∧ cs = name.toList ∧ name ≠ "" ∧ '/' ∉ name.toList := by
    intro cs hcs
    rcases hrest with ⟨hnone, -⟩ | ⟨cs', name, hcs', hcheck, hrepo⟩
    · rw [hnone] at hcs
      cases hcs
    · rw [hcs'] at hcs
      cases hcs
      exact ⟨name, hrepo, checkRepo_eq_ok_iff.mp hcheck⟩
  rcases cutMarker_eq hcut with ⟨rfl, hscope, hcolon⟩ | ⟨token, rfl, rfl, rfl⟩ | ⟨token, cs, rfl, hcs, hscope⟩
  · rcases hmarker with ⟨-, rfl⟩ | ⟨hglob, -⟩
    · obtain ⟨name, rfl, rfl, hfits⟩ := hname hscope
      exact ⟨fun _ he => Option.some.inj he ▸ hfits, Or.inl ⟨name, rfl, rfl, rfl, hcolon⟩⟩
    · cases hglob
  · rcases hmarker with ⟨hnone, -⟩ | ⟨hglob, rfl⟩
    · cases hnone
    · cases hglob
      rcases hrest with ⟨-, rfl⟩ | ⟨cs, name, hcs, -, -⟩
      · exact ⟨nofun, Or.inr (Or.inl ⟨rfl, rfl, rfl⟩)⟩
      · cases hcs
  · rcases hmarker with ⟨hnone, -⟩ | ⟨hglob, rfl⟩
    · cases hnone
    · cases hglob
      obtain ⟨name, rfl, rfl, hfits⟩ := hname hcs
      exact ⟨fun _ he => Option.some.inj he ▸ hfits, Or.inr (Or.inr ⟨name, rfl, rfl, hscope⟩)⟩

/-- A scope in no glob form is a repository as it stands. -/
theorem readScope_plain {heading : String} {scope : List Char} {repo : Option String}
    (h : readScope heading scope = .ok (false, repo)) : repo = some (String.ofList scope) := by
  rcases (scope_of_readScope h).2 with ⟨name, -, rfl, rfl, -⟩ | ⟨hglob, -, -⟩ | ⟨name, hglob, -, -⟩
  · rw [String.ofList_toList]
  · cases hglob
  · cases hglob

/-- What a heading that is read consists of: perhaps a scope that can be read, and a canonical path. -/
theorem read_eq_ok {heading : String} {header : RuleHeader} (h : read heading = .ok header) :
    ∃ scope path, cutScope heading.toList = some (scope, path) ∧ Path.isCanonical header.path = true ∧
      header.path = String.ofList path ∧
      (scope = none ∧ header.glob = false ∧ header.repo = none ∨
        ∃ cs, scope = some cs ∧ readScope heading cs = .ok (header.glob, header.repo)) := by
  unfold read at h
  split at h
  · cases h
  · rename_i scope path hcut
    have hpath : ∀ glob repo, (if Path.isCanonical (String.ofList path) = true then
          pure ⟨glob, repo, String.ofList path⟩
        else .error (LoadError.pathNotCanonical heading (String.ofList path))) = Except.ok header →
        Path.isCanonical header.path = true ∧ header = ⟨glob, repo, String.ofList path⟩ := by
      intro glob repo h
      split at h
      · rename_i hcanonical
        cases h
        exact ⟨hcanonical, rfl⟩
      · cases h
    cases scope with
    | none =>
      obtain ⟨hcanonical, rfl⟩ := hpath false none h
      exact ⟨none, path, hcut, hcanonical, rfl, Or.inl ⟨rfl, rfl, rfl⟩⟩
    | some cs =>
      obtain ⟨⟨glob, repo⟩, hscope, h⟩ := bind_eq_ok_iff.mp h
      obtain ⟨hcanonical, rfl⟩ := hpath glob repo h
      exact ⟨some cs, path, hcut, hcanonical, rfl, Or.inr ⟨cs, rfl, hscope⟩⟩

/-- A repository has a name, and no slash in it. -/
theorem repo_of_read {heading repo : String} {header : RuleHeader} (h : read heading = .ok header)
    (hrepo : header.repo = some repo) : repo ≠ "" ∧ '/' ∉ repo.toList := by
  obtain ⟨scope, path, -, -, -, hscope⟩ := read_eq_ok h
  rcases hscope with ⟨-, -, hnone⟩ | ⟨cs, -, hscope⟩
  · rw [hrepo] at hnone
    cases hnone
  · exact (scope_of_readScope hscope).1 repo hrepo

theorem scope_eq_named_iff {header : RuleHeader} {repo : String} :
    header.scope = .named repo ↔ header.repo = some repo := by
  unfold scope
  split <;> simp [*]

theorem repo_of_scope {h h' : RuleHeader} (hscope : h.scope = h'.scope) : h.repo = h'.repo := by
  refine Option.ext fun repo => ?_
  rw [← scope_eq_named_iff, ← scope_eq_named_iff, hscope]

theorem heading_of_read {heading : String} {header : RuleHeader} (h : read heading = .ok header)
    (hplain : header.glob = false) :
    Path.isCanonical header.path = true ∧
      heading = match header.repo with
        | none => header.path
        | some repo => repo ++ ":" ++ header.path := by
  obtain ⟨scope, path, hcut, hcanonical, hpath, hscope⟩ := read_eq_ok h
  have htext := cutScope_eq_some hcut
  refine ⟨hcanonical, ?_⟩
  rcases hscope with ⟨rfl, -, hrepo⟩ | ⟨cs, rfl, hread⟩
  · rw [hrepo, hpath, ← String.toList_inj, htext, String.toList_ofList]
  · rw [hplain] at hread
    rw [readScope_plain hread, hpath, ← String.toList_inj, htext]
    simp

/-! ## (3) One heading for one path -/

theorem heading_eq_of_accepts {heading heading' : String} {header header' : RuleHeader}
    {pattern pattern' : PathPattern} {components : List String} (hread : read heading = .ok header)
    (hread' : read heading' = .ok header') (hplain : header.glob = false) (hplain' : header'.glob = false)
    (hscope : header.scope = header'.scope)
    (hpattern : PathPattern.compile heading header.glob header.path = .ok pattern)
    (hpattern' : PathPattern.compile heading' header'.glob header'.path = .ok pattern')
    (haccepts : pattern.accepts components = true) (haccepts' : pattern'.accepts components = true) :
    heading = heading' := by
  obtain ⟨hcanonical, hheading⟩ := heading_of_read hread hplain
  obtain ⟨hcanonical', hheading'⟩ := heading_of_read hread' hplain'
  rw [hplain] at hpattern
  rw [hplain'] at hpattern'
  have hwritten : Path.written header.path = Path.written header'.path := by
    rw [← (PathPattern.accepts_plain_iff hpattern).mp haccepts]
    exact (PathPattern.accepts_plain_iff hpattern').mp haccepts'
  have hpath : header.path = header'.path := by
    rw [← Path.join_written hcanonical, hwritten, Path.join_written hcanonical']
  rw [hheading, hheading', hpath, repo_of_scope hscope]

end RuleHeader

end PathAuthz
