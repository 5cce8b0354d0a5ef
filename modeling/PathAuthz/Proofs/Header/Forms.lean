/-
  PathAuthz.Proofs.Header.Forms — the forms a heading can have.

  (1) `HeadingForm` is the grammar of headings: a path, a path in a repository, a glob, and a glob in
  a repository, the last with or without a colon in front. A form has a text and stands for a
  header; it is valid if its path is canonical and its repository one that may stand there.

  (2) A scope without a slash ends where the path starts (`cutScope_scope`), so every valid form is
  read as what it stands for (`read_text`). The scopes that are read are those of the forms
  (`exists_form_of_readScope`), so every heading that is read has a valid form
  (`exists_form_of_read`).

  (3) A heading has at most one valid form, it is read iff it has one, and as the header of that
  form (`read_iff_form`). A repository may hold colons behind the word `glob` only: `[a:b:/x]` is
  refused, as `a` is not that word.
-/

import PathAuthz.Proofs.Header.Plain

namespace PathAuthz

open Text

/-! ## (1) Forms -/

/-- A heading, as its grammar has it. -/
inductive HeadingForm where
  | path (path : String)
  | inRepo (repo path : String)
  | glob (path : String)
  | globInRepo (colon : Bool) (repo path : String)
  deriving DecidableEq, Repr

namespace HeadingForm

def text : HeadingForm → String
  | path p => p
  | inRepo repo p => repo ++ ":" ++ p
  | glob p => ":glob:" ++ p
  | globInRepo true repo p => ":glob:" ++ repo ++ ":" ++ p
  | globInRepo false repo p => "glob:" ++ repo ++ ":" ++ p

/-- What a form stands for. -/
def header : HeadingForm → RuleHeader
  | path p => ⟨false, none, p⟩
  | inRepo repo p => ⟨false, some repo, p⟩
  | glob p => ⟨true, none, p⟩
  | globInRepo _ repo p => ⟨true, some repo, p⟩

/-- Whether the repository of a form is one that can be told from what stands around it. -/
def RepoFits : HeadingForm → Prop
  | path _ => True
  | inRepo repo _ => repo ≠ "" ∧ '/' ∉ repo.toList ∧ ':' ∉ repo.toList
  | glob _ => True
  | globInRepo _ repo _ => repo ≠ "" ∧ '/' ∉ repo.toList

def IsValid (f : HeadingForm) : Prop := Path.isCanonical f.header.path = true ∧ f.RepoFits

end HeadingForm

namespace RuleHeader

/-! ## (2) Reading the forms -/

theorem cutAtPath_scope {scope : List Char} (h : '/' ∉ scope) (rest : List Char) :
    cutAtPath (scope ++ ':' :: '/' :: rest) = some (scope, '/' :: rest) := by
  induction scope with
  | nil => rfl
  | cons c cs ih =>
    rw [List.mem_cons, not_or] at h
    -- What follows the first character is no slash, so the cut is not made there.
    have hnext : ∀ rest', cs ++ ':' :: '/' :: rest ≠ '/' :: rest' := by
      intro rest' he
      cases cs with
      | nil => cases he
      | cons d ds =>
        rw [List.mem_cons, not_or] at h
        exact h.2.1 (List.cons.inj he).1.symm
    rw [List.cons_append, cutAtPath, ih h.2]
    · rfl
    · exact fun rest' _ he => hnext rest' he

theorem cutScope_scope {scope path : List Char} (h : '/' ∉ scope) (hpath : path.head? = some '/') :
    cutScope (scope ++ ':' :: path) = some (some scope, path) := by
  obtain ⟨rest, rfl⟩ := List.head?_eq_some_iff.mp hpath
  have hhead : (scope ++ ':' :: '/' :: rest).head? ≠ some '/' := by
    cases scope with
    | nil => simp
    | cons c cs =>
      rw [List.mem_cons, not_or] at h
      simpa using Ne.symm h.1
  rw [cutScope, if_neg hhead, cutAtPath_scope h]

theorem read_scope {heading path : String} {scope : List Char} {glob : Bool} {repo : Option String}
    (hscope : '/' ∉ scope) (hpath : Path.isCanonical path = true)
    (htext : heading.toList = scope ++ ':' :: path.toList)
    (h : readScope heading scope = .ok (glob, repo)) : read heading = .ok ⟨glob, repo, path⟩ := by
  rw [read, htext, cutScope_scope hscope (Path.head?_of_isCanonical hpath)]
  simp only [h, String.ofList_toList, if_pos hpath]
  rfl

theorem read_path {path : String} (h : Path.isCanonical path = true) : read path = .ok ⟨false, none, path⟩ := by
  rw [read, cutScope, if_pos (Path.head?_of_isCanonical h)]
  simp only [String.ofList_toList, if_pos h]
  rfl

theorem cutMarker_of_not_mem {scope : List Char} (h : ':' ∉ scope) : cutMarker scope = (none, some scope) := by
  have hcut : cut (· == ':') scope = none := cut_eq_none_iff.mpr fun c hc => beq_eq_false_iff_ne.mpr fun he => h (he ▸ hc)
  unfold cutMarker
  split
  · simp at h
  · rw [hcut]

theorem readScope_of_cutMarker {heading repo : String} {scope : List Char} {glob : Bool} (hne : repo ≠ "")
    (hslash : '/' ∉ repo.toList)
    (hcut : cutMarker scope = (if glob then some "glob".toList else none, some repo.toList)) :
    readScope heading scope = .ok (glob, some repo) := by
  have hcheck : checkRepo heading repo.toList = .ok repo := checkRepo_eq_ok_iff.mpr ⟨rfl, hne, hslash⟩
  rw [readScope, hcut]
  simp only [hcheck]
  cases glob <;> rfl

/-- Every valid form is read as what it stands for. -/
theorem read_text {form : HeadingForm} (h : form.IsValid) : read form.text = .ok form.header := by
  obtain ⟨hpath, hrepo⟩ := h
  cases form with
  | path p => exact read_path hpath
  | inRepo repo p =>
    obtain ⟨hne, hslash, hcolon⟩ := hrepo
    have htext : (HeadingForm.inRepo repo p).text.toList = repo.toList ++ ':' :: p.toList := by simp [HeadingForm.text]
    exact read_scope hslash hpath htext (readScope_of_cutMarker hne hslash (cutMarker_of_not_mem hcolon))
  | glob p =>
    have htext : (HeadingForm.glob p).text.toList = ":glob".toList ++ ':' :: p.toList := by simp [HeadingForm.text]
    exact read_scope (by decide) hpath htext rfl
  | globInRepo colon repo p =>
    obtain ⟨hne, hslash⟩ := hrepo
    cases colon with
    | true =>
      have htext : (HeadingForm.globInRepo true repo p).text.toList = ":glob:".toList ++ repo.toList ++ ':' :: p.toList := by
        simp [HeadingForm.text]
      exact read_scope (by simpa using hslash) hpath htext (readScope_of_cutMarker hne hslash rfl)
    | false =>
      have htext : (HeadingForm.globInRepo false repo p).text.toList = "glob:".toList ++ repo.toList ++ ':' :: p.toList := by
        simp [HeadingForm.text]
      exact read_scope (by simpa using hslash) hpath htext (readScope_of_cutMarker hne hslash rfl)

/-- A scope that is read stands before the path in some form. -/
theorem exists_form_of_readScope {heading : String} {scope : List Char} {glob : Bool} {repo : Option String}
    (h : readScope heading scope = .ok (glob, repo)) (path : String) :
    ∃ form : HeadingForm, form.RepoFits ∧ form.header = ⟨glob, repo, path⟩ ∧
      form.text.toList = scope ++ ':' :: path.toList := by
  obtain ⟨hfits, hscope⟩ := scope_of_readScope h
  rcases hscope with ⟨name, rfl, rfl, rfl, hcolon⟩ | ⟨rfl, rfl, rfl⟩ | ⟨name, rfl, rfl, rfl | rfl⟩
  · obtain ⟨hne, hslash⟩ := hfits name rfl
    exact ⟨.inRepo name path, ⟨hne, hslash, hcolon⟩, rfl, by simp [HeadingForm.text]⟩
  · exact ⟨.glob path, trivial, rfl, by simp [HeadingForm.text]⟩
  · exact ⟨.globInRepo true name path, hfits name rfl, rfl, by simp [HeadingForm.text]⟩
  · exact ⟨.globInRepo false name path, hfits name rfl, rfl, by simp [HeadingForm.text]⟩

/-- Every heading that is read is the text of a valid form of its header. -/
theorem exists_form_of_read {heading : String} {header : RuleHeader} (h : read heading = .ok header) :
    ∃ form : HeadingForm, form.IsValid ∧ form.text = heading ∧ form.header = header := by
  obtain ⟨scope, path, hcut, hcanonical, hpath, hscope⟩ := read_eq_ok h
  have htext := cutScope_eq_some hcut
  have hpath' : path = header.path.toList := by rw [hpath, String.toList_ofList]
  subst hpath'
  rcases hscope with ⟨rfl, hglob, hrepo⟩ | ⟨cs, rfl, hread⟩
  · refine ⟨.path header.path, ⟨hcanonical, trivial⟩, (String.toList_inj.mp htext).symm, ?_⟩
    rw [HeadingForm.header, ← hglob, ← hrepo]
  · obtain ⟨form, hfits, hheader, hform⟩ := exists_form_of_readScope hread header.path
    refine ⟨form, ⟨?_, hfits⟩, String.toList_inj.mp (hform.trans htext.symm), hheader⟩
    rw [hheader]
    exact hcanonical

/-! ## (3) One form for each heading -/

/-- Forms of one header differ by the colon in front of the word `glob` only, and that stands in the text. -/
theorem form_eq_of_header {form form' : HeadingForm} (hheader : form.header = form'.header) (htext : form.text = form'.text) :
    form = form' := by
  cases form <;> cases form' <;> cases hheader
  · rfl
  · rfl
  · rfl
  · rename_i colon repo p colon'
    have hlist := congrArg String.toList htext
    cases colon <;> cases colon'
    · rfl
    · simp [HeadingForm.text] at hlist
    · simp [HeadingForm.text] at hlist
    · rfl

/-- A heading is read iff it has a valid form, and it has no two of them. -/
theorem read_iff_form (heading : String) :
    (∀ header, read heading = .ok header ↔ ∃ form : HeadingForm, form.IsValid ∧ form.text = heading ∧ form.header = header) ∧
    (∀ form form' : HeadingForm, form.IsValid → form'.IsValid → form.text = heading → form'.text = heading → form = form') ∧
    ((∀ form : HeadingForm, form.IsValid → form.text ≠ heading) → ∃ fault, read heading = .error fault) := by
  refine ⟨fun header => ⟨exists_form_of_read, ?_⟩, ?_, ?_⟩
  · intro h
    obtain ⟨form, hvalid, rfl, rfl⟩ := h
    exact read_text hvalid
  · intro form form' hvalid hvalid' htext htext'
    have hheader : form.header = form'.header := by
      have := (read_text hvalid).symm
      rw [htext, ← htext', read_text hvalid'] at this
      exact Except.ok.inj this
    exact form_eq_of_header hheader (htext.trans htext'.symm)
  · intro hno
    rcases hread : read heading with fault | header
    · exact ⟨fault, rfl⟩
    · obtain ⟨form, hvalid, htext, -⟩ := exists_form_of_read hread
      exact absurd htext (hno form hvalid)

/-- Colons in the repository and in the path, and none in front. -/
theorem read_iff_form_colons :
    HeadingForm.IsValid (.globInRepo false "a:b" "/x:/y") ∧
      read "glob:a:b:/x:/y" = .ok ⟨true, some "a:b", "/x:/y"⟩ ∧
      ∀ form : HeadingForm, form.IsValid → form.text = "glob:a:b:/x:/y" → form = .globInRepo false "a:b" "/x:/y" := by
  have hvalid : HeadingForm.IsValid (.globInRepo false "a:b" "/x:/y") :=
    ⟨by decide +kernel, by decide +kernel, by decide +kernel⟩
  obtain ⟨hread, hone, -⟩ := read_iff_form "glob:a:b:/x:/y"
  exact ⟨hvalid, (hread _).mpr ⟨_, hvalid, by decide +kernel, rfl⟩,
    fun form hform htext => hone form _ hform hvalid htext (by decide +kernel)⟩

/-- A single word before the path is a repository. -/
example : read "glob:/A" = .ok ⟨false, some "glob", "/A"⟩ := by decide +kernel

end RuleHeader

end PathAuthz
