/-
  PathAuthz.Proofs.Settings.Layers — the environment laid over a settings file.

  (1) The text of a settings file says what the file holds, with or without a byte order mark in
  front (`read?_dropByteOrderMark`).

  (2) Settings that pass validation are valid (`isValid_of_ofNode`), whatever layers they come from.

  (3) A settings file that is found and holds a text is read as that text with the environment over
  it (`load_of_holds`). This is the text alone with the fields overridden that variables set
  (`ofSources_overridden`, `load_overridden`).
-/

import Mathlib
import PathAuthz.Proofs.Outcome
import PathAuthz.Proofs.Settings.Fields
import PathAuthz.Settings.Load

namespace PathAuthz

open Text

/-! ## (1) Texts of files -/

theorem Text.Utf8.strict_eq_some_iff {bytes : List UInt8} {t : String} :
    Utf8.strict bytes = some t ↔ Utf8.decode bytes = t.toList.map some := by
  rw [Utf8.strict, Option.map_eq_some_iff]
  simp only [mapM_eq_some_iff, List.map_id]
  constructor
  · intro h
    obtain ⟨cs, hcs, rfl⟩ := h
    rw [hcs, String.toList_ofList]
  · intro h
    exact ⟨t.toList, h, String.ofList_toList⟩

theorem Text.Utf8.lossy_of_strict {bytes : List UInt8} {t : String} (h : Utf8.strict bytes = some t) :
    Utf8.lossy bytes = t := by
  rw [Utf8.lossy, Utf8.strict_eq_some_iff.mp h, List.map_map]
  simp [Function.comp_def]

theorem Text.Utf8.decode_mark (rest : List UInt8) :
    Utf8.decode (0xEF :: 0xBB :: 0xBF :: rest) = some '\uFEFF' :: Utf8.decode rest := rfl

/-- A byte order mark starts no expression. -/
theorem Toml.Document.expressions?_mark (d : Document) (fuel : Nat) (cs : List Char) :
    d.expressions? fuel ('\uFEFF' :: cs) = none := by
  cases fuel with
  | zero => rfl
  | succ fuel =>
    have htrivia : dropTrivia? false ('\uFEFF' :: cs) = some ('\uFEFF' :: cs) := rfl
    have hexpression : d.expression? ('\uFEFF' :: cs) = none := rfl
    rw [Document.expressions?, htrivia]
    simp only [Option.bind_eq_bind, Option.bind_some, hexpression, Option.bind_none]

/-- A document behind a byte order mark is read without it. -/
theorem Toml.read?_of_mark {cs : List Char} {es : Entries} (h : read? (String.ofList ('\uFEFF' :: cs)) = some es) :
    read? (String.ofList cs) = some es := by
  have hbehind : (Document.expressions? ⟨[], []⟩ (cs.length + 1) cs).map (·.root) = some es := by
    rw [read?, String.toList_ofList] at h
    exact h
  rw [read?, String.toList_ofList]
  split
  · rw [Document.expressions?_mark] at hbehind
    cases hbehind
  · exact hbehind

namespace Settings

/-- The text of a file says what the file holds, with or without a mark. -/
theorem read?_dropByteOrderMark {bytes : List UInt8} {t : String} (h : Utf8.strict bytes = some t) {es : Toml.Entries}
    (hread : Toml.read? t = some es) : Toml.read? (Utf8.lossy (dropByteOrderMark bytes)) = some es := by
  unfold dropByteOrderMark
  split
  · rename_i rest
    have hdecode := Utf8.strict_eq_some_iff.mp h
    rw [Utf8.decode_mark] at hdecode
    obtain ⟨c, cs, hcs, hc, hrest⟩ := List.map_eq_cons_iff.mp hdecode.symm
    cases hc
    have hstrict : Utf8.strict rest = some (String.ofList cs) := by
      rw [Utf8.strict_eq_some_iff, String.toList_ofList, hrest]
    rw [← String.ofList_toList (s := t), hcs] at hread
    rw [Utf8.lossy_of_strict hstrict]
    exact Toml.read?_of_mark hread
  · rw [Utf8.lossy_of_strict h, hread]

/-! ## (2) Validation -/

end Settings

/-- What validation asks of settings. -/
structure Settings.IsValid (s : Settings) : Prop where
  rulesFile : s.groupsFile.isSome = true → s.rulesFile.isSome = true
  rulesNotBlank : ∀ file, s.rulesFile = some file → Settings.isBlankText file = false
  groupsNotBlank : ∀ file, s.groupsFile = some file → Settings.isBlankText file = false
  level : Settings.lower s.level ∈ Settings.knownLevels

namespace Settings

theorem isValid_of_validate {s s' : Settings} (h : validate s = .ok s') : s'.IsValid := by
  unfold validate at h
  split at h
  · cases h
  split at h
  · cases h
  split at h
  · cases h
  split at h
  · cases h
  rename_i hneeded hrules hgroups hlevel
  cases h
  refine ⟨?_, ?_, ?_, ?_⟩
  · intro hgiven
    by_contra hno
    exact hneeded ⟨hgiven, by simpa using hno⟩
  · intro file hfile
    simpa [hfile] using hrules
  · intro file hfile
    simpa [hfile] using hgroups
  · simpa using hlevel

theorem isValid_of_ofNode {n : Node} {s : Settings} (h : ofNode n = .ok s) : s.IsValid := by
  unfold ofNode at h
  split at h
  · cases h
  · exact isValid_of_validate h

/-! ## (3) Loading -/

/-- The tree of a TOML text. -/
def treeOf? (toml : String) : Option Node := (entriesOfToml? toml).map (addSource root)

section

variable {t : String} {n : Node}

theorem exists_table_treeOf? (h : treeOf? t = some n) : ∃ es, n = .table es := by
  obtain ⟨entries, -, rfl⟩ := Option.map_eq_some_iff.mp h
  exact exists_table_addSource ⟨[], rfl⟩ entries

theorem ofToml_eq_ofNode (h : treeOf? t = some n) : ofToml t = ofNode n := by
  obtain ⟨entries, hentries, rfl⟩ := Option.map_eq_some_iff.mp h
  rw [ofToml, hentries]

theorem ofSources_eq_ofNode (h : treeOf? t = some n) (environment : List (String × String)) :
    ofSources (some t) environment = ofNode (addSource n (entriesOfEnvironment environment)) := by
  have hbase : (entriesOfToml? t).map (addSource root) = some n := h
  simp only [ofSources, hbase]

theorem treeOf?_dropByteOrderMark {bytes : List UInt8} (hbytes : Utf8.strict bytes = some t) (h : treeOf? t = some n) :
    treeOf? (Utf8.lossy (dropByteOrderMark bytes)) = some n := by
  obtain ⟨entries, hentries, rfl⟩ := Option.map_eq_some_iff.mp h
  obtain ⟨es, hes, rfl⟩ := Option.map_eq_some_iff.mp hentries
  rw [treeOf?, entriesOfToml?, read?_dropByteOrderMark hbytes hes]
  rfl

end

/-- Whether a tree is another one but for the fields that variables set, as far as settings go. -/
structure Overrides (environment : List (String × String)) (n n' : Node) : Prop where
  tables : HasTables n'
  /-- A field holds what its variable says, or else what it held before. -/
  fields : ∀ x : Field, x.get? n' = ((environment.lookup x.variableName).map Node.leaf).or (x.get? n)

/-- Laying variables over a text is reading the text with their fields overridden. -/
theorem ofSources_overridden {environment : List (String × String)} {t t' : String} {n n' : Node}
    (henvironment : SetsFields environment) (hn : treeOf? t = some n) (htables : HasTables n)
    (hn' : treeOf? t' = some n') (h : Overrides environment n n') : ofSources (some t) environment = ofToml t' := by
  rw [ofSources_eq_ofNode hn, ofToml_eq_ofNode hn']
  refine ofNode_congr (exists_table_addSource (exists_table_treeOf? hn) _) (exists_table_treeOf? hn')
    (hasTables_addSource henvironment htables) h.tables fun x => ?_
  rw [get?_addSource henvironment, h.fields]

section

variable {m : Type → Type} [Monad m] [LawfulMonad m] {w : World m} {path : String} {bytes : List UInt8}

theorem isThere_of_read (h : w.read path = pure (.ok bytes)) : w.isThere path = pure true := by
  rw [World.isThere, h, pure_bind]

theorem ofFile_of_read (h : w.read path = pure (.ok bytes)) :
    ofFile w path = pure (ofSources (some (Utf8.lossy (dropByteOrderMark bytes))) w.environment) := by
  rw [ofFile, readFile, h, pure_bind]
  simp only [pure_bind]

theorem firstThere_append {before after : List String} (hbefore : ∀ p ∈ before, w.isThere p = pure false)
    (h : w.isThere path = pure true) : firstThere w (before ++ path :: after) = pure (some path) := by
  induction before with
  | nil => rw [List.nil_append, firstThere, h, pure_bind, if_pos rfl]
  | cons p before ih =>
    obtain ⟨hp, hbefore⟩ := List.forall_mem_cons.mp hbefore
    rw [List.cons_append, firstThere, hp, pure_bind, if_neg (by decide), ih hbefore]

end

/-- Whether the settings file of a world holds a text: the file that is asked for, or else the first of the usual places
    where something is. -/
def Holds {m : Type → Type} [Monad m] (w : World m) (path : Option String) (t : String) : Prop :=
  ∃ place bytes, w.read place = pure (.ok bytes) ∧ Utf8.strict bytes = some t ∧
    match path with
    | some path => place = w.expand path
    | none =>
      ∃ before after, usualPlaces.map w.expand = before ++ place :: after ∧ ∀ p ∈ before, w.isThere p = pure false

section

variable {m : Type → Type} [Monad m] [LawfulMonad m] {w : World m} {path : Option String}

theorem load_of_holds {t : String} (h : Holds w path t) :
    ∃ bytes, Utf8.strict bytes = some t ∧
      load w path = pure (ofSources (some (Utf8.lossy (dropByteOrderMark bytes))) w.environment) := by
  obtain ⟨place, bytes, hread, hstrict, hplace⟩ := h
  refine ⟨bytes, hstrict, ?_⟩
  cases path with
  | some path =>
    cases hplace
    rw [load, isThere_of_read hread, pure_bind, if_pos rfl, ofFile_of_read hread]
  | none =>
    obtain ⟨before, after, hplaces, hbefore⟩ := hplace
    rw [load, hplaces, firstThere_append hbefore (isThere_of_read hread), pure_bind]
    exact ofFile_of_read hread

/-- Loading from a file that holds a text, with the environment over it, is reading the text with those fields
    overridden that variables set; and what is loaded is valid. -/
theorem load_overridden {t t' : String} {n n' : Node} (hholds : Holds w path t)
    (henvironment : SetsFields w.environment) (hn : treeOf? t = some n) (htables : HasTables n)
    (hn' : treeOf? t' = some n') (h : Overrides w.environment n n') :
    load w path = pure (ofToml t') ∧ ∀ s, ofToml t' = .ok s → s.IsValid := by
  constructor
  · obtain ⟨bytes, hbytes, hload⟩ := load_of_holds hholds
    rw [hload, ofSources_overridden henvironment (treeOf?_dropByteOrderMark hbytes hn) htables hn' h]
  · intro s hs
    rw [ofToml_eq_ofNode hn'] at hs
    exact isValid_of_ofNode hs

end

/-- A groups file alone is refused. With a rules file from the environment it is as good as with one from the text. -/
theorem load_overridden_completed :
    ofToml "[authz]\ngroups_file = \"groups\"\n" = .error .rulesFileNeeded ∧
      load ⟨"~", [("REPO_AUTHZ__AUTHZ__RULES_FILE", "rules")],
          fun _ => .ok "[authz]\ngroups_file = \"groups\"\n".toUTF8.toList⟩ none =
        (pure (ofToml "[authz]\ngroups_file = \"groups\"\nrules_file = \"rules\"\n") : Id _) ∧
      ofToml "[authz]\ngroups_file = \"groups\"\nrules_file = \"rules\"\n" =
        .ok { rulesFile := some "rules", groupsFile := some "groups", level := "info", format := .pretty } := by
  have hn : treeOf? "[authz]\ngroups_file = \"groups\"\n" =
      some (.table [("authz", .table [("groups_file", .leaf "groups")])]) := by cbv
  have hn' : treeOf? "[authz]\ngroups_file = \"groups\"\nrules_file = \"rules\"\n" =
      some (.table [("authz", .table [("groups_file", .leaf "groups"), ("rules_file", .leaf "rules")])]) := by cbv
  have htables : ∀ es, HasTables (.table [("authz", .table es)]) := by
    intro es x sub hsub
    cases x <;> cases hsub
    · exact ⟨es, rfl⟩
    · exact ⟨es, rfl⟩
  have hholds : Holds (m := Id) ⟨"~", [("REPO_AUTHZ__AUTHZ__RULES_FILE", "rules")],
      fun _ => .ok "[authz]\ngroups_file = \"groups\"\n".toUTF8.toList⟩ none "[authz]\ngroups_file = \"groups\"\n" :=
    ⟨"repo-authz.toml", _, rfl, by decide +kernel, [], _, rfl, List.forall_mem_nil _⟩
  have henvironment : SetsFields [("REPO_AUTHZ__AUTHZ__RULES_FILE", "rules")] :=
    ⟨List.pairwise_singleton _ _, fun name hname _ => ⟨.rulesFile, List.mem_singleton.mp hname⟩⟩
  refine ⟨?_, ?_, ?_⟩
  · rw [ofToml_eq_ofNode hn]
    rfl
  · refine (load_overridden hholds henvironment hn (htables _) hn' ⟨htables _, fun x => ?_⟩).1
    cases x <;> rfl
  · rw [ofToml_eq_ofNode hn']
    rfl

end Settings

end PathAuthz
