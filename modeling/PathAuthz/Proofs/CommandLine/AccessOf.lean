/-
  PathAuthz.Proofs.CommandLine.AccessOf — what `accessof` tells, and what the questions about a
  model answer.

  (1) A call reads its settings and its files first (`texts`) and then does nothing but load and
  answer (`invoke_eq`), whatever world it runs in.

  (2) A ceiling in one region is the ceiling anywhere iff no rule grants more
  (`ceiling_eq_anywhere_iff`). Under the empty name there are only the rules for any repository
  (`ceiling_unnamed`).

  (3) `accessof` tells one access: it prints it, or compares it with what is expected
  (`answer_accessOf`). On a path that is the access `check` judges by, and without one the
  ceiling `checkAnywhere` judges by (`accessOf_anywhere`), but for the empty name of a
  repository. To a question that name means that no repository is given; `accessof` without a
  path takes it as it stands. So there the two agree iff no rule of one repository grants more
  (`accessOf_agrees`), which may well be (`an_empty_name_hides_every_repository`).
-/

import PathAuthz.CommandLine
import PathAuthz.Proofs.CommandLine.Words
import PathAuthz.Proofs.Model.Answers
import PathAuthz.Proofs.Model.WellFormed

namespace PathAuthz

open Access (unionAll)
open Buckets (grantsIn inRegion regional)

namespace CommandLine

variable {m : Type → Type} [Monad m]

/-! ## (1) Reading before answering -/

/-- The texts of a rules file and perhaps a groups file, or the report of what cannot be read. -/
abbrev Texts := Except String (String × Option String)

/-- The texts that a call is about. -/
def texts (w : World m) (i : Invocation) : m Texts := do
  match ← Settings.load w i.settings with
  | .error err => return .error err.message
  | .ok settings =>
    match i.rulesFile.or settings.rulesFile with
    | none => return .error (reportOf .rulesFileMissing)
    | some path =>
      match ← Model.readRuleFile w path with
      | .error err => return .error (reportOf err)
      | .ok rules =>
        match ← Model.readOptionalFile w (i.groupsFile.or settings.groupsFile) with
        | .error err => return .error (reportOf err)
        | .ok groups => return .ok (rules, groups)

/-- How a call ends that answers as given when its texts load. -/
def ending (answer : Model → Outcome) : Texts → Outcome
  | .error report => .fail report
  | .ok (rules, groups) =>
    match Model.load rules groups with
    | .error err => .fail (reportOf (.refused err))
    | .ok model => answer model

theorem invoke_eq [LawfulMonad m] (w : World m) (i : Invocation) :
    invoke w i = ending (answer · i.command) <$> texts w i := by
  rw [invoke, texts, map_bind]
  refine bind_congr fun loaded => ?_
  cases loaded with
  | error err => simp [ending]
  | ok settings =>
    simp only [Model.ofFiles]
    cases i.rulesFile.or settings.rulesFile with
    | none => simp [ending]
    | some path =>
      simp only [map_bind, bind_assoc]
      refine bind_congr fun rules => ?_
      cases rules with
      | error err => simp [ending]
      | ok rules =>
        simp only [map_bind, bind_assoc]
        refine bind_congr fun groups => ?_
        cases groups with
        | error err => simp [ending]
        | ok groups =>
          simp only [pure_bind, map_pure, ending]
          cases Model.load rules groups <;> rfl

/-! ## (2) Ceilings -/

end CommandLine

/-- An access is known by what it satisfies. -/
theorem Access.eq_iff_satisfies {a b : Access} : a = b ↔ ∀ required, a.satisfies required = b.satisfies required := by
  constructor
  · intro h required
    rw [h]
  · intro h
    have hab : b.satisfies a = true := (h a).symm.trans (satisfies_iff.mpr (Subset.refl a))
    have hba : a.satisfies b = true := (h b).trans (satisfies_iff.mpr (Subset.refl b))
    exact Subset.antisymm (satisfies_iff.mp hab) (satisfies_iff.mp hba)

namespace Model

variable {m : Model} {d : Draft} {ss : List Source.Section}

/-- The ceiling in a region is the ceiling anywhere iff no rule grants more. -/
theorem ceiling_eq_anywhere_iff (hm : m.IsOf d) (hd : d.IsOf ss) (who : Identity) (region : Option String) :
    (m.lookupRights who region).1.ceiling = (m.lookupRights who none).1.ceiling ↔
      ∀ r ∈ m.rules, ∀ a, r.accessFor who = some a → a ⊆ (m.lookupRights who region).1.ceiling := by
  rw [ceiling_lookupRights hm hd, ceiling_lookupRights hm hd]
  have hmem : ∀ a, a ∈ grantsIn none (m.grantsTo who) ↔ ∃ r ∈ m.rules, r.accessFor who = some a := by
    intro a
    rw [Buckets.mem_grantsIn]
    constructor
    · rintro ⟨scope, -, hgrant⟩
      obtain ⟨r, hr, -, ha⟩ := RightsTable.mem_grants_iff.mp hgrant
      exact ⟨r, hr, ha⟩
    · rintro ⟨r, hr, ha⟩
      exact ⟨r.scope, rfl, RightsTable.mem_grants_iff.mpr ⟨r, hr, rfl, ha⟩⟩
  constructor
  · intro h r hr a ha
    rw [h]
    exact Access.subset_unionAll ((hmem a).mpr ⟨r, hr, ha⟩)
  · intro h
    refine Access.Subset.antisymm (Access.unionAll_subset_iff.mpr fun a ha => ?_)
      (Access.unionAll_subset_iff.mpr fun a ha => ?_)
    · obtain ⟨scope, -, ha⟩ := Buckets.mem_grantsIn.mp ha
      exact Access.subset_unionAll (Buckets.mem_grantsIn.mpr ⟨scope, rfl, ha⟩)
    · obtain ⟨r, hr, ha⟩ := (hmem a).mp ha
      exact h r hr a ha

/-- No rule is for a repository without a name, so only the rules for any repository count there. -/
theorem ceiling_unnamed (hm : m.IsOf d) (hd : d.IsOf ss) (who : Identity) :
    (m.lookupRights who (some "")).1.ceiling =
      unionAll ((m.rules.filter (·.scope == .any)).filterMap (·.accessFor who)) := by
  rw [ceiling_lookupRights hm hd]
  refine Access.unionAll_congr fun a => ?_
  rw [Buckets.mem_grantsIn, List.mem_filterMap]
  constructor
  · rintro ⟨scope, hscope, hgrant⟩
    obtain ⟨r, hr, rfl, ha⟩ := RightsTable.mem_grants_iff.mp hgrant
    have hany : r.scope = .any := by
      rcases Bool.or_eq_true_iff.mp hscope with hany | hnamed
      · exact eq_of_beq hany
      · exact absurd rfl ((hm.wellFormed_rule hd hr).repo "" (eq_of_beq hnamed)).1
    exact ⟨r, List.mem_filter.mpr ⟨hr, beq_iff_eq.mpr hany⟩, ha⟩
  · rintro ⟨r, hr, ha⟩
    obtain ⟨hr, hany⟩ := List.mem_filter.mp hr
    exact ⟨r.scope, by simp [inRegion, eq_of_beq hany], RightsTable.mem_grants_iff.mpr ⟨r, hr, rfl, ha⟩⟩

end Model

/-! ## (3) What is told -/

namespace CommandLine

/-- How an access is told: printed, or by the status alone if a certain one is expected. -/
def told (access : Access) : Option Access → Outcome
  | none => .success (access.label ++ "\n")
  | some expected => ⟨if access = expected then 0 else 3, "", none⟩

variable {repo path user : Option String} {recursive : Bool} {expected : Option Access}

theorem answer_accessOf (model : Model) :
    answer model (.accessOf repo path user recursive expected) = told (accessOf model repo path user recursive) expected := by
  cases expected with
  | none => rfl
  | some expected =>
    simp only [answer, told, eq_comm (a := expected)]
    split
    · rfl
    · rfl

/-- With a name, or without the option, `accessof` asks for the ceiling that `checkAnywhere` judges by. -/
theorem accessOf_anywhere (model : Model) (hrepo : repo ≠ some "") :
    accessOf model repo none user recursive = (model.lookupRights (identityOf user) (Model.repoGiven (repo.getD ""))).1.ceiling := by
  cases repo with
  | none => rfl
  | some repo =>
    have hname : repo ≠ "" := fun he => hrepo (he ▸ rfl)
    rw [Option.getD_some, Model.repoGiven_of_ne hname]
    rfl

/-- How the access of a call stands to the answers of a model. -/
structure Agrees (model : Model) (repo path user : Option String) (recursive : Bool) (access : Access) : Prop where
  onPath : ∀ p, path = some p → ∀ required,
    access.satisfies required = model.check (repo.getD "") p (identityOf user) required recursive
  anywhere : path = none → repo ≠ some "" → ∀ required,
    access.satisfies required = model.checkAnywhere (repo.getD "") (identityOf user) required
  /-- An empty name leaves the rules for any repository. -/
  unnamed : path = none → repo = some "" →
    access = unionAll ((model.rules.filter (·.scope == .any)).filterMap (·.accessFor (identityOf user))) ∧
    ((∀ required, access.satisfies required = model.checkAnywhere "" (identityOf user) required) ↔
      ∀ r ∈ model.rules, ∀ a, r.accessFor (identityOf user) = some a → a ⊆ access)

theorem agrees_of_load {rules : String} {groups : Option String} {model : Model} (h : Model.load rules groups = .ok model) :
    Agrees model repo path user recursive (accessOf model repo path user recursive) := by
  obtain ⟨d, hd, hm⟩ := Model.isOf_load h
  refine ⟨?_, ?_, ?_⟩
  · rintro p rfl required
    rfl
  · rintro rfl hrepo required
    rw [accessOf_anywhere model hrepo]
    rfl
  · rintro rfl rfl
    refine ⟨Model.ceiling_unnamed hm hd (identityOf user), ?_⟩
    exact Access.eq_iff_satisfies.symm.trans (Model.ceiling_eq_anywhere_iff hm hd (identityOf user) (some ""))

/-- Every call of `accessof` can be written. However it is written, it tells one access if its texts load, and that access
    agrees with the answers of the model. -/
theorem accessOf_agrees {m : Type → Type} [Monad m] [LawfulMonad m] (w : World m) {i : Invocation}
    (h : i.command = .accessOf repo path user recursive expected) :
    ((i.settings = none → w.envValue? "REPO_AUTHZ_CONFIG" = none) →
      ∃ words, parse (w.envValue? "REPO_AUTHZ_CONFIG") words = .ok i) ∧
    (∀ words, parse (w.envValue? "REPO_AUTHZ_CONFIG") words = .ok i →
      run w words = ending (fun model => told (accessOf model repo path user recursive) expected) <$> texts w i) ∧
    ∀ rules groups model, Model.load rules groups = .ok model →
      Agrees model repo path user recursive (accessOf model repo path user recursive) := by
  refine ⟨fun hsettings => ⟨_, parse_accessOfWords h hsettings⟩, fun words hwords => ?_, fun _ _ _ hload => agrees_of_load hload⟩
  simp only [run, hwords, invoke_eq, h, answer_accessOf]

/-- A world with one file of ASCII characters, and with nothing in its environment. -/
def worldOf (path text : String) : World Id where
  home := "~"
  environment := []
  read p := if p = path then .ok (text.toList.map fun c => c.toNat.toUInt8) else .error .missing

/-- An empty name, where all rules are for any repository. -/
theorem accessOf_agrees_empty_name :
    let w := worldOf "rules" "[/]\nu = r\n"
    let i : Invocation := ⟨none, some "rules", none, .accessOf (some "") none (some "u") false none⟩
    ∃ words model, parse none words = .ok i ∧ Model.load "[/]\nu = r\n" none = .ok model ∧
      Id.run (run w words) = .success "r\n" ∧ Agrees model (some "") none (some "u") false .reading := by
  intro w i
  obtain ⟨hwritten, hrun, hagrees⟩ := accessOf_agrees w (i := i) rfl
  obtain ⟨words, hwords⟩ := hwritten fun _ => rfl
  have hload : (Model.load "[/]\nu = r\n" none).toOption.any
      (fun model => decide (accessOf model (some "") none (some "u") false = .reading)) = true := by decide +kernel
  obtain ⟨model, hmodel, haccess⟩ := exists_ok_of_any hload
  have haccess := of_decide_eq_true haccess
  have htexts : Id.run (texts w i) = .ok ("[/]\nu = r\n", none) := by decide +kernel
  refine ⟨words, model, hwords, hmodel, ?_, haccess ▸ hagrees _ _ model hmodel⟩
  rw [hrun words hwords, Id.run_map, htexts]
  simp only [ending, hmodel, haccess]
  rfl

/-- A user who reads one repository reads something, but not under the empty name. -/
theorem an_empty_name_hides_every_repository :
    ∃ model, Model.load "[a:/]\nu = r\n" none = .ok model ∧
      Id.run (run (worldOf "rules" "[a:/]\nu = r\n") ["accessof", "rules", "--repository", "", "--username", "u"]) =
        .success "no\n" ∧
      model.checkAnywhere "" (.user "u") .reading = true := by
  have hload : (Model.load "[a:/]\nu = r\n" none).toOption.any
      (fun model => decide (model.checkAnywhere "" (.user "u") .reading = true)) = true := by decide +kernel
  obtain ⟨model, hmodel, hread⟩ := exists_ok_of_any hload
  exact ⟨model, hmodel, by decide +kernel, of_decide_eq_true hread⟩

end CommandLine

end PathAuthz
