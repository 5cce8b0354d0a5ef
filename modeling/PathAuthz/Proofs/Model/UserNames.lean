/-
  PathAuthz.Proofs.Model.UserNames — which names are left when all references have been followed.

  (1) A user name is not empty and starts neither with `@` nor with `&`. Whom a group or a rule
  names itself has such a name (`isUserName_of_mentions`): a token of a group definition is a
  reference if it starts like one, and the option of a rule is checked. The target of an alias is
  neither taken apart nor checked.

  (2) A model names the members of its teams and the users of its entries. These are the users for
  whom something that is written in the texts stands (`namesUser_iff`). So a name that is no user
  name is in a model iff it is the target of an alias in use (`namesUser_leftover_iff`), and there is
  such a model (`an_alias_leaves_a_reference`).
-/

import PathAuthz.Proofs.Model.Named
import PathAuthz.Proofs.Model.Revision

namespace PathAuthz

open Source

/-! ## (1) User names -/

/-- Whether a name is there and does not read as a reference. -/
def isUserName (name : String) : Bool :=
  match name.toList with
  | [] => false
  | c :: _ => c != '@' && c != '&'

theorem isUserName_of_isPlainName {name : List Char} (h : isPlainName name = true) :
    isUserName (String.ofList name) = true := by
  rw [isUserName, String.toList_ofList]
  cases name with
  | nil => cases h
  | cons c cs =>
    simp only [isPlainName, isReserved, Bool.not_eq_true', Bool.or_eq_false_iff, beq_eq_false_iff_ne] at h
    obtain ⟨⟨⟨⟨hat, -⟩, hand⟩, -⟩, -⟩ := h
    simp [hat, hand]

theorem isUserName_of_ofName? {inverted sign : Bool} {name : List Char} {user : String}
    (h : Grantee.ofName? inverted name = some (.subject (.user user) sign)) : isUserName user = true := by
  unfold Grantee.ofName? at h
  split at h
  · cases h
  · repeat' split at h
    all_goals cases h
  · split at h <;> cases h
  · split at h <;> cases h
  · split at h
    · rename_i hplain
      cases h
      exact isUserName_of_isPlainName hplain
    · cases h

theorem isUserName_of_ofOption? {option : String} {sign : Bool} {user : String}
    (h : Grantee.ofOption? option = some (.subject (.user user) sign)) : isUserName user = true := by
  unfold Grantee.ofOption? at h
  split at h
  · cases h
  · exact isUserName_of_ofName? h
  · exact isUserName_of_ofName? h

theorem isUserName_of_mem_membersOf {value user : String} (h : .user user ∈ Subject.membersOf value) :
    isUserName user = true := by
  obtain ⟨token, htoken, h⟩ := List.mem_map.mp h
  have hne : token ≠ [] := of_decide_eq_true (List.mem_filter.mp htoken).2
  unfold Subject.ofMember at h
  split at h
  · cases h
  · cases h
  · rename_i hat hand
    cases h
    rw [isUserName, String.toList_ofList]
    cases token with
    | nil => exact absurd rfl hne
    | cons c cs =>
      have hc : c ≠ '@' ∧ c ≠ '&' := ⟨fun he => hat cs (he ▸ rfl), fun he => hand cs (he ▸ rfl)⟩
      simp [hc.1, hc.2]

/-- Whoever is mentioned as a user has the name of one. -/
theorem Draft.IsOf.isUserName_of_mentions {d : Draft} {ss : List Section} (hd : d.IsOf ss) {referrer : Referrer}
    {user : String} (h : d.Mentions referrer (.user user)) : isUserName user = true := by
  cases referrer with
  | group name =>
    obtain ⟨g, hg, -, hmember⟩ := h
    rw [hd.groups, mem_groupsOf] at hg
    obtain ⟨s, -, -, o, -, rfl⟩ := hg
    exact isUserName_of_mem_membersOf hmember
  | rule heading =>
    obtain ⟨s, -, -, -, o, -, sign, hname⟩ := hd.mentions_rule_iff.mp h
    exact isUserName_of_ofOption? hname

/-! ## (2) The names in a model -/

namespace Model

/-- Whether a name stands for a user in a model: as a member of a team, or as that of an entry. -/
def NamesUser (m : Model) (name : String) : Prop :=
  (∃ t ∈ m.roster.teams, name ∈ t.members) ∨ ∃ r ∈ m.rules, ∃ e ∈ r.entries, e.isGroup = false ∧ e.name = name

variable {m : Model} {d : Draft} {ss : List Section} {name : String}

theorem IsOf.mem_team_iff (hm : m.IsOf d) (hd : d.IsOf ss) :
    (∃ t ∈ m.roster.teams, name ∈ t.members) ↔ ∃ group s, d.Mentions (.group group) s ∧ d.StandsFor s name := by
  have hfaithful := Roster.ofDraft_faithful d
  rw [hm.roster] at hfaithful
  obtain ⟨hexact, hall⟩ := hfaithful
  constructor
  · rintro ⟨t, ht, hname⟩
    exact Draft.mentions_of_reaches ((hexact.mem_iff t ht name).mp hname)
  · rintro ⟨group, s, ⟨g, hg, -, hs⟩, hname⟩
    obtain ⟨t, ht, htname⟩ := hall g hg
    refine ⟨t, ht, (hexact.mem_iff t ht name).mpr ?_⟩
    rw [htname]
    exact (Draft.reaches_iff (Draft.group?_eq_some_of_mem hd.groupNames hg)).mpr ⟨s, hs, Draft.brings_of_standsFor hname⟩

theorem IsOf.mem_entry_iff (hm : m.IsOf d) :
    (∃ r ∈ m.rules, ∃ e ∈ r.entries, e.isGroup = false ∧ e.name = name) ↔
      ∃ heading s, d.Mentions (.rule heading) s ∧ d.StandsFor s name := by
  have hnames : ∀ {w r}, Rule.ofWritten d m.roster w = .ok r →
      ((∃ e ∈ r.entries, e.isGroup = false ∧ e.name = name) ↔ ∃ e ∈ w.entries, d.StandsFor e.subject name) := by
    intro w r hwr
    rw [← (Rule.resolves_of_ofWritten hwr).mem_names_iff]
    simp [and_assoc]
  constructor
  · rintro ⟨r, hr, he⟩
    obtain ⟨i, hi⟩ := List.mem_iff_getElem?.mp hr
    obtain ⟨w, hw, hwr⟩ := hm.written_of_rule hi
    obtain ⟨e, he, hname⟩ := (hnames hwr).mp he
    exact ⟨w.heading, e.subject, ⟨w, List.mem_of_getElem? hw, rfl, e, he, rfl⟩, hname⟩
  · rintro ⟨heading, s, ⟨w, hw, -, e, he, rfl⟩, hname⟩
    obtain ⟨i, hi⟩ := List.mem_iff_getElem?.mp hw
    obtain ⟨r, hr, hwr⟩ := hm.rule_of_written hi
    exact ⟨r, List.mem_of_getElem? hr, (hnames hwr).mpr ⟨e, he, hname⟩⟩

theorem IsOf.namesUser_iff (hm : m.IsOf d) (hd : d.IsOf ss) :
    m.NamesUser name ↔ ∃ referrer s, d.Mentions referrer s ∧ d.StandsFor s name := by
  rw [NamesUser, hm.mem_team_iff hd, hm.mem_entry_iff]
  constructor
  · rintro (⟨group, s, h⟩ | ⟨heading, s, h⟩)
    · exact ⟨.group group, s, h⟩
    · exact ⟨.rule heading, s, h⟩
  · rintro ⟨group | heading, s, h⟩
    · exact Or.inl ⟨group, s, h⟩
    · exact Or.inr ⟨heading, s, h⟩

/-- A name that is no user name is in a model iff it is the target of an alias that a group or a rule uses. -/
theorem namesUser_leftover_iff {rules : String} {groups : Option String} (h : load rules groups = .ok m) :
    ∃ d, Draft.ofTexts rules groups = .ok d ∧ ∀ name, isUserName name = false →
      (m.NamesUser name ↔ ∃ a ∈ d.aliases, a.user = name ∧ ∃ referrer, d.Mentions referrer (.viaAlias a.name)) := by
  obtain ⟨d, hdraft, hd, hm, -, -⟩ := resolvable_of_load h
  refine ⟨d, hdraft, fun name hno => ?_⟩
  rw [hm.namesUser_iff hd]
  constructor
  · rintro ⟨referrer, s, hs, hname⟩
    cases s with
    | user user =>
      cases hname
      rw [hd.isUserName_of_mentions hs] at hno
      cases hno
    | viaAlias written =>
      obtain ⟨a, ha, rfl⟩ := hname
      obtain ⟨hmem, rfl⟩ := Draft.alias?_eq_some ha
      exact ⟨a, hmem, rfl, referrer, hs⟩
    | group group => cases hname
  · rintro ⟨a, ha, rfl, referrer, hs⟩
    exact ⟨referrer, .viaAlias a.name, hs, a, Draft.alias?_eq_some_of_mem hd.aliasNames ha, rfl⟩

/-- Aliases that stand for users leave no reference, be it in a group or behind `~`. -/
theorem sound_aliases_leave_no_reference :
    ∃ m, load "[groups]\nteam = &boss, bob\n[/]\n~&boss = rw\n@team = r\n[aliases]\nboss = al\n" none = .ok m ∧
      ∀ name, m.NamesUser name → isUserName name = true := by
  have hload : (load "[groups]\nteam = &boss, bob\n[/]\n~&boss = rw\n@team = r\n[aliases]\nboss = al\n"
      none).toOption.any (fun _ => true) = true := by decide +kernel
  obtain ⟨m, hm, -⟩ := exists_ok_of_any hload
  obtain ⟨d, hdraft, hiff⟩ := namesUser_leftover_iff hm
  have haliases : d.aliases = [⟨"boss", "al"⟩] := by
    rw [(Draft.isOf_ofTexts hdraft).aliases]
    decide +kernel
  refine ⟨m, hm, fun name hname => ?_⟩
  by_contra hno
  obtain ⟨a, ha, rfl, -⟩ := (hiff name (by simpa using hno)).mp hname
  rw [haliases, List.mem_singleton] at ha
  rw [ha] at hno
  exact hno (by decide)

/-- A target that is written as a group is taken for a user of that name, and nobody has it: `~&boss` is everyone. -/
theorem an_alias_leaves_a_reference :
    ∃ m, load "[aliases]\nboss = @team\n[/]\n~&boss = rw\n" none = .ok m ∧
      ¬∀ name, m.NamesUser name → isUserName name = true := by
  have hload : (load "[aliases]\nboss = @team\n[/]\n~&boss = rw\n" none).toOption.any (fun m =>
      m.rules.any fun r => r.entries.any fun e => !e.isGroup && e.name == "@team") = true := by decide +kernel
  obtain ⟨m, hm, hleft⟩ := exists_ok_of_any hload
  refine ⟨m, hm, fun hall => ?_⟩
  have hnames : m.NamesUser "@team" := by
    simp only [List.any_eq_true, Bool.and_eq_true, Bool.not_eq_true', beq_iff_eq] at hleft
    exact Or.inr hleft
  have huser : isUserName "@team" = true := hall "@team" hnames
  revert huser
  decide

end Model

end PathAuthz
