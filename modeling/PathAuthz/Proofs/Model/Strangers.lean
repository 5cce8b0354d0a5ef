/-
  PathAuthz.Proofs.Model.Strangers — users whom nothing names.

  (1) A stranger is no target of an alias, no member of a group, and no user of an entry
  (`IsStranger`). Strangers are the users without buckets of their own (`isStranger_iff`): among
  the members of the groups are all users whom a definition names, so it does not matter that
  those users are collected from the definitions.

  (2) `TreatsAlike` says that no question about a user has another answer for some other user.
  Every such question looks at users through what the rules grant them, through their rights and
  through the groups they are in (`treatsAlike_of_accessFor`).

  (3) What a rule grants the unnamed is what it grants each stranger, so the one bucket for the
  unnamed sums up the very grants that decide on a path, and strangers are treated alike
  (`strangers_share_a_bucket`).
-/

import PathAuthz.Proofs.Model.Lookup
import PathAuthz.Proofs.Model.UserNames

namespace PathAuthz.Model

open Source

/-! ## (1) Strangers -/

structure IsStranger (m : Model) (aliases : List AliasDefinition) (user : String) : Prop where
  noTarget : ∀ a ∈ aliases, a.user ≠ user
  noMember : ∀ t ∈ m.roster.teams, user ∉ t.members
  noEntry : ∀ r ∈ m.rules, ∀ e ∈ r.entries, e.isGroup = false → e.name ≠ user

instance (m : Model) (aliases : List AliasDefinition) (user : String) : Decidable (m.IsStranger aliases user) :=
  decidable_of_iff
    ((∀ a ∈ aliases, a.user ≠ user) ∧ (∀ t ∈ m.roster.teams, user ∉ t.members) ∧
      ∀ r ∈ m.rules, ∀ e ∈ r.entries, e.isGroup = false → e.name ≠ user)
    ⟨fun h => ⟨h.1, h.2.1, h.2.2⟩, fun h => ⟨h.noTarget, h.noMember, h.noEntry⟩⟩

variable {m : Model} {d : Draft} {ss : List Section} {user : String}

/-- Whom a definition names is a member of its group. -/
theorem IsOf.exists_team_of_mem_users (hm : m.IsOf d) (hd : d.IsOf ss) (h : user ∈ d.groups.flatMap (·.users)) :
    ∃ t ∈ m.roster.teams, user ∈ t.members := by
  rw [hd.groups, mem_users_groupsOf] at h
  obtain ⟨s, hs, hheading, o, ho, huser⟩ := h
  have hgroup : ⟨o.1, Subject.membersOf o.2⟩ ∈ d.groups := by
    rw [hd.groups, mem_groupsOf]
    exact ⟨s, hs, hheading, o, ho, rfl⟩
  exact (hm.mem_team_iff hd).mpr ⟨o.1, .user user, ⟨_, hgroup, rfl, huser⟩, rfl⟩

theorem IsOf.isStranger_iff (hm : m.IsOf d) (hd : d.IsOf ss) :
    m.IsStranger (aliasesOf ss) user ↔ user ∉ usersOf d m.rules := by
  rw [← hd.aliases]
  constructor
  · intro h huser
    rcases List.mem_append.mp huser with huser | hentry
    · rcases List.mem_append.mp huser with htarget | hgroup
      · obtain ⟨a, ha, hname⟩ := List.mem_map.mp htarget
        exact h.noTarget a ha hname
      · obtain ⟨t, ht, hmember⟩ := hm.exists_team_of_mem_users hd hgroup
        exact h.noMember t ht hmember
    · obtain ⟨r, hr, hentry⟩ := List.mem_flatMap.mp hentry
      obtain ⟨e, he, hname⟩ := List.mem_map.mp hentry
      obtain ⟨he, hno⟩ := List.mem_filter.mp he
      exact h.noEntry r hr e he (by simpa using hno) hname
  · intro h
    refine ⟨?_, ?_, ?_⟩
    · intro a ha hname
      exact h (List.mem_append_left _ (List.mem_append_left _ (List.mem_map.mpr ⟨a, ha, hname⟩)))
    · intro t ht hmember
      have hfaithful := Roster.ofDraft_faithful d
      rw [hm.roster] at hfaithful
      have hreaches : d.Reaches t.name user := (hfaithful.1.mem_iff t ht user).mp hmember
      exact h (List.mem_append_left _ (Roster.named_of_reaches hreaches))
    · intro r hr e he hno hname
      have hentry : user ∈ (r.entries.filter (!·.isGroup)).map (·.name) :=
        List.mem_map.mpr ⟨e, List.mem_filter.mpr ⟨he, by simp [hno]⟩, hname⟩
      exact h (List.mem_append_right _ (List.mem_flatMap.mpr ⟨r, hr, hentry⟩))

/-! ## (2) Users treated alike -/

structure TreatsAlike (m : Model) (u v : String) : Prop where
  effectiveAccess : ∀ repo path recursive,
    m.effectiveAccess repo path (.user u) recursive = m.effectiveAccess repo path (.user v) recursive
  check : ∀ repo path required recursive,
    m.check repo path (.user u) required recursive = m.check repo path (.user v) required recursive
  checkAnywhere : ∀ repo required, m.checkAnywhere repo (.user u) required = m.checkAnywhere repo (.user v) required
  lookupRights : ∀ region, m.lookupRights (.user u) region = m.lookupRights (.user v) region
  isMember : ∀ group, m.roster.isMember group u = m.roster.isMember group v

section

variable {u v : String} (hgrants : ∀ r ∈ m.rules, r.accessFor (.user u) = r.accessFor (.user v))

include hgrants

theorem deciding_of_accessFor (repo : String) (components : List String) :
    m.deciding repo (.user u) components = m.deciding repo (.user v) components := by
  have hcandidates : m.candidates repo (.user u) components = m.candidates repo (.user v) components := by
    refine List.filterMap_congr fun r hr => ?_
    rw [hgrants r hr]
  rw [deciding, hcandidates, deciding]

theorem pathAccess_of_accessFor (repo path : String) :
    m.pathAccess repo path (.user u) = m.pathAccess repo path (.user v) := by
  refine accessUpTo_of_deciding rfl (fun components => ?_) _ _
  rw [deciding_of_accessFor hgrants]
  rcases m.deciding repo (.user v) components with _ | c
  · exact .none
  · exact .some rfl

theorem treatsAlike_of_accessFor
    (hlookup : ∀ region, m.lookupRights (.user u) region = m.lookupRights (.user v) region)
    (hmember : ∀ group, m.roster.isMember group u = m.roster.isMember group v) : m.TreatsAlike u v := by
  have haccess : ∀ repo path recursive,
      m.effectiveAccess repo path (.user u) recursive = m.effectiveAccess repo path (.user v) recursive := by
    intro repo path recursive
    rw [effectiveAccess, effectiveAccess, pathAccess_of_accessFor hgrants, hlookup]
  refine ⟨haccess, ?_, ?_, hlookup, hmember⟩
  · intro repo path required recursive
    rw [check, check, haccess]
  · intro repo required
    rw [checkAnywhere, checkAnywhere, hlookup]

end

/-! ## (3) Strangers are treated alike -/

theorem IsStranger.isMember_eq_false {aliases : List AliasDefinition} (h : m.IsStranger aliases user) (group : String) :
    m.roster.isMember group user = false := by
  unfold Roster.isMember
  split
  · rename_i members hmembers
    simpa using h.noMember _ (Roster.members?_eq_some hmembers)
  · rfl

/-- No section names a stranger, so the look-up takes the bucket for the unnamed. -/
theorem IsOf.lookupRights_of_stranger (hm : m.IsOf d) (hd : d.IsOf ss) (h : m.IsStranger (aliasesOf ss) user)
    (region : Option String) :
    m.lookupRights (.user user) region = m.rights.unnamed.rights region ∧
      m.rights.unnamed = .ofGrants (m.grantsTo (.user user)) := by
  have hnames : ss.any (·.names user) = false := by
    rw [← Bool.not_eq_true, List.any_eq_true, ← hm.mem_usersOf_iff hd]
    exact (hm.isStranger_iff hd).mp h
  refine ⟨?_, hm.unnamed_eq hd hnames⟩
  simp only [lookupRights, RightsTable.lookup, hm.lookup_users hd, hnames, Bool.false_eq_true, if_false]

/-- Every rule grants the unnamed what it grants a stranger, and that is what the rights of a
    stranger sum up; strangers cannot be told apart. -/
theorem strangers_share_a_bucket {rules : String} {groups : Option String} (hload : load rules groups = .ok m)
    (hu : m.IsStranger (aliasesOf (sectionsOfTexts rules groups)) user) :
    (∀ r ∈ m.rules, r.unnamedAccess = r.accessFor (.user user)) ∧
    (∀ region, m.lookupRights (.user user) region = (Buckets.ofGrants (m.grantsTo (.user user))).rights region) ∧
    ∀ other, m.IsStranger (aliasesOf (sectionsOfTexts rules groups)) other → m.TreatsAlike user other := by
  obtain ⟨d, hd, hm⟩ := isOf_load hload
  have hunnamed : ∀ {u}, m.IsStranger (aliasesOf (sectionsOfTexts rules groups)) u →
      ∀ r ∈ m.rules, r.unnamedAccess = r.accessFor (.user u) :=
    fun h r hr => hm.unnamedAccess_of_not_mem ((hm.isStranger_iff hd).mp h) hr
  refine ⟨hunnamed hu, ?_, ?_⟩
  · intro region
    obtain ⟨hlookup, hbucket⟩ := hm.lookupRights_of_stranger hd hu region
    rw [hlookup, hbucket]
  · intro other hother
    apply treatsAlike_of_accessFor
    · intro r hr
      rw [← hunnamed hu r hr, hunnamed hother r hr]
    · intro region
      rw [(hm.lookupRights_of_stranger hd hu region).1, (hm.lookupRights_of_stranger hd hother region).1]
    · intro group
      rw [hu.isMember_eq_false, hother.isMember_eq_false]

/-- The name of an alias and the empty name are strangers, and inversion reaches both of them. -/
theorem strangers_share_a_bucket_inverted :
    ∃ m, load "[aliases]\nboss = al\n[groups]\nteam = bo, &boss\n[a:/]\n* = r\n~@team = w\nal = rw\n[/]\n~bo = r\n" none = .ok m ∧
      m.IsStranger [⟨"boss", "al"⟩] "boss" ∧ m.IsStranger [⟨"boss", "al"⟩] "" ∧
      m.lookupRights (.user "boss") (some "a") = (⟨.reading, .all⟩, true) ∧ m.TreatsAlike "boss" "" := by
  have hload : (load "[aliases]\nboss = al\n[groups]\nteam = bo, &boss\n[a:/]\n* = r\n~@team = w\nal = rw\n[/]\n~bo = r\n"
      none).toOption.any (fun m =>
        decide (m.IsStranger [⟨"boss", "al"⟩] "boss") && decide (m.IsStranger [⟨"boss", "al"⟩] "") &&
          decide ((Buckets.ofGrants (m.grantsTo (.user "boss"))).rights (some "a") = (⟨.reading, .all⟩, true))) = true := by
    decide +kernel
  obtain ⟨m, hm, hfacts⟩ := exists_ok_of_any hload
  simp only [Bool.and_eq_true, decide_eq_true_eq] at hfacts
  obtain ⟨⟨hboss, hempty⟩, hrights⟩ := hfacts
  have haliases : aliasesOf (sectionsOfTexts
      "[aliases]\nboss = al\n[groups]\nteam = bo, &boss\n[a:/]\n* = r\n~@team = w\nal = rw\n[/]\n~bo = r\n" none) =
      [⟨"boss", "al"⟩] := by decide +kernel
  rw [← haliases] at hboss hempty
  obtain ⟨-, hlookup, halike⟩ := strangers_share_a_bucket hm hboss
  rw [haliases] at hboss hempty halike
  exact ⟨m, hm, hboss, hempty, (hlookup (some "a")).trans hrights, halike "" hempty⟩

end PathAuthz.Model
