/-
  PathAuthz.Proofs.Roster.Members — where the members of a group come from.

  (1) Every member in the roster of a draft is reached from its group (`reaches_of_ofDraft`).

  (2) So every member is named by the draft, as an alias target or in a definition
  (`named_of_reaches`).

  (3) The roster depends on the groups and the aliases of a draft alone (`ofDraft_congr`).
-/

import PathAuthz.Proofs.Roster.Expansion

namespace PathAuthz

namespace Roster

variable {d : Draft}

/-! ## (1) Members are reached -/

theorem reaches_of_ofDraft {r : Roster} (h : ofDraft d = .ok r) {group : String} {members : List String}
    (hm : r.members? group = some members) {u : String} (hu : u ∈ members) : d.Reaches group u := by
  have hexact := ofDraft_faithful d
  rw [h] at hexact
  exact (hexact.1.mem_iff _ (members?_eq_some hm) u).mp hu

/-! ## (2) Members are named -/

theorem named_of_reaches {group u : String} (h : d.Reaches group u) :
    u ∈ d.aliases.map (·.user) ++ d.groups.flatMap (·.users) := by
  obtain ⟨inner, s, ⟨g, hg, -, hs⟩, hu⟩ := Draft.mentions_of_reaches h
  cases s with
  | user name =>
    cases hu
    exact List.mem_append_right _ (List.mem_flatMap.mpr ⟨g, hg, List.mem_filterMap.mpr ⟨_, hs, rfl⟩⟩)
  | viaAlias name =>
    obtain ⟨a, ha, rfl⟩ := hu
    exact List.mem_append_left _ (List.mem_map_of_mem (List.mem_of_find?_eq_some ha))
  | group name => cases hu

/-! ## (3) What the roster depends on -/

variable {d' : Draft}

theorem expand_congr (hg : d.groups = d'.groups) (ha : d.aliases = d'.aliases) (fuel : Nat) (trail : List String)
    (referrer : Referrer) : expand d fuel trail referrer = expand d' fuel trail referrer := by
  induction fuel generalizing trail referrer with
  | zero =>
    funext done group
    simp only [expand, Draft.group?, hg]
  | succ fuel ih =>
    funext done group
    have hnested := ih (group :: trail) (.group group)
    simp only [expand, Draft.group?, hg, collect_congr ha group fun done inner _ => congrFun (congrFun hnested done) inner]

theorem ofDraft_congr (hg : d.groups = d'.groups) (ha : d.aliases = d'.aliases) : ofDraft d = ofDraft d' := by
  have hall : ∀ gs done, expandAll d done gs = expandAll d' done gs := by
    intro gs
    induction gs with
    | nil => intro done; rfl
    | cons g gs ih =>
      intro done
      simp only [expandAll, hg, expand_congr hg ha, ih]
  rw [ofDraft, ofDraft, hall, hg]

end Roster

end PathAuthz
