/-
  PathAuthz.Proofs.Model.WellFormed — what every loaded model keeps to.

  (1) Entries are told apart by a key: the subject and the sign as written, the name and the sign
  once references are followed. Uniting an entry with others adds its key unless it is there
  (`map_key_uniteEntry`, of written and of resolved entries), so a run of grants keeps the keys
  different (`nodup_keys_grantAll`), and so does putting users in the place of aliases
  (`nodup_keys_foldl_uniteEntry`). Group entries are not united again: no two of them share a key
  because no two written entries do (`nodup_keys_groupEntries`).

  (2) `Rule.WellFormed` and `Model.WellFormed` say what holds of a rule and of a model: the rule is
  where its heading says, its users come first, and its groups have the members they have in the
  roster. Every model that is loaded is well formed (`wellFormed_of_load`).
-/

import PathAuthz.Proofs.Header.Plain
import PathAuthz.Proofs.Model.Named
import PathAuthz.Proofs.Model.Revision

namespace PathAuthz

open Source

/-! ## (1) Keys of entries -/

def WrittenEntry.key (e : WrittenEntry) : Subject × Bool := (e.subject, e.inverted)

def Entry.key (e : Entry) : String × Bool := (e.name, e.inverted)

/-- Put a key behind the others unless it is there already. -/
def addKey {κ : Type} [DecidableEq κ] (k : κ) (ks : List κ) : List κ := if k ∈ ks then ks else ks ++ [k]

section

variable {κ : Type} [DecidableEq κ] {k : κ} {ks : List κ}

theorem nodup_addKey (h : ks.Nodup) : (addKey k ks).Nodup := by
  unfold addKey
  split
  · exact h
  · rename_i hnew
    rw [← List.concat_eq_append]
    exact h.concat hnew

theorem addKey_cons (l : κ) : addKey k (l :: ks) = if l = k then l :: ks else l :: addKey k ks := by
  split
  · rename_i h
    rw [addKey, h, if_pos List.mem_cons_self]
  · rename_i h
    simp only [addKey, List.mem_cons, Ne.symm h, false_or]
    split <;> rfl

end

namespace WrittenRule

theorem map_key_uniteEntry (e : WrittenEntry) (es : List WrittenEntry) :
    (uniteEntry e es).map (·.key) = addKey e.key (es.map (·.key)) := by
  induction es with
  | nil => rfl
  | cons f fs ih =>
    have hkey : f.key = e.key ↔ f.subject = e.subject ∧ f.inverted = e.inverted := Prod.ext_iff
    rw [uniteEntry, List.map_cons, addKey_cons, ← ih]
    simp only [hkey]
    split <;> rfl

theorem nodup_keys_grant {w : WrittenRule} (h : (w.entries.map (·.key)).Nodup) (g : Grantee) (a : Access) :
    ((w.grant g a).entries.map (·.key)).Nodup := by
  cases g with
  | everyone => exact h
  | anonymous => exact h
  | authenticated => exact h
  | subject s inverted =>
    simp only [grant, map_key_uniteEntry]
    exact nodup_addKey h

theorem nodup_keys_grantAll {w : WrittenRule} (h : (w.entries.map (·.key)).Nodup) (gs : List (Grantee × Access)) :
    ((w.grantAll gs).entries.map (·.key)).Nodup := by
  induction gs generalizing w with
  | nil => exact h
  | cons g gs ih => exact ih (nodup_keys_grant h g.1 g.2)

theorem nodup_keys_ofSection? {seq : Nat} {s : Section} {w : WrittenRule} (h : ofSection? seq s = some w) :
    (w.entries.map (·.key)).Nodup := by
  obtain ⟨w₀, gs, hw₀, -, rfl⟩ := ofSection?_eq_some h
  obtain ⟨header, -, -, hw⟩ := ofHeading?_eq_some hw₀
  refine nodup_keys_grantAll ?_ gs
  rw [hw]
  exact List.nodup_nil

end WrittenRule

namespace Rule

theorem map_key_uniteEntry (e : Entry) (es : List Entry) :
    (uniteEntry e es).map (·.key) = addKey e.key (es.map (·.key)) := by
  induction es with
  | nil => rfl
  | cons f fs ih =>
    have hkey : f.key = e.key ↔ f.name = e.name ∧ f.inverted = e.inverted := Prod.ext_iff
    rw [uniteEntry, List.map_cons, addKey_cons, ← ih]
    simp only [hkey]
    split <;> rfl

theorem nodup_keys_foldl_uniteEntry (us : List Entry) {es : List Entry} (h : (es.map (·.key)).Nodup) :
    ((us.foldl (fun es e => uniteEntry e es) es).map (·.key)).Nodup := by
  induction us generalizing es with
  | nil => exact h
  | cons u us ih =>
    refine ih ?_
    rw [map_key_uniteEntry]
    exact nodup_addKey h

/-- The key under which a group entry is known, from the one it was written under. -/
def groupKey? : Subject × Bool → Option (String × Bool)
  | (.group name, inverted) => some (name, inverted)
  | _ => none

theorem groupKey?_eq_some_iff {k : Subject × Bool} {l : String × Bool} :
    groupKey? k = some l ↔ k = (.group l.1, l.2) := by
  unfold groupKey?
  split
  · rw [Option.some_inj, Prod.ext_iff, Prod.ext_iff, Subject.group.injEq]
  · rename_i hno
    simp only [reduceCtorEq, false_iff]
    exact fun h => hno _ _ h

variable {d : Draft} {roster : Roster} {heading : String}

theorem map_key_groupEntries {es : List WrittenEntry} {gs : List Entry} (h : groupEntries roster heading es = .ok gs) :
    gs.map (·.key) = (es.map (·.key)).filterMap groupKey? := by
  induction es generalizing gs with
  | nil => cases h; rfl
  | cons e es ih =>
    obtain ⟨subject, inverted, access⟩ := e
    cases subject with
    | group name =>
      simp only [groupEntries] at h
      split at h
      · cases h
      · obtain ⟨gs', hgs, rfl⟩ := map_eq_ok_iff.mp h
        rw [List.map_cons, ih hgs]
        rfl
    | user name => exact ih h
    | viaAlias name => exact ih h

theorem nodup_keys_groupEntries {es : List WrittenEntry} {gs : List Entry} (hes : (es.map (·.key)).Nodup)
    (h : groupEntries roster heading es = .ok gs) : (gs.map (·.key)).Nodup := by
  rw [map_key_groupEntries h]
  refine hes.filterMap fun k k' l hk hk' => ?_
  rw [groupKey?_eq_some_iff.mp hk, groupKey?_eq_some_iff.mp hk']

end Rule

/-! ## (2) Well-formed models -/

structure Rule.WellFormed (roster : Roster) (r : Rule) : Prop where
  /-- The heading says where the rule stands. -/
  header : ∃ header, RuleHeader.read r.heading = .ok header ∧ r.scope = header.scope ∧
    PathPattern.compile r.heading header.glob header.path = .ok r.pattern
  repo : ∀ repo, r.scope = .named repo → repo ≠ "" ∧ '/' ∉ repo.toList
  users : ((r.entries.filter (!·.isGroup)).map (·.key)).Nodup
  groups : ((r.entries.filter (·.isGroup)).map (·.key)).Nodup
  usersFirst : r.entries = r.entries.filter (!·.isGroup) ++ r.entries.filter (·.isGroup)
  /-- A group is bound to its members in the roster. -/
  bound : ∀ e ∈ r.entries, ∀ members, e.members = some members → roster.members? e.name = some members

/-- A well-formed model of a rules text. -/
structure Model.WellFormed (rules : String) (m : Model) : Prop where
  numbered : m.rules.map (·.seq) = List.range m.rules.length
  headings : m.rules.map (·.heading) = ((sections rules).filter Section.isRule).map (·.heading)
  distinct : (m.rules.map (·.heading)).Nodup
  /-- A group has one team, so there is one list of members to be bound to. -/
  teams : (m.roster.teams.map (·.name)).Nodup
  rules : ∀ r ∈ m.rules, r.WellFormed m.roster

namespace Model

variable {m : Model} {d : Draft} {ss : List Section}

theorem IsOf.wellFormed_rule (hm : m.IsOf d) (hd : d.IsOf ss) {r : Rule} (hr : r ∈ m.rules) : r.WellFormed m.roster := by
  obtain ⟨i, hi⟩ := List.mem_iff_getElem?.mp hr
  obtain ⟨s, w, -, hsw, hwr⟩ := hm.section_of_rule hd hi
  have hresolves := Rule.resolves_of_ofWritten hwr
  have hheading : r.heading = s.heading := hresolves.heading.trans (WrittenRule.seq_ofSection? hsw).2
  obtain ⟨header, hread, hscope, hpattern⟩ := Rule.header_of_section hsw hwr
  obtain ⟨us, gs, -, hgs, husers, hgroups, hfirst⟩ := hresolves.filter_entries
  refine ⟨⟨header, by rw [hheading]; exact hread, hscope, by rw [hheading]; exact hpattern⟩, ?_, ?_, ?_, hfirst, ?_⟩
  · intro repo hrepo
    rw [hscope, RuleHeader.scope_eq_named_iff] at hrepo
    exact RuleHeader.repo_of_read hread hrepo
  · rw [husers]
    exact Rule.nodup_keys_foldl_uniteEntry us List.nodup_nil
  · rw [hgroups]
    exact Rule.nodup_keys_groupEntries (WrittenRule.nodup_keys_ofSection? hsw) hgs
  · intro e he members hmembers
    rcases hresolves.members_of_mem e he with hnone | ⟨members', hsome, hbound⟩
    · rw [hnone] at hmembers
      cases hmembers
    · rw [hsome] at hmembers
      cases hmembers
      exact hbound

theorem IsOf.map_heading (hm : m.IsOf d) (hd : d.IsOf ss) :
    m.rules.map (·.heading) = (ss.filter Section.isRule).map (·.heading) := by
  refine List.ext_getElem? fun i => ?_
  rw [List.getElem?_map, List.getElem?_map]
  rcases hi : m.rules[i]? with _ | r
  · rw [List.getElem?_eq_none_iff, hm.length_rules hd, ← List.getElem?_eq_none_iff] at hi
    rw [hi]
    rfl
  · obtain ⟨s, w, hs, hsw, hwr⟩ := hm.section_of_rule hd hi
    rw [hs, Option.map_some, Option.map_some, (Rule.resolves_of_ofWritten hwr).heading, (WrittenRule.seq_ofSection? hsw).2]

/-- What loads is well formed: the rules are those of the rules text, in its order. -/
theorem wellFormed_of_load {rules : String} {groups : Option String} {m : Model} (h : load rules groups = .ok m) :
    m.WellFormed rules := by
  obtain ⟨d, hd, hm⟩ := isOf_load h
  have hcompiles := textsCompile_of_load h
  have hheadings : m.rules.map (·.heading) = ((sections rules).filter Section.isRule).map (·.heading) := by
    rw [hm.map_heading hd, hcompiles.filter_isRule]
  have hroster := Roster.ofDraft_faithful d
  rw [hm.roster] at hroster
  refine ⟨?_, hheadings, ?_, hroster.1.names, fun r hr => hm.wellFormed_rule hd hr⟩
  · refine List.ext_getElem (by simp) fun i hi _ => ?_
    rw [List.getElem_map, List.getElem_range]
    exact hm.seq_eq hd (List.getElem?_eq_getElem _)
  · rw [hheadings]
    exact hcompiles.headings.sublist (List.filter_sublist.map _)

/-- Options repeated, inverted and behind an alias, in any order. -/
theorem mixed_entries_wellFormed :
    ∃ m, load "[aliases]\nboss = bob\n[a:/]\n@team = r\n&boss = r\n~@team = r\n~bob = r\nbob = w\n@team = w\n[/]\n* = r\n"
        (some "[groups]\nteam = alice, &boss\n") = .ok m ∧
      m.WellFormed "[aliases]\nboss = bob\n[a:/]\n@team = r\n&boss = r\n~@team = r\n~bob = r\nbob = w\n@team = w\n[/]\n* = r\n" ∧
      m.rules.map (·.entries.map (·.key)) = [[("bob", false), ("bob", true), ("team", false), ("team", true)], []] := by
  have hload : (load "[aliases]\nboss = bob\n[a:/]\n@team = r\n&boss = r\n~@team = r\n~bob = r\nbob = w\n@team = w\n[/]\n* = r\n"
      (some "[groups]\nteam = alice, &boss\n")).toOption.any (fun m => m.rules.map (·.entries.map (·.key)) =
        [[("bob", false), ("bob", true), ("team", false), ("team", true)], []]) = true := by
    decide +kernel
  obtain ⟨m, hm, hkeys⟩ := exists_ok_of_any hload
  exact ⟨m, hm, wellFormed_of_load hm, of_decide_eq_true hkeys⟩

end Model

end PathAuthz
