/-
  PathAuthz.Proofs.Rule.Resolution — what a rule grants, before and after references are
  followed.

  (1) Whom a subject and a grantee mean, given the aliases of a draft and a roster. Inversion
  is one `!=`.

  (2) `WrittenRule.meaning` is what a rule as written grants an identity. One more grant adds
  exactly its own part (`meaning_grant`), whether its entry is united with another or not.

  (3) What a rule grants a user is the part of each entry that applies, gathered
  (`accessFor_user`); the same for a user whom no entry means (`unnamedAccess_eq`).

  (4) Following the references of a rule keeps what it means (`accessFor_ofWritten`). An alias
  is united with the user it stands for, so the order of the entries changes; `gather` does not
  see that.
-/

import PathAuthz.Proofs.Access
import PathAuthz.Proofs.Draft.Sections
import PathAuthz.Rule

namespace PathAuthz

open Grant

/-- A grant that is made only if some condition holds. -/
def Grant.onlyIf (b : Bool) (a : Access) : Option Access := if b then some a else none

@[simp] theorem Grant.onlyIf_true (a : Access) : onlyIf true a = some a := rfl
@[simp] theorem Grant.onlyIf_false (a : Access) : onlyIf false a = none := rfl

@[simp] theorem Grant.isSome_onlyIf (b : Bool) (a : Access) : (onlyIf b a).isSome = b := by cases b <;> rfl

theorem Grant.onlyIf_union (b : Bool) (a c : Access) : onlyIf b (a ∪ c) = also (onlyIf b a) (onlyIf b c) := by
  cases b <;> rfl

/-! ## (1) Whom entries mean -/

def Subject.means (d : Draft) (roster : Roster) (user : String) : Subject → Bool
  | .user name => name == user
  | .group name => roster.isMember name user
  | .viaAlias name =>
    match d.alias? name with
    | some a => a.user == user
    | none => false

def Grantee.includes (d : Draft) (roster : Roster) : Grantee → Identity → Bool
  | .everyone, _ => true
  | .anonymous, who => who == .anonymous
  | .authenticated, who => who != .anonymous
  | .subject _ _, .anonymous => false
  | .subject s inverted, .user user => s.means d roster user != inverted

/-! ## (2) Rules as written -/

namespace WrittenRule

variable (d : Draft) (roster : Roster)

/-- The part of an entry in what a user is granted. -/
def part (user : String) (e : WrittenEntry) : Option Access :=
  onlyIf (e.subject.means d roster user != e.inverted) e.access

def meaning (w : WrittenRule) : Identity → Option Access
  | .anonymous => w.anonymous
  | .user user => also w.authenticated (gather (w.entries.map (part d roster user)))

theorem gather_uniteEntry (user : String) (e : WrittenEntry) (es : List WrittenEntry) :
    gather ((uniteEntry e es).map (part d roster user)) =
      also (gather (es.map (part d roster user))) (part d roster user e) := by
  induction es with
  | nil => simp [uniteEntry]
  | cons f fs ih =>
    unfold uniteEntry
    split
    · rename_i hkey
      have hf : part d roster user { f with access := f.access ∪ e.access } =
          also (part d roster user f) (part d roster user e) := by
        simp only [part, onlyIf_union, hkey.1, hkey.2]
      simp only [List.map_cons, gather_cons, hf]
      exact also_right_comm _ _ _
    · simp only [List.map_cons, gather_cons, ih, also_assoc]

theorem meaning_grant (w : WrittenRule) (g : Grantee) (a : Access) (who : Identity) :
    (w.grant g a).meaning d roster who = also (w.meaning d roster who) (onlyIf (g.includes d roster who) a) := by
  cases g with
  | everyone =>
    cases who with
    | anonymous => exact uniteSlot_eq_also _ _
    | user u => simp only [grant, meaning, uniteSlot_eq_also]; exact also_right_comm _ _ _
  | anonymous =>
    cases who with
    | anonymous => exact uniteSlot_eq_also _ _
    | user u => exact (also_none _).symm
  | authenticated =>
    cases who with
    | anonymous => exact (also_none _).symm
    | user u => simp only [grant, meaning, uniteSlot_eq_also]; exact also_right_comm _ _ _
  | subject s inverted =>
    cases who with
    | anonymous => exact (also_none _).symm
    | user u =>
      simp only [grant, meaning, gather_uniteEntry, also_assoc]
      rfl

theorem meaning_grantAll (w : WrittenRule) (gs : List (Grantee × Access)) (who : Identity) :
    (w.grantAll gs).meaning d roster who =
      also (w.meaning d roster who) (gather (gs.map fun g => onlyIf (g.1.includes d roster who) g.2)) := by
  induction gs generalizing w with
  | nil => simp [grantAll]
  | cons g gs ih =>
    have hcons : w.grantAll (g :: gs) = (w.grant g.1 g.2).grantAll gs := rfl
    rw [hcons, ih, meaning_grant, also_assoc, List.map_cons, gather_cons]

end WrittenRule

/-! ## (3) Rules with entries -/

namespace Rule

/-- The part of an entry in what a user is granted. -/
def part (user : String) (e : Entry) : Option Access := onlyIf (e.appliesTo user) e.access

theorem unite_filter (slot : Option Access) (p : Entry → Bool) (es : List Entry) :
    unite slot (es.filter p) = also slot (gather (es.map fun e => onlyIf (p e) e.access)) := by
  unfold unite
  induction es generalizing slot with
  | nil => simp
  | cons e es ih =>
    by_cases hp : p e = true
    · rw [List.filter_cons_of_pos hp, List.foldl_cons, ih, uniteSlot_eq_also, also_assoc]
      simp [hp]
    · rw [List.filter_cons_of_neg hp, ih]
      simp [hp]

theorem accessFor_user (r : Rule) (user : String) :
    r.accessFor (.user user) = also r.authenticated (gather (r.entries.map (part user))) :=
  unite_filter r.authenticated (·.appliesTo user) r.entries

/-- A user whom no entry means is granted what the inverted entries grant. -/
theorem unnamedAccess_eq {r : Rule} {user : String} (h : ∀ e ∈ r.entries, e.means user = false) :
    r.unnamedAccess = r.accessFor (.user user) := by
  have hfilter : r.entries.filter (·.inverted) = r.entries.filter (·.appliesTo user) := by
    apply List.filter_congr
    intro e he
    simp [Entry.appliesTo, h e he]
  rw [unnamedAccess, accessFor, hfilter]

/-! ## (4) Following references -/

theorem gather_uniteEntry (user : String) (e : Entry) (he : e.members = none) (es : List Entry)
    (hes : ∀ f ∈ es, f.members = none) :
    gather ((uniteEntry e es).map (part user)) = also (gather (es.map (part user))) (part user e) := by
  induction es with
  | nil => simp [uniteEntry]
  | cons f fs ih =>
    obtain ⟨hfm, hfs⟩ := List.forall_mem_cons.mp hes
    unfold uniteEntry
    split
    · rename_i hkey
      have hf : part user { f with access := f.access ∪ e.access } = also (part user f) (part user e) := by
        simp only [part, onlyIf_union, Entry.appliesTo, Entry.means, he, hfm, hkey.1, hkey.2]
      simp only [List.map_cons, gather_cons, hf]
      exact also_right_comm _ _ _
    · simp only [List.map_cons, gather_cons, ih hfs, also_assoc]

theorem members_uniteEntry {e : Entry} (he : e.members = none) {es : List Entry} (hes : ∀ f ∈ es, f.members = none) :
    ∀ f ∈ uniteEntry e es, f.members = none := by
  induction es with
  | nil => simpa [uniteEntry] using he
  | cons f fs ih =>
    obtain ⟨hfm, hfs⟩ := List.forall_mem_cons.mp hes
    unfold uniteEntry
    split
    · exact List.forall_mem_cons.mpr ⟨hfm, hfs⟩
    · exact List.forall_mem_cons.mpr ⟨hfm, ih hfs⟩

/-- User entries united one after the other grant what they grant side by side. -/
theorem gather_foldl_uniteEntry (user : String) {us : List Entry} (hus : ∀ e ∈ us, e.members = none) {es : List Entry}
    (hes : ∀ f ∈ es, f.members = none) :
    gather ((us.foldl (fun es e => uniteEntry e es) es).map (part user)) =
      also (gather (es.map (part user))) (gather (us.map (part user))) := by
  induction us generalizing es with
  | nil => simp
  | cons e us ih =>
    obtain ⟨he, hus⟩ := List.forall_mem_cons.mp hus
    rw [List.foldl_cons, ih hus (members_uniteEntry he hes), gather_uniteEntry user e he es hes, also_assoc,
      List.map_cons, gather_cons]

variable {d : Draft} {roster : Roster} {heading : String}

theorem members_userEntries {es : List WrittenEntry} {us : List Entry} (h : userEntries d heading es = .ok us) :
    ∀ e ∈ us, e.members = none := by
  induction es generalizing us with
  | nil => cases h; simp
  | cons e es ih =>
    unfold userEntries at h
    split at h
    · obtain ⟨us', hus, rfl⟩ := map_eq_ok_iff.mp h
      exact List.forall_mem_cons.mpr ⟨rfl, ih hus⟩
    · split at h
      · cases h
      · obtain ⟨us', hus, rfl⟩ := map_eq_ok_iff.mp h
        exact List.forall_mem_cons.mpr ⟨rfl, ih hus⟩
    · exact ih h

/-- Each written entry ends up among the users or among the groups, with its part unchanged. -/
theorem gather_resolved (user : String) {es : List WrittenEntry} {us gs : List Entry}
    (hu : userEntries d heading es = .ok us) (hg : groupEntries roster heading es = .ok gs) :
    also (gather (us.map (part user))) (gather (gs.map (part user))) =
      gather (es.map (WrittenRule.part d roster user)) := by
  induction es generalizing us gs with
  | nil => cases hu; cases hg; rfl
  | cons e es ih =>
    obtain ⟨subject, inverted, access⟩ := e
    cases subject with
    | user name =>
      obtain ⟨us', hus, rfl⟩ := map_eq_ok_iff.mp hu
      rw [List.map_cons, gather_cons, also_assoc, ih hus hg, List.map_cons, gather_cons]
      rfl
    | viaAlias name =>
      simp only [userEntries] at hu
      split at hu
      · cases hu
      · rename_i a ha
        obtain ⟨us', hus, rfl⟩ := map_eq_ok_iff.mp hu
        have hpart : WrittenRule.part d roster user ⟨.viaAlias name, inverted, access⟩ =
            part user ⟨a.user, none, inverted, access⟩ := by
          simp only [WrittenRule.part, Subject.means, ha]
          rfl
        rw [List.map_cons, gather_cons, also_assoc, ih hus hg, List.map_cons, gather_cons, hpart]
    | group name =>
      simp only [groupEntries] at hg
      split at hg
      · cases hg
      · rename_i members hm
        obtain ⟨gs', hgs, rfl⟩ := map_eq_ok_iff.mp hg
        have hpart : WrittenRule.part d roster user ⟨.group name, inverted, access⟩ =
            part user ⟨name, some members, inverted, access⟩ := by
          simp only [WrittenRule.part, Subject.means, Roster.isMember, hm]
          rfl
        rw [List.map_cons, gather_cons, ← also_assoc, also_comm (gather _) (part user _), also_assoc, ih hu hgs,
          List.map_cons, gather_cons, hpart]

/-- What a rule keeps when its references are followed, and its entries. -/
structure Resolves (d : Draft) (roster : Roster) (w : WrittenRule) (r : Rule) : Prop where
  seq : r.seq = w.seq
  heading : r.heading = w.heading
  scope : r.scope = w.scope
  pattern : r.pattern = w.pattern
  anonymous : r.anonymous = w.anonymous
  authenticated : r.authenticated = w.authenticated
  entries : ∃ us gs, userEntries d w.heading w.entries = .ok us ∧ groupEntries roster w.heading w.entries = .ok gs ∧
    r.entries = us.foldl (fun es e => uniteEntry e es) [] ++ gs

theorem resolves_of_ofWritten {w : WrittenRule} {r : Rule} (h : ofWritten d roster w = .ok r) :
    Resolves d roster w r := by
  obtain ⟨us, hus, h⟩ := bind_eq_ok_iff.mp h
  obtain ⟨gs, hgs, h⟩ := bind_eq_ok_iff.mp h
  cases pure_eq_ok_iff.mp h
  exact ⟨rfl, rfl, rfl, rfl, rfl, rfl, us, gs, hus, hgs, rfl⟩

theorem accessFor_ofWritten {w : WrittenRule} {r : Rule} (h : ofWritten d roster w = .ok r) (who : Identity) :
    r.accessFor who = w.meaning d roster who := by
  have hr := resolves_of_ofWritten h
  cases who with
  | anonymous => exact hr.anonymous
  | user user =>
    obtain ⟨us, gs, hus, hgs, hentries⟩ := hr.entries
    have hnil : ∀ f ∈ ([] : List Entry), f.members = none := by simp
    rw [accessFor_user, hentries, List.map_append, gather_append,
      gather_foldl_uniteEntry user (members_userEntries hus) hnil, List.map_nil, gather_nil, none_also,
      gather_resolved user hus hgs, hr.authenticated]
    rfl

end Rule

end PathAuthz
