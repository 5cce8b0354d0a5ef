/-
  PathAuthz.Proofs.Model.Insertion — a model with one more rule.

  (1) A rule behind a new one gets the next number, and otherwise stays as it is
  (`Rule.shift`). Shifted rules outrank each other as before (`outranks_shift`).

  (2) One more rule section, wherever it stands, puts one more rule among the others and
  shifts those behind it (`inserts_of_sections`); the groups and the aliases are the same, so
  the references lead where they led (`ofWritten_renumber`).

  (3) Where the new rule does not apply, the same rules decide as before
  (`effectiveAccess_of_inserts`), and where it is out of the region, the same grants are in it
  (`regional_of_inserts`).
-/

import PathAuthz.Proofs.Model.Alike
import PathAuthz.Proofs.Model.Lookup
import PathAuthz.Proofs.Model.Precedence

namespace PathAuthz

open Source
open Buckets (regional inRegion)

/-! ## (1) Shifted rules -/

namespace Rule

/-- The rule after another one has been put before number `k`. -/
def shift (k : Nat) (r : Rule) : Rule := { r with seq := if r.seq < k then r.seq else r.seq + 1 }

@[simp] theorem shift_scope (k : Nat) (r : Rule) : (r.shift k).scope = r.scope := rfl
@[simp] theorem shift_pattern (k : Nat) (r : Rule) : (r.shift k).pattern = r.pattern := rfl
@[simp] theorem shift_authenticated (k : Nat) (r : Rule) : (r.shift k).authenticated = r.authenticated := rfl
@[simp] theorem accessFor_shift (k : Nat) (r : Rule) (who : Identity) : (r.shift k).accessFor who = r.accessFor who := by
  cases who <;> rfl

theorem shift_of_lt {k : Nat} {r : Rule} (h : r.seq < k) : r.shift k = r := by rw [shift, if_pos h]

theorem shift_of_le {k : Nat} {r : Rule} (h : k ≤ r.seq) : r.shift k = { r with seq := r.seq + 1 } := by
  rw [shift, if_neg (by omega)]

end Rule

theorem Model.outranks_shift (k : Nat) (a b : Rule) : outranks (a.shift k) (b.shift k) = outranks a b := by
  have hseq : (b.shift k).seq ≤ (a.shift k).seq ↔ b.seq ≤ a.seq := by
    simp only [Rule.shift]
    split <;> split <;> omega
  simp only [outranks, Rule.shift_scope, hseq]

/-! ## (2) One more section -/

theorem WrittenRule.grantAll_renumber (n : Nat) (w : WrittenRule) (gs : List (Grantee × Access)) :
    ({ w with seq := n } : WrittenRule).grantAll gs = { w.grantAll gs with seq := n } := by
  induction gs generalizing w with
  | nil => rfl
  | cons g gs ih =>
    have hgrant : ({ w with seq := n } : WrittenRule).grant g.1 g.2 = { w.grant g.1 g.2 with seq := n } := by
      unfold grant
      split <;> rfl
    have hcons : ∀ w : WrittenRule, w.grantAll (g :: gs) = (w.grant g.1 g.2).grantAll gs := fun _ => rfl
    rw [hcons, hgrant, ih, hcons]

theorem WrittenRule.ofSection?_renumber {seq : Nat} {s : Section} {w : WrittenRule} (h : ofSection? seq s = some w)
    (n : Nat) : ofSection? n s = some { w with seq := n } := by
  obtain ⟨w₀, gs, hw₀, hgs, rfl⟩ := ofSection?_eq_some h
  obtain ⟨header, hread, hcompile, hw⟩ := ofHeading?_eq_some hw₀
  have hheading : ofHeading? n s.heading = some { w₀ with seq := n } := by
    simp only [ofHeading?, hread, hcompile]
    rw [hw]
  rw [ofSection?, hheading, Option.bind_some, mapM_eq_some_iff.mpr hgs, Option.map_some, grantAll_renumber]

theorem Rule.userEntries_congr {d d' : Draft} (ha : d.aliases = d'.aliases) (heading : String) (es : List WrittenEntry) :
    userEntries d heading es = userEntries d' heading es := by
  induction es with
  | nil => rfl
  | cons e es ih => simp only [userEntries, Draft.alias?, ha, ih]

theorem Rule.ofWritten_renumber {d d' : Draft} (ha : d.aliases = d'.aliases) {roster : Roster} {w : WrittenRule} {r : Rule}
    (h : ofWritten d roster w = .ok r) (n : Nat) :
    ofWritten d' roster { w with seq := n } = .ok { r with seq := n } := by
  obtain ⟨us, hus, h⟩ := bind_eq_ok_iff.mp h
  obtain ⟨gs, hgs, h⟩ := bind_eq_ok_iff.mp h
  cases pure_eq_ok_iff.mp h
  rw [userEntries_congr ha] at hus
  exact bind_eq_ok_iff.mpr ⟨us, hus, bind_eq_ok_iff.mpr ⟨gs, hgs, rfl⟩⟩

theorem append_cons_eq_insertIdx {α : Type} (as bs : List α) (x : α) :
    as ++ x :: bs = (as ++ bs).insertIdx as.length x := by
  induction as with
  | nil => rfl
  | cons a as ih => rw [List.cons_append, List.cons_append, List.length_cons, List.insertIdx_succ_cons, ih]

namespace Model

/-- Another model has the rules of this one and one more, as number `k`. -/
def Inserts (m m' : Model) (k : Nat) (x : Rule) : Prop := m'.rules = (m.rules.map (·.shift k)).insertIdx k x

section

variable {m m' : Model} {d d' : Draft} {before after : List Section} {s : Section}

theorem roster_of_sections (hm : m.IsOf d) (hd : d.IsOf (before ++ after)) (hm' : m'.IsOf d')
    (hd' : d'.IsOf (before ++ s :: after)) (hs : s.isRule = true) : d.aliases = d'.aliases ∧ m.roster = m'.roster := by
  obtain ⟨hg, ha⟩ := definitions_append_cons hs before after
  rw [← hd.groups, ← hd'.groups] at hg
  rw [← hd.aliases, ← hd'.aliases] at ha
  exact ⟨ha.symm, hm.roster_eq hm' hg.symm ha.symm⟩

/-- The same section makes the same rule in two models, up to its number. -/
theorem rule_of_same_section {ss ss' : List Section} (hm : m.IsOf d) (hd : d.IsOf ss) (hm' : m'.IsOf d')
    (hd' : d'.IsOf ss') (ha : d.aliases = d'.aliases) (hroster : m.roster = m'.roster) {i j : Nat} {t : Section}
    (hi : (ss.filter Section.isRule)[i]? = some t) (hj : (ss'.filter Section.isRule)[j]? = some t) :
    ∃ r, m.rules[i]? = some r ∧ m'.rules[j]? = some { r with seq := j } := by
  obtain ⟨r, w, hr, hw, hwr⟩ := hm.rule_of_section hd hi
  obtain ⟨r', w', hr', hw', hwr'⟩ := hm'.rule_of_section hd' hj
  rw [WrittenRule.ofSection?_renumber hw j] at hw'
  cases hw'
  rw [← hroster, Rule.ofWritten_renumber ha hwr j] at hwr'
  cases hwr'
  exact ⟨r, hr, hr'⟩

theorem inserts_of_sections (hm : m.IsOf d) (hd : d.IsOf (before ++ after)) (hm' : m'.IsOf d')
    (hd' : d'.IsOf (before ++ s :: after)) (hs : s.isRule = true) :
    ∃ k x w, m.Inserts m' k x ∧ WrittenRule.ofSection? k s = some w ∧ Rule.ofWritten d' m'.roster w = .ok x := by
  obtain ⟨ha, hroster⟩ := roster_of_sections hm hd hm' hd' hs
  have hsections : (before ++ s :: after).filter Section.isRule =
      ((before ++ after).filter Section.isRule).insertIdx (before.filter Section.isRule).length s := by
    rw [List.filter_append, List.filter_append, List.filter_cons_of_pos hs, append_cons_eq_insertIdx]
  have hlength := hm.length_rules hd
  have hk : (before.filter Section.isRule).length ≤ m.rules.length := by
    rw [hlength, List.filter_append, List.length_append]
    omega
  generalize (before.filter Section.isRule).length = k at hsections hk
  have hnew : ((before ++ s :: after).filter Section.isRule)[k]? = some s := by
    rw [hsections, List.getElem?_insertIdx_self, if_pos (by omega)]
  obtain ⟨x, w, hx, hw, hwx⟩ := hm'.rule_of_section hd' hnew
  refine ⟨k, x, w, ?_, hw, hwx⟩
  refine List.ext_getElem? fun i => ?_
  -- Number i is before the new rule, is the new rule, or had number i - 1.
  rcases Nat.lt_trichotomy i k with hlt | rfl | hlt
  · obtain ⟨t, hi⟩ : ∃ t, ((before ++ after).filter Section.isRule)[i]? = some t :=
      ⟨_, List.getElem?_eq_getElem (by omega)⟩
    have hi' : ((before ++ s :: after).filter Section.isRule)[i]? = some t := by
      rw [hsections, List.getElem?_insertIdx_of_lt hlt, hi]
    obtain ⟨r, hr, hr'⟩ := rule_of_same_section hm hd hm' hd' ha hroster hi hi'
    have hseq := hm.seq_eq hd hr
    rw [List.getElem?_insertIdx_of_lt hlt, List.getElem?_map, hr, hr', Option.map_some,
      Rule.shift_of_lt (by omega), ← hseq]
  · rw [List.getElem?_insertIdx_self, if_pos (by simpa using hk), hx]
  · rw [List.getElem?_insertIdx_of_gt hlt, List.getElem?_map]
    have hi' : ((before ++ s :: after).filter Section.isRule)[i]? =
        ((before ++ after).filter Section.isRule)[i - 1]? := by
      rw [hsections, List.getElem?_insertIdx_of_gt hlt]
    rcases hi : ((before ++ after).filter Section.isRule)[i - 1]? with _ | t
    · rw [hi, List.getElem?_eq_none_iff, ← hm'.length_rules hd'] at hi'
      rw [List.getElem?_eq_none_iff, ← hlength] at hi
      rw [List.getElem?_eq_none hi, List.getElem?_eq_none hi', Option.map_none]
    · obtain ⟨r, hr, hr'⟩ := rule_of_same_section hm hd hm' hd' ha hroster hi (hi'.trans hi)
      have hseq := hm.seq_eq hd hr
      have hnext : i = r.seq + 1 := by omega
      rw [hr, hr', Option.map_some, Rule.shift_of_le (by omega), ← hnext]

end

/-! ## (3) What the new rule leaves as it was -/

theorem filterMap_insertIdx_of_none {α β : Type} {f : α → Option β} {x : α} (hx : f x = none) (as : List α) (k : Nat) :
    (as.insertIdx k x).filterMap f = as.filterMap f := by
  induction as generalizing k with
  | nil =>
    cases k with
    | zero => rw [List.insertIdx_zero, List.filterMap_cons_none hx]
    | succ k => rw [List.insertIdx_succ_nil]
  | cons a as ih =>
    cases k with
    | zero => rw [List.insertIdx_zero, List.filterMap_cons_none hx]
    | succ k => rw [List.insertIdx_succ_cons, List.filterMap_cons, List.filterMap_cons, ih]

theorem foldl_prefer_map {F : Rule → Rule} (hF : ∀ a b, outranks (F a) (F b) = outranks a b) (cs : List (Rule × Access))
    (best : Option (Rule × Access)) :
    (cs.map (Prod.map F id)).foldl prefer (best.map (Prod.map F id)) = (cs.foldl prefer best).map (Prod.map F id) := by
  induction cs generalizing best with
  | nil => rfl
  | cons c cs ih =>
    have hstep : prefer (best.map (Prod.map F id)) (Prod.map F id c) = (prefer best c).map (Prod.map F id) := by
      cases best with
      | none => rfl
      | some b =>
        simp only [Option.map_some, prefer, Prod.map_fst, hF]
        split <;> rfl
    rw [List.map_cons, List.foldl_cons, hstep, ih, List.foldl_cons]

variable {m m' : Model} {k : Nat} {x : Rule} {repo : String}

theorem candidates_of_inserts (h : m.Inserts m' k x) (hx : x.scope.appliesTo repo = false) (who : Identity)
    (components : List String) :
    m'.candidates repo who components = (m.candidates repo who components).map (Prod.map (·.shift k) id) := by
  unfold candidates
  rw [h, filterMap_insertIdx_of_none (by simp [hx]), List.filterMap_map, List.map_filterMap]
  refine List.filterMap_congr fun r _ => ?_
  simp only [Function.comp_apply, Rule.shift_scope, Rule.shift_pattern, Rule.accessFor_shift]
  split
  · cases r.accessFor who <;> rfl
  · rfl

theorem deciding_of_inserts (h : m.Inserts m' k x) (hx : x.scope.appliesTo repo = false) (who : Identity)
    (components : List String) :
    m'.deciding repo who components = (m.deciding repo who components).map (Prod.map (·.shift k) id) := by
  unfold deciding
  rw [candidates_of_inserts h hx]
  exact foldl_prefer_map (outranks_shift k) _ none

theorem effectiveAccess_of_inserts (h : m.Inserts m' k x) (hx : x.scope.appliesTo repo = false) (path : String)
    (who : Identity) : m'.effectiveAccess repo path who false = m.effectiveAccess repo path who false := by
  refine accessUpTo_of_deciding rfl (fun components => ?_) _ _
  rw [deciding_of_inserts h hx]
  cases m.deciding repo who components with
  | none => exact .none
  | some c => exact .some rfl

theorem regional_of_inserts (h : m.Inserts m' k x) {region : Option String} (hx : inRegion x.scope region = false)
    {access : Rule → Option Access} (haccess : ∀ r : Rule, access (r.shift k) = access r) :
    regional region (RightsTable.grants access m'.rules) = regional region (RightsTable.grants access m.rules) := by
  refine Buckets.regional_congr ?_
  let counted (r : Rule) : Option (RepoScope × Access) := ((access r).map (r.scope, ·)).filter (inRegion ·.1 region)
  have hcounted : ∀ rules, (RightsTable.grants access rules).filter (inRegion ·.1 region) = rules.filterMap counted :=
    fun rules => List.filter_filterMap
  have hnone : counted x = none := by
    simp only [counted]
    cases access x <;> simp [hx]
  rw [hcounted, hcounted, h, filterMap_insertIdx_of_none hnone, List.filterMap_map]
  refine List.filterMap_congr fun r _ => ?_
  simp only [Function.comp_apply, counted, haccess, Rule.shift_scope]

end Model

end PathAuthz
