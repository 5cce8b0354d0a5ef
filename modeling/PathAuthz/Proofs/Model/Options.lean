/-
  PathAuthz.Proofs.Model.Options — a compiled rule grants what the options of its section say.

  (1) What an option says, read off its text alone: `optionApplies` tells to whom it applies,
  given the sections (for the aliases) and a roster (for the groups), and `rightsOf` which
  rights it grants.

  (2) The grantee an option is read as includes the same identities (`includes_ofOption?`). An
  alias is found where it is defined, as no name is defined twice (`find?_any_of_nodup`).

  (3) `Section.granted p` is what the options of a section whose names satisfy `p` grant
  together, and so what its rule grants to certain grantees (`gather_grants`). The rule grants an
  identity something iff one of the options applies, and then the union of the rights of those
  that do (`accessFor_by_options`), whichever way the options were united and resolved.
-/

import PathAuthz.Proofs.Model.Loaded

namespace PathAuthz

open Source

/-! ## (1) Options as written -/

/-- Whether a name without `~` means a user. -/
def nameMeans (ss : List Section) (roster : Roster) (user : String) : List Char → Bool
  | '$' :: word => word == "authenticated".toList
  | '@' :: group => roster.isMember (String.ofList group) user
  | '&' :: name => (aliasesOf ss).any fun a => a.name == String.ofList name && a.user == user
  | name => String.ofList name == user

/-- Whether an option of a rule section applies to an identity. -/
def optionApplies (ss : List Section) (roster : Roster) (option : String) : Identity → Bool
  | .anonymous => option == "*" || option == "$anonymous" || option == "~$authenticated"
  | .user user =>
    match option.toList with
    | ['*'] => true
    | '~' :: name => !nameMeans ss roster user name
    | name => nameMeans ss roster user name

/-- The rights that a value spells out. -/
def rightsOf (value : String) : Access := (Access.ofRights value.toList).toOption.getD .none

/-! ## (2) Options as read -/

theorem find?_any_of_nodup {α : Type} {name : α → String} {as : List α} (h : (as.map name).Nodup) (n : String)
    (p : α → Bool) : (as.find? (name · == n)).any p = as.any fun a => name a == n && p a := by
  rw [Bool.eq_iff_iff, Option.any_eq_true, List.any_eq_true]
  constructor
  · rintro ⟨a, ha, hp⟩
    have hname : name a = n := by simpa using List.find?_some ha
    exact ⟨a, List.mem_of_find?_eq_some ha, by simp [hname, hp]⟩
  · rintro ⟨a, ha, hmeans⟩
    obtain ⟨hname, hp⟩ := Bool.and_eq_true_iff.mp hmeans
    cases beq_iff_eq.mp hname
    exact ⟨a, Draft.find?_eq_some_of_mem h ha, hp⟩

variable {d : Draft} {ss : List Section} {roster : Roster}

theorem means_viaAlias (hd : d.IsOf ss) (user name : String) :
    (Subject.viaAlias name).means d roster user = (aliasesOf ss).any fun a => a.name == name && a.user == user := by
  rw [← hd.aliases, ← find?_any_of_nodup hd.aliasNames]
  simp only [Subject.means, Draft.alias?]
  split <;> rename_i ha <;> rw [ha] <;> rfl

theorem includes_user_ofName? (hd : d.IsOf ss) {inverted : Bool} {name : List Char} {g : Grantee}
    (h : Grantee.ofName? inverted name = some g) (user : String) :
    g.includes d roster (.user user) = (nameMeans ss roster user name != inverted) := by
  unfold Grantee.ofName? at h
  split at h
  · cases h
  · rename_i word
    split at h
    · rename_i hword
      cases h
      cases inverted <;> simp [hword, nameMeans, Grantee.includes]
    · split at h
      · rename_i hword
        cases h
        cases inverted <;> simp [hword, nameMeans, Grantee.includes]
      · cases h
  · split at h
    · cases h; rfl
    · cases h
  · split at h
    · cases h
      rw [Grantee.includes, means_viaAlias hd]
      rfl
    · cases h
  · rename_i hdollar hat hamp
    split at h
    · cases h
      unfold nameMeans
      split
      · exact absurd rfl (hdollar _)
      · exact absurd rfl (hat _)
      · exact absurd rfl (hamp _)
      · rfl
    · cases h

theorem includes_anonymous_ofName? {inverted : Bool} {name : List Char} {g : Grantee}
    (h : Grantee.ofName? inverted name = some g) :
    g.includes d roster .anonymous = (name == '$' :: (if inverted then "authenticated" else "anonymous").toList) := by
  unfold Grantee.ofName? at h
  split at h
  · cases h
  · split at h
    · rename_i hword
      cases h
      cases inverted <;> simp [hword, Grantee.includes]
    · split at h
      · rename_i hword
        cases h
        cases inverted <;> simp [hword, Grantee.includes]
      · cases h
  · split at h
    · cases h; rfl
    · cases h
  · split at h
    · cases h; rfl
    · cases h
  · rename_i hdollar _ _
    split at h
    · cases h
      exact (beq_eq_false_iff_ne.mpr (hdollar _)).symm
    · cases h

theorem optionApplies_tilde (name : List Char) (user : String) :
    optionApplies ss roster (String.ofList ('~' :: name)) (.user user) = !nameMeans ss roster user name := by
  simp [optionApplies]

theorem optionApplies_plain {name : List Char} (hstar : name ≠ ['*']) (htilde : ∀ rest, name ≠ '~' :: rest)
    (user : String) :
    optionApplies ss roster (String.ofList name) (.user user) = nameMeans ss roster user name := by
  simp only [optionApplies, String.toList_ofList]

theorem includes_ofOption? (hd : d.IsOf ss) {option : String} {g : Grantee} (h : Grantee.ofOption? option = some g)
    (who : Identity) : g.includes d roster who = optionApplies ss roster option who := by
  obtain ⟨cs, rfl⟩ : ∃ cs, option = String.ofList cs := ⟨option.toList, String.ofList_toList.symm⟩
  have hlit : ∀ t : List Char, ∀ s : String, s = String.ofList t → (String.ofList cs == s) = (cs == t) := by
    rintro t s rfl
    rw [Bool.eq_iff_iff, beq_iff_eq, beq_iff_eq, String.ofList_inj]
  unfold Grantee.ofOption? at h
  rw [String.toList_ofList] at h
  cases who with
  | anonymous =>
    rw [optionApplies, hlit ['*'] "*" rfl, hlit ('$' :: "anonymous".toList) "$anonymous" rfl,
      hlit ('~' :: '$' :: "authenticated".toList) "~$authenticated" rfl]
    split at h
    · cases h; rfl
    · rw [includes_anonymous_ofName? h]
      simp
    · rename_i hstar htilde
      rw [includes_anonymous_ofName? h]
      rw [beq_eq_false_iff_ne.mpr hstar, beq_eq_false_iff_ne.mpr (htilde _), Bool.false_or, Bool.or_false]
      rfl
  | user user =>
    split at h
    · cases h; rfl
    · rw [includes_user_ofName? hd h, optionApplies_tilde, Bool.bne_true]
    · rename_i hstar htilde
      rw [includes_user_ofName? hd h, optionApplies_plain hstar htilde, Bool.bne_false]

/-! ## (3) Rules and their sections -/

theorem filterMap_onlyIf {α : Type} (p : α → Bool) (f : α → Access) (as : List α) :
    (as.map fun a => Grant.onlyIf (p a) (f a)).filterMap id = (as.filter p).map f := by
  induction as with
  | nil => rfl
  | cons a as ih =>
    rw [List.map_cons, List.filterMap_cons, ih]
    cases hp : p a <;> simp [hp]

theorem grantOf?_of_mem {options : List (String × String)} {gs : List (Grantee × Access)}
    (h : options.map grantOf? = gs.map some) {o : String × String} (ho : o ∈ options) :
    ∃ g, grantOf? o = some (g, rightsOf o.2) ∧ Grantee.ofOption? o.1 = some g := by
  obtain ⟨g, -, hname, hrights⟩ := exists_grant_of_mem h ho
  have hright : rightsOf o.2 = g.2 := by rw [rightsOf, hrights]; rfl
  exact ⟨g.1, grantOf?_eq_some_iff.mpr ⟨hname, hright ▸ hrights⟩, hname⟩

/-- What the options of a section grant together whose names satisfy `p`. -/
def Source.Section.granted (s : Section) (p : String → Bool) : Option Access :=
  Grant.gather (s.options.map fun o => Grant.onlyIf (p o.1) (rightsOf o.2))

/-- What is granted to certain grantees is granted by the options that name one of them. -/
theorem gather_grants {s : Section} {gs : List (Grantee × Access)} (h : s.options.map grantOf? = gs.map some)
    {p : Grantee → Bool} {q : String → Bool} (hpq : ∀ o ∈ s.options, ∀ g, Grantee.ofOption? o.1 = some g → q o.1 = p g) :
    Grant.gather (gs.map fun g => Grant.onlyIf (p g.1) g.2) = s.granted q := by
  let part (g : Grantee × Access) : Option Access := Grant.onlyIf (p g.1) g.2
  have hparts : gs.map part = (s.options.map grantOf?).map fun g => g.bind part := by
    rw [h, List.map_map]
    rfl
  show Grant.gather (gs.map part) = _
  rw [hparts, List.map_map, Section.granted]
  congr 1
  refine List.map_congr_left fun o ho => ?_
  obtain ⟨g, hgrant, hname⟩ := grantOf?_of_mem h ho
  simp only [Function.comp_apply, hgrant, Option.bind_some, part, hpq o ho g hname]

/-- What the rule of a section grants is the part of each option that applies, gathered. -/
theorem WrittenRule.meaning_ofSection? (hd : d.IsOf ss) {seq : Nat} {s : Section} {w : WrittenRule}
    (h : ofSection? seq s = some w) (who : Identity) :
    w.meaning d roster who =
      Grant.gather (s.options.map fun o => Grant.onlyIf (optionApplies ss roster o.1 who) (rightsOf o.2)) := by
  obtain ⟨w₀, gs, hw₀, hgs, rfl⟩ := ofSection?_eq_some h
  have hnone : w₀.meaning d roster who = none := by
    obtain ⟨header, -, -, hw⟩ := ofHeading?_eq_some hw₀
    rw [hw]
    cases who <;> rfl
  rw [meaning_grantAll, hnone, Grant.none_also]
  exact gather_grants (p := (·.includes d roster who)) (q := (optionApplies ss roster · who)) hgs
    fun o _ g hname => (includes_ofOption? hd hname who).symm

namespace Model

/-- The i-th rule grants what the options of the i-th rule section say. -/
theorem accessFor_by_options {rules : String} {groups : Option String} {m : Model} (hload : load rules groups = .ok m) :
    m.rules.length = ((sectionsOfTexts rules groups).filter Section.isRule).length ∧
    ∀ (i : Nat) (s : Section), ((sectionsOfTexts rules groups).filter Section.isRule)[i]? = some s →
      (∀ o ∈ s.options, ∃ a, Access.ofRights o.2.toList = .ok a) ∧
      ∃ r, m.rules[i]? = some r ∧ r.heading = s.heading ∧ ∀ who,
        ((r.accessFor who).isSome = true ↔
          ∃ o ∈ s.options, optionApplies (sectionsOfTexts rules groups) m.roster o.1 who = true) ∧
        ∀ a, r.accessFor who = some a →
          a = Access.unionAll
            ((s.options.filter fun o => optionApplies (sectionsOfTexts rules groups) m.roster o.1 who).map
              fun o => rightsOf o.2) := by
  obtain ⟨d, hd, hm⟩ := isOf_load hload
  refine ⟨hm.length_rules hd, ?_⟩
  intro i s hs
  obtain ⟨r, w, hr, hsw, hwr⟩ := hm.rule_of_section hd hs
  obtain ⟨w₀, gs, -, hgs, -⟩ := WrittenRule.ofSection?_eq_some hsw
  have hheading : r.heading = s.heading := by
    rw [(Rule.resolves_of_ofWritten hwr).heading, (WrittenRule.seq_ofSection? hsw).2]
  refine ⟨?_, r, hr, hheading, ?_⟩
  · intro o ho
    obtain ⟨g, -, -, hrights⟩ := exists_grant_of_mem hgs ho
    exact ⟨g.2, hrights⟩
  · intro who
    have haccess := Rule.accessFor_ofWritten hwr who
    rw [WrittenRule.meaning_ofSection? hd hsw who] at haccess
    refine ⟨?_, ?_⟩
    · rw [haccess, Grant.isSome_gather, List.any_map, List.any_eq_true]
      simp only [Function.comp_apply, Grant.isSome_onlyIf]
    · intro a ha
      rw [haccess] at ha
      rw [Grant.gather_eq_some ha, filterMap_onlyIf]

/-- An alias and the name it stands for are united, and an option that grants nothing still applies. -/
theorem accessFor_by_options_alias :
    ∃ m r, load "[aliases]\nboss = al\n[groups]\nstaff = bo, &boss\n[/]\n&boss = r\nal = w\n@staff =\n" none = .ok m ∧
      m.rules[0]? = some r ∧ r.accessFor (.user "al") = some .all ∧ r.accessFor (.user "bo") = some .none ∧
      r.accessFor .anonymous = none := by
  have hload : (load "[aliases]\nboss = al\n[groups]\nstaff = bo, &boss\n[/]\n&boss = r\nal = w\n@staff =\n" none).toOption.any
      (fun m => decide (m.roster = ⟨[⟨"staff", ["bo", "al"]⟩]⟩)) = true := by decide +kernel
  obtain ⟨m, hm, hroster⟩ := exists_ok_of_any hload
  have hroster := of_decide_eq_true hroster
  have hss : sectionsOfTexts "[aliases]\nboss = al\n[groups]\nstaff = bo, &boss\n[/]\n&boss = r\nal = w\n@staff =\n" none =
      [⟨"aliases", [("boss", "al")]⟩, ⟨"groups", [("staff", "bo, &boss")]⟩,
        ⟨"/", [("&boss", "r"), ("al", "w"), ("@staff", "")]⟩] := by decide +kernel
  obtain ⟨-, hrules⟩ := accessFor_by_options hm
  rw [hss, hroster] at hrules
  obtain ⟨-, r, hr, -, hgrants⟩ := hrules 0 ⟨"/", [("&boss", "r"), ("al", "w"), ("@staff", "")]⟩ (by decide +kernel)
  refine ⟨m, r, hm, hr, ?_, ?_, ?_⟩
  · obtain ⟨a, ha⟩ := Option.isSome_iff_exists.mp ((hgrants (.user "al")).1.mpr (by decide +kernel))
    rw [ha, (hgrants (.user "al")).2 a ha]
    decide +kernel
  · obtain ⟨a, ha⟩ := Option.isSome_iff_exists.mp ((hgrants (.user "bo")).1.mpr (by decide +kernel))
    rw [ha, (hgrants (.user "bo")).2 a ha]
    decide +kernel
  · rw [← Option.not_isSome_iff_eq_none, (hgrants .anonymous).1]
    decide +kernel

end Model

end PathAuthz
