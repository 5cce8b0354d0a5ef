/-
  PathAuthz.Proofs.Draft.Places — a compiler is in the section that the text is in.

  (1) `Event.leavesOpen` is the section that is open behind an event. A text tells a value only
  while the section of that value is open (`open_at_value`), whether or not a fault follows.

  (2) A compiler is in the open section if its place is that section (`Place.IsOf`): one of the
  two for definitions, or the last rule, whose heading is that of the section. Between two
  sections it has no place (`Compiler.IsIn`). One event that is taken keeps it so (`isIn_take`),
  and therefore every run does (`isIn_feed`), over any text and on top of any other.

  (3) Taking an option at a place leaves the rest of the draft alone (`keeps_addTo`).

  (4) So whenever a compiler is told a value it has a place, that of the section of the value,
  and changes nothing elsewhere (`value_in_place`). It never misses its section, and the rule it
  adds to is always there.
-/

import PathAuthz.Proofs.Draft.Compiles
import PathAuthz.Proofs.Source.Calls

namespace PathAuthz

open Source

/-! ## (1) The open section -/

namespace Source

/-- The section that is open behind an event, if one is. -/
def Event.leavesOpen (current : Option String) : Event → Option String
  | .opened heading => some heading
  | .value _ _ _ => current
  | .closed _ => none

variable {current : Option String}

theorem continues_tail {e : Event} {es : List Event} (h : Continues current (e :: es)) :
    Continues (e.leavesOpen current) es := by
  cases current with
  | none =>
    obtain ⟨ss, hss⟩ := h
    cases ss with
    | nil => cases hss
    | cons s ss => cases hss; exact ⟨s.options, ss, List.append_assoc _ _ _⟩
  | some heading =>
    obtain ⟨options, ss, hss⟩ := h
    cases options with
    | nil => cases hss; exact ⟨ss, rfl⟩
    | cons o options => cases hss; exact ⟨options, ss, rfl⟩

theorem open_of_continues {heading option value : String} {es : List Event}
    (h : Continues current (.value heading option value :: es)) : current = some heading := by
  cases current with
  | none =>
    obtain ⟨ss, hss⟩ := h
    cases ss <;> cases hss
  | some heading' =>
    obtain ⟨options, ss, hss⟩ := h
    cases options <;> cases hss
    rfl

theorem foldl_leavesOpen {heading option value : String} {before es : List Event}
    (h : Continues current (before ++ .value heading option value :: es)) :
    before.foldl Event.leavesOpen current = some heading := by
  induction before generalizing current with
  | nil => exact open_of_continues h
  | cons e before ih => exact ih (continues_tail h)

/-- A text tells a value only while the section of that value is open. -/
theorem open_at_value {text heading option value : String} {before after : List Event}
    (h : (trace text).1 = before ++ .value heading option value :: after) :
    before.foldl Event.leavesOpen none = some heading := by
  obtain ⟨ss, rest, hss⟩ := trace_prefix text
  have hcontinues : Continues none (before ++ .value heading option value :: (after ++ rest)) :=
    ⟨ss, by rw [← hss, h, List.append_assoc, List.cons_append]⟩
  exact foldl_leavesOpen hcontinues

end Source

/-! ## (2) The place of a compiler -/

/-- A place is that of a section: one of the two for definitions, or the last rule of the draft,
    which has the heading of the section. -/
def Place.IsOf (d : Draft) (heading : String) : Place → Prop
  | .groups => heading = "groups"
  | .aliases => heading = "aliases"
  | .rule i => i + 1 = d.rules.length ∧ (d.rules[i]?).map (·.heading) = some heading

/-- A compiler is in the open section, and nowhere if none is open. -/
def Compiler.IsIn (c : Compiler) : Option String → Prop
  | none => c.place = none
  | some heading => ∃ p, c.place = some p ∧ p.IsOf c.draft heading

namespace Draft

variable {d d' : Draft} {p : Place} {heading : String}

theorem isOf_of_enter {c : Compiler} (h : c.enter heading = .ok (p, d)) : p.IsOf d heading := by
  obtain ⟨hheading, rfl, -⟩ | ⟨hheading, rfl, -⟩ | ⟨-, rfl, hopen⟩ := enter_eq_ok h
  · exact hheading
  · exact hheading
  · obtain ⟨w, hw, hrules, -⟩ := openRule_eq_ok hopen
    obtain ⟨header, -, -, hw⟩ := WrittenRule.ofHeading?_eq_some hw
    refine ⟨by rw [hrules, List.length_append, List.length_singleton], ?_⟩
    rw [hrules, List.getElem?_concat_length, hw]
    rfl

/-- An option that is taken, whatever its section, leaves the place that of the open section. -/
theorem isOf_of_addTo {told : String} {o : String × String} (hp : p.IsOf d heading) (h : d.addTo p told o = .ok d') :
    p.IsOf d' heading := by
  cases p with
  | groups => exact hp
  | aliases => exact hp
  | rule i =>
    obtain ⟨g, -, hrules, -⟩ := addEntry_eq_ok h
    obtain ⟨hlast, hheading⟩ := hp
    obtain ⟨r, hr, hname⟩ := Option.map_eq_some_iff.mp hheading
    obtain ⟨-, hkept, -, -⟩ := r.grant_frame g.1 g.2
    refine ⟨by rw [hrules, List.length_modify, hlast], ?_⟩
    rw [hrules, List.getElem?_modify_eq, hr, ← hname, ← hkept]
    rfl

end Draft

namespace Compiler

variable {c c' : Compiler} {current : Option String}

theorem isIn_take {e : Event} (hc : c.IsIn current) (h : c.take e = .ok c') : c'.IsIn (e.leavesOpen current) := by
  cases e with
  | opened heading =>
    obtain ⟨-, p, d, henter, rfl⟩ := opened_eq_ok h
    exact ⟨p, rfl, Draft.isOf_of_enter henter⟩
  | value told option value =>
    cases current with
    | none =>
      -- A compiler without a place takes no value.
      have hrefused : c.value told option value = .error (.unknownSection told) := by
        unfold Compiler.value
        rw [show c.place = none from hc]
      rw [take, hrefused] at h
      cases h
    | some heading =>
      obtain ⟨p, hp, hof⟩ := hc
      obtain ⟨d, hd, rfl⟩ := value_eq_ok hp h
      exact ⟨p, hp, Draft.isOf_of_addTo hof hd⟩
  | closed heading =>
    cases h
    rfl

theorem isIn_feed {es : List Event} (hc : c.IsIn current) (h : feed receive c es = (c', none)) :
    c'.IsIn (es.foldl Event.leavesOpen current) := by
  induction es generalizing c current with
  | nil => cases h; exact hc
  | cons e es ih =>
    obtain ⟨c₁, htake, h⟩ := feed_cons_eq h
    exact ih (isIn_take hc htake) h

end Compiler

/-! ## (3) What an option leaves alone -/

/-- Two drafts differ at most in what the place is about: the groups, the aliases, or one rule. -/
def Place.Keeps (d d' : Draft) : Place → Prop
  | .groups => d'.rules = d.rules ∧ d'.aliases = d.aliases
  | .aliases => d'.rules = d.rules ∧ d'.groups = d.groups
  | .rule i => d'.groups = d.groups ∧ d'.aliases = d.aliases ∧ d'.rules.length = d.rules.length ∧
      ∀ j, j ≠ i → d'.rules[j]? = d.rules[j]?

theorem Place.keeps_refl (p : Place) (d : Draft) : p.Keeps d d := by
  cases p with
  | groups => exact ⟨rfl, rfl⟩
  | aliases => exact ⟨rfl, rfl⟩
  | rule i => exact ⟨rfl, rfl, rfl, fun _ _ => rfl⟩

namespace Draft

variable {d d' : Draft} {p : Place} {heading : String} {o : String × String}

theorem keeps_addTo (h : d.addTo p heading o = .ok d') : p.Keeps d d' := by
  cases p with
  | groups =>
    obtain ⟨-, -, hrules, haliases, -⟩ := addGroup_eq_ok h
    exact ⟨hrules, haliases⟩
  | aliases =>
    obtain ⟨-, -, hrules, hgroups, -⟩ := addAlias_eq_ok h
    exact ⟨hrules, hgroups⟩
  | rule i =>
    obtain ⟨g, -, hrules, hgroups, haliases, -⟩ := addEntry_eq_ok h
    refine ⟨hgroups, haliases, by rw [hrules, List.length_modify], ?_⟩
    intro j hj
    rw [hrules, List.getElem?_modify_ne _ _ (Ne.symm hj)]

/-- What is wrong with an option is never that its section is not known. -/
theorem addTo_ne_unknownSection (d : Draft) (p : Place) (heading : String) (o : String × String) (other : String) :
    d.addTo p heading o ≠ .error (.unknownSection other) := by
  cases p with
  | groups =>
    show d.addGroup heading o.1 o.2 ≠ _
    unfold addGroup
    split
    · simp
    · split <;> simp
  | aliases =>
    show d.addAlias heading o.1 o.2 ≠ _
    unfold addAlias
    split
    · simp
    · split <;> simp
  | rule i =>
    show d.addEntry i heading o.1 o.2 ≠ _
    unfold addEntry
    split
    · simp
    · split <;> simp

end Draft

/-! ## (4) Values in their place -/

namespace Compiler

theorem value_eq_map {c : Compiler} {p : Place} (hp : c.place = some p) (heading option value : String) :
    c.value heading option value = (c.draft.addTo p heading (option, value)).map fun draft => { c with draft } := by
  cases p <;> simp only [Compiler.value, hp, Draft.addTo]

/-- Told a value, a compiler with a place changes its draft at that place, or refuses the value
    for another reason than that it does not know its section. -/
theorem receive_value {c : Compiler} {p : Place} (hp : c.place = some p) (heading option value : String) :
    ∃ d, (receive c (.value heading option value)).1 = { c with draft := d } ∧ p.Keeps c.draft d ∧
      ∀ other, (receive c (.value heading option value)).2 ≠ some (.unknownSection other) := by
  have hother := c.draft.addTo_ne_unknownSection p heading (option, value)
  unfold receive
  rw [take, value_eq_map hp]
  rcases hadd : c.draft.addTo p heading (option, value) with err | d
  · refine ⟨c.draft, rfl, p.keeps_refl c.draft, ?_⟩
    intro other herr
    exact hother other (by rw [hadd, Option.some.inj herr])
  · refine ⟨d, rfl, Draft.keeps_addTo hadd, ?_⟩
    intro other herr
    cases herr

/-- Whatever has been compiled before, as `compile` tells it a text a compiler has taken all events
    before a value, and its place is the section of the value: a rule is the last one and has the
    heading of that section. The value changes nothing but this place. -/
theorem value_in_place (c : Compiler) (role : TextRole) {text heading option value : String}
    {refusal : Option LoadError} (before after : List Call)
    (h : calls receive { c with role, seen := [], place := none } text =
      before ++ ⟨.value heading option value, refusal⟩ :: after) :
    ∃ c₁ p d, feed receive { c with role, seen := [], place := none } (before.map (·.event)) = (c₁, none) ∧
      c₁.place = some p ∧ p.IsOf c₁.draft heading ∧
      receive c₁ (.value heading option value) = ({ c₁ with draft := d }, refusal) ∧ p.Keeps c₁.draft d ∧
      ∀ other, refusal ≠ some (.unknownSection other) := by
  rw [calls_eq] at h
  obtain ⟨c₁, rest, htrace, hfeed, hrefusal⟩ := feed_of_callsOf h
  have hstart : { c with role, seen := [], place := none }.IsIn none := rfl
  have hin : c₁.IsIn (some heading) := by
    rw [← open_at_value htrace]
    exact isIn_feed hstart hfeed
  obtain ⟨p, hp, hof⟩ := hin
  obtain ⟨d, hd, hkeeps, hother⟩ := receive_value hp heading option value
  rw [show (receive c₁ (.value heading option value)).2 = refusal from hrefusal] at hother
  exact ⟨c₁, p, d, hfeed, hp, hof, Prod.ext hd hrefusal, hkeeps, hother⟩

/-- A value that is refused is told in its place, too: that of the second rule, with the groups
    from another text. -/
theorem value_in_place_refused :
    ∃ c c₁ p d, start.compile .groupsOnly "[groups]\nteam = harry\n" = .ok c ∧
      calls receive { c with role := .rules, groupsGiven := true, seen := [], place := none }
          "[/]\n* = r\n[/a]\n@team = rw\n* = x\n" =
        [.taken (.opened "/"), .taken (.value "/" "*" "r"), .taken (.closed "/"), .taken (.opened "/a"),
          .taken (.value "/a" "@team" "rw"), ⟨.value "/a" "*" "x", some (.unknownRight "/a" "*" "x" 'x')⟩] ∧
      c₁.place = some p ∧ p.IsOf c₁.draft "/a" ∧
      receive c₁ (.value "/a" "*" "x") = ({ c₁ with draft := d }, some (.unknownRight "/a" "*" "x" 'x')) ∧
      p.Keeps c₁.draft d := by
  have hload : (start.compile .groupsOnly "[groups]\nteam = harry\n").toOption.any (fun c =>
      decide (calls receive { c with role := .rules, groupsGiven := true, seen := [], place := none }
          "[/]\n* = r\n[/a]\n@team = rw\n* = x\n" =
        [.taken (.opened "/"), .taken (.value "/" "*" "r"), .taken (.closed "/"), .taken (.opened "/a"),
          .taken (.value "/a" "@team" "rw"), ⟨.value "/a" "*" "x", some (.unknownRight "/a" "*" "x" 'x')⟩])) = true := by
    decide +kernel
  obtain ⟨c, hc, hcalls⟩ := exists_ok_of_any hload
  have hcalls := of_decide_eq_true hcalls
  obtain ⟨c₁, p, d, -, hp, hof, hreceive, hkeeps, -⟩ :=
    value_in_place { c with groupsGiven := true } .rules [_, _, _, _, _] [] hcalls
  exact ⟨c, c₁, p, d, hc, hcalls, hp, hof, hreceive, hkeeps⟩

end Compiler

end PathAuthz
