/-
  PathAuthz.Proofs.Model.Inlining — the groups in a text of their own, or in front of the rules.

  (1) To compile a text is to take its events one after the other, and then to fail if the
  text has a fault (`compile_eq`). Two runs `Agree` if both succeed, with related compilers, or
  both are refused for the same reason (`takeAll_agree`).

  (2) While groups are defined, a compiler for groups only and one for rules are the same but
  for their role (`Twins`). Behind them they differ in what they know of the heading of the
  groups, which the rules do not use again (`Heirs`).

  (3) So the draft is the same whichever way the groups come (`ofTexts_append`), and so is the
  model (`load_inlined`). A refusal is the same, too, but for the number of the line, which counts
  the lines of the groups if they stand in front.
-/

import PathAuthz.Model
import PathAuthz.Proofs.Draft.Compiles
import PathAuthz.Proofs.Source.Concatenation

namespace PathAuthz

open Source Text

/-! ## (1) Runs that agree -/

/-- Two outcomes: related results, or the same refusal. -/
inductive Agree {α β : Type} (R : α → β → Prop) : Except LoadError α → Except LoadError β → Prop
  | ok {a : α} {b : β} : R a b → Agree R (.ok a) (.ok b)
  | error (err : LoadError) : Agree R (.error err) (.error err)

theorem Agree.bind {α β γ δ : Type} {R : α → β → Prop} {S : γ → δ → Prop} {x : Except LoadError α}
    {y : Except LoadError β} {f : α → Except LoadError γ} {g : β → Except LoadError δ} (h : Agree R x y)
    (hfg : ∀ a b, R a b → Agree S (f a) (g b)) : Agree S (x >>= f) (y >>= g) := by
  cases h with
  | ok hab => exact hfg _ _ hab
  | error err => exact .error err

theorem Agree.cases {α β : Type} {R : α → β → Prop} {x : Except LoadError α} {y : Except LoadError β} (h : Agree R x y) :
    (∃ a b, x = .ok a ∧ y = .ok b ∧ R a b) ∨ ∃ err, x = .error err ∧ y = .error err := by
  cases h with
  | ok hab => exact .inl ⟨_, _, rfl, rfl, hab⟩
  | error err => exact .inr ⟨err, rfl, rfl⟩

namespace Compiler

/-- Take events until one is refused. -/
def takeAll (c : Compiler) (es : List Event) : Except LoadError Compiler := es.foldlM take c

/-- End a text, with its fault if it has one. -/
def ending (fault : Option LoadError) (c : Compiler) : Except LoadError Compiler :=
  match fault with
  | none => .ok c
  | some err => .error err

theorem takeAll_cons (c : Compiler) (e : Event) (es : List Event) :
    c.takeAll (e :: es) = c.take e >>= fun c' => c'.takeAll es := List.foldlM_cons

theorem takeAll_append (c : Compiler) (es fs : List Event) :
    c.takeAll (es ++ fs) = c.takeAll es >>= fun c' => c'.takeAll fs := List.foldlM_append

theorem endWith_feed (es : List Event) (fault : Option LoadError) (c : Compiler) :
    (match endWith (feed receive c es) fault with
      | (c', none) => Except.ok c'
      | (_, some err) => .error err) = c.takeAll es >>= ending fault := by
  induction es generalizing c with
  | nil => cases fault <;> rfl
  | cons e es ih =>
    rw [takeAll_cons, feed, receive]
    rcases c.take e with err | c'
    · rfl
    · exact ih c'

theorem compile_eq (c : Compiler) (role : TextRole) (text : String) :
    c.compile role text =
      takeAll { c with role, seen := [], place := none } (trace text).1 >>= ending (trace text).2 := by
  rw [← endWith_feed, ← stream_eq_feed]
  rfl

theorem takeAll_agree {R : Compiler → Compiler → Prop} {es : List Event}
    (h : ∀ e ∈ es, ∀ c c', R c c' → Agree R (c.take e) (c'.take e)) {c c' : Compiler} (hc : R c c') :
    Agree R (c.takeAll es) (c'.takeAll es) := by
  induction es generalizing c c' with
  | nil => exact .ok hc
  | cons e es ih =>
    obtain ⟨he, hes⟩ := List.forall_mem_cons.mp h
    rw [takeAll_cons, takeAll_cons]
    exact (he c c' hc).bind fun _ _ hc => ih hes hc

/-- What becomes of an option depends on the place and on the draft. -/
theorem value_agree {R : Compiler → Compiler → Prop} {c c' : Compiler} (hplace : c'.place = c.place)
    (hdraft : c'.draft = c.draft) (h : ∀ d, R { c with draft := d } { c' with draft := d }) (heading option value : String) :
    Agree R (c.value heading option value) (c'.value heading option value) := by
  obtain ⟨role, groupsGiven, seen, place, draft⟩ := c
  obtain ⟨role', groupsGiven', seen', place', draft'⟩ := c'
  cases hplace
  cases hdraft
  have hmap : ∀ x : Except LoadError Draft,
      Agree R (x.map fun draft => ⟨role, groupsGiven, seen, place, draft⟩)
        (x.map fun draft => ⟨role', groupsGiven', seen', place, draft⟩) := by
    intro x
    rcases x with err | d
    · exact .error err
    · exact .ok (h d)
  rcases place with _ | _ | _ | i
  · exact .error _
  · exact hmap _
  · exact hmap _
  · exact hmap _

/-! ## (2) With the groups before, or among the rules -/

/-- One compiler takes a text of groups, and the other takes the same as rules. -/
structure Twins (c c' : Compiler) : Prop where
  role : c.role = .groupsOnly
  notGiven : c.groupsGiven = false
  seen : ∀ heading ∈ c.seen, heading = "groups"
  same : c' = { c with role := .rules }

theorem take_twins {e : Event} (he : ∀ heading, e = .opened heading → heading = "groups") {c c' : Compiler}
    (h : Twins c c') : Agree Twins (c.take e) (c'.take e) := by
  obtain ⟨role, groupsGiven, seen, place, draft⟩ := c
  obtain ⟨hrole, hgiven, hseen, rfl⟩ := h
  cases hrole
  cases hgiven
  cases e with
  | opened heading =>
    cases he heading rfl
    simp only [take, opened]
    split
    · exact .error _
    · exact .ok ⟨rfl, rfl, List.forall_mem_cons.mpr ⟨rfl, hseen⟩, rfl⟩
  | value heading option value =>
    refine value_agree (R := Twins) ?_ ?_ (fun d => ?_) heading option value
    · rfl
    · rfl
    · exact ⟨rfl, rfl, hseen, rfl⟩
  | closed heading => exact .ok ⟨rfl, rfl, hseen, rfl⟩

/-- Two compilers in the middle of the rules that may disagree on whether there were groups. -/
structure Heirs (c c' : Compiler) : Prop where
  role : c.role = .rules
  role' : c'.role = .rules
  place : c'.place = c.place
  draft : c'.draft = c.draft
  seen : ∀ heading, heading ≠ "groups" → (heading ∈ c'.seen ↔ heading ∈ c.seen)

theorem enter_heirs {c c' : Compiler} (h : Heirs c c') {heading : String} (hne : heading ≠ "groups") :
    c'.enter heading = c.enter heading := by
  simp only [enter, h.role, h.role', h.draft, if_neg hne]

theorem take_heirs {e : Event} (he : e ≠ .opened "groups") {c c' : Compiler} (h : Heirs c c') :
    Agree Heirs (c.take e) (c'.take e) := by
  cases e with
  | opened heading =>
    have hne : heading ≠ "groups" := fun hh => he (hh ▸ rfl)
    simp only [take, opened, h.seen heading hne, enter_heirs h hne]
    split
    · exact .error _
    · rcases c.enter heading with err | ⟨p, d⟩
      · exact .error err
      · refine .ok ⟨h.role, h.role', rfl, rfl, fun heading' hne' => ?_⟩
        simp only [List.mem_cons, h.seen heading' hne']
  | value heading option value =>
    exact value_agree h.place h.draft (fun d => ⟨h.role, h.role', h.place, rfl, h.seen⟩) heading option value
  | closed heading => exact .ok ⟨h.role, h.role', rfl, h.draft, h.seen⟩

/-- Between two sections a compiler is nowhere. -/
theorem place_feed_sections {ss : List Section} {c c' : Compiler} (hc : c.place = none)
    (h : feed receive c (ss.flatMap Section.events) = (c', none)) : c'.place = none := by
  induction ss generalizing c with
  | nil => cases h; exact hc
  | cons s ss ih =>
    rw [List.flatMap_cons] at h
    obtain ⟨c₁, hs, h⟩ := feed_append_eq h
    obtain ⟨d, rfl⟩ := feed_section_eq hs
    exact ih rfl h

theorem feed_of_takeAll {es : List Event} {c c' : Compiler} (h : c.takeAll es = .ok c') :
    feed receive c es = (c', none) := by
  induction es generalizing c with
  | nil => cases h; rfl
  | cons e es ih =>
    rw [takeAll_cons] at h
    obtain ⟨c₁, htake, h⟩ := bind_eq_ok_iff.mp h
    rw [feed_cons_of_take htake, ih h]

/-- Behind a whole text of groups, the rules are taken alike. -/
theorem heirs_of_twins {text : String} (hfault : (trace text).2 = none) {c₀ c c' : Compiler} (h₀ : c₀.place = none)
    (hc : c₀.takeAll (trace text).1 = .ok c) (h : Twins c c') :
    Heirs { c with groupsGiven := true, role := .rules, seen := [], place := none } c' := by
  have hplace : c.place = none := by
    have hfeed := feed_of_takeAll hc
    rw [trace_eq_flatMap hfault] at hfeed
    exact place_feed_sections h₀ hfeed
  obtain ⟨-, -, hseen, rfl⟩ := h
  refine ⟨rfl, rfl, hplace, rfl, fun heading hne => ?_⟩
  exact iff_of_false (fun hmem => hne (hseen heading hmem)) List.not_mem_nil

end Compiler

/-! ## (3) Drafts and models -/

theorem mem_sectionsOf_of_opened {heading : String} {es : List Event} (h : .opened heading ∈ es) :
    ∃ s ∈ sectionsOf es, s.heading = heading := by
  induction es with
  | nil => cases h
  | cons e es ih =>
    cases e with
    | opened heading' =>
      rcases List.mem_cons.mp h with he | h
      · cases he
        exact ⟨_, List.mem_cons_self, rfl⟩
      · obtain ⟨s, hs, he⟩ := ih h
        exact ⟨s, List.mem_cons_of_mem _ hs, he⟩
    | value _ _ _ | closed _ => exact ih (List.mem_of_ne_of_mem (by simp) h)

variable {groups rules : String}

namespace Compiler

theorem takeAll_twins (h : ∀ s ∈ sections groups, s.heading = "groups") {c c' : Compiler} (hc : Twins c c') :
    Agree Twins (c.takeAll (trace groups).1) (c'.takeAll (trace groups).1) := by
  refine takeAll_agree (fun e he c c' => take_twins ?_) hc
  rintro heading rfl
  obtain ⟨s, hs, rfl⟩ := mem_sectionsOf_of_opened he
  exact h s hs

theorem takeAll_heirs (h : ∀ s ∈ sections rules, s.heading ≠ "groups") {c c' : Compiler} (hc : Heirs c c') :
    Agree Heirs (c.takeAll (trace rules).1) (c'.takeAll (trace rules).1) := by
  refine takeAll_agree (fun e he c c' => take_heirs ?_) hc
  rintro rfl
  obtain ⟨s, hs, hheading⟩ := mem_sectionsOf_of_opened he
  exact h s hs hheading

end Compiler

open Compiler (takeAll ending)

theorem Draft.ofTexts_append (hends : EndsLine groups.toList) (hgroups : ∀ s ∈ sections groups, s.heading = "groups")
    (hopens : opensWithHeader rules = true) (hrules : ∀ s ∈ sections rules, s.heading ≠ "groups") :
    ofTexts (groups ++ rules) none = ofTexts rules (some groups) ∨
      ∃ err, ofTexts rules (some groups) = .error err ∧
        ofTexts (groups ++ rules) none = .error (err.below (lines groups.toList).length) := by
  have htwins : Agree Compiler.Twins (takeAll { Compiler.start with role := .groupsOnly } (trace groups).1)
      (takeAll .start (trace groups).1) :=
    Compiler.takeAll_twins hgroups ⟨rfl, rfl, List.forall_mem_nil _, rfl⟩
  have hinlined : Compiler.start.compile .rules (groups ++ rules) =
      takeAll .start (trace (groups ++ rules)).1 >>= ending (trace (groups ++ rules)).2 := Compiler.compile_eq ..
  have happart : Compiler.start.compile .groupsOnly groups =
      takeAll { Compiler.start with role := .groupsOnly } (trace groups).1 >>= ending (trace groups).2 :=
    Compiler.compile_eq ..
  rw [ofTexts_none, ofTexts_some, hinlined, happart, trace_append hends hopens]
  rcases hfault : (trace groups).2 with _ | err
  · rw [Compiler.takeAll_append]
    rcases htwins.cases with ⟨c, c', hc, hc', htwin⟩ | ⟨err, hc, hc'⟩
    · have hheir := Compiler.heirs_of_twins hfault rfl hc htwin
      simp only [hc, hc', bind, Except.bind, ending, Compiler.compile_eq]
      rcases (Compiler.takeAll_heirs hrules hheir).cases with ⟨c₁, c₁', hc₁, hc₁', hheir₁⟩ | ⟨err, hc₁, hc₁'⟩
      · rw [hc₁, hc₁']
        rcases (trace rules).2 with _ | err
        · left
          simp only [Option.map_none, Except.map, hheir₁.draft]
        · right
          exact ⟨err, rfl, rfl⟩
      · left
        rw [hc₁, hc₁']
    · left
      rw [hc, hc']
      rfl
  · -- The groups end in a fault, and the rules are never seen.
    left
    rcases htwins.cases with ⟨c, c', hc, hc', -⟩ | ⟨err', hc, hc'⟩
    · rw [hc, hc']
      rfl
    · rw [hc, hc']
      rfl

/-- A text of groups may as well be put in front of the rules: the model is the same, or the refusal is but for the
    number of the line. -/
theorem Model.load_inlined (hends : EndsLine groups.toList) (hgroups : ∀ s ∈ sections groups, s.heading = "groups")
    (hopens : opensWithHeader rules = true) (hrules : ∀ s ∈ sections rules, s.heading ≠ "groups") :
    (∃ m, load rules (some groups) = .ok m ∧ load (groups ++ rules) none = .ok m) ∨
      ∃ err, load rules (some groups) = .error err ∧
        (load (groups ++ rules) none = .error err ∨
          load (groups ++ rules) none = .error (err.below (lines groups.toList).length)) := by
  have hload : ∀ rules groups, load rules groups = Draft.ofTexts rules groups >>= ofDraft := fun _ _ => rfl
  rcases Draft.ofTexts_append hends hgroups hopens hrules with hsame | ⟨err, happart, hinlined⟩
  · rw [hload, hload, hsame]
    rcases Draft.ofTexts rules (some groups) >>= ofDraft with err | m
    · exact .inr ⟨err, rfl, .inl rfl⟩
    · exact .inl ⟨m, rfl, rfl⟩
  · rw [hload, hload, happart, hinlined]
    exact .inr ⟨err, rfl, .inr rfl⟩

/-- An alias of the rules text reaches a group of the groups text. -/
theorem Model.load_inlined_alias :
    ∃ m, load "[aliases]\nboss = al\n[/]\n@team = r\n" (some "[groups]\nteam = @inner, &boss\ninner = bob\n") = .ok m ∧
      load "[groups]\nteam = @inner, &boss\ninner = bob\n[aliases]\nboss = al\n[/]\n@team = r\n" none = .ok m ∧
      m.check "" "/" (.user "al") .reading false = true := by
  have hload : (load "[aliases]\nboss = al\n[/]\n@team = r\n"
      (some "[groups]\nteam = @inner, &boss\ninner = bob\n")).toOption.any
        (fun m => m.check "" "/" (.user "al") .reading false) = true := by decide +kernel
  obtain ⟨m, hm, hcheck⟩ := exists_ok_of_any hload
  have htext : "[groups]\nteam = @inner, &boss\ninner = bob\n[aliases]\nboss = al\n[/]\n@team = r\n" =
      "[groups]\nteam = @inner, &boss\ninner = bob\n" ++ "[aliases]\nboss = al\n[/]\n@team = r\n" := by decide
  rcases @load_inlined "[groups]\nteam = @inner, &boss\ninner = bob\n" "[aliases]\nboss = al\n[/]\n@team = r\n"
    (by decide +kernel) (by decide +kernel) (by decide +kernel) (by decide +kernel) with ⟨m', hm', hinlined⟩ | ⟨err, herr, -⟩
  · rw [hm] at hm'
    cases hm'
    exact ⟨m, hm, htext ▸ hinlined, hcheck⟩
  · rw [hm] at herr
    cases herr

end PathAuthz
