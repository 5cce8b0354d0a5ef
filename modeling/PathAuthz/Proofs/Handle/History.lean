/-
  PathAuthz.Proofs.Handle.History — what a handle serves after any steps of its clients.

  (1) `Session.after` takes steps in a row. A step is one client's and happens at once, so
  whatever several clients do is a list of steps in the order in which they take effect.

  (2) `SessionStep.change?` is what a step makes the handle serve, if it changes that at all.
  After any steps a handle serves what the last change made it serve, or what it was made
  with if nothing changed it (`served_after_iff`). Failures never bring back a model
  (`served_after_failures`).

  (3) A kept snapshot stays as it is until its own client keeps another one under its name
  (`saved?_after`). Serial numbers are never used twice (`Issued`), so asking whether a kept
  snapshot is still the one served is answered truly (`verdict_same`).

  (4) `fails_closed` puts this together: no answer comes from anything but the model last
  served, none is "yes" after a failed reload, and old snapshots go on answering.
-/

import Mathlib.Data.List.Induction
import PathAuthz.Handle
import PathAuthz.Proofs.Outcome

namespace PathAuthz

/-! ## (1) Steps in a row -/

namespace Session

def after (s : Session) (steps : List SessionStep) : Session := steps.foldl (fun s t => (s.step t).1) s

@[simp] theorem after_nil (s : Session) : s.after [] = s := rfl

@[simp] theorem after_cons (s : Session) (t : SessionStep) (steps : List SessionStep) :
    s.after (t :: steps) = (s.step t).1.after steps := rfl

theorem after_append (s : Session) (before more : List SessionStep) :
    s.after (before ++ more) = (s.after before).after more := List.foldl_append

/-- The model that is served, if there is one. -/
def served (s : Session) : Option Model := s.handle.current.map (·.model)

/-- A new handle, of a model or failed from the start, and no snapshots yet. -/
def created : Option Model → Session
  | none => .start
  | some m => ⟨Handle.start.serve m, []⟩

@[simp] theorem served_created (creation : Option Model) : (created creation).served = creation := by
  cases creation <;> rfl

end Session

/-! ## (2) Changes -/

/-- What a step makes the handle serve. Only a reload stops serving when the texts do not load. -/
def SessionStep.change? : SessionStep → Option (Option Model)
  | .fail => some none
  | .load rules groups => (Model.load rules groups).toOption.map some
  | .replace rules groups => (Model.load rules groups).toOption.map some
  | .reload rules groups => some (Model.load rules groups).toOption
  | .check .. => none
  | .save _ => none
  | .same _ => none

def SessionStep.Succeeds (t : SessionStep) : Prop := ∃ m, t.change? = some (some m)

/-- A handle made with `creation` was last made to serve `what`. -/
def LastChange (creation : Option Model) (steps : List SessionStep) (what : Option Model) : Prop :=
  (what = creation ∧ ∀ t ∈ steps, t.change? = none) ∨
    ∃ before t quiet, steps = before ++ t :: quiet ∧ t.change? = some what ∧ ∀ u ∈ quiet, u.change? = none

namespace Session

theorem served_changed_replaceBy (s : Session) (rules : String) (groups : Option String) :
    (s.changed (s.handle.replaceBy rules groups)).1.served =
      ((Model.load rules groups).toOption.map some).getD s.served := by
  unfold Handle.replaceBy
  rcases Model.load rules groups with err | m <;> rfl

theorem served_step (s : Session) (t : SessionStep) : (s.step t).1.served = t.change?.getD s.served := by
  cases t with
  | fail => rfl
  | load rules groups => exact served_changed_replaceBy s rules groups
  | replace rules groups => exact served_changed_replaceBy s rules groups
  | reload rules groups =>
    simp only [step, Handle.reload, SessionStep.change?]
    rcases Model.load rules groups with err | m <;> rfl
  | check => rfl
  | save name =>
    simp only [step]
    split <;> rfl
  | same name =>
    simp only [step]
    split <;> rfl

theorem served_after_quiet {steps : List SessionStep} (h : ∀ t ∈ steps, t.change? = none) (s : Session) :
    (s.after steps).served = s.served := by
  induction steps generalizing s with
  | nil => rfl
  | cons t steps ih =>
    obtain ⟨ht, hrest⟩ := List.forall_mem_cons.mp h
    rw [after_cons, ih hrest, served_step, ht, Option.getD_none]

theorem lastChange_served (s : Session) (steps : List SessionStep) :
    LastChange s.served steps (s.after steps).served := by
  induction steps using List.reverseRecOn with
  | nil => exact .inl ⟨rfl, List.forall_mem_nil _⟩
  | append_singleton steps t ih =>
    rw [after_append, after_cons, after_nil, served_step]
    rcases ht : t.change? with _ | what
    · have hquiet : ∀ u ∈ [t], u.change? = none := by simpa using ht
      rcases ih with ⟨hsame, hsteps⟩ | ⟨before, u, quiet, hsteps, hu, hq⟩
      · exact .inl ⟨hsame, List.forall_mem_append.mpr ⟨hsteps, hquiet⟩⟩
      · exact .inr ⟨before, u, quiet ++ [t], by simp [hsteps], hu, List.forall_mem_append.mpr ⟨hq, hquiet⟩⟩
    · exact .inr ⟨steps, t, [], rfl, ht, List.forall_mem_nil _⟩

theorem served_after_iff (s : Session) (steps : List SessionStep) (what : Option Model) :
    (s.after steps).served = what ↔ LastChange s.served steps what := by
  constructor
  · rintro rfl
    exact lastChange_served s steps
  · rintro (⟨rfl, hquiet⟩ | ⟨before, t, quiet, rfl, ht, hquiet⟩)
    · exact served_after_quiet hquiet s
    · rw [after_append, after_cons, served_after_quiet hquiet, served_step, ht, Option.getD_some]

theorem served_after_failures {steps : List SessionStep} (h : ∀ t ∈ steps, ¬t.Succeeds) {s : Session}
    (hs : s.served = none) : (s.after steps).served = none := by
  induction steps generalizing s with
  | nil => exact hs
  | cons t steps ih =>
    obtain ⟨ht, hrest⟩ := List.forall_mem_cons.mp h
    refine ih hrest ?_
    rw [served_step, hs]
    rcases hc : t.change? with _ | _ | m
    · rfl
    · rfl
    · exact absurd ⟨m, hc⟩ ht

theorem served_eq_none_iff {s : Session} : s.served = none ↔ s.handle.current = none := Option.map_eq_none_iff

/-- A check is answered by the model that is served, and denied if there is none. -/
theorem verdict_check (s : Session) (repo path : String) (who : Identity) (required : Access) (recursive : Bool) :
    (s.step (.check repo path who required recursive)).2 =
      .verdict (s.served.any (·.check repo path who required recursive)) := by
  simp only [step, Handle.check, served]
  rcases s.handle.current with _ | snapshot <;> rfl

/-! ## (3) Snapshots -/

theorem changed_saved (s : Session) (change : Handle × Option LoadError) : (s.changed change).1.saved = s.saved := by
  obtain ⟨h, _ | err⟩ := change <;> rfl

theorem saved?_step {s : Session} {t : SessionStep} {name : String} (h : t ≠ .save name) :
    (s.step t).1.saved? name = s.saved? name := by
  cases t with
  | fail => rfl
  | load | replace | reload => exact congrArg (List.lookup name) (changed_saved s _)
  | check => rfl
  | save other =>
    have hne : (name == other) = false := by
      rw [beq_eq_false_iff_ne]
      rintro rfl
      exact h rfl
    simp only [step]
    split
    · rfl
    · simp only [saved?, List.lookup_cons, hne]
  | same other =>
    simp only [step]
    split <;> rfl

theorem saved?_after {steps : List SessionStep} {name : String} (h : ∀ t ∈ steps, t ≠ .save name) (s : Session) :
    (s.after steps).saved? name = s.saved? name := by
  induction steps generalizing s with
  | nil => rfl
  | cons t steps ih =>
    obtain ⟨ht, hrest⟩ := List.forall_mem_cons.mp h
    rw [after_cons, ih hrest, saved?_step ht]

theorem saved?_save {s : Session} {m : Model} (h : s.served = some m) (name : String) :
    ∃ kept, (s.step (.save name)).1.saved? name = some kept ∧ kept.model = m := by
  obtain ⟨snapshot, hcurrent, hm⟩ := Option.map_eq_some_iff.mp h
  refine ⟨snapshot, ?_, hm⟩
  simp only [step, hcurrent, saved?, List.lookup_cons_self]

/-- The snapshots that can still answer something. -/
def snapshots (s : Session) : List Snapshot := s.handle.current.toList ++ s.saved.map (·.2)

structure Issued (s : Session) : Prop where
  below : ∀ a ∈ s.snapshots, a.serial < s.handle.issued
  distinct : ∀ a ∈ s.snapshots, ∀ b ∈ s.snapshots, a.serial = b.serial → a = b

theorem step_cases (s : Session) (t : SessionStep) :
    (∃ m, (s.step t).1 = { s with handle := s.handle.serve m }) ∨ (s.step t).1 = { s with handle := s.handle.clear } ∨
      (s.step t).1 = s ∨
      ∃ name snapshot, s.handle.current = some snapshot ∧ (s.step t).1 = { s with saved := (name, snapshot) :: s.saved } := by
  cases t with
  | fail => exact .inr (.inl rfl)
  | load rules groups | replace rules groups =>
    simp only [step, Handle.replaceBy]
    rcases Model.load rules groups with err | m
    · exact .inr (.inr (.inl rfl))
    · exact .inl ⟨m, rfl⟩
  | reload rules groups =>
    simp only [step, Handle.reload]
    rcases Model.load rules groups with err | m
    · exact .inr (.inl rfl)
    · exact .inl ⟨m, rfl⟩
  | check => exact .inr (.inr (.inl rfl))
  | save name =>
    simp only [step]
    split
    · exact .inr (.inr (.inl rfl))
    · rename_i snapshot hcurrent
      exact .inr (.inr (.inr ⟨name, snapshot, hcurrent, rfl⟩))
  | same name =>
    simp only [step]
    split <;> exact .inr (.inr (.inl rfl))

theorem issued_mono {s s' : Session} (h : s.Issued) (hsub : ∀ a ∈ s'.snapshots, a ∈ s.snapshots)
    (hissued : s.handle.issued = s'.handle.issued) : s'.Issued :=
  ⟨fun a ha => hissued ▸ h.below a (hsub a ha), fun a ha b hb => h.distinct a (hsub a ha) b (hsub b hb)⟩

theorem issued_serve {s : Session} (h : s.Issued) (m : Model) : Issued { s with handle := s.handle.serve m } := by
  have hmem : ∀ a ∈ snapshots { s with handle := s.handle.serve m }, a = ⟨s.handle.issued, m⟩ ∨ a ∈ s.snapshots := by
    intro a ha
    rcases List.mem_append.mp ha with ha | ha
    · exact .inl (by simpa [Handle.serve] using ha)
    · exact .inr (List.mem_append_right _ ha)
  refine ⟨fun a ha => ?_, fun a ha b hb he => ?_⟩
  · rcases hmem a ha with rfl | ha
    · exact Nat.lt_succ_self _
    · exact Nat.lt_succ_of_lt (h.below a ha)
  · rcases hmem a ha with rfl | ha <;> rcases hmem b hb with rfl | hb
    · rfl
    · exact absurd he (Nat.ne_of_gt (h.below b hb))
    · exact absurd he (Nat.ne_of_lt (h.below a ha))
    · exact h.distinct a ha b hb he

theorem issued_step {s : Session} (h : s.Issued) (t : SessionStep) : (s.step t).1.Issued := by
  rcases s.step_cases t with ⟨m, hs⟩ | hs | hs | ⟨name, snapshot, hcurrent, hs⟩ <;> rw [hs]
  · exact issued_serve h m
  · exact issued_mono h (fun a ha => List.mem_append_right _ ha) rfl
  · exact h
  · refine issued_mono h (fun a ha => ?_) rfl
    simp only [snapshots, hcurrent, List.map_cons, Option.toList_some] at ha ⊢
    simpa using ha

theorem issued_after {s : Session} (h : s.Issued) (steps : List SessionStep) : (s.after steps).Issued := by
  induction steps generalizing s with
  | nil => exact h
  | cons t steps ih => exact ih (issued_step h t)

theorem issued_created (creation : Option Model) : (created creation).Issued := by
  have hstart : Issued .start := ⟨fun a ha => absurd ha (List.not_mem_nil), fun a ha => absurd ha (List.not_mem_nil)⟩
  cases creation with
  | none => exact hstart
  | some m => exact issued_serve hstart m

/-- A kept snapshot is the one that is served if the answer says so. -/
theorem verdict_same (creation : Option Model) (steps : List SessionStep) {name : String} {kept now : Snapshot}
    (hkept : ((created creation).after steps).saved? name = some kept)
    (hnow : ((created creation).after steps).handle.current = some now) :
    (((created creation).after steps).step (.same name)).2 = .verdict (kept == now) := by
  have hissued := issued_after (issued_created creation) steps
  generalize (created creation).after steps = s at hkept hnow hissued
  have hkept' : kept ∈ s.snapshots := by
    obtain ⟨before, more, hsaved, -⟩ := List.lookup_eq_some_iff.mp hkept
    simp [snapshots, hsaved]
  have hnow' : now ∈ s.snapshots := by simp [snapshots, hnow]
  have hserial : (kept.serial == now.serial) = (kept == now) := by
    rw [Bool.eq_iff_iff, beq_iff_eq, beq_iff_eq]
    exact ⟨hissued.distinct kept hkept' now hnow', congrArg _⟩
  simp only [step, hkept, hnow, hserial]

/-! ## (4) Every history -/

theorem step_replace_error {rules : String} {groups : Option String} {err : LoadError}
    (h : Model.load rules groups = .error err) (s : Session) : s.step (.replace rules groups) = (s, .refused err) := by
  simp only [step, Handle.replaceBy, h]
  rfl

theorem served_reload_error {rules : String} {groups : Option String} {err : LoadError}
    (h : Model.load rules groups = .error err) (s : Session) : (s.step (.reload rules groups)).1.served = none := by
  rw [served_step, SessionStep.change?, h]
  rfl

theorem fails_closed (creation : Option Model) (steps : List SessionStep) {s : Session}
    (hs : (created creation).after steps = s) :
    (∀ what, s.served = what ↔ LastChange creation steps what) ∧
    (∀ repo path who required recursive, (s.step (.check repo path who required recursive)).2 =
      .verdict (s.served.any (·.check repo path who required recursive))) ∧
    (∀ rules groups err, Model.load rules groups = .error err →
      s.step (.replace rules groups) = (s, .refused err) ∧
      ∀ more : List SessionStep, (∀ t ∈ more, ¬t.Succeeds) →
        ((s.step (.reload rules groups)).1.after more).handle.current = none ∧
        ∀ repo path who required recursive,
          (((s.step (.reload rules groups)).1.after more).step (.check repo path who required recursive)).2 =
            .verdict false) ∧
    (∀ m, s.served = some m → ∀ name, ∀ more : List SessionStep, (∀ t ∈ more, t ≠ .save name) →
      ∃ kept, ((s.step (.save name)).1.after more).saved? name = some kept ∧ kept.model = m) := by
  refine ⟨fun what => ?_, verdict_check s, fun rules groups err herr => ⟨step_replace_error herr s, fun more hmore => ?_⟩,
    fun m hm name more hmore => ?_⟩
  · rw [← hs, served_after_iff, served_created]
  · have hnone := served_after_failures hmore (served_reload_error herr s)
    refine ⟨served_eq_none_iff.mp hnone, fun repo path who required recursive => ?_⟩
    rw [verdict_check, hnone, Option.any_none]
  · obtain ⟨kept, hkept, hmodel⟩ := saved?_save hm name
    exact ⟨kept, by rw [saved?_after hmore, hkept], hmodel⟩

/-- Even with an earlier snapshot kept, nothing is granted after a failed reload, not even nothing. -/
theorem denied_after_a_failed_reload :
    ∃ m, Model.load "[/]\n* = rw\n" none = .ok m ∧
      ∀ s, (created none).after [.load "[/]\n* = rw\n" none, .save "old", .reload "[/]\n@missing = r\n" none] = s →
        s.served = none ∧ (s.step (.check "" "/" .anonymous .none false)).2 = .verdict false ∧
          ∃ kept, s.saved? "old" = some kept ∧ kept.model = m := by
  obtain ⟨m, hm, -⟩ := exists_ok_of_any (x := Model.load "[/]\n* = rw\n" none) (p := fun _ => true) (by decide +kernel)
  refine ⟨m, hm, ?_⟩
  rintro _ rfl
  have hlast : LastChange none [.load "[/]\n* = rw\n" none, .save "old", .reload "[/]\n@missing = r\n" none] none :=
    .inr ⟨[.load "[/]\n* = rw\n" none, .save "old"], .reload "[/]\n@missing = r\n" none, [], rfl, by decide +kernel,
      List.forall_mem_nil _⟩
  obtain ⟨hserved, hcheck, -, -⟩ :=
    fails_closed none [.load "[/]\n* = rw\n" none, .save "old", .reload "[/]\n@missing = r\n" none] rfl
  have hnone := (hserved none).mpr hlast
  obtain ⟨hloaded, -, -, hkept⟩ := fails_closed none [.load "[/]\n* = rw\n" none] rfl
  have hsome : LastChange none [.load "[/]\n* = rw\n" none] (some m) :=
    .inr ⟨[], _, [], rfl, by rw [SessionStep.change?, hm]; rfl, List.forall_mem_nil _⟩
  refine ⟨hnone, by rw [hcheck, hnone]; rfl, ?_⟩
  exact hkept m ((hloaded _).mpr hsome) "old" [.reload "[/]\n@missing = r\n" none] (by simp)

end Session

end PathAuthz
