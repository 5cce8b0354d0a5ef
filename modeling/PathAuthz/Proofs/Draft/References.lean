/-
  PathAuthz.Proofs.Draft.References — what a draft refers to, and when a refusal is true of it.

  (1) `Mentions` says where a subject is written, in a definition or in an entry, and
  `Defines` that there is something behind it. Groups refer to groups (`Refers`), and a group
  lies on a cycle if a chain of references leads from it back to it (`OnCycle`). A group
  `Reaches` a user if some chain leads to a definition that holds the user, by name or by an
  alias; that name or alias `StandsFor` the user (`mentions_of_reaches`).

  (2) `Explains` says that an error is true of the draft: a recursive group lies on a cycle; an
  undefined group or alias is undefined, and its referrer mentions it. No other error is. What
  keeps a draft free of such faults is said by `resolvable_of_mentions`.

  (3) `Faithful P` is what is proved of every step that follows references: what it yields
  satisfies `P`, or else it refuses with an error that the draft explains. One lemma for each
  way of combining outcomes (`faithful_bind`, `faithful_map`, `faithful_mapM`).
-/

import Mathlib.Data.List.Nodup
import Mathlib.Logic.Relation
import PathAuthz.Draft

namespace PathAuthz.Draft

/-! ## (1) References -/

def Mentions (d : Draft) : Referrer → Subject → Prop
  | .group name, s => ∃ g ∈ d.groups, g.name = name ∧ s ∈ g.members
  | .rule heading, s => ∃ w ∈ d.rules, w.heading = heading ∧ ∃ e ∈ w.entries, e.subject = s

/-- Whether there is something behind a subject. A user needs no definition. -/
def Defines (d : Draft) : Subject → Prop
  | .user _ => True
  | .group name => ∃ g ∈ d.groups, g.name = name
  | .viaAlias name => ∃ a ∈ d.aliases, a.name = name

def Refers (d : Draft) (outer inner : String) : Prop := d.Mentions (.group outer) (.group inner)

def OnCycle (d : Draft) (group : String) : Prop := Relation.TransGen d.Refers group group

inductive Reaches (d : Draft) : String → String → Prop
  | user {group user : String} {g : GroupDefinition} :
      d.group? group = some g → .user user ∈ g.members → Reaches d group user
  | viaAlias {group name : String} {g : GroupDefinition} {a : AliasDefinition} :
      d.group? group = some g → .viaAlias name ∈ g.members → d.alias? name = some a → Reaches d group a.user
  | nested {group inner user : String} {g : GroupDefinition} :
      d.group? group = some g → .group inner ∈ g.members → Reaches d inner user → Reaches d group user

/-- Whether a subject that is no group stands for a user, as that user's name or an alias. -/
def StandsFor (d : Draft) : Subject → String → Prop
  | .user name, u => u = name
  | .viaAlias name, u => ∃ a, d.alias? name = some a ∧ u = a.user
  | .group _, _ => False

variable {d : Draft}

theorem group?_eq_some {name : String} {g : GroupDefinition} (h : d.group? name = some g) :
    g ∈ d.groups ∧ g.name = name :=
  ⟨List.mem_of_find?_eq_some h, by simpa using List.find?_some h⟩

theorem group?_eq_none_iff {name : String} : d.group? name = none ↔ ¬d.Defines (.group name) := by
  simp [group?, Defines]

theorem alias?_eq_some {name : String} {a : AliasDefinition} (h : d.alias? name = some a) :
    a ∈ d.aliases ∧ a.name = name :=
  ⟨List.mem_of_find?_eq_some h, by simpa using List.find?_some h⟩

theorem alias?_eq_none_iff {name : String} : d.alias? name = none ↔ ¬d.Defines (.viaAlias name) := by
  simp [alias?, Defines]

theorem defines_of_group? {name : String} {g : GroupDefinition} (h : d.group? name = some g) :
    d.Defines (.group name) :=
  ⟨g, group?_eq_some h⟩

theorem mentions_of_group? {name : String} {g : GroupDefinition} (h : d.group? name = some g) {s : Subject}
    (hs : s ∈ g.members) : d.Mentions (.group name) s :=
  ⟨g, (group?_eq_some h).1, (group?_eq_some h).2, hs⟩

/-- Where no name is defined twice, a definition is found under its name. -/
theorem find?_eq_some_of_mem {α : Type} {name : α → String} {as : List α} (hnames : (as.map name).Nodup) {a : α}
    (ha : a ∈ as) : as.find? (name · == name a) = some a := by
  obtain ⟨b, hb⟩ : ∃ b, as.find? (name · == name a) = some b := by
    refine Option.ne_none_iff_exists'.mp fun hnone => ?_
    exact List.find?_eq_none.mp hnone a ha (beq_self_eq_true _)
  have hname : name b = name a := by simpa using List.find?_some hb
  rw [hb, List.inj_on_of_nodup_map hnames (List.mem_of_find?_eq_some hb) ha hname]

theorem group?_eq_some_of_mem (hnames : (d.groups.map (·.name)).Nodup) {g : GroupDefinition} (hg : g ∈ d.groups) :
    d.group? g.name = some g :=
  find?_eq_some_of_mem hnames hg

theorem alias?_eq_some_of_mem (hnames : (d.aliases.map (·.name)).Nodup) {a : AliasDefinition} (ha : a ∈ d.aliases) :
    d.alias? a.name = some a :=
  find?_eq_some_of_mem hnames ha

/-- Whom a group reaches is written in the definition at the end of the chain. -/
theorem mentions_of_reaches {group u : String} (h : d.Reaches group u) :
    ∃ inner s, d.Mentions (.group inner) s ∧ d.StandsFor s u := by
  induction h with
  | user hg hs => exact ⟨_, _, mentions_of_group? hg hs, rfl⟩
  | viaAlias hg hs ha => exact ⟨_, _, mentions_of_group? hg hs, _, ha, rfl⟩
  | nested _ _ _ ih => exact ih

/-- A group on a cycle refers to something, so it is defined. -/
theorem defines_of_onCycle {group : String} (h : d.OnCycle group) : d.Defines (.group group) := by
  obtain ⟨inner, ⟨g, hg, hname, -⟩, -⟩ := Relation.TransGen.head'_iff.mp h
  exact ⟨g, hg, hname⟩

/-! ## (2) Errors -/

def Explains (d : Draft) : LoadError → Prop
  | .recursiveGroup group => d.OnCycle group
  | .undefinedGroup group referrer => ¬d.Defines (.group group) ∧ d.Mentions referrer (.group group)
  | .undefinedAlias name referrer => ¬d.Defines (.viaAlias name) ∧ d.Mentions referrer (.viaAlias name)
  | _ => False

/-- Where all is defined and nothing leads back to itself, no refusal is true. -/
theorem not_explains (hdefined : ∀ referrer s, d.Mentions referrer s → d.Defines s) (hcycle : ∀ group, ¬d.OnCycle group)
    (err : LoadError) : ¬d.Explains err := by
  intro h
  unfold Explains at h
  split at h
  · exact hcycle _ h
  · exact h.1 (hdefined _ _ h.2)
  · exact h.1 (hdefined _ _ h.2)
  · exact h

/-- A draft that mentions no more than another one, but for users, and defines no less, is as free of faults. -/
theorem resolvable_of_mentions {d' : Draft}
    (hmentions : ∀ referrer s, d'.Mentions referrer s → d.Mentions referrer s ∨ ∃ user, s = .user user)
    (hdefines : ∀ s, d.Defines s → d'.Defines s) (hdefined : ∀ referrer s, d.Mentions referrer s → d.Defines s)
    (hcycle : ∀ group, ¬d.OnCycle group) :
    (∀ referrer s, d'.Mentions referrer s → d'.Defines s) ∧ ∀ group, ¬d'.OnCycle group := by
  constructor
  · intro referrer s hs
    rcases hmentions referrer s hs with hs | ⟨user, rfl⟩
    · exact hdefines s (hdefined referrer s hs)
    · trivial
  · intro group hc
    have hrefers : ∀ outer inner, d'.Refers outer inner → d.Refers outer inner := by
      intro outer inner hr
      rcases hmentions _ _ hr with hr | ⟨user, he⟩
      · exact hr
      · cases he
    exact hcycle group (Relation.TransGen.mono hrefers _ _ hc)

/-! ## (3) Outcomes -/

def Faithful {α : Type} (d : Draft) (P : α → Prop) : Except LoadError α → Prop
  | .ok a => P a
  | .error err => d.Explains err

variable {α β : Type} {P : α → Prop} {Q : β → Prop}

theorem faithful_mono {P' : α → Prop} {x : Except LoadError α} (hx : d.Faithful P x) (h : ∀ a, P a → P' a) :
    d.Faithful P' x := by
  cases x with
  | ok a => exact h a hx
  | error err => exact hx

theorem faithful_bind {x : Except LoadError α} {f : α → Except LoadError β} (hx : d.Faithful P x)
    (hf : ∀ a, P a → d.Faithful Q (f a)) : d.Faithful Q (x >>= f) := by
  cases x with
  | ok a => exact hf a hx
  | error err => exact hx

theorem faithful_map {x : Except LoadError α} {f : α → β} (hx : d.Faithful P x) (hf : ∀ a, P a → Q (f a)) :
    d.Faithful Q (x.map f) := by
  cases x with
  | ok a => exact hf a hx
  | error err => exact hx

/-- A step for each item of a list: each of them has met its condition, or one of them refuses. -/
theorem faithful_mapM {f : α → Except LoadError β} {as : List α} (h : ∀ a ∈ as, d.Faithful (fun _ => P a) (f a)) :
    d.Faithful (fun _ => ∀ a ∈ as, P a) (as.mapM f) := by
  induction as with
  | nil =>
    rw [List.mapM_nil]
    exact List.forall_mem_nil _
  | cons a as ih =>
    obtain ⟨ha, has⟩ := List.forall_mem_cons.mp h
    rw [List.mapM_cons]
    refine faithful_bind ha fun b hb => faithful_bind (ih has) fun bs hbs => ?_
    exact List.forall_mem_cons.mpr ⟨hb, hbs⟩

end PathAuthz.Draft
