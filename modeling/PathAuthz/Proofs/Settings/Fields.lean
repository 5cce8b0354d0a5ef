/-
  PathAuthz.Proofs.Settings.Fields — the fields of the settings in a tree.

  (1) What stands under a name after another node was put there (`lookup_put`).

  (2) A `Field` has a place in a tree, a section and a name, and a variable of its own. Its key
  leads to its place (`stepsOfKey_key`), so a value for one field changes that field and no other
  (`get?_assign`), and leaves the sections tables (`hasTables_assign`).

  (3) An environment that sets fields lays one value after the other over a tree. In the end each
  field holds what its variable says, or what it held before (`get?_addSource`).

  (4) Where the sections are tables, settings are what their four fields are read as, whatever
  else is in the tree (`ofNode_congr`).
-/

import PathAuthz.Settings

namespace PathAuthz.Settings

/-! ## (1) Entries -/

namespace Node

theorem lookup_cons_eq (k other : String) (n : Node) (es : List (String × Node)) :
    ((k, n) :: es).lookup other = if other = k then some n else es.lookup other := by
  by_cases h : other = k
  · rw [h, List.lookup_cons_self, if_pos rfl]
  · rw [List.lookup_cons, beq_false_of_ne h, if_neg h]

theorem lookup_put (name other : String) (n : Node) (es : List (String × Node)) :
    (put name n es).lookup other = if other = name then some n else es.lookup other := by
  induction es with
  | nil => exact lookup_cons_eq name other n []
  | cons e es ih =>
    obtain ⟨k, m⟩ := e
    by_cases hk : k = name
    · rw [put, if_pos hk, lookup_cons_eq, lookup_cons_eq, hk]
      by_cases h : other = name
      · rw [if_pos h, if_pos h]
      · rw [if_neg h, if_neg h, if_neg h]
    · rw [put, if_neg hk, lookup_cons_eq, lookup_cons_eq, ih]
      by_cases h : other = k
      · rw [if_pos h, if_neg fun he => hk (h.symm.trans he)]
        rw [if_pos h]
      · rw [if_neg h, if_neg h]

theorem lookup_entries_get (es : List (String × Node)) (name other : String) :
    (get es name).entries.lookup other = (es.lookup name).bind fun sub => sub.entries.lookup other := by
  rw [get]
  cases es.lookup name <;> rfl

end Node

/-! ## (2) Fields -/

inductive Field where
  | rulesFile
  | groupsFile
  | level
  | format
  deriving DecidableEq, Repr

namespace Field

/-- The section of a field, and its name there. -/
def place : Field → String × String
  | rulesFile => ("authz", "rules_file")
  | groupsFile => ("authz", "groups_file")
  | level => ("logging", "level")
  | format => ("logging", "format")

def key (x : Field) : String := x.place.1 ++ "." ++ x.place.2

/-- The environment variable that sets a field. -/
def variableName : Field → String
  | rulesFile => "REPO_AUTHZ__AUTHZ__RULES_FILE"
  | groupsFile => "REPO_AUTHZ__AUTHZ__GROUPS_FILE"
  | level => "REPO_AUTHZ__LOGGING__LEVEL"
  | format => "REPO_AUTHZ__LOGGING__FORMAT"

/-- What a tree holds at a field. -/
def get? (x : Field) (n : Node) : Option Node :=
  (n.entries.lookup x.place.1).bind fun sub => sub.entries.lookup x.place.2

theorem place_inj {x y : Field} (h : x.place = y.place) : x = y := by
  cases x <;> cases y <;> first | rfl | exact absurd h (by decide)

theorem stepsOfKey_key (x : Field) : Node.stepsOfKey x.key = [.name x.place.1, .name x.place.2] := by
  cases x <;> decide +kernel

theorem variableName_inj {x y : Field} (h : x.variableName = y.variableName) : x = y := by
  cases x <;> cases y <;> first | rfl | exact absurd h (by decide)

theorem keyOfVariable?_variableName (x : Field) : keyOfVariable? x.variableName = some x.key := by
  cases x <;> decide +kernel

end Field

/-- Whether the sections of the fields are tables, where they are there. -/
def HasTables (n : Node) : Prop :=
  ∀ (x : Field) (sub : Node), n.entries.lookup x.place.1 = some sub → ∃ es, sub = .table es

/-- A value for a field goes into the table of its section. -/
theorem assign_field (x : Field) (value : String) (n : Node) :
    Node.assign x.key (.leaf value) n =
      .table (Node.put x.place.1 (.table (Node.put x.place.2 (.leaf value) (Node.get n.entries x.place.1).entries))
        n.entries) := by
  rw [Node.assign, Field.stepsOfKey_key]
  rfl

theorem get?_assign (x y : Field) (value : String) (n : Node) :
    x.get? (Node.assign y.key (.leaf value) n) = if x = y then some (.leaf value) else x.get? n := by
  rw [assign_field, Field.get?, Node.entries, Node.lookup_put]
  by_cases hsection : x.place.1 = y.place.1
  · rw [if_pos hsection, Option.bind_some, Node.entries, Node.lookup_put, Node.lookup_entries_get, ← hsection]
    by_cases hname : x.place.2 = y.place.2
    · rw [if_pos hname, if_pos (Field.place_inj (Prod.ext hsection hname))]
    · have hne : x ≠ y := fun h => hname (congrArg (·.place.2) h)
      rw [if_neg hname, if_neg hne]
      rfl
  · have hne : x ≠ y := fun h => hsection (congrArg (·.place.1) h)
    rw [if_neg hsection, if_neg hne]
    rfl

theorem hasTables_assign (x : Field) (value : String) {n : Node} (h : HasTables n) :
    HasTables (Node.assign x.key (.leaf value) n) := by
  intro y sub hsub
  rw [assign_field, Node.entries, Node.lookup_put] at hsub
  by_cases hsection : y.place.1 = x.place.1
  · rw [if_pos hsection] at hsub
    cases hsub
    exact ⟨_, rfl⟩
  · rw [if_neg hsection] at hsub
    exact h y sub hsub

/-! ## (3) The environment -/

/-- Whether an environment sets fields, each of them once at most, and nothing else of the settings. -/
structure SetsFields (environment : List (String × String)) : Prop where
  names : (environment.map (·.1)).Nodup
  fields : ∀ name ∈ environment.map (·.1), (keyOfVariable? name).isSome = true → ∃ x : Field, name = x.variableName

section

variable {environment : List (String × String)}

theorem addSource_of_other {name : String} (h : keyOfVariable? name = none) (value : String) (n : Node) :
    addSource n (entriesOfEnvironment ((name, value) :: environment)) =
      addSource n (entriesOfEnvironment environment) := by
  simp [entriesOfEnvironment, h]

theorem addSource_of_field (x : Field) (value : String) (n : Node) :
    addSource n (entriesOfEnvironment ((x.variableName, value) :: environment)) =
      addSource (Node.assign x.key (.leaf value) n) (entriesOfEnvironment environment) := by
  simp [entriesOfEnvironment, x.keyOfVariable?_variableName, addSource]

/-- The first variable is none of ours, or it sets a field that no other variable sets. -/
theorem SetsFields.cons_cases {name value : String} (h : SetsFields ((name, value) :: environment)) :
    SetsFields environment ∧
      (keyOfVariable? name = none ∨ ∃ x : Field, name = x.variableName ∧ environment.lookup x.variableName = none) := by
  obtain ⟨hnew, hnames⟩ := List.nodup_cons.mp h.names
  refine ⟨⟨hnames, fun other hother => h.fields other (List.mem_cons_of_mem _ hother)⟩, ?_⟩
  by_cases hours : (keyOfVariable? name).isSome = true
  · obtain ⟨x, rfl⟩ := h.fields name List.mem_cons_self hours
    refine .inr ⟨x, rfl, List.lookup_eq_none_iff.mpr fun entry hentry => ?_⟩
    have hne : x.variableName ≠ entry.1 := fun he => hnew (List.mem_map.mpr ⟨entry, hentry, he.symm⟩)
    exact bne_iff_ne.mpr hne
  · exact .inl (by simpa using hours)

/-- After the environment a field holds what its variable says, or else what it held before. -/
theorem get?_addSource (h : SetsFields environment) (x : Field) (n : Node) :
    x.get? (addSource n (entriesOfEnvironment environment)) =
      ((environment.lookup x.variableName).map Node.leaf).or (x.get? n) := by
  induction environment generalizing n with
  | nil => rfl
  | cons entry rest ih =>
    obtain ⟨name, value⟩ := entry
    obtain ⟨hrest, hother | ⟨y, rfl, hnone⟩⟩ := h.cons_cases
    · have hne : x.variableName ≠ name := by
        intro he
        rw [← he, x.keyOfVariable?_variableName] at hother
        cases hother
      rw [addSource_of_other hother, ih hrest, List.lookup_cons, beq_false_of_ne hne]
    · rw [addSource_of_field, ih hrest, get?_assign]
      by_cases hxy : x = y
      · rw [hxy, hnone, if_pos rfl, List.lookup_cons_self]
        rfl
      · rw [if_neg hxy, List.lookup_cons, beq_false_of_ne fun he => hxy (Field.variableName_inj he)]

theorem hasTables_addSource (h : SetsFields environment) {n : Node} (hn : HasTables n) :
    HasTables (addSource n (entriesOfEnvironment environment)) := by
  induction environment generalizing n with
  | nil => exact hn
  | cons entry rest ih =>
    obtain ⟨name, value⟩ := entry
    obtain ⟨hrest, hother | ⟨x, rfl, -⟩⟩ := h.cons_cases
    · rw [addSource_of_other hother]
      exact ih hrest hn
    · rw [addSource_of_field]
      exact ih hrest (hasTables_assign x value hn)

end

/-! ## (4) Settings read off their fields -/

theorem exists_table_assign (key : String) (value n : Node) : ∃ es, Node.assign key value n = .table es := by
  have hsteps : ∃ name steps, Node.stepsOfKey key = .name name :: steps := by
    simp only [Node.stepsOfKey]
    split
    · exact ⟨_, _, rfl⟩
    · split <;> exact ⟨_, _, rfl⟩
  obtain ⟨name, steps, hsteps⟩ := hsteps
  rw [Node.assign, hsteps]
  exact ⟨_, rfl⟩

/-- Whatever is laid over a table, it stays one. -/
theorem exists_table_addSource {n : Node} (h : ∃ es, n = .table es) (entries : List (String × Node)) :
    ∃ es, addSource n entries = .table es := by
  induction entries generalizing n with
  | nil => exact h
  | cons entry rest ih => exact ih (exists_table_assign entry.1 entry.2 n)

theorem files?_eq {sub : Option Node} (h : ∀ n, sub = some n → ∃ es, n = .table es) :
    files? sub = do
      let rulesFile ← optionalText? (sub.bind fun n => n.entries.lookup "rules_file")
      let groupsFile ← optionalText? (sub.bind fun n => n.entries.lookup "groups_file")
      return (rulesFile, groupsFile) := by
  cases sub with
  | none => rfl
  | some n =>
    obtain ⟨es, rfl⟩ := h n rfl
    rfl

theorem logging?_eq {sub : Option Node} (h : ∀ n, sub = some n → ∃ es, n = .table es) :
    logging? sub = do
      let level ← text? "info" (sub.bind fun n => n.entries.lookup "level")
      let format ← format? (sub.bind fun n => n.entries.lookup "format")
      return (level, format) := by
  cases sub with
  | none => rfl
  | some n =>
    obtain ⟨es, rfl⟩ := h n rfl
    rfl

/-- Where the sections are tables or not there, the settings are what the four fields are read as. -/
theorem ofNode?_eq {n : Node} (htable : ∃ es, n = .table es) (h : HasTables n) :
    ofNode? n = do
      let rulesFile ← optionalText? (Field.rulesFile.get? n)
      let groupsFile ← optionalText? (Field.groupsFile.get? n)
      let level ← text? "info" (Field.level.get? n)
      let format ← format? (Field.format.get? n)
      return { rulesFile, groupsFile, level, format } := by
  obtain ⟨es, rfl⟩ := htable
  have hauthz : ∀ n, es.lookup "authz" = some n → ∃ es, n = .table es := h .rulesFile
  have hlogging : ∀ n, es.lookup "logging" = some n → ∃ es, n = .table es := h .level
  have hread : ofNode? (.table es) = do
      let files ← files? (es.lookup "authz")
      let logging ← logging? (es.lookup "logging")
      return { rulesFile := files.1, groupsFile := files.2, level := logging.1, format := logging.2 } := rfl
  rw [hread, files?_eq hauthz, logging?_eq hlogging]
  simp only [Option.bind_eq_bind, Option.bind_assoc, Option.pure_def, Option.bind_some]
  rfl

theorem ofNode_congr {n n' : Node} (htable : ∃ es, n = .table es) (htable' : ∃ es, n' = .table es) (h : HasTables n)
    (h' : HasTables n') (hfields : ∀ x : Field, x.get? n = x.get? n') : ofNode n = ofNode n' := by
  rw [ofNode, ofNode, ofNode?_eq htable h, ofNode?_eq htable' h']
  simp only [hfields]

end PathAuthz.Settings
