/-
  PathAuthz.Draft — the rules as written, before references are followed.

  (1) Names. A user, group or alias has a plain name: not empty, and not starting with one of
  `@ $ & * ~`. The option of a rule section names whom it grants to: `*` for everyone, a
  built-in class, or a subject, each of the last two perhaps behind `~` for "all but". Not to
  be in one built-in class is to be in the other, so `~` disappears from those.

  (2) A `WrittenRule` collects what its section grants: one slot for each built-in class, and
  one entry for each subject and sign. Several options on the same one are united.

  (3) A `Draft` is what the texts define: rules, groups and aliases, each in the order of
  definition, and every name that occurs.

  (4) A `Compiler` receives the events of one text after the other and builds the draft. It
  keeps which section it is in; a rule section is known by the index of its rule.
-/

import PathAuthz.Access
import PathAuthz.Header
import PathAuthz.Pattern
import PathAuthz.Scope
import PathAuthz.Source

namespace PathAuthz

/-! ## (1) Names -/

/-- The characters that no plain name starts with. -/
def isReserved (c : Char) : Bool := c == '@' || c == '$' || c == '&' || c == '*' || c == '~'

def isPlainName (name : List Char) : Bool :=
  match name with
  | [] => false
  | c :: _ => !isReserved c

/-- A member of a group definition: `@name`, `&name`, or a user name as it stands. -/
def Subject.ofMember (token : List Char) : Subject :=
  match token with
  | '@' :: name => .group (String.ofList name)
  | '&' :: name => .viaAlias (String.ofList name)
  | _ => .user (String.ofList token)

/-- The members of a group definition, separated by commas; empty ones do not count. -/
def Subject.membersOf (value : String) : List Subject :=
  (((Text.pieces ',' value.toList).map Text.trim).filter (· ≠ [])).map ofMember

/-- Whom an option of a rule section grants to. -/
inductive Grantee where
  | everyone
  | anonymous
  | authenticated
  | subject (s : Subject) (inverted : Bool)
  deriving DecidableEq, Repr

namespace Grantee

/-- The grantee of a name without `~`. -/
def ofName? (inverted : Bool) (name : List Char) : Option Grantee :=
  match name with
  | [] => none
  | '$' :: word =>
    if word = "anonymous".toList then some (if inverted then authenticated else anonymous)
    else if word = "authenticated".toList then some (if inverted then anonymous else authenticated)
    else none
  | '@' :: group => if isPlainName group then some (subject (.group (String.ofList group)) inverted) else none
  | '&' :: name => if isPlainName name then some (subject (.viaAlias (String.ofList name)) inverted) else none
  | user => if isPlainName user then some (subject (.user (String.ofList user)) inverted) else none

/-- The grantee an option names, if its name is not a reserved one. -/
def ofOption? (option : String) : Option Grantee :=
  match option.toList with
  | ['*'] => some everyone
  | '~' :: name => ofName? true name
  | name => ofName? false name

end Grantee

/-! ## (2) Rules -/

structure WrittenEntry where
  subject : Subject
  inverted : Bool
  access : Access
  deriving DecidableEq, Repr

structure WrittenRule where
  seq : Nat
  heading : String
  scope : RepoScope
  pattern : PathPattern
  anonymous : Option Access
  authenticated : Option Access
  entries : List WrittenEntry
  deriving DecidableEq, Repr

/-- Unite a grant with what a slot already holds. -/
def uniteSlot (slot : Option Access) (a : Access) : Option Access := some (slot.getD .none ∪ a)

namespace WrittenRule

/-- Unite an entry with the one for the same subject and sign, or put it last. -/
def uniteEntry (e : WrittenEntry) : List WrittenEntry → List WrittenEntry
  | [] => [e]
  | d :: ds =>
    if d.subject = e.subject ∧ d.inverted = e.inverted then { d with access := d.access ∪ e.access } :: ds
    else d :: uniteEntry e ds

def grant (r : WrittenRule) (g : Grantee) (a : Access) : WrittenRule :=
  match g with
  | .everyone =>
    { r with anonymous := uniteSlot r.anonymous a, authenticated := uniteSlot r.authenticated a }
  | .anonymous => { r with anonymous := uniteSlot r.anonymous a }
  | .authenticated => { r with authenticated := uniteSlot r.authenticated a }
  | .subject s inverted => { r with entries := uniteEntry ⟨s, inverted, a⟩ r.entries }

end WrittenRule

/-! ## (3) Drafts -/

structure GroupDefinition where
  name : String
  members : List Subject
  deriving DecidableEq, Repr

/-- The users a definition names itself. -/
def GroupDefinition.users (g : GroupDefinition) : List String :=
  g.members.filterMap fun s =>
    match s with
    | .user name => some name
    | _ => none

structure AliasDefinition where
  name : String
  user : String
  deriving DecidableEq, Repr

structure Draft where
  rules : List WrittenRule
  groups : List GroupDefinition
  aliases : List AliasDefinition
  names : List String
  deriving DecidableEq, Repr

namespace Draft

def empty : Draft := ⟨[], [], [], []⟩

def group? (d : Draft) (name : String) : Option GroupDefinition := d.groups.find? (·.name == name)

def alias? (d : Draft) (name : String) : Option AliasDefinition := d.aliases.find? (·.name == name)

/-- Start a rule section. -/
def openRule (d : Draft) (heading : String) : Except LoadError Draft := do
  let header ← RuleHeader.read heading
  let pattern ← PathPattern.compile heading header.glob header.path
  let scope := match header.repo with
    | some repo => RepoScope.named repo
    | none => .any
  return { d with
    rules := d.rules ++ [⟨d.rules.length, heading, scope, pattern, none, none, []⟩]
    names := heading :: header.repo.toList ++ d.names }

/-- The name of a grantee, if it has one. -/
def nameOf : Grantee → List String
  | .subject (.user name) _ => [name]
  | .subject (.group name) _ => [name]
  | .subject (.viaAlias name) _ => [name]
  | _ => []

/-- Take an option of the rule with the given index. -/
def addEntry (d : Draft) (index : Nat) (heading option value : String) : Except LoadError Draft :=
  match Access.ofRights value.toList with
  | .error found => .error (.unknownRight heading option value found)
  | .ok access =>
    match Grantee.ofOption? option with
    | none => .error (.reservedName heading option)
    | some g =>
      .ok { d with rules := d.rules.modify index (·.grant g access), names := nameOf g ++ d.names }

/-- Take an option of a groups section. -/
def addGroup (d : Draft) (heading option value : String) : Except LoadError Draft :=
  if !isPlainName option.toList then .error (.reservedName heading option)
  else if (d.group? option).isSome then .error (.repeatedGroup option)
  else
    let members := Subject.membersOf value
    .ok { d with
      groups := d.groups ++ [⟨option, members⟩]
      names := option :: members.map Subject.label ++ d.names }

/-- Take an option of an aliases section. -/
def addAlias (d : Draft) (heading option value : String) : Except LoadError Draft :=
  if !isPlainName option.toList then .error (.reservedName heading option)
  else if (d.alias? option).isSome then .error (.repeatedAlias option)
  else
    let user := Text.trimmed value
    .ok { d with aliases := d.aliases ++ [⟨option, user⟩], names := option :: user :: d.names }

end Draft

/-! ## (4) Compiling -/

/-- What a text is read as. -/
inductive TextRole where
  | groupsOnly
  | rules
  deriving DecidableEq, Repr

/-- The section a compiler is in. -/
inductive Place where
  | groups
  | aliases
  | rule (index : Nat)
  deriving DecidableEq, Repr

structure Compiler where
  role : TextRole
  /-- Whether the groups came in a text of their own. -/
  groupsGiven : Bool
  /-- The headings of this text so far. -/
  seen : List String
  place : Option Place
  draft : Draft
  deriving DecidableEq, Repr

namespace Compiler

def start : Compiler := ⟨.rules, false, [], none, .empty⟩

/-- Where a heading leads, and the draft with its rule if it is one. -/
def enter (c : Compiler) (heading : String) : Except LoadError (Place × Draft) :=
  match c.role with
  | .groupsOnly => if heading = "groups" then .ok (.groups, c.draft) else .error (.unknownSection heading)
  | .rules =>
    if heading = "groups" then
      if c.groupsGiven then .error .groupsNotAllowed else .ok (.groups, c.draft)
    else if heading = "aliases" then .ok (.aliases, c.draft)
    else (c.draft.openRule heading).map fun d => (.rule c.draft.rules.length, d)

def opened (c : Compiler) (heading : String) : Except LoadError Compiler :=
  if heading ∈ c.seen then .error (.repeatedSection heading)
  else do
    let (place, draft) ← c.enter heading
    return { c with seen := heading :: c.seen, place := some place, draft }

def value (c : Compiler) (heading option value : String) : Except LoadError Compiler :=
  match c.place with
  | none => .error (.unknownSection heading)
  | some .groups => (c.draft.addGroup heading option value).map fun draft => { c with draft }
  | some .aliases => (c.draft.addAlias heading option value).map fun draft => { c with draft }
  | some (.rule index) => (c.draft.addEntry index heading option value).map fun draft => { c with draft }

def take (c : Compiler) : Source.Event → Except LoadError Compiler
  | .opened heading => c.opened heading
  | .value heading option value => c.value heading option value
  | .closed _ => .ok { c with place := none }

/-- The compiler as a receiver; a refused event leaves it as it was. -/
def receive : Source.Receiver Compiler := fun c e =>
  match c.take e with
  | .ok c' => (c', none)
  | .error err => (c, some err)

/-- Compile one text on top of what was compiled before. -/
def compile (c : Compiler) (role : TextRole) (text : String) : Except LoadError Compiler :=
  match Source.stream receive { c with role, seen := [], place := none } text with
  | (c', none) => .ok c'
  | (_, some err) => .error err

end Compiler

/-- The draft of a rules text and, if there is one, a groups text. -/
def Draft.ofTexts (rules : String) (groups : Option String) : Except LoadError Draft := do
  let c ←
    match groups with
    | none => .ok Compiler.start
    | some text => (Compiler.start.compile .groupsOnly text).map fun c => { c with groupsGiven := true }
  return (← c.compile .rules rules).draft

end PathAuthz
