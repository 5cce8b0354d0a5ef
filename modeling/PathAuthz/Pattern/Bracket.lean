/-
  PathAuthz.Pattern.Bracket — where a bracket expression of a glob ends, and its members.

  A bracket expression starts behind its `[`. It may be negated by a first `!` or `^`. A `]`
  that comes first in the body belongs to the set; the next `]` that no backslash takes ends
  the expression. Without one there is no expression, and the `[` stands for itself.

  The end is found by `Bracket.cut`; the body is then read again, member by member, by
  `members`. What was cut has at least one member (`members_ne_nil_of_cut`).

  A class of a regular expression is written with the same members, but has more marks than a
  bracket expression. Those go behind a backslash (`Member.quoted`).
-/

namespace PathAuthz.Pattern

structure Bracket where
  negated : Bool
  body : List Char
  deriving DecidableEq, Repr

/-- One member of a bracket expression as written: a character, or a backslash and the
    character it takes. -/
inductive Member where
  | plain (c : Char)
  | escaped (c : Char)
  deriving DecidableEq, Repr

namespace Member

/-- The character a member is meant to stand for. -/
def char : Member → Char
  | plain c => c
  | escaped c => c

def write : Member → List Char
  | plain c => [c]
  | escaped c => ['\\', c]

end Member

namespace Bracket

/-- Cut at the first `]` that no backslash takes. -/
def cutBody : List Char → Option (List Char × List Char)
  | [] => none
  | ['\\'] => none
  | '\\' :: c :: rest => (cutBody rest).map fun (body, rest) => ('\\' :: c :: body, rest)
  | c :: rest => if c = ']' then some ([], rest) else (cutBody rest).map fun (body, rest) => (c :: body, rest)

/-- Cut at the `]` that ends the expression, a `]` in front belonging to the body. -/
def cutSet : List Char → Option (List Char × List Char)
  | ']' :: rest => (cutBody rest).map fun (body, rest) => (']' :: body, rest)
  | cs => cutBody cs

/-- The bracket expression that starts behind a `[`, and what follows it. -/
def cut : List Char → Option (Bracket × List Char)
  | '!' :: rest => (cutSet rest).map fun (body, rest) => (⟨true, body⟩, rest)
  | '^' :: rest => (cutSet rest).map fun (body, rest) => (⟨true, body⟩, rest)
  | cs => (cutSet cs).map fun (body, rest) => (⟨false, body⟩, rest)

/-- The members of a body. A backslash with nothing behind it would be a member itself. -/
def members : List Char → List Member
  | [] => []
  | ['\\'] => [.plain '\\']
  | '\\' :: c :: rest => .escaped c :: members rest
  | c :: rest => .plain c :: members rest

def writeMembers (ms : List Member) : List Char := ms.flatMap Member.write

end Bracket

/-- Whether a class may take a character for a mark where a bracket expression takes it for itself. -/
def isClassMark (c : Char) : Bool := ['[', ']', '&', '~', '^', '\\'].contains c

/-- The member of a class that does what a member of a bracket expression does. -/
def Member.quoted : Member → Member
  | plain c => if isClassMark c then escaped c else plain c
  | escaped c => escaped c

namespace Member

variable {m : Member} {c : Char}

theorem char_quoted (m : Member) : m.quoted.char = m.char := by
  cases m with
  | plain c =>
    rw [quoted]
    split <;> rfl
  | escaped c => rfl

/-- A member without a backslash is no mark. -/
theorem of_quoted_eq_plain (h : m.quoted = .plain c) : isClassMark c = false := by
  cases m with
  | plain d =>
    rw [quoted] at h
    split at h
    · cases h
    · rename_i hmark
      cases h
      exact Bool.eq_false_iff.2 hmark
  | escaped d => cases h

/-- A backslash stands before a member that had one, or before a mark. -/
theorem of_quoted_eq_escaped (h : m.quoted = .escaped c) : m = .escaped c ∨ isClassMark c = true := by
  cases m with
  | plain d =>
    rw [quoted] at h
    split at h
    · rename_i hmark
      cases h
      exact .inr hmark
    · cases h
  | escaped d => exact .inl h

end Member

/-! ## What is left after a cut -/

namespace Bracket

theorem length_cutBody {cs body rest : List Char} (h : cutBody cs = some (body, rest)) :
    body.length + rest.length < cs.length := by
  fun_induction cutBody cs generalizing body rest with
  | case1 => simp at h
  | case2 => simp at h
  | case3 c cs ih =>
    obtain ⟨⟨b, r⟩, h', he⟩ := Option.map_eq_some_iff.1 h
    simp at he; obtain ⟨rfl, rfl⟩ := he
    have := ih h'
    simp; omega
  | case4 => simp at h; obtain ⟨rfl, rfl⟩ := h; simp
  | case5 c cs _ _ _ ih =>
    obtain ⟨⟨b, r⟩, h', he⟩ := Option.map_eq_some_iff.1 h
    simp at he; obtain ⟨rfl, rfl⟩ := he
    have := ih h'
    simp; omega

theorem length_cutSet {cs body rest : List Char} (h : cutSet cs = some (body, rest)) :
    body.length + rest.length < cs.length := by
  unfold cutSet at h
  split at h
  · obtain ⟨⟨b, r⟩, h', he⟩ := Option.map_eq_some_iff.1 h
    simp at he; obtain ⟨rfl, rfl⟩ := he
    have := length_cutBody h'
    simp; omega
  · exact length_cutBody h

/-- What follows a bracket expression is shorter than what it was cut from. -/
theorem length_rest_of_cut {cs rest : List Char} {b : Bracket} (h : cut cs = some (b, rest)) :
    rest.length < cs.length := by
  unfold cut at h
  split at h <;> obtain ⟨⟨body, r⟩, h', he⟩ := Option.map_eq_some_iff.1 h <;> simp at he <;>
    obtain ⟨rfl, rfl⟩ := he <;> have := length_cutSet h' <;> simp <;> omega

/-! ## The members of what was cut -/

theorem members_ne_nil {body : List Char} (h : body ≠ []) : members body ≠ [] := by
  fun_cases members body <;> simp_all

/-- The body of an expression holds at least one character. -/
theorem body_ne_nil_of_cutSet {cs body rest : List Char} (h : cutSet cs = some (body, rest)) : body ≠ [] := by
  unfold cutSet at h
  split at h
  · obtain ⟨⟨b, r⟩, _, he⟩ := Option.map_eq_some_iff.1 h
    simp at he; obtain ⟨rfl, rfl⟩ := he; simp
  · rename_i hfirst
    rintro rfl
    fun_cases cutBody cs <;> simp_all [cutBody]

theorem members_ne_nil_of_cut {cs rest : List Char} {b : Bracket} (h : cut cs = some (b, rest)) :
    members b.body ≠ [] := by
  unfold cut at h
  split at h <;> obtain ⟨⟨body, r⟩, h', he⟩ := Option.map_eq_some_iff.1 h <;> simp at he <;>
    obtain ⟨rfl, rfl⟩ := he <;> exact members_ne_nil (body_ne_nil_of_cutSet h')

end Bracket

end PathAuthz.Pattern
