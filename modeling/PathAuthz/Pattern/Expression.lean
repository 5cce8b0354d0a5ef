/-
  PathAuthz.Pattern.Expression — the regular expression of a glob, and what it finds.

  (1) A glob is translated into an expression between `^` and `$`. `*` becomes `.*`, `?` becomes
  `.`, and a bracket expression becomes a class, negated by `^`, with the marks of classes behind
  backslashes. Any other character stands for itself, behind a backslash if an expression has
  another use for it.

  (2) `elements?` reads expressions as the `regex` library documents them, as far as those of
  globs go: `^`, `$`, `.`, `.*`, classes, characters that mean nothing else, and characters behind
  a backslash that otherwise would. Nothing else is read: no other repetitions, no groups or
  alternatives, and in a class no other class, no `&&` and no `~~`.

  (3) Elements match a stretch of a text. `^` holds where nothing stands before, `$` where nothing
  follows, `.` takes a character that is no line feed, and `.*` a run of those. An expression is
  found in a text if it matches some stretch of it: only `^` and `$` make that the whole text.

  A glob does not go this way: its pieces are read from the glob itself (`pieces?`), and a text is
  covered by them from end to end. `accepts_iff_found` says that this is the same.
-/

import PathAuthz.Pattern.Glob

namespace PathAuthz.Pattern

/-! ## (1) Translating -/

/-- Whether an expression has a use for a character. -/
def isMeta (c : Char) : Bool :=
  ['\\', '.', '+', '*', '?', '(', ')', '|', '[', ']', '{', '}', '^', '$', '#', '&', '-', '~'].contains c

/-- A character that stands for itself. -/
def quote (c : Char) : List Char := if isMeta c then ['\\', c] else [c]

/-- A bracket expression as a class. -/
def Bracket.toClass (b : Bracket) : List Char :=
  '[' :: ((if b.negated then ['^'] else []) ++ (writeMembers ((members b.body).map Member.quoted) ++ [']']))

/-- What stands for a glob between the ends of its expression. -/
def translate : List Char → List Char
  | [] => []
  | ['\\'] => quote '\\'
  | '\\' :: c :: cs => quote c ++ translate cs
  | c :: cs =>
    if c = '*' then '.' :: '*' :: translate cs
    else if c = '?' then '.' :: translate cs
    else if c = '[' then
      match h : Bracket.cut cs with
      | some (b, rest) =>
        have := Bracket.length_rest_of_cut h
        b.toClass ++ translate rest
      | none => quote '[' ++ translate cs
    else quote c ++ translate cs
termination_by cs => cs.length
decreasing_by all_goals simp only [List.length_cons]; omega

/-- The expression of a glob. -/
def expression (glob : List Char) : List Char := '^' :: (translate glob ++ ['$'])

/-- What means something to expressions alone is written behind backslashes. -/
example : expression "a.b[!x-z[&&]?*".toList = "^a\\.b[^x-z\\[\\&\\&]..*$".toList := by decide +kernel

/-! ## (2) Reading -/

inductive Element where
  | start
  | finish
  | piece (p : Piece)
  deriving DecidableEq, Repr

/-- The class that starts behind a `[`, and what follows it. -/
def cutClass : List Char → Option (Bracket × List Char)
  | '^' :: rest => (Bracket.cutSet rest).map fun (body, rest) => (⟨true, body⟩, rest)
  | cs => (Bracket.cutSet cs).map fun (body, rest) => (⟨false, body⟩, rest)

/-- Whether a member starts a class, or an operation other than a difference. -/
def Member.isForeign : Member → Bool
  | plain c => c == '[' || c == '&' || c == '~'
  | escaped _ => false

/-- The set of a class. -/
def classSet? (b : Bracket) : Option CharClass :=
  if (Bracket.members b.body).any Member.isForeign then none
  else CharClass.ofMembers? b.negated (Bracket.members b.body)

/-- The first element of an expression, and what follows it. -/
def element? : List Char → Option (Element × List Char)
  | [] => none
  | '^' :: cs => some (.start, cs)
  | '$' :: cs => some (.finish, cs)
  | '.' :: '*' :: cs => some (.piece .run, cs)
  | '.' :: cs => some (.piece .anyOne, cs)
  | '\\' :: c :: cs => if isMeta c then some (.piece (.exactly c), cs) else none
  | '[' :: cs => (cutClass cs).bind fun (b, rest) => (classSet? b).map fun s => (.piece (.oneOf s), rest)
  | c :: cs => if isMeta c then none else some (.piece (.exactly c), cs)

theorem length_rest_of_cutClass {cs rest : List Char} {b : Bracket} (h : cutClass cs = some (b, rest)) :
    rest.length < cs.length := by
  unfold cutClass at h
  split at h <;> obtain ⟨⟨body, r⟩, h', he⟩ := Option.map_eq_some_iff.1 h <;> simp at he <;>
    obtain ⟨rfl, rfl⟩ := he <;> have := Bracket.length_cutSet h' <;> simp <;> omega

theorem length_rest_of_element? {cs rest : List Char} {e : Element} (h : element? cs = some (e, rest)) :
    rest.length < cs.length := by
  unfold element? at h
  split at h
  case h_7 =>
    obtain ⟨⟨b, r⟩, hcut, h⟩ := Option.bind_eq_some_iff.1 h
    obtain ⟨s, -, he⟩ := Option.map_eq_some_iff.1 h
    cases he
    have := length_rest_of_cutClass hcut
    simp
    omega
  all_goals grind

/-- The elements of an expression, if it has no others than those of globs. -/
def elements? (cs : List Char) : Option (List Element) :=
  if cs = [] then some []
  else
    match h : element? cs with
    | none => none
    | some (e, rest) =>
      have := length_rest_of_element? h
      (elements? rest).map (e :: ·)
termination_by cs.length

/-! ## (3) Matching -/

/-- Whether elements match the start of a text of which some stands before. -/
def Matches : List Element → (before text : List Char) → Prop
  | [], _, _ => True
  | .start :: es, before, text => before = [] ∧ Matches es before text
  | .finish :: es, before, text => text = [] ∧ Matches es before text
  | .piece .run :: es, before, text => ∃ run rest, text = run ++ rest ∧ '\n' ∉ run ∧ Matches es (before ++ run) rest
  | .piece p :: es, before, text => ∃ c rest, text = c :: rest ∧ p.accepts c = true ∧ Matches es (before ++ [c]) rest

/-- Whether elements match somewhere in a text. -/
def Found (es : List Element) (text : List Char) : Prop :=
  ∃ before rest, text = before ++ rest ∧ Matches es before rest

end PathAuthz.Pattern
