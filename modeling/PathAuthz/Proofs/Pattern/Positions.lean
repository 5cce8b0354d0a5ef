/-
  PathAuthz.Proofs.Pattern.Positions — bracket expressions, position by position.

  (1) A glob can be read by walking over its positions. `scan` looks for the `]` that ends a
  bracket expression, and `readBracket` reads its members again, up to that end. Each of them
  decides for itself what negates, what a backslash takes and where to go on, and a character
  that is not there stops the reader (`none`). `pieceAt` is one step of the walk over the whole
  glob.

  (2) `Spans` lists the members that fill a stretch of positions, none of them half in it. A scan
  that is closed leaves such a stretch behind (`exists_spans`), the reader reads exactly its
  members (`Spans.readMembers_eq`), and the list of characters is cut at the same place
  (`inStep_of_closed`). A scan that runs out does so behind the last character (`cut_of_ranOut`).

  (3) So the walk moves on with each step (`lt_pieceAt`), and what it finds (`piecesFrom`) are the
  pieces of the glob (`pieces?_eq_piecesFrom`). `scan_in_step` puts this together.
-/

import PathAuthz.Proofs.Pattern.Sets

namespace PathAuthz.Pattern

/-! ## (1) Walking over positions -/

/-- How the scan for the end of a bracket expression ends, and at which position. -/
inductive Scan where
  | closed (stop : Nat)
  | ranOut (stop : Nat)
  deriving DecidableEq, Repr

def isNegation (c : Char) : Bool := c == '!' || c == '^'

/-- Look for the `]` that ends a body, from a position on. -/
def scanFrom (cs : List Char) (j : Nat) : Scan :=
  match h : cs[j]? with
  | none => .ranOut j
  | some c => if c = '\\' then scanFrom cs (j + 2) else if c = ']' then .closed j else scanFrom cs (j + 1)
termination_by cs.length - j
decreasing_by all_goals have := (List.getElem?_eq_some_iff.mp h).1; omega

/-- Where the body of the bracket expression starts whose `[` is at a position. -/
def bodyStart (cs : List Char) (i : Nat) : Nat := if (cs[i + 1]?).any isNegation then i + 2 else i + 1

/-- Look for the end of the bracket expression whose `[` is at a position. -/
def scan (cs : List Char) (i : Nat) : Scan :=
  if cs[bodyStart cs i]? = some ']' then scanFrom cs (bodyStart cs i + 1) else scanFrom cs (bodyStart cs i)

/-- The members between two positions, each with the position it starts at. -/
def readMembers (cs : List Char) (j stop : Nat) : Option (List (Nat × Member)) :=
  if j < stop then do
    let c ← cs[j]?
    if c = '\\' ∧ j + 1 < stop then
      return (j, .escaped (← cs[j + 1]?)) :: (← readMembers cs (j + 2) stop)
    else
      return (j, .plain c) :: (← readMembers cs (j + 1) stop)
  else
    return []
termination_by stop - j

/-- The bracket expression whose `[` is at a position, read up to its end: whether it is negated,
    and its members. -/
def readBracket (cs : List Char) (i stop : Nat) : Option (Bool × List (Nat × Member)) := do
  let c ← cs[i + 1]?
  return (isNegation c, ← readMembers cs (if isNegation c then i + 2 else i + 1) stop)

/-- The piece at a position, if there is one, and the position to go on from. -/
def pieceAt (cs : List Char) (i : Nat) : Option Piece × Nat :=
  match cs[i]? with
  | none => (none, i + 1)
  | some c =>
    if c = '*' then (some .run, i + 1)
    else if c = '?' then (some .anyOne, i + 1)
    else if c = '\\' then
      match cs[i + 1]? with
      | none => (some (.exactly c), i + 1)
      | some d => (some (.exactly d), i + 2)
    else if c = '[' then
      match scan cs i with
      | .ranOut _ => (some (.exactly c), i + 1)
      | .closed stop =>
        ((readBracket cs i stop).bind fun (negated, ms) =>
          (CharClass.ofBracket? ⟨negated, Bracket.writeMembers (ms.map (·.2))⟩).map .oneOf, stop + 1)
    else (some (.exactly c), i + 1)

/-! ## (2) Stretches of members -/

variable {cs : List Char} {i j stop : Nat}

theorem drop_eq_cons {c : Char} (h : cs[j]? = some c) : cs.drop j = c :: cs.drop (j + 1) := by
  obtain ⟨hlt, rfl⟩ := List.getElem?_eq_some_iff.mp h
  exact List.drop_eq_getElem_cons hlt

/-- The members that fill the positions from one to another. -/
inductive Spans (cs : List Char) (stop : Nat) : Nat → List Member → Prop
  | nil : Spans cs stop stop []
  | plain {j : Nat} {c : Char} {ms : List Member} : cs[j]? = some c → c ≠ '\\' → Spans cs stop (j + 1) ms →
      Spans cs stop j (.plain c :: ms)
  | escaped {j : Nat} {c : Char} {ms : List Member} : cs[j]? = some '\\' → cs[j + 1]? = some c →
      Spans cs stop (j + 2) ms → Spans cs stop j (.escaped c :: ms)

/-- Members with the positions they start at, the first at `j`. -/
def withStarts (j : Nat) : List Member → List (Nat × Member)
  | [] => []
  | .plain c :: ms => (j, .plain c) :: withStarts (j + 1) ms
  | .escaped c :: ms => (j, .escaped c) :: withStarts (j + 2) ms

/-- A member as it stands before the end of a body: a backslash takes a character of the body. -/
def InBody (cs : List Char) (stop : Nat) : Nat × Member → Prop
  | (k, .plain c) => k < stop ∧ cs[k]? = some c ∧ c ≠ '\\'
  | (k, .escaped c) => k + 1 < stop ∧ cs[k]? = some '\\' ∧ cs[k + 1]? = some c

theorem map_withStarts (j : Nat) (ms : List Member) : (withStarts j ms).map (·.2) = ms := by
  induction ms generalizing j with
  | nil => rfl
  | cons m ms ih => cases m <;> simp [withStarts, ih]

namespace Spans

variable {ms : List Member}

theorem le (h : Spans cs stop j ms) : j ≤ stop := by
  induction h with
  | nil => exact Nat.le_refl _
  | plain _ _ _ ih => omega
  | escaped _ _ _ ih => omega

theorem lt (h : Spans cs stop j ms) (hms : ms ≠ []) : j < stop := by
  cases h with
  | nil => exact absurd rfl hms
  | plain _ _ h => exact h.le
  | escaped _ _ h => exact Nat.lt_of_succ_le (Nat.le_of_succ_le h.le)

theorem plain_backslash_not_mem (h : Spans cs stop j ms) : .plain '\\' ∉ ms := by
  induction h with
  | nil => simp
  | plain _ hc _ ih => simpa [Ne.symm hc] using ih
  | escaped _ _ _ ih => simpa using ih

theorem drop_eq (h : Spans cs stop j ms) : cs.drop j = Bracket.writeMembers ms ++ cs.drop stop := by
  induction h with
  | nil => rfl
  | plain hc _ _ ih => rw [drop_eq_cons hc, ih, Bracket.writeMembers_plain, List.cons_append]
  | escaped hslash hc _ ih =>
    rw [drop_eq_cons hslash, drop_eq_cons hc, ih, Bracket.writeMembers_escaped, List.cons_append, List.cons_append]

/-- The reader keeps to the members of the stretch. -/
theorem readMembers_eq (h : Spans cs stop j ms) : readMembers cs j stop = some (withStarts j ms) := by
  induction h with
  | nil =>
    rw [readMembers, if_neg (Nat.lt_irrefl _)]
    rfl
  | plain hc hne h ih =>
    rw [readMembers, if_pos (Nat.lt_of_succ_le h.le), hc]
    simp [hne, ih, withStarts]
  | @escaped k c ms hslash hc h ih =>
    have hle : k + 2 ≤ stop := h.le
    have htakes : k + 1 < stop := hle
    rw [readMembers, if_pos (by omega), hslash]
    simp [htakes, hc, ih, withStarts]

theorem inBody (h : Spans cs stop j ms) : ∀ p ∈ withStarts j ms, j ≤ p.1 ∧ InBody cs stop p := by
  induction h with
  | nil => simp [withStarts]
  | plain hc hne h ih =>
    intro p hp
    rcases List.mem_cons.mp hp with rfl | hp
    · exact ⟨Nat.le_refl _, Nat.lt_of_succ_le h.le, hc, hne⟩
    · obtain ⟨hle, hbody⟩ := ih p hp
      exact ⟨by omega, hbody⟩
  | escaped hslash hc h ih =>
    intro p hp
    rcases List.mem_cons.mp hp with rfl | hp
    · exact ⟨Nat.le_refl _, Nat.lt_of_succ_le h.le, hslash, hc⟩
    · obtain ⟨hle, hbody⟩ := ih p hp
      exact ⟨by omega, hbody⟩

end Spans

theorem closed_of_scanFrom (h : scanFrom cs j = .closed stop) : j ≤ stop ∧ cs[stop]? = some ']' := by
  fun_induction scanFrom cs j with
  | case1 => cases h
  | case2 j _ ih =>
    obtain ⟨hle, hstop⟩ := ih h
    exact ⟨by omega, hstop⟩
  | case3 j hc => cases h; exact ⟨Nat.le_refl _, hc⟩
  | case4 j c _ _ _ ih =>
    obtain ⟨hle, hstop⟩ := ih h
    exact ⟨by omega, hstop⟩

/-- A scan that is closed leaves whole members behind. -/
theorem exists_spans (h : scanFrom cs j = .closed stop) : ∃ ms, Spans cs stop j ms ∧ Bracket.AreClosed ms := by
  fun_induction scanFrom cs j with
  | case1 => cases h
  | case2 j hslash ih =>
    obtain ⟨hle, hstop⟩ := closed_of_scanFrom h
    have hlt : j + 1 < cs.length := by
      have := (List.getElem?_eq_some_iff.mp hstop).1
      omega
    obtain ⟨ms, hms, hclosed⟩ := ih h
    refine ⟨.escaped cs[j + 1] :: ms, .escaped hslash (List.getElem?_eq_getElem hlt) hms, ?_⟩
    intro c hc
    exact hclosed c (by simpa using hc)
  | case3 j hc => cases h; exact ⟨[], .nil, by simp [Bracket.AreClosed]⟩
  | case4 j c hc hslash hclose ih =>
    obtain ⟨ms, hms, hclosed⟩ := ih h
    refine ⟨.plain c :: ms, .plain hc hslash hms, ?_⟩
    intro d hd
    rcases List.mem_cons.mp hd with hd | hd
    · cases hd; exact ⟨hclose, hslash⟩
    · exact hclosed d hd

theorem ranOut_of_scanFrom (h : scanFrom cs j = .ranOut stop) :
    cs.length ≤ stop ∧ Bracket.cutBody (cs.drop j) = none := by
  fun_induction scanFrom cs j with
  | case1 j hnone =>
    cases h
    have hle := List.getElem?_eq_none_iff.mp hnone
    exact ⟨hle, by rw [List.drop_eq_nil_of_le hle, Bracket.cutBody]⟩
  | case2 j hslash ih =>
    obtain ⟨hle, hcut⟩ := ih h
    refine ⟨hle, ?_⟩
    rw [drop_eq_cons hslash]
    rcases hc : cs[j + 1]? with _ | c
    · rw [List.drop_eq_nil_of_le (List.getElem?_eq_none_iff.mp hc), Bracket.cutBody]
    · rw [drop_eq_cons hc, Bracket.cutBody, hcut]
      rfl
  | case3 => cases h
  | case4 j c hc hslash hclose ih =>
    obtain ⟨hle, hcut⟩ := ih h
    refine ⟨hle, ?_⟩
    rw [drop_eq_cons hc, Bracket.cutBody.eq_4 _ _ (by simp [hslash]) (by simp [hslash]), if_neg hclose, hcut]
    rfl

/-- A list of characters is cut behind what negates. -/
theorem cut_drop (cs : List Char) (i : Nat) :
    Bracket.cut (cs.drop (i + 1)) =
      (Bracket.cutSet (cs.drop (bodyStart cs i))).map fun (body, rest) => (⟨(cs[i + 1]?).any isNegation, body⟩, rest) := by
  unfold bodyStart
  rcases hc : cs[i + 1]? with _ | c
  · have hnil : cs.drop (i + 1) = [] := List.drop_eq_nil_of_le (List.getElem?_eq_none_iff.mp hc)
    simp [hnil, Bracket.cut]
  · rw [drop_eq_cons hc]
    by_cases hnegates : isNegation c = true
    · have hfirst : c = '!' ∨ c = '^' := by simpa [isNegation] using hnegates
      rcases hfirst with rfl | rfl <;> simp [isNegation, Bracket.cut]
    · have hfirst : c ≠ '!' ∧ c ≠ '^' := by simpa [isNegation] using hnegates
      rw [Bracket.cut.eq_3 _ (by simp [hfirst.1]) (by simp [hfirst.2])]
      simp [hnegates, drop_eq_cons hc]

theorem drop_ne_cons {c : Char} (h : cs[j]? ≠ some c) : ∀ rest, cs.drop j ≠ c :: rest := by
  intro rest hrest
  apply h
  rw [← List.head?_drop, hrest, List.head?_cons]

/-- A `]` in front belongs to the members. -/
theorem exists_spans_of_scan (h : scan cs i = .closed stop) :
    ∃ ms, Spans cs stop (bodyStart cs i) ms ∧
      Bracket.cutSet (cs.drop (bodyStart cs i)) = some (Bracket.writeMembers ms, cs.drop (stop + 1)) := by
  unfold scan at h
  split at h
  · rename_i hfirst
    obtain ⟨ms, hms, hclosed⟩ := exists_spans h
    obtain ⟨-, hstop⟩ := closed_of_scanFrom h
    refine ⟨.plain ']' :: ms, .plain hfirst (by decide) hms, ?_⟩
    rw [drop_eq_cons hfirst, Bracket.cutSet, hms.drop_eq, drop_eq_cons hstop, Bracket.cutBody_write hclosed]
    rfl
  · rename_i hfirst
    obtain ⟨ms, hms, hclosed⟩ := exists_spans h
    obtain ⟨-, hstop⟩ := closed_of_scanFrom h
    refine ⟨ms, hms, ?_⟩
    rw [Bracket.cutSet.eq_2 _ (drop_ne_cons hfirst), hms.drop_eq, drop_eq_cons hstop, Bracket.cutBody_write hclosed]

theorem stop_lt_of_scan (h : scan cs i = .closed stop) : stop < cs.length := by
  have hstop : cs[stop]? = some ']' := by
    unfold scan at h
    split at h <;> exact (closed_of_scanFrom h).2
  exact (List.getElem?_eq_some_iff.mp hstop).1

/-- What the reader finds between a `[` and the end of its expression: members that are all there,
    and the same ones that the list of characters has when it is cut at that end. -/
structure InStep (cs : List Char) (i stop : Nat) (negated : Bool) (ms : List (Nat × Member)) : Prop where
  read : readBracket cs i stop = some (negated, ms)
  nonempty : ms ≠ []
  inBody : ∀ p ∈ ms, (if negated then i + 2 else i + 1) ≤ p.1 ∧ InBody cs stop p
  cut : Bracket.cut (cs.drop (i + 1)) = some (⟨negated, Bracket.writeMembers (ms.map (·.2))⟩, cs.drop (stop + 1))
  members : Bracket.members (Bracket.writeMembers (ms.map (·.2))) = ms.map (·.2)

theorem inStep_of_closed (h : scan cs i = .closed stop) :
    i + 1 < stop ∧ stop < cs.length ∧ ∃ negated ms, InStep cs i stop negated ms := by
  obtain ⟨ms, hms, hset⟩ := exists_spans_of_scan h
  have hmembers := Bracket.members_write hms.plain_backslash_not_mem
  have hcut : Bracket.cut (cs.drop (i + 1)) =
      some (⟨(cs[i + 1]?).any isNegation, Bracket.writeMembers ms⟩, cs.drop (stop + 1)) := by
    rw [cut_drop, hset]
    rfl
  have hne : ms ≠ [] := hmembers ▸ Bracket.members_ne_nil_of_cut hcut
  have hstart : i + 1 ≤ bodyStart cs i := by
    unfold bodyStart
    split <;> omega
  have hlt : i + 1 < stop := Nat.lt_of_le_of_lt hstart (hms.lt hne)
  have hstop : stop < cs.length := stop_lt_of_scan h
  have hfirst : cs[i + 1]? = some cs[i + 1] := List.getElem?_eq_getElem (by omega)
  have hbody : bodyStart cs i = if isNegation cs[i + 1] then i + 2 else i + 1 := by
    rw [bodyStart, hfirst, Option.any_some]
  refine ⟨hlt, hstop, isNegation cs[i + 1], withStarts (bodyStart cs i) ms, ?_, ?_, ?_, ?_, ?_⟩
  · rw [readBracket, hfirst, Option.bind_eq_bind, Option.bind_some, ← hbody, hms.readMembers_eq]
    rfl
  · intro hnil
    rw [← map_withStarts (bodyStart cs i) ms, hnil] at hne
    exact hne rfl
  · rw [← hbody]
    exact hms.inBody
  · rw [hcut, hfirst, map_withStarts]
    rfl
  · rw [map_withStarts, hmembers]

theorem cut_of_ranOut (h : scan cs i = .ranOut stop) : cs.length ≤ stop ∧ Bracket.cut (cs.drop (i + 1)) = none := by
  rw [cut_drop]
  unfold scan at h
  split at h
  · rename_i hfirst
    obtain ⟨hle, hcut⟩ := ranOut_of_scanFrom h
    exact ⟨hle, by rw [drop_eq_cons hfirst, Bracket.cutSet, hcut]; rfl⟩
  · rename_i hfirst
    obtain ⟨hle, hcut⟩ := ranOut_of_scanFrom h
    exact ⟨hle, by rw [Bracket.cutSet.eq_2 _ (drop_ne_cons hfirst), hcut]; rfl⟩

/-! ## (3) Walks -/

/-- Every step of a walk moves on, and none of them out of the glob. -/
theorem lt_pieceAt (h : i < cs.length) : i < (pieceAt cs i).2 ∧ (pieceAt cs i).2 ≤ cs.length := by
  have hone : i < i + 1 ∧ i + 1 ≤ cs.length := ⟨Nat.lt_succ_self i, h⟩
  unfold pieceAt
  rw [List.getElem?_eq_getElem h]
  dsimp only
  split_ifs
  · exact hone
  · exact hone
  · rcases hd : cs[i + 1]? with _ | d
    · exact hone
    · have hbehind := (List.getElem?_eq_some_iff.mp hd).1
      show i < i + 2 ∧ i + 2 ≤ cs.length
      omega
  · rcases hscan : scan cs i with stop | stop
    · obtain ⟨hlt, hstop, -⟩ := inStep_of_closed hscan
      show i < stop + 1 ∧ stop + 1 ≤ cs.length
      omega
    · exact hone
  · exact hone

/-- The pieces of a glob from a position on. -/
def piecesFrom (cs : List Char) (i : Nat) : Option (List Piece) :=
  if h : i < cs.length then
    have := lt_pieceAt h
    do return (← (pieceAt cs i).1) :: (← piecesFrom cs (pieceAt cs i).2)
  else some []
termination_by cs.length - i

theorem pieces?_drop (h : i < cs.length) :
    pieces? (cs.drop i) = do return (← (pieceAt cs i).1) :: (← pieces? (cs.drop (pieceAt cs i).2)) := by
  have hc := List.getElem?_eq_getElem h
  rw [drop_eq_cons hc]
  unfold pieceAt
  rw [hc]
  generalize cs[i] = c at hc ⊢
  dsimp only
  by_cases hslash : c = '\\'
  · subst hslash
    rw [if_neg (by decide), if_neg (by decide), if_pos rfl]
    rcases hd : cs[i + 1]? with _ | d
    · simp [List.drop_eq_nil_of_le (List.getElem?_eq_none_iff.mp hd), pieces?]
    · rw [drop_eq_cons hd, pieces?]
      cases pieces? (cs.drop (i + 2)) <;> rfl
  · by_cases hopen : c = '['
    · subst hopen
      rw [if_neg (by decide), if_neg (by decide), if_neg (by decide), if_pos rfl]
      rcases hscan : scan cs i with stop | stop
      · obtain ⟨-, -, negated, ms, hstep⟩ := inStep_of_closed hscan
        rw [pieces?_bracket hstep.cut]
        dsimp only
        rw [hstep.read, Option.bind_some]
        cases CharClass.ofBracket? ⟨negated, Bracket.writeMembers (ms.map (·.2))⟩ <;> rfl
      · obtain ⟨-, hcut⟩ := cut_of_ranOut hscan
        rw [pieces?_unclosed hcut]
        cases pieces? (cs.drop (i + 1)) <;> rfl
    · rw [pieces?_cons hslash _ hopen]
      split_ifs <;> cases pieces? (cs.drop (i + 1)) <;> rfl

theorem pieces?_eq_piecesFrom (cs : List Char) (i : Nat) : pieces? (cs.drop i) = piecesFrom cs i := by
  fun_induction piecesFrom cs i with
  | case1 i h _ ih => rw [pieces?_drop h, ih]
  | case2 i h => rw [List.drop_eq_nil_of_le (Nat.le_of_not_lt h), pieces?]

/-- The scanner and the reader of bracket expressions stay in step. A closed scan ends beyond the
    next position and inside the glob; up to there the reader finds every character it asks for,
    at least one member, and behind each backslash a character of the body, and the list of
    characters is cut at the same end. A scan that is not closed has passed the last character. The
    walk over the glob always moves on, and yields its pieces. -/
theorem scan_in_step (cs : List Char) :
    (∀ i stop, scan cs i = .closed stop →
      i + 1 < stop ∧ stop < cs.length ∧ ∃ negated ms, InStep cs i stop negated ms) ∧
    (∀ i stop, scan cs i = .ranOut stop → cs.length ≤ stop ∧ Bracket.cut (cs.drop (i + 1)) = none) ∧
    (∀ i, i < cs.length → i < (pieceAt cs i).2 ∧ (pieceAt cs i).2 ≤ cs.length) ∧
    pieces? cs = piecesFrom cs 0 := by
  refine ⟨?_, ?_, ?_, ?_⟩
  · intro i stop h
    exact inStep_of_closed h
  · intro i stop h
    exact cut_of_ranOut h
  · intro i h
    exact lt_pieceAt h
  · rw [← pieces?_eq_piecesFrom, List.drop_zero]

/-- A `]` in front, a backslash before the next one, and a backslash that nothing follows. -/
theorem scan_in_step_backslashes :
    scan "a[!]\\]-z]x".toList 1 = .closed 8 ∧
      readBracket "a[!]\\]-z]x".toList 1 8 =
        some (true, [(3, .plain ']'), (4, .escaped ']'), (6, .plain '-'), (7, .plain 'z')]) ∧
      Bracket.cut "!]\\]-z]x".toList = some (⟨true, "]\\]-z".toList⟩, ['x']) ∧
      scan "[a\\".toList 0 = .ranOut 4 ∧ Bracket.cut "a\\".toList = none := by
  have hclosed : scan "a[!]\\]-z]x".toList 1 = .closed 8 := by decide +kernel
  have hread : readBracket "a[!]\\]-z]x".toList 1 8 =
      some (true, [(3, .plain ']'), (4, .escaped ']'), (6, .plain '-'), (7, .plain 'z')]) := by decide +kernel
  have hranOut : scan "[a\\".toList 0 = .ranOut 4 := by decide +kernel
  obtain ⟨hstep, -, -, -⟩ := scan_in_step "a[!]\\]-z]x".toList
  obtain ⟨-, -, negated, ms, hagreed⟩ := hstep 1 8 hclosed
  obtain ⟨-, hpast, -, -⟩ := scan_in_step "[a\\".toList
  cases hread.symm.trans hagreed.read
  exact ⟨hclosed, hread, hagreed.cut, hranOut, (hpast 0 4 hranOut).2⟩

end PathAuthz.Pattern
