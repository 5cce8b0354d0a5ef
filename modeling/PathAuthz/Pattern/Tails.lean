/-
  PathAuthz.Pattern.Tails — one question about all tails of a list at once.

  (1) `tails f` is the list of the answers of `f` for a list, its tail, the tail of that, and
  so on to the empty list.

  (2) Two ways to make a question from another one: to ask it behind one item (`behindOne`),
  and to ask it somewhere behind any number of items (`behindRun`). From the answers to a
  question for all tails, `afterOne` and `afterRun` find those to the new one and look at each
  item once (`afterOne_tails`, `afterRun_tails`).
-/

namespace PathAuthz.Pattern

variable {α : Type}

/-! ## (1) Answers -/

def tails (f : List α → Bool) : List α → List Bool
  | [] => [f []]
  | c :: cs => f (c :: cs) :: tails f cs

/-- The answer for the whole list. -/
def whole : List Bool → Bool
  | [] => false
  | b :: _ => b

@[simp] theorem whole_tails (f : List α → Bool) (cs : List α) : whole (tails f cs) = f cs := by
  cases cs <;> rfl

/-! ## (2) New questions from old ones -/

/-- Whether a list starts with an item that satisfies `p`, and the rest satisfies `goOn`. -/
def behindOne (p : α → Bool) (goOn : List α → Bool) : List α → Bool
  | [] => false
  | c :: cs => p c && goOn cs

/-- Whether a list satisfies `goOn` behind some items that all satisfy `p`. -/
def behindRun (p : α → Bool) (goOn : List α → Bool) : List α → Bool
  | [] => goOn []
  | c :: cs => goOn (c :: cs) || (p c && behindRun p goOn cs)

def afterOne (p : α → Bool) : List α → List Bool → List Bool
  | c :: cs, _ :: bs => (whole bs && p c) :: afterOne p cs bs
  | _, _ => [false]

def afterRun (p : α → Bool) : List α → List Bool → List Bool
  | c :: cs, b :: bs =>
    let rest := afterRun p cs bs
    (b || (whole rest && p c)) :: rest
  | _, bs => bs

theorem afterOne_tails (p : α → Bool) (goOn : List α → Bool) (cs : List α) :
    afterOne p cs (tails goOn cs) = tails (behindOne p goOn) cs := by
  induction cs with
  | nil => rfl
  | cons c cs ih => simp [tails, afterOne, behindOne, ih, Bool.and_comm]

theorem afterRun_tails (p : α → Bool) (goOn : List α → Bool) (cs : List α) :
    afterRun p cs (tails goOn cs) = tails (behindRun p goOn) cs := by
  induction cs with
  | nil => rfl
  | cons c cs ih => simp [tails, afterRun, behindRun, ih, Bool.and_comm]

end PathAuthz.Pattern
