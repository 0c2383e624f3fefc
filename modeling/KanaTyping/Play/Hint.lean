import KanaTyping.Play.Progress

/-!
# Hints

A *hint* is the keys a player still has to type: one key for each step that is not optional, the
first of those the step accepts.  It is a state of its own, from which the keys are drawn one by
one, and moving it leaves the progress it was taken from alone.

* `Hint.ofLyric` and `Progress.hint` make a hint, `Hint.current` is its next key and
  `Hint.advance` moves on.
* `Hint.keys` is all of its keys.
-/

namespace KanaTyping

/-- The keys still to be typed, as a place in a spelling and the place after its unit. -/
structure Hint where
  node : Option Node
  cursor : Cursor
deriving DecidableEq

namespace Hint

/-- The hint at the first step of the next unit from a cursor on, or at the end of the line. -/
def pull (x : Lexicon) (u : Cursor) : Hint :=
  match _h : x.take u with
  | none => ⟨none, u⟩
  | some (.skipped _, v) => pull x v
  | some (.unit s _, v) => ⟨some s.head, v⟩
termination_by u.left
decreasing_by exact Lexicon.left_lt_of_take _h

/-- The hint at the step after `n`, which may be in the next unit. -/
def stepFrom (x : Lexicon) (n : Node) (u : Cursor) : Hint :=
  match n.next with
  | some m => ⟨some m, u⟩
  | none => pull x u

/-! ### What is left of a hint -/

/-- The number of steps from the hint's step to the last of its spelling. -/
def stepsLeft (h : Hint) : Nat :=
  match h.node with
  | none => 0
  | some n => n.remaining.length

/-- Less of the line is left after the hint's unit, or as much and fewer steps of the unit. -/
def Less (g h : Hint) : Prop :=
  g.cursor.left < h.cursor.left ∨
    g.cursor.left = h.cursor.left ∧ g.stepsLeft < h.stepsLeft

theorem Less.trans {f g h : Hint} (h₁ : Less f g) (h₂ : Less g h) : Less f h := by
  unfold Less at *; omega

theorem less_pull (x : Lexicon) (n : Node) (u : Cursor) : Less (pull x u) ⟨some n, u⟩ := by
  fun_induction pull x u with
  | case1 u => exact .inr ⟨rfl, by simp [stepsLeft, Node.remaining]⟩
  | case2 u _ v e ih =>
    have lt : v.left < u.left := Lexicon.left_lt_of_take e
    simp only [Less] at ih ⊢
    omega
  | case3 u s w v e => exact .inl (Lexicon.left_lt_of_take e)

theorem less_stepFrom (x : Lexicon) (n : Node) (u : Cursor) :
    Less (stepFrom x n u) ⟨some n, u⟩ := by
  unfold stepFrom
  split
  · next m e =>
    refine .inr ⟨rfl, ?_⟩
    unfold Node.next at e
    split at e
    · cases e
    · next he => cases e; simp [stepsLeft, Node.remaining, he]
  · exact less_pull x n u

/-- The hint at the first step that is not optional, from the step of `h` on. -/
def toRequired (x : Lexicon) (h : Hint) : Hint :=
  match h with
  | ⟨none, u⟩ => ⟨none, u⟩
  | ⟨some n, u⟩ => if n.optional then toRequired x (stepFrom x n u) else ⟨some n, u⟩
termination_by (h.cursor.left, h.stepsLeft)
decreasing_by exact Prod.lex_def.2 (less_stepFrom x n u)

/-- The hint from a step on, if one is given, and else from the next unit on. -/
def ofNode (x : Lexicon) (node : Option Node) (u : Cursor) : Hint :=
  match node with
  | none => (pull x u).toRequired x
  | some n => toRequired x ⟨some n, u⟩

/-- The hint for a whole line. -/
def ofLyric (x : Lexicon) (l : Lyric) : Hint :=
  ofNode x none l.cursor

/-- The next key. -/
def current (h : Hint) : Option Char :=
  h.node.map Node.shown

/-- The hint after its next key. -/
def advance (x : Lexicon) (h : Hint) : Hint :=
  match h with
  | ⟨none, u⟩ => ⟨none, u⟩
  | ⟨some n, u⟩ => (stepFrom x n u).toRequired x

theorem toRequired_le (x : Lexicon) (h : Hint) : h.toRequired x = h ∨ Less (h.toRequired x) h := by
  fun_induction toRequired x h with
  | case1 u => exact .inl rfl
  | case2 n u _ ih =>
    refine .inr ?_
    have step := less_stepFrom x n u
    rcases ih with e | lt
    · rw [e]; exact step
    · exact lt.trans step
  | case3 n u => exact .inl rfl

theorem less_advance (x : Lexicon) (n : Node) (u : Cursor) :
    Less (advance x ⟨some n, u⟩) ⟨some n, u⟩ := by
  have step := less_stepFrom x n u
  rcases toRequired_le x (stepFrom x n u) with e | lt
  · simp only [advance, e]; exact step
  · exact lt.trans step

/-- All keys of the hint, in order. -/
def keys (x : Lexicon) (h : Hint) : List Char :=
  match h with
  | ⟨none, _⟩ => []
  | ⟨some n, u⟩ => n.shown :: (advance x ⟨some n, u⟩).keys x
termination_by (h.cursor.left, h.stepsLeft)
decreasing_by exact Prod.lex_def.2 (less_advance x n u)

/-- The hint after `n` of its keys. -/
def advanceBy (x : Lexicon) (h : Hint) : (n : Nat) → Hint
  | 0 => h
  | n + 1 => (h.advance x).advanceBy x n

end Hint

/-- The keys a player has yet to type. -/
def Progress.hint (x : Lexicon) (p : Progress) : Hint :=
  Hint.ofNode x p.node p.cursor

/-- The number of keys a player has yet to type, when no optional step is typed. -/
def Progress.remaining (x : Lexicon) (p : Progress) : Nat :=
  ((p.hint x).keys x).length

end KanaTyping
