import KanaTyping.Kana.Lexicon
import KanaTyping.Lyrics.Cursor

/-!
# Segments

A line is typed unit by unit.  At each place the longest unit that the lexicon knows is taken,
and a kana that begins none is skipped.  `Lexicon.take` does this once, at a cursor.

* `Lexicon.left_lt_of_take`: what it takes leaves less of the line.
-/

namespace KanaTyping

/-- What is found at a place of a line: a unit of `width` kana with its spelling, or a kana that
begins no unit. -/
inductive Segment where
  | unit (s : Spelling) (width : Nat)
  | skipped (c : Char)
deriving DecidableEq

/-- The segment at a cursor and the place after it; `none` at the end of the line. -/
def Lexicon.take (x : Lexicon) (u : Cursor) : Option (Segment × Cursor) :=
  match u.current with
  | none => none
  | some c =>
    match x.longest u.window with
    | some (s, width) => some (.unit s width, u.advanceBy width)
    | none => some (.skipped c, u.advance)

/-! ### What is left of a line -/

namespace Cursor

/-- The characters from the cursor to the end of the line, typed or not. -/
def remaining (u : Cursor) : List Char :=
  u.ahead ++ u.parts.tail.flatMap Part.text

/-- The number of characters from the cursor to the end of the line. -/
def left (u : Cursor) : Nat :=
  u.remaining.length

theorem remaining_startOf (parts : List Part) (part column : Nat) :
    (startOf parts part column).remaining = parts.flatMap Part.text := by
  cases parts <;> simp [remaining, startOf]

theorem remaining_pass {u : Cursor} {c : Char} {rest : List Char} (h : u.ahead = c :: rest) :
    u.remaining = c :: (u.pass c rest).remaining := by
  simp [remaining, pass, h]

theorem left_pass {u : Cursor} {c : Char} {rest : List Char} (h : u.ahead = c :: rest) :
    (u.pass c rest).left + 1 = u.left := by
  simp [left, remaining_pass h]

theorem left_settle_le (u : Cursor) : u.settle.left ≤ u.left := by
  fun_induction settle u with
  | case1 => exact Nat.le_refl _
  | case2 => exact Nat.le_refl _
  | case3 u _ _ c rest _ ha _ ih => have := left_pass ha; omega
  | case4 u p ps hp ha ih =>
    refine Nat.le_trans ih (Nat.le_of_eq ?_)
    rw [left, remaining_startOf]
    simp [left, remaining, hp, ha]

theorem left_advance_lt {u : Cursor} (h : u.current.isSome) : u.advance.left < u.left := by
  unfold advance
  split
  · next e => simp [current, e] at h
  · next c rest e =>
    have h₁ := left_pass e
    have h₂ := left_settle_le (u.pass c rest)
    omega

theorem left_advance_le (u : Cursor) : u.advance.left ≤ u.left := by
  unfold advance
  split
  · exact left_settle_le u
  · next c rest e =>
    have h₁ := left_pass e
    have h₂ := left_settle_le (u.pass c rest)
    omega

theorem left_advanceBy_le (u : Cursor) (n : Nat) : (u.advanceBy n).left ≤ u.left := by
  induction n generalizing u with
  | zero => exact Nat.le_refl _
  | succ n ih => exact Nat.le_trans (ih u.advance) (left_advance_le u)

end Cursor

theorem Lexicon.left_lt_of_take {x : Lexicon} {u v : Cursor} {g : Segment}
    (h : x.take u = some (g, v)) : v.left < u.left := by
  unfold take at h
  split at h
  · cases h
  · next c hc =>
    have lt := Cursor.left_advance_lt (u := u) (by simp [hc])
    split at h
    · next s width e =>
      cases h
      obtain ⟨one, -⟩ := width_of_longest e
      obtain ⟨n, rfl⟩ : ∃ n, width = n + 1 := ⟨width - 1, by omega⟩
      exact Nat.lt_of_le_of_lt (Cursor.left_advanceBy_le u.advance n) lt
    · cases h; exact lt

end KanaTyping
