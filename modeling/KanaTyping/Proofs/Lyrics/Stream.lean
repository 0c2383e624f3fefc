import KanaTyping.Play.Segment

/-!
# Cursors — the stream of kana

A cursor walks through the parts of a line, over the characters that are not typed and over the
ends of parts.  `Cursor.unread u` is the list of the kana from `u` to the end of the line, read off
the texts of the parts without walking.  On a cursor that has come to rest (`Settled`), each
operation is the operation on that list:

* `current_eq_head?`: the kana under the cursor is the first one unread;
* `unread_advanceBy`: `n` steps on, the first `n` are read;
* `window_eq_take`: the window is the first three.

A line's own cursor rests, with all the kana of the line unread (`Lyric.unread_cursor`), and
cursors stay at rest (`Settled.advanceBy`).
-/

namespace KanaTyping

namespace Cursor

variable {u : Cursor}

/-- The kana from the cursor to the end of the line. -/
def unread (u : Cursor) : List Char :=
  u.remaining.filter isKana

/-- The cursor has come to rest: at the end, or on a kana. -/
inductive Settled (u : Cursor) : Prop
  | atEnd (parts : u.parts = []) (ahead : u.ahead = [])
  | onKana {p : Part} {ps : List Part} {c : Char} {rest : List Char}
      (parts : u.parts = p :: ps) (ahead : u.ahead = c :: rest) (kana : isKana c = true)

/-! ### Coming to rest -/

theorem unread_startOf (parts : List Part) (part column : Nat) :
    (startOf parts part column).unread = (parts.flatMap Part.text).filter isKana := by
  rw [unread, remaining_startOf]

/-- Passing a character reads it, if it is a kana. -/
theorem unread_of_ahead {c : Char} {rest : List Char} (h : u.ahead = c :: rest) :
    u.unread = if isKana c then c :: (u.pass c rest).unread else (u.pass c rest).unread := by
  rw [unread, remaining_pass h, List.filter_cons]
  rfl

theorem Settled.current_eq_head? (hu : u.Settled) : u.current = u.unread.head? := by
  cases hu with
  | atEnd hp ha => simp [current, unread, remaining, hp, ha]
  | onKana _ ha hc => simp [current, unread_of_ahead ha, ha, hc]

variable [Text.Metric]

theorem unread_settle (u : Cursor) : u.settle.unread = u.unread := by
  fun_induction settle u with
  | case1 => rfl
  | case2 => rfl
  | case3 u _ _ c rest _ ha hc ih => rw [ih, unread_of_ahead ha, if_neg hc]
  | case4 u p ps hp ha ih =>
      rw [ih, unread_startOf]
      simp [unread, remaining, hp, ha]

/-- A cursor comes to rest, as long as it stands in no text when no part is left. -/
theorem settled_settle (h : u.parts = [] → u.ahead = []) : u.settle.Settled := by
  fun_induction settle u with
  | case1 u hp => exact .atEnd hp (h hp)
  | case2 u p ps c rest hp ha hc => exact .onKana hp ha hc
  | case3 u p ps c rest hp _ _ ih =>
      refine ih fun hnil => ?_
      rw [pass, hp] at hnil
      cases hnil
  | case4 u p ps hp ha ih =>
      -- the next part is the last one, or there is none and then no text
      refine ih fun hnil => ?_
      subst hnil
      rfl

/-! ### At rest -/

/-- What is drawn shows the kana under the cursor. -/
theorem Settled.map_char_glyph (hu : u.Settled) : u.glyph.map Glyph.char = u.current := by
  cases hu with
  | atEnd hp ha => simp [glyph, current, hp, ha]
  | @onKana p _ _ _ hp ha _ => cases p <;> simp [glyph, current, hp, ha]

theorem Settled.advance (hu : u.Settled) : u.advance.Settled := by
  rw [Cursor.advance]
  cases hu with
  | atEnd hp ha =>
      simp only [ha]
      exact settled_settle fun _ => ha
  | onKana hp ha _ =>
      simp only [ha]
      refine settled_settle fun hnil => ?_
      rw [pass, hp] at hnil
      cases hnil

theorem Settled.unread_advance (hu : u.Settled) : u.advance.unread = u.unread.tail := by
  rw [Cursor.advance]
  cases hu with
  | atEnd hp ha =>
      simp only [ha, unread_settle]
      simp [unread, remaining, hp, ha]
  | onKana _ ha hc =>
      simp only [ha, unread_settle]
      simp [unread_of_ahead ha, hc]

theorem Settled.advanceBy (hu : u.Settled) (n : Nat) : (u.advanceBy n).Settled := by
  induction n generalizing u with
  | zero => exact hu
  | succ n ih => exact ih hu.advance

theorem Settled.unread_advanceBy (hu : u.Settled) (n : Nat) :
    (u.advanceBy n).unread = u.unread.drop n := by
  induction n generalizing u with
  | zero => rfl
  | succ n ih =>
      rw [Cursor.advanceBy, ih hu.advance, hu.unread_advance, List.drop_tail]

theorem advanceBy_add (u : Cursor) (m n : Nat) :
    u.advanceBy (m + n) = (u.advanceBy m).advanceBy n := by
  induction m generalizing u with
  | zero => rw [Nat.zero_add]; rfl
  | succ m ih => rw [Nat.succ_add]; exact ih u.advance

theorem Settled.window_eq_take (hu : u.Settled) : u.window = u.unread.take 3 := by
  simp only [window, hu.current_eq_head?, hu.advance.current_eq_head?,
    hu.advance.advance.current_eq_head?, hu.advance.unread_advance, hu.unread_advance]
  rcases u.unread with _ | ⟨a, _ | ⟨b, _ | ⟨c, rest⟩⟩⟩ <;> rfl

end Cursor

/-! ### The cursor of a line -/

variable [Text.Metric]

theorem Lyric.settled_cursor (l : Lyric) : l.cursor.Settled :=
  Cursor.settled_settle fun h => by
    have hnil : l.parts = [] := h
    simp [Cursor.startOf, hnil]

theorem Lyric.unread_cursor (l : Lyric) : l.cursor.unread = l.kana := by
  rw [Lyric.cursor, Cursor.unread_settle, Cursor.unread_startOf, Lyric.kana]

theorem Lyric.unread_advanceBy (l : Lyric) (n : Nat) :
    (l.cursor.advanceBy n).unread = l.kana.drop n := by
  rw [l.settled_cursor.unread_advanceBy, l.unread_cursor]

end KanaTyping
