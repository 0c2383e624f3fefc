import KanaTyping.Proofs.Lyrics.Stream

/-!
# Cursors — walking along a line

A walk is any mix of moves to the next kana and moves over several kana at once.  It comes to the
same place as that many steps (`walk_eq_advanceBy`), and what is seen there is read off the kana
unread, by their numbers:

* `Settled.peek_eq_getElem?` and `Settled.getElem?_window` for the kana ahead;
* `Settled.atEnd_iff` for the end, from which no move leads away (`Settled.move_of_atEnd`).

`walk_reads_kana` has it for the kana of a line, in whatever parts they stand.
-/

namespace KanaTyping

namespace Cursor

/-- A move along the kana of a line: to the next one, or over `n` of them at once. -/
inductive Move where
  | next
  | many (n : Nat)
deriving DecidableEq

namespace Move

/-- The number of kana that the move passes. -/
def length : Move → Nat
  | next => 1
  | many n => n

/-- The number of kana that the moves pass together. -/
def total : (ms : List Move) → Nat
  | [] => 0
  | m :: ms => m.length + total ms

end Move

/-! ### At rest -/

variable {u : Cursor}

theorem Settled.isKana_of_current (hu : u.Settled) {c : Char} (h : u.current = some c) :
    isKana c = true := by
  cases hu with
  | atEnd _ ha => simp [current, ha] at h
  | onKana _ ha hc =>
      simp only [current, ha, List.head?_cons, Option.some.injEq] at h
      exact h ▸ hc

theorem Settled.atEnd_iff (hu : u.Settled) : u.atEnd = true ↔ u.unread = [] := by
  cases hu with
  | atEnd hp ha => simp [Cursor.atEnd, unread, remaining, hp, ha]
  | onKana hp ha hc => simp [Cursor.atEnd, hp, unread_of_ahead ha, hc]

/-! ### Moves -/

variable [Text.Metric]

/-- The cursor after a move. -/
def move (u : Cursor) : Move → Cursor
  | .next => u.advance
  | .many n => u.advanceBy n

/-- The cursor after the moves, one by one. -/
def walk (u : Cursor) : (ms : List Move) → Cursor
  | [] => u
  | m :: ms => (u.move m).walk ms

theorem move_eq_advanceBy (u : Cursor) (m : Move) : u.move m = u.advanceBy m.length := by
  cases m <;> rfl

/-- Only the number of kana passed tells where a walk ends. -/
theorem walk_eq_advanceBy (u : Cursor) (ms : List Move) :
    u.walk ms = u.advanceBy (Move.total ms) := by
  induction ms generalizing u with
  | nil => rfl
  | cons m ms ih => rw [walk, ih, move_eq_advanceBy, ← advanceBy_add, Move.total]

/-! ### What is seen ahead, and the end -/

theorem Settled.peek_eq_getElem? (hu : u.Settled) (n : Nat) : u.peek n = u.unread[n]? := by
  rw [peek, (hu.advanceBy n).current_eq_head?, hu.unread_advanceBy, List.head?_drop]

theorem Settled.getElem?_window (hu : u.Settled) (i : Nat) :
    u.window[i]? = if i < 3 then u.unread[i]? else none := by
  rw [hu.window_eq_take, List.getElem?_take]

/-- From the end no step leads away. -/
theorem Settled.advance_of_atEnd (hu : u.Settled) (h : u.atEnd = true) : u.advance = u := by
  cases hu with
  | atEnd hp ha => rw [Cursor.advance, ha, settle, hp]
  | onKana hp => simp [Cursor.atEnd, hp] at h

theorem Settled.move_of_atEnd (hu : u.Settled) (h : u.atEnd = true) (m : Move) :
    u.move m = u := by
  rw [move_eq_advanceBy]
  induction m.length with
  | zero => rfl
  | succ n ih => rw [Cursor.advanceBy, hu.advance_of_atEnd h, ih]

end Cursor

variable [Text.Metric]

theorem Lyric.atEnd_advanceBy_iff (l : Lyric) {n : Nat} :
    (l.cursor.advanceBy n).atEnd = true ↔ l.kana.length ≤ n := by
  rw [(l.settled_cursor.advanceBy n).atEnd_iff, l.unread_advanceBy, List.drop_eq_nil_iff]

/-- **A walk reads the kana of its line.**  After any moves over `k` kana in all, the cursor is on
the `k`-th kana of the line and sees the ones after it by their numbers; it is at the end exactly
when the line has no `k`-th kana, and then it stays there; and it never rests on anything but a
kana. -/
theorem Lyric.walk_reads_kana (l : Lyric) (ms : List Cursor.Move) :
    let u := l.cursor.walk ms
    let k := Cursor.Move.total ms
    u.current = l.kana[k]? ∧
      (∀ n, u.peek n = l.kana[k + n]?) ∧
      (∀ i, u.window[i]? = if i < 3 then l.kana[k + i]? else none) ∧
      (u.atEnd = true ↔ l.kana.length ≤ k) ∧
      (u.atEnd = true → ∀ m, u.move m = u) ∧
      ∀ c, u.current = some c → isKana c = true := by
  intro u k
  have hat : u = l.cursor.advanceBy k := l.cursor.walk_eq_advanceBy ms
  have hu : u.Settled := hat ▸ l.settled_cursor.advanceBy k
  have hkana : u.unread = l.kana.drop k := hat ▸ l.unread_advanceBy k
  refine ⟨?_, fun n => ?_, fun i => ?_, ?_, hu.move_of_atEnd, fun c => hu.isKana_of_current⟩
  · rw [hu.current_eq_head?, hkana, List.head?_drop]
  · rw [hu.peek_eq_getElem?, hkana, List.getElem?_drop]
  · rw [hu.getElem?_window, hkana, List.getElem?_drop]
  · rw [hu.atEnd_iff, hkana, List.drop_eq_nil_iff]

end KanaTyping
