import KanaTyping.Proofs.Play.Transitions

/-!
# Play — where a player stands in a line

The counters of a state against the greedy segmentation of its line.  `Stands x l p` says that `p`
is behind all segments of the line `l`, or on one of its units with the segments before it done:
the cursor, the number of units and the two numbers of kana are then those of the segmentation.
A line is begun so, whatever was typed before it (`stands_restart`), and every key keeps it
(`Stands.press`); a key never takes the counters back (`Stands.le_press`).

`counters_follow_segments` reads the counters off it for every run of keys.
-/

namespace KanaTyping

namespace Progress

variable {x : Lexicon} {l : Lyric} {p q : Progress}

/-- Where the state `p` stands in the line `l`. -/
inductive Stands (x : Lexicon) (l : Lyric) (p : Progress) : Prop
  | behindAll (node : p.node = none)
      (resolved : p.resolved = (Segment.spellings (x.segments l.kana)).length)
      (highlighted : p.highlighted = l.kana.length)
  | onUnit (before : List Segment) (s : Spelling) (w : Nat) {n : Node}
      (node : p.node = some n) (place : n ∈ s.head.toLast) (asks : n.restOptional = false)
      (line : x.segments l.kana = before ++ .unit s w :: x.segments p.cursor.unread)
      (cursor : p.cursor = l.cursor.advanceBy (Segment.width before + w))
      (resolved : p.resolved = (Segment.spellings before).length)
      (highlighted : p.highlighted = Segment.width before)
      (consumed : p.consumed = Segment.width before + w)

/-- Moving on with the segments `before` done. -/
theorem stands_moveOn (before : List Segment)
    (line : x.segments l.kana = before ++ x.segments p.cursor.unread)
    (cursor : p.cursor = l.cursor.advanceBy (Segment.width before))
    (resolved : p.resolved = (Segment.spellings before).length)
    (consumed : p.consumed = Segment.width before) : Stands x l (moveOn x p) := by
  have hu : p.cursor.Settled := cursor ▸ l.settled_cursor.advanceBy _
  obtain ⟨gs, -, hr, hh, ⟨hn, hl, -⟩ | ⟨s, w, hn, ha, hl, hc, hk⟩⟩ := moveOn_spec x p hu
  -- the segments passed join those before: they are all, or all before the next unit
  · rw [hl] at line
    refine .behindAll hn ?_ ?_
    · rw [hr, resolved, line, Segment.spellings_append, List.length_append]
    · rw [hh, consumed, ← Segment.width_append, ← line, Lexicon.width_segments]
  · have hw : Segment.width (before ++ gs) = p.consumed + Segment.width gs := by
      rw [Segment.width_append, consumed]
    refine .onUnit (before ++ gs) s w hn
      (Node.mem_toLast_iff.mpr ⟨[], Node.over_nil_iff.mpr rfl⟩) ha ?_ ?_ ?_ ?_ ?_
    · rw [line, hl, List.append_assoc]
    · rw [hc, cursor, ← Cursor.advanceBy_add, Segment.width_append, Nat.add_assoc]
    · rw [hr, resolved, Segment.spellings_append, List.length_append]
    · rw [hh, hw]
    · rw [hk, hh, hw]

theorem stands_restart (x : Lexicon) (p : Progress) (l : Lyric) : Stands x l (p.restart x l) := by
  refine stands_moveOn [] ?_ rfl rfl rfl
  rw [List.nil_append, l.unread_cursor]

/-- With the unit under the cursor completed, the segments done are one more. -/
theorem Stands.press (h : Stands x l p) (key : Char) : Stands x l (p.press x key).2 := by
  obtain ⟨stroke, q, e, hp⟩ := press_spec x p key
  rw [e]
  cases hp with
  | finished | refused => exact h
  | @within n m o hn hm ho ha =>
      cases h with
      | behindAll node => rw [hn] at node; cases node
      | onUnit before s w node place _ line cursor resolved highlighted consumed =>
          rw [hn] at node
          cases node
          obtain ⟨gap, hgap, -, -⟩ := Node.reach_eq_some_iff.mp hm
          have place' := (hgap.trans (Node.next_eq_some_iff.mp ho)).mem_toLast place
          exact .onUnit before s w rfl place' ha line cursor resolved highlighted consumed
  | @completes n m hn hm _ =>
      cases h with
      | behindAll node => rw [hn] at node; cases node
      | onUnit before s w _ _ _ line cursor resolved _ consumed =>
          have hw : Segment.width (before ++ [.unit s w]) = Segment.width before + w := by
            rw [Segment.width_append]; rfl
          refine stands_moveOn (before ++ [.unit s w]) ?_ ?_ ?_ ?_
          · rw [line, List.append_assoc]; rfl
          · rw [hw]; exact cursor
          · rw [Segment.spellings_append, List.length_append, ← resolved]; rfl
          · rw [hw]; exact consumed

/-- No key takes a counter back. -/
theorem Stands.le_press (h : Stands x l p) (key : Char) :
    p.resolved ≤ (p.press x key).2.resolved ∧ p.highlighted ≤ (p.press x key).2.highlighted := by
  obtain ⟨stroke, q, e, hp⟩ := press_spec x p key
  rw [e]
  cases hp with
  | finished | refused | within => exact ⟨Nat.le_refl _, Nat.le_refl _⟩
  | @completes n m hn hm _ =>
      cases h with
      | behindAll node => rw [hn] at node; cases node
      | onUnit before s w _ _ _ _ cursor _ highlighted consumed =>
          have hu : p.cursor.Settled := cursor ▸ l.settled_cursor.advanceBy _
          obtain ⟨gs, hgs⟩ := completeUnit_spec x p hu
          have hr := hgs.resolved
          have hh := hgs.highlighted
          simp only at hr hh ⊢
          omega

theorem Stands.pressAll (h : Stands x l p) (keys : List Char) : Stands x l (p.pressAll x keys).2 :=
  pressAll_induction (fun _ key h => h.press key) keys h

/-- A finished line is done to its end. -/
theorem Stands.of_node_eq_none (h : Stands x l p) (hn : p.node = none) :
    p.resolved = (Segment.spellings (x.segments l.kana)).length ∧
      p.highlighted = l.kana.length := by
  cases h with
  | behindAll _ resolved highlighted => exact ⟨resolved, highlighted⟩
  | onUnit _ _ _ node => rw [hn] at node; cases node

/-- All kana are highlighted when the line is finished, and not before. -/
theorem Stands.highlighted_eq_length_iff (h : Stands x l p) :
    p.highlighted = l.kana.length ↔ p.node = none := by
  refine ⟨fun heq => ?_, fun hn => (h.of_node_eq_none hn).2⟩
  cases h with
  | behindAll node => exact node
  | onUnit before s w _ _ _ line _ _ highlighted =>
      -- the unit being typed has kana, which are not highlighted
      have hpos : 0 < w := Lexicon.size_pos_of_mem_segments (x := x) (g := .unit s w)
        (line ▸ List.mem_append_right _ List.mem_cons_self)
      rw [highlighted, ← Lexicon.width_segments x, line, Segment.width_append, Segment.width,
        Segment.size] at heq
      omega

theorem Stands.highlighted_le_length (h : Stands x l p) : p.highlighted ≤ l.kana.length := by
  cases h with
  | behindAll _ _ highlighted => exact Nat.le_of_eq highlighted
  | onUnit before s w _ _ _ line _ _ highlighted =>
      rw [highlighted, ← Lexicon.width_segments x, line, Segment.width_append]
      exact Nat.le_add_right _ _

/-- **The counters follow the segmentation.**  After any keys on a line, whatever was typed before
it: an unfinished state is on a unit of the line, at a place of its spelling with a step still to be
typed from there on, and counts the units and the kana before it, with the kana after it unread; a
finished state counts all units and all kana.  One more key takes neither counter back. -/
theorem counters_follow_segments (x : Lexicon) (before : Progress) (l : Lyric)
    (keys : List Char) :
    let p := ((before.restart x l).pressAll x keys).2
    (∀ n, p.node = some n → ∃ done s w todo,
        x.segments l.kana = done ++ .unit s w :: todo ∧
        n ∈ s.head.toLast ∧ (∃ t ∈ n.remaining, t.optional = false) ∧
        p.resolved = (Segment.spellings done).length ∧
        p.highlighted = Segment.width done ∧
        p.cursor.unread = l.kana.drop (Segment.width done + w)) ∧
      (p.node = none →
        p.resolved = (Segment.spellings (x.segments l.kana)).length ∧
        p.highlighted = l.kana.length) ∧
      ∀ key, p.resolved ≤ (p.press x key).2.resolved ∧
        p.highlighted ≤ (p.press x key).2.highlighted := by
  intro p
  have h : Stands x l p := (stands_restart x before l).pressAll keys
  refine ⟨fun n hn => ?_, h.of_node_eq_none, h.le_press⟩
  cases h with
  | behindAll node => rw [hn] at node; cases node
  | onUnit done s w node place asks line cursor resolved highlighted _ =>
      rw [hn] at node
      cases node
      refine ⟨done, s, w, _, line, place, Node.restOptional_eq_false_iff.mp asks, resolved,
        highlighted, ?_⟩
      rw [cursor, l.settled_cursor.unread_advanceBy, l.unread_cursor]

end Progress

end KanaTyping
