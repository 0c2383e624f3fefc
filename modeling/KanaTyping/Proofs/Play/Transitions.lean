import KanaTyping.Proofs.Play.Segmentation
import KanaTyping.Proofs.Spelling.Places

/-!
# Play — what a key does

The transitions of `Progress`, said once, and the invariant they keep.

* `press_spec`: a key misses, goes on within the unit, or completes it (`Press`).
* `moveOn_spec`: moving on passes segments that ask for no key, and stops at the end of the line
  or on a unit that asks for one (`MovesOver`).
* `Coherent`: the cursor is at rest, a finished line is read to its end, and the node of an
  unfinished one is a place of a known spelling with a step still to be typed from there on.
  `Coherent.press` keeps it and `Reachable.coherent` has it in every state that a player can
  bring about.

The second clause of the last one carries most of what is proved of a line: the unit being typed is
never left with optional steps alone.
-/

namespace KanaTyping

/-- Whether the segment asks for no key: a skipped kana, or a unit of optional steps alone. -/
def Segment.effortless : Segment → Bool
  | unit s _ => s.head.restOptional
  | skipped _ => true

namespace Progress

variable {x : Lexicon} {p q : Progress} {key : Char}

/-! ### One key -/

/-- What a key does to `p`. -/
inductive Press (x : Lexicon) (p : Progress) (key : Char) : Stroke → Progress → Prop
  | finished (node : p.node = none) : Press x p key .miss p
  | refused {n : Node} (node : p.node = some n) (reach : n.reach key.toUpper = none) :
      Press x p key .miss p
  | within {n m o : Node} (node : p.node = some n) (reach : n.reach key.toUpper = some m)
      (next : m.next = some o) (asks : o.restOptional = false) :
      Press x p key .hit { p with node := some o }
  | completes {n m : Node} (node : p.node = some n) (reach : n.reach key.toUpper = some m)
      (rest : ∀ s ∈ m.ahead, s.optional = true) :
      Press x p key .hit (p.completeUnit x)

/-- A key that reaches the step `m` goes on to the next step, or completes the unit when only
optional steps are left. -/
theorem press_of_reach (x : Lexicon) {n m : Node} (hn : p.node = some n)
    (hm : n.reach key.toUpper = some m) :
    (∃ o, m.next = some o ∧ o.restOptional = false ∧
        p.press x key = (.hit, { p with node := some o })) ∨
      (∀ s ∈ m.ahead, s.optional = true) ∧ p.press x key = (.hit, p.completeUnit x) := by
  simp only [press, hn, hm, afterStep]
  cases ho : m.next with
  | none =>
      rw [Node.next_eq_none_iff.mp ho]
      exact .inr ⟨by simp, rfl⟩
  | some o =>
      cases hr : o.restOptional with
      | false => exact .inl ⟨o, rfl, hr, by simp [hr]⟩
      | true =>
          rw [Node.remaining_of_next ho]
          exact .inr ⟨List.all_eq_true.mp hr, by simp [hr]⟩

theorem press_spec (x : Lexicon) (p : Progress) (key : Char) :
    ∃ stroke q, p.press x key = (stroke, q) ∧ Press x p key stroke q := by
  cases hn : p.node with
  | none => exact ⟨.miss, p, by simp [press, hn], .finished hn⟩
  | some n =>
      cases hm : n.reach key.toUpper with
      | none => exact ⟨.miss, p, by simp [press, hn, hm], .refused hn hm⟩
      | some m =>
          obtain ⟨o, ho, hr, e⟩ | ⟨hr, e⟩ := press_of_reach x hn hm
          · exact ⟨.hit, _, e, .within hn hm ho hr⟩
          · exact ⟨.hit, _, e, .completes hn hm hr⟩

/-! ### Moving on -/

/-- What moving on does at the segment under the cursor. -/
theorem moveOn_eq (x : Lexicon) (p : Progress) :
    moveOn x p = match x.take p.cursor with
      | none => { p with node := none, highlighted := p.consumed }
      | some (.skipped _, u) => moveOn x { p with cursor := u, consumed := p.consumed + 1 }
      | some (.unit s width, u) =>
        if s.head.restOptional then
          moveOn x { p with
            cursor := u
            resolved := p.resolved + 1
            consumed := p.consumed + width
            highlighted := p.consumed
            active := []
            completed := p.completed ++ p.cursor.glyphs width }
        else
          { p with
            node := some s.head
            cursor := u
            consumed := p.consumed + width
            highlighted := p.consumed
            active := p.cursor.glyphs width } := by
  rw [moveOn]
  split
  · next h => rw [h]
  · next h => rw [h]
  · next h => rw [h]

/-- `q` is `p` moved over the segments `gs`, which ask for no key, to the end of the line or to the
first unit that asks for one. -/
structure MovesOver (x : Lexicon) (p q : Progress) (gs : List Segment) : Prop where
  effortless : ∀ g ∈ gs, g.effortless = true
  resolved : q.resolved = p.resolved + (Segment.spellings gs).length
  highlighted : q.highlighted = p.consumed + Segment.width gs
  lands :
    q.node = none ∧ x.segments p.cursor.unread = gs ∧
        q.cursor = p.cursor.advanceBy (Segment.width gs) ∨
      ∃ s n, q.node = some s.head ∧ s.head.restOptional = false ∧
        x.segments p.cursor.unread = gs ++ .unit s n :: x.segments q.cursor.unread ∧
        q.cursor = p.cursor.advanceBy (Segment.width gs + n) ∧
        q.consumed = q.highlighted + n

/-- One more segment at the front. -/
theorem MovesOver.cons {p' : Progress} {g : Segment} {gs : List Segment}
    (h : MovesOver x p' q gs) (hg : g.effortless = true)
    (line : x.segments p.cursor.unread = g :: x.segments p'.cursor.unread)
    (cursor : p'.cursor = p.cursor.advanceBy g.size)
    (resolved : p'.resolved = p.resolved + (Segment.spellings [g]).length)
    (consumed : p'.consumed = p.consumed + g.size) :
    MovesOver x p q (g :: gs) where
  effortless := List.forall_mem_cons.mpr ⟨hg, h.effortless⟩
  resolved := by
    have split : Segment.spellings (g :: gs) = Segment.spellings [g] ++ Segment.spellings gs :=
      Segment.spellings_append [g] gs
    rw [h.resolved, resolved, split, List.length_append, Nat.add_assoc]
  highlighted := by rw [h.highlighted, consumed, Segment.width, Nat.add_assoc]
  lands := by
    rcases h.lands with ⟨hn, hl, hc⟩ | ⟨s, n, hn, ha, hl, hc, hk⟩
    · exact .inl ⟨hn, by rw [line, hl], by rw [hc, cursor, ← Cursor.advanceBy_add]; rfl⟩
    · refine .inr ⟨s, n, hn, ha, by rw [line, hl]; rfl, ?_, hk⟩
      rw [hc, cursor, ← Cursor.advanceBy_add, Segment.width, Nat.add_assoc]

/-- The induction on `moveOn`, each recursive call of which passes one segment. -/
theorem moveOn_spec (x : Lexicon) (p : Progress) (hu : p.cursor.Settled) :
    ∃ gs, MovesOver x p (moveOn x p) gs := by
  fun_induction moveOn x p with
  | case1 p h =>
      -- nothing is left of the line
      refine ⟨[], by simp, rfl, rfl, .inl ⟨rfl, ?_, rfl⟩⟩
      rw [(Lexicon.take_eq_none_iff hu).mp h, Lexicon.segments_nil]
  | case2 p c u h ih =>
      obtain ⟨rfl, hl⟩ := Lexicon.take_spec hu h
      obtain ⟨gs, hgs⟩ := ih (hu.advanceBy _)
      exact ⟨.skipped c :: gs, hgs.cons rfl hl rfl rfl rfl⟩
  | case3 p s width u h glyphs ho ih =>
      obtain ⟨rfl, hl⟩ := Lexicon.take_spec hu h
      obtain ⟨gs, hgs⟩ := ih (hu.advanceBy _)
      exact ⟨.unit s width :: gs, hgs.cons ho hl rfl rfl rfl⟩
  | case4 p s width u h glyphs ho =>
      -- a unit that asks for a key, where moving on stops
      obtain ⟨rfl, hl⟩ := Lexicon.take_spec hu h
      refine ⟨[], by simp, rfl, rfl, .inr ⟨s, width, rfl, by simpa using ho, hl, ?_, rfl⟩⟩
      simp [Segment.width, Segment.size]

/-- Completing a unit counts it, and then moves on. -/
theorem completeUnit_spec (x : Lexicon) (p : Progress) (hu : p.cursor.Settled) :
    ∃ gs, MovesOver x { p with resolved := p.resolved + 1, completed := p.active, active := [] }
      (p.completeUnit x) gs :=
  moveOn_spec x _ hu

/-! ### Many keys -/

theorem pressAll_cons (x : Lexicon) (p : Progress) (key : Char) (keys : List Char) :
    p.pressAll x (key :: keys) =
      ((p.press x key).1 :: ((p.press x key).2.pressAll x keys).1,
        ((p.press x key).2.pressAll x keys).2) := rfl

/-- What every key keeps, a run of keys keeps. -/
theorem pressAll_induction {motive : Progress → Prop}
    (step : ∀ p key, motive p → motive (p.press x key).2) (keys : List Char) (h : motive p) :
    motive (p.pressAll x keys).2 := by
  induction keys generalizing p with
  | nil => exact h
  | cons key keys ih => exact ih (step p key h)

/-- The states that a player can bring about: from no line at all, by starting lines and by
pressing keys. -/
inductive Reachable (x : Lexicon) : Progress → Prop
  | idle : Reachable x idle
  | restart {p : Progress} (l : Lyric) : Reachable x p → Reachable x (p.restart x l)
  | press {p : Progress} (key : Char) : Reachable x p → Reachable x (p.press x key).2

theorem Reachable.start (x : Lexicon) (l : Lyric) : Reachable x (start x l) :=
  .restart l .idle

theorem Reachable.pressAll (h : Reachable x p) (keys : List Char) :
    Reachable x (p.pressAll x keys).2 :=
  pressAll_induction (fun _ key h => h.press key) keys h

/-! ### The invariant -/

/-- A state that holds together. -/
structure Coherent (x : Lexicon) (p : Progress) : Prop where
  settled : p.cursor.Settled
  ended : p.node = none → p.cursor.unread = []
  asks : ∀ n, p.node = some n → n.restOptional = false
  known : ∀ n, p.node = some n → ∃ key s, x.find key = some s ∧ n ∈ s.head.toLast

theorem coherent_moveOn (x : Lexicon) (p : Progress) (hu : p.cursor.Settled) :
    Coherent x (moveOn x p) := by
  obtain ⟨gs, -, -, -, ⟨hn, hl, hc⟩ | ⟨s, n, hn, ha, hl, hc, -⟩⟩ := moveOn_spec x p hu
  -- at the end, the segments passed are as wide as the kana that were unread
  · refine ⟨hc ▸ hu.advanceBy _, fun _ => ?_, by simp [hn], by simp [hn]⟩
    rw [hc, hu.unread_advanceBy, ← hl, Lexicon.width_segments, List.drop_length]
  · refine ⟨hc ▸ hu.advanceBy _, by simp [hn], fun m hm => ?_, fun m hm => ?_⟩
    · rw [hn] at hm
      cases hm
      exact ha
    · rw [hn] at hm
      cases hm
      obtain ⟨key, hkey⟩ := Lexicon.exists_find_of_mem_segments (x := x) (s := s) (n := n)
        (hl ▸ List.mem_append_right _ List.mem_cons_self)
      exact ⟨key, s, hkey, Node.mem_toLast_iff.mpr ⟨[], Node.over_nil_iff.mpr rfl⟩⟩

theorem coherent_idle (x : Lexicon) : Coherent x idle where
  settled := Lyric.settled_cursor _
  ended _ := Lyric.unread_cursor _
  asks := by simp [idle]
  known := by simp [idle]

theorem Coherent.press (h : Coherent x p) (key : Char) : Coherent x (p.press x key).2 := by
  obtain ⟨stroke, q, e, hp⟩ := press_spec x p key
  rw [e]
  cases hp with
  | finished | refused => exact h
  | @within n m o hn hm ho ha =>
      refine ⟨h.settled, by simp, fun k hk => ?_, fun k hk => ?_⟩
      · cases hk
        exact ha
      · cases hk
        obtain ⟨word, s, hs, hmem⟩ := h.known n hn
        obtain ⟨gap, hgap, -, -⟩ := Node.reach_eq_some_iff.mp hm
        exact ⟨word, s, hs, (hgap.trans (Node.next_eq_some_iff.mp ho)).mem_toLast hmem⟩
  | completes => exact coherent_moveOn x _ h.settled

theorem coherent_restart (x : Lexicon) (p : Progress) (l : Lyric) : Coherent x (p.restart x l) :=
  coherent_moveOn x _ l.settled_cursor

theorem Coherent.pressAll (h : Coherent x p) (keys : List Char) :
    Coherent x (p.pressAll x keys).2 :=
  pressAll_induction (fun _ key h => h.press key) keys h

theorem Reachable.coherent (h : Reachable x p) : Coherent x p := by
  induction h with
  | idle => exact coherent_idle x
  | restart l _ _ => exact coherent_restart x _ l
  | press key _ ih => exact ih.press key

end Progress

end KanaTyping
