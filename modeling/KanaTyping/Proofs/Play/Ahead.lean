import KanaTyping.Proofs.Play.Hints
import KanaTyping.Proofs.Play.Shortest

/-!
# Play — the steps still ahead

`Progress.stepsAhead` counts the steps from the current one to the last of its spelling, and all
steps of the units after it.  It is the measure of a line:

* `Coherent.stepsAhead_press_lt`: a key that hits makes it less, so that no keys hit more often
  (`Coherent.count_hit_le`).
* `Coherent.press_current`: the first key of the hint always hits, in an unfinished state.

A spelling may have an optional step that takes the key of the step after it, and then the keys of
a hint, typed in one go, need not finish the line.  They do when the hint is taken anew after every
key (`Progress.follow`): `follow_finishes`.
-/

namespace KanaTyping

/-- The number of steps of the units among the segments. -/
def Segment.stepCount : (gs : List Segment) → Nat
  | [] => 0
  | unit s _ :: gs => s.steps.length + stepCount gs
  | skipped _ :: gs => stepCount gs

theorem Segment.stepCount_append (gs hs : List Segment) :
    stepCount (gs ++ hs) = stepCount gs + stepCount hs := by
  induction gs with
  | nil => exact (Nat.zero_add _).symm
  | cons g gs ih =>
      cases g with
      | unit s w => rw [List.cons_append, stepCount, stepCount, ih, Nat.add_assoc]
      | skipped c => exact ih

theorem Segment.stepCount_cons_unit (s : Spelling) (w : Nat) (gs : List Segment) :
    stepCount (.unit s w :: gs) = s.steps.length + stepCount gs := rfl

namespace Progress

variable {x : Lexicon} {t : Table} {p : Progress} {key : Char}

/-- The number of steps from the current one to the last of its spelling and of all steps of the
units after it. -/
def stepsAhead (x : Lexicon) (p : Progress) : Nat :=
  (p.node.elim 0 fun n => n.remaining.length) + Segment.stepCount (x.segments p.cursor.unread)

/-- Types the first key of the hint up to `n` times, taking the hint anew each time: the strokes
and the state after them. -/
def follow (x : Lexicon) (p : Progress) : (n : Nat) → List Stroke × Progress
  | 0 => ([], p)
  | n + 1 =>
    match (p.hint x).current with
    | none => ([], p)
    | some c =>
      let (stroke, q) := p.press x c
      let (strokes, r) := q.follow x n
      (stroke :: strokes, r)

/-! ### A key that hits -/

/-- Moving on passes steps, and adds none. -/
theorem stepsAhead_moveOn_le (x : Lexicon) (p : Progress) (hu : p.cursor.Settled) :
    (moveOn x p).stepsAhead x ≤ Segment.stepCount (x.segments p.cursor.unread) := by
  have hco := coherent_moveOn x p hu
  obtain ⟨gs, -, -, -, ⟨hn, -, -⟩ | ⟨s, w, hn, -, hl, -, -⟩⟩ := moveOn_spec x p hu
  · rw [stepsAhead, hn, hco.ended hn, Lexicon.segments_nil]
    exact Nat.zero_le _
  · have hhead : s.head.remaining.length = s.steps.length := rfl
    rw [stepsAhead, hn, hl, Segment.stepCount_append, Segment.stepCount_cons_unit,
      Option.elim_some, hhead]
    exact Nat.le_add_left _ _

/-- A key that hits makes the steps ahead fewer: at least the step it types is no longer ahead. -/
theorem Coherent.stepsAhead_press_lt (h : Coherent x p) (hhit : (p.press x key).1 = .hit) :
    (p.press x key).2.stepsAhead x < p.stepsAhead x := by
  obtain ⟨stroke, q, e, hp⟩ := press_spec x p key
  rw [e] at hhit ⊢
  cases hp with
  | finished | refused => cases hhit
  | @within n m o hn hm ho _ =>
      obtain ⟨gap, hgap, -, -⟩ := Node.reach_eq_some_iff.mp hm
      have hlength : n.remaining.length = gap.length + (m.ahead.length + 1) := by
        rw [hgap.remaining, List.length_append]
        rfl
      rw [Node.remaining_of_next ho] at hlength
      simp only [stepsAhead, hn, Option.elim_some]
      omega
  | @completes n m hn _ _ =>
      have hmove : (p.completeUnit x).stepsAhead x ≤
          Segment.stepCount (x.segments p.cursor.unread) :=
        stepsAhead_moveOn_le x _ h.settled
      have hstep : 0 < n.remaining.length := Nat.succ_pos _
      have hp : p.stepsAhead x =
          n.remaining.length + Segment.stepCount (x.segments p.cursor.unread) := by
        rw [stepsAhead, hn, Option.elim_some]
      rw [hp]
      exact Nat.lt_of_le_of_lt hmove (Nat.lt_add_of_pos_left hstep)

/-- The hits among some keys, with the steps still ahead after them, are no more than the steps
ahead before. -/
theorem Coherent.count_hit_add_le (h : Coherent x p) (keys : List Char) :
    (p.pressAll x keys).1.count .hit + (p.pressAll x keys).2.stepsAhead x ≤ p.stepsAhead x := by
  induction keys generalizing p with
  | nil => exact Nat.le_of_eq (Nat.zero_add _)
  | cons key keys ih =>
      have hrest := ih (h.press key)
      rw [pressAll_cons]
      cases hs : (p.press x key).1 with
      | hit =>
          have hlt := h.stepsAhead_press_lt hs
          rw [List.count_cons_self]
          dsimp only
          omega
      | miss =>
          rw [press_of_miss hs] at hrest ⊢
          rw [List.count_cons_of_ne (by decide)]
          exact hrest

/-- No keys hit more often than there are steps ahead. -/
theorem Coherent.count_hit_le (h : Coherent x p) (keys : List Char) :
    (p.pressAll x keys).1.count .hit ≤ p.stepsAhead x :=
  Nat.le_trans (Nat.le_add_right _ _) (h.count_hit_add_le keys)

/-! ### Following the hint -/

/-- An unfinished state has a hint, whose first key hits: that step is in reach, though an optional
one before it may take the key. -/
theorem Coherent.press_current (h : Coherent x p) (hx : x.DrawsOn t) {n : Node}
    (hn : p.node = some n) :
    ∃ c, (p.hint x).current = some c ∧ (p.press x c).1 = .hit := by
  obtain ⟨gap, m, hgap, hskip, hm⟩ := Node.exists_over_required (h.asks n hn)
  have hdue : p.due x = m.shown :: (Step.due m.ahead ++ x.due p.cursor.unread) := by
    have hreq : m.step.optional = false := hm
    rw [due, hn, Option.elim_some, hgap.remaining, Step.due_append,
      Step.due_eq_nil_iff.mpr hskip, Node.remaining, Step.due_cons, hreq]
    rfl
  have hcurrent : (p.hint x).current = some m.shown := by
    rw [Hint.current_eq_head? x, h.keys_hint, hdue]
    rfl
  obtain ⟨s, -, hkeyed, hmem⟩ := h.exists_spelling hx hn
  have hupper : m.shown.toUpper = m.shown :=
    hkeyed.toUpper_of_accepts (hgap.mem_toLast hmem) m.accepts_shown
  have hreach : n.reach m.shown.toUpper ≠ none := by
    intro hnone
    have hmiss := Node.reach_eq_none_iff.mp hnone m.step
      (hgap.remaining ▸ Step.mem_inReach hskip)
    rw [hupper] at hmiss
    exact Bool.false_ne_true (hmiss.symm.trans m.accepts_shown)
  obtain ⟨o, ho⟩ := Option.ne_none_iff_exists'.mp hreach
  exact ⟨m.shown, hcurrent, (h.due_of_reach hn ho).1⟩

theorem Coherent.current_hint_of_finished (h : Coherent x p) (hn : p.node = none) :
    (p.hint x).current = none := by
  rw [Hint.current_eq_head? x, h.keys_hint, h.due_eq_nil_iff.mpr hn]
  rfl

theorem Coherent.stepsAhead_of_finished (h : Coherent x p) (hn : p.node = none) :
    p.stepsAhead x = 0 := by
  rw [stepsAhead, hn, h.ended hn, Lexicon.segments_nil]
  rfl

/-- Who follows the hint never misses, and is through after as many keys as there are steps
ahead. -/
theorem Coherent.follow (h : Coherent x p) (hx : x.DrawsOn t) (k : Nat) :
    (∀ stroke ∈ (p.follow x k).1, stroke = .hit) ∧
      (p.stepsAhead x ≤ k → (p.follow x k).2.finished = true) := by
  induction k generalizing p with
  | zero =>
      refine ⟨by simp [Progress.follow], fun hle => ?_⟩
      cases hn : p.node with
      | none => exact Option.isNone_iff_eq_none.mpr hn
      | some n =>
          have hstep : 0 < n.remaining.length := Nat.succ_pos _
          rw [stepsAhead, hn, Option.elim_some] at hle
          omega
  | succ k ih =>
      cases hn : p.node with
      | none =>
          simp only [Progress.follow, h.current_hint_of_finished hn]
          exact ⟨by simp, fun _ => Option.isNone_iff_eq_none.mpr hn⟩
      | some n =>
          obtain ⟨c, hc, hhit⟩ := h.press_current hx hn
          have hlt := h.stepsAhead_press_lt hhit
          obtain ⟨hhits, hfin⟩ := ih (h.press c)
          simp only [Progress.follow, hc]
          exact ⟨List.forall_mem_cons.mpr ⟨hhit, hhits⟩, fun hle => hfin (by omega)⟩

/-- **A player who follows the hint gets through.**  After any keys on a line, whatever was typed
before it: the steps ahead are those from the current one on in its spelling and those of the later
units; a key that hits makes them fewer, so that no keys hit more often than their number; an
unfinished state has a hint, whose first key hits; and who types the first key of a fresh hint again
and again never misses and finishes the line in no more keys than there are steps ahead. -/
theorem follow_finishes (hx : Lexicon.ofTable t = .ok x) (before : Progress) (l : Lyric)
    (keys : List Char) :
    let p := ((before.restart x l).pressAll x keys).2
    (∀ n, p.node = some n → ∃ done s w todo,
        x.segments l.kana = done ++ .unit s w :: todo ∧
        n ∈ s.head.toLast ∧ p.resolved = (Segment.spellings done).length ∧
        p.stepsAhead x = n.remaining.length + Segment.stepCount todo) ∧
      (p.node = none → p.stepsAhead x = 0) ∧
      (∀ key, (p.press x key).1 = .hit →
        (p.press x key).2.stepsAhead x < p.stepsAhead x) ∧
      (∀ more, (p.pressAll x more).1.count .hit ≤ p.stepsAhead x) ∧
      (p.finished = false → ∃ c, (p.hint x).current = some c ∧ (p.press x c).1 = .hit) ∧
      (∀ k, ∀ stroke ∈ (p.follow x k).1, stroke = .hit) ∧
      (p.follow x (p.stepsAhead x)).2.finished = true := by
  intro p
  have hdraws := Lexicon.drawsOn_of_ofTable hx
  have hp : Coherent x p := (coherent_restart x before l).pressAll keys
  have hstands : Stands x l p := (stands_restart x before l).pressAll keys
  refine ⟨fun n hn => ?_, hp.stepsAhead_of_finished, fun _ => hp.stepsAhead_press_lt,
    hp.count_hit_le, fun hf => ?_, fun k => (hp.follow hdraws k).1,
    (hp.follow hdraws _).2 (Nat.le_refl _)⟩
  · cases hstands with
    | behindAll node => rw [hn] at node; cases node
    | onUnit done s w node place _ line _ resolved =>
        rw [hn] at node
        cases node
        exact ⟨done, s, w, _, line, place, resolved, by rw [stepsAhead, hn]; rfl⟩
  · obtain ⟨n, hn⟩ := Option.isSome_iff_exists.mp (Option.isNone_eq_false_iff.mp hf)
    exact hp.press_current hdraws hn

end Progress

/-- A table with an optional step that takes the key of the step after it. -/
def Table.doubled : Table where
  single := [one 'ん' "N?N", one 'ー' "-?"]
  pair := []
  triple := []

/-- The lexicon of that table. -/
def Lexicon.doubled : Lexicon :=
  match ofTable Table.doubled with
  | .ok x => x
  | .error _ => empty

theorem Lexicon.ofTable_doubled : ofTable Table.doubled = .ok doubled := rfl

/-- On the line `んーん` the keys of the hint, `NN`, only finish the first unit when they are typed
in one go; with the hint taken anew four keys finish the line. -/
theorem Progress.follow_finishes_doubled :
    let p := start .doubled (.ofPlain ['ん', 'ー', 'ん'])
    (p.hint .doubled).keys .doubled = ['N', 'N'] ∧
      (p.pressAll .doubled ['N', 'N']).2.finished = false ∧
      p.stepsAhead .doubled = 5 ∧ (∀ stroke ∈ (p.follow .doubled 5).1, stroke = .hit) ∧
      (p.follow .doubled 5).2.finished = true := by
  intro p
  have hp : Coherent .doubled p := (Reachable.start _ _).coherent
  have hdue : p.due .doubled = ['N', 'N'] := by decide +kernel
  have hahead : p.stepsAhead .doubled = 5 := by decide +kernel
  obtain ⟨-, -, -, -, -, hhits, hfin⟩ :=
    follow_finishes Lexicon.ofTable_doubled idle (.ofPlain ['ん', 'ー', 'ん']) []
  refine ⟨hp.keys_hint.trans hdue, by decide +kernel, hahead, hhits 5, ?_⟩
  rw [← hahead]
  exact hfin

end KanaTyping
