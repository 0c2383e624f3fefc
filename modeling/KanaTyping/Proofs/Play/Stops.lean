import Mathlib.Order.Monotone.Basic
import KanaTyping.Proofs.Kana.Sources
import KanaTyping.Proofs.Play.Transitions

/-!
# Play — the stops of a line

Keys are typed at the *stops* of a line: the states on arrival at a unit, with the unit before it
completed by a key.  `stop x l k` is the state after `k` such units, and it is made without a
single key.

* `exists_stop`: every state on a line agrees with one of its stops but for the step within the
  unit (`SameUnit`), whatever was typed, hit or missed, and on whatever lines before.
* `strictMono_resolved_stop`: no two stops count the same number of units.

So the number of units typed tells all of the state but that step (`agree_of_resolved_eq`).
-/

namespace KanaTyping

namespace Progress

variable {x : Lexicon} {l : Lyric} {p q r : Progress}

/-! ### What moving on leaves out of account -/

/-- Moving on does not look at the step it comes from. -/
theorem moveOn_setNode (x : Lexicon) (p : Progress) (node : Option Node) :
    moveOn x { p with node } = moveOn x p := by
  fun_induction moveOn x p with
  | case1 p h => rw [moveOn_eq]; simp only [h]
  | case2 p c u h ih => rw [moveOn_eq]; simp only [h]; exact ih
  | case3 p s width u h glyphs ho ih => rw [moveOn_eq]; simp only [h, if_pos ho]; exact ih
  | case4 p s width u h glyphs ho => rw [moveOn_eq]; simp only [h, if_neg ho]; rfl

/-- Nothing of what was typed before is left on a new line. -/
theorem restart_eq_start (x : Lexicon) (p : Progress) (l : Lyric) : p.restart x l = start x l :=
  (moveOn_setNode x { p with
    cursor := l.cursor
    resolved := 0
    consumed := 0
    highlighted := 0
    active := []
    completed := [] } idle.node).symm

theorem resolved_le_moveOn (x : Lexicon) (p : Progress) : p.resolved ≤ (moveOn x p).resolved := by
  fun_induction moveOn x p with
  | case1 | case4 => exact Nat.le_refl _
  | case2 _ _ _ _ ih => exact ih
  | case3 _ _ _ _ _ _ _ ih => exact Nat.le_of_succ_le ih

theorem resolved_lt_completeUnit (x : Lexicon) (p : Progress) :
    p.resolved < (p.completeUnit x).resolved :=
  resolved_le_moveOn x { p with resolved := p.resolved + 1, completed := p.active, active := [] }

/-! ### States that agree but for the step -/

/-- `p` and `q` agree on everything but the step within the unit being typed. -/
structure SameUnit (p q : Progress) : Prop where
  spelling : p.node.map Node.spelling = q.node.map Node.spelling
  others : { p with node := q.node } = q

namespace SameUnit

theorem refl (p : Progress) : SameUnit p p := ⟨rfl, rfl⟩

theorem setNode {n o : Node} (hn : p.node = some n) (h : o.spelling = n.spelling) :
    SameUnit { p with node := some o } p := by
  refine ⟨?_, rfl⟩
  rw [hn, Option.map_some, Option.map_some, h]

theorem symm (h : SameUnit p q) : SameUnit q p := by
  refine ⟨h.spelling.symm, ?_⟩
  rw [← h.others]

theorem trans (h : SameUnit p q) (h' : SameUnit q r) : SameUnit p r := by
  refine ⟨h.spelling.trans h'.spelling, ?_⟩
  rw [← h'.others, ← h.others]

theorem resolved_eq (h : SameUnit p q) : p.resolved = q.resolved := by rw [← h.others]

/-- The unit is completed from any of its steps alike. -/
theorem completeUnit_eq (h : SameUnit p q) (x : Lexicon) : p.completeUnit x = q.completeUnit x := by
  rw [← h.others]
  exact (moveOn_setNode x { p with
    resolved := p.resolved + 1, completed := p.active, active := [] } q.node).symm

/-- At the same step the states are the same. -/
theorem eq_of_index (h : SameUnit p q) (hi : p.node.map Node.index = q.node.map Node.index) :
    p = q := by
  have hnode : p.node = q.node := by
    have hs := h.spelling
    cases hp : p.node with
    | none =>
        cases hq : q.node with
        | none => rfl
        | some m => simp [hp, hq] at hs
    | some n =>
        cases hq : q.node with
        | none => simp [hp, hq] at hs
        | some m =>
            simp only [hp, hq, Option.map_some, Option.some.injEq] at hs hi
            rw [Node.eq_of_spelling_index hs hi]
  rw [← h.others, ← hnode]

end SameUnit

/-! ### Stops -/

/-- The state on arrival after `k` units of the line have been completed by a key.  Behind the end
of the line it only goes on counting. -/
def stop (x : Lexicon) (l : Lyric) : (k : Nat) → Progress
  | 0 => start x l
  | k + 1 => (stop x l k).completeUnit x

theorem strictMono_resolved_stop (x : Lexicon) (l : Lyric) :
    StrictMono fun k => (stop x l k).resolved :=
  strictMono_nat_of_lt_succ fun k => resolved_lt_completeUnit x (stop x l k)

/-- A key stays at the stop, or leads on to the next one. -/
theorem exists_stop_press (key : Char) (h : ∃ k, SameUnit p (stop x l k)) :
    ∃ k, SameUnit (p.press x key).2 (stop x l k) := by
  obtain ⟨k, h⟩ := h
  obtain ⟨stroke, q, e, hp⟩ := press_spec x p key
  rw [e]
  cases hp with
  | finished | refused => exact ⟨k, h⟩
  | @within n m o hn hm ho _ =>
      -- only the step changes, and it stays in its spelling
      obtain ⟨gap, hgap, -, -⟩ := Node.reach_eq_some_iff.mp hm
      have hspelling : o.spelling = n.spelling :=
        (hgap.trans (Node.next_eq_some_iff.mp ho)).spelling_eq
      exact ⟨k, (SameUnit.setNode hn hspelling).trans h⟩
  | completes =>
      refine ⟨k + 1, ?_⟩
      rw [stop, ← h.completeUnit_eq x]
      exact .refl _

/-- Every state on a line is at one of its stops but for the step. -/
theorem exists_stop (x : Lexicon) (before : Progress) (l : Lyric) (keys : List Char) :
    ∃ k, SameUnit ((before.restart x l).pressAll x keys).2 (stop x l k) := by
  refine pressAll_induction (motive := fun p => ∃ k, SameUnit p (stop x l k))
    (fun _ key h => exists_stop_press key h) keys ⟨0, ?_⟩
  rw [restart_eq_start]
  exact .refl _

/-- **The number of units typed tells the state but for the step.**  Two states on one line, after
any keys on it and whatever was typed before it, that count the same number of units agree on
everything but the step within the unit being typed; at the same step they are the same state. -/
theorem agree_of_resolved_eq (x : Lexicon) (before before' : Progress) (l : Lyric)
    (keys keys' : List Char) :
    let p := ((before.restart x l).pressAll x keys).2
    let q := ((before'.restart x l).pressAll x keys').2
    p.resolved = q.resolved →
      p.finished = q.finished ∧ p.node.map Node.spelling = q.node.map Node.spelling ∧
        p.highlighted = q.highlighted ∧ p.consumed = q.consumed ∧ p.cursor = q.cursor ∧
        p.active = q.active ∧ p.completed = q.completed ∧
        (p.node.map Node.index = q.node.map Node.index → p = q) := by
  intro p q hr
  obtain ⟨k, hp⟩ := exists_stop x before l keys
  obtain ⟨k', hq⟩ := exists_stop x before' l keys'
  -- each count belongs to one stop, so both states are at the same one
  obtain rfl : k = k' := (strictMono_resolved_stop x l).injective
    (hp.resolved_eq.symm.trans (hr.trans hq.resolved_eq))
  have h : SameUnit p q := hp.trans hq.symm
  have ho := h.others
  have hfinished : p.finished = q.finished := by
    have hs := congrArg Option.isNone h.spelling
    rwa [Option.isNone_map, Option.isNone_map] at hs
  refine ⟨hfinished, h.spelling, ?_, ?_, ?_, ?_, ?_, h.eq_of_index⟩ <;> rw [← ho]

/-- On the line `しーんし`, begun in the middle of another one or afresh and typed with two
spellings of `し`, the third unit counted leaves the same state but for the step. -/
theorem agree_of_resolved_eq_sample :
    let l : Lyric := .ofPlain ['し', 'ー', 'ん', 'し']
    let before := ((start .sample (.ofPlain ['し', 'し'])).pressAll .sample ['s', 'i', 's']).2
    let p := ((before.restart .sample l).pressAll .sample ['s', 'h', 'x', 'i', 'n', 's']).2
    let q := ((idle.restart .sample l).pressAll .sample ['S', 'I', 'n']).2
    p.resolved = 3 ∧ p.resolved = q.resolved ∧ p.node ≠ q.node ∧
      p.cursor = q.cursor ∧ p.active = q.active ∧ p.completed = q.completed := by
  intro l before p q
  have hr : p.resolved = 3 ∧ q.resolved = 3 := by decide +kernel
  have hnode : p.node ≠ q.node := by decide +kernel
  have heq : p.resolved = q.resolved := hr.1.trans hr.2.symm
  obtain ⟨-, -, -, -, hcursor, hactive, hcompleted, -⟩ :=
    agree_of_resolved_eq .sample before idle l ['s', 'h', 'x', 'i', 'n', 's'] ['S', 'I', 'n'] heq
  exact ⟨hr.1, heq, hnode, hcursor, hactive, hcompleted⟩

end Progress

end KanaTyping
