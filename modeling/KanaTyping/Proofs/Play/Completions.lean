import KanaTyping.Proofs.Lyrics.Cells
import KanaTyping.Proofs.Play.Standing
import KanaTyping.Proofs.Play.Stops

/-!
# Play — the glyphs that are completed

After every key that completes a unit a player is shown the glyphs completed by it: those of the
unit, and those of the units of optional steps alone that are passed on the way to the next one.
`Progress.completions` puts them together, over a run of keys.

* `Segment.places`: the numbers of the kana of a line that belong to units.
* `Collects`: moving on collects the glyphs of the units it passes, and has those of the unit it
  stops on ready.
* `Tells.press`: the glyphs completed so far stay those of the units before the one being typed.

`completions_eq_walk` compares them with a walk along the line, kana by kana.
-/

namespace KanaTyping

/-! ### The places of units -/

namespace Segment

/-- The numbers of the kana that belong to units, when the first of the segments begins at the kana
number `start`. -/
def places (start : Nat) : (gs : List Segment) → List Nat
  | [] => []
  | unit _ w :: gs => List.range' start w ++ places (start + w) gs
  | skipped _ :: gs => places (start + 1) gs

variable {gs hs : List Segment} {start i : Nat}

/-- A place belongs to one of the units. -/
theorem mem_places_iff :
    i ∈ places start gs ↔ ∃ before s w after, gs = before ++ .unit s w :: after ∧
      start + width before ≤ i ∧ i < start + width before + w := by
  induction gs generalizing start with
  | nil => simp [places]
  | cons g gs ih =>
      constructor
      · intro h
        cases g with
        | skipped c =>
            obtain ⟨before, s, w, after, rfl, hle, hlt⟩ := ih.mp h
            refine ⟨.skipped c :: before, s, w, after, rfl, ?_⟩
            simp only [width, size]
            omega
        | unit s w =>
            rcases List.mem_append.mp h with h | h
            · obtain ⟨hle, hlt⟩ := List.mem_range'_1.mp h
              exact ⟨[], s, w, gs, rfl, hle, hlt⟩
            · obtain ⟨before, s', w', after, rfl, hle, hlt⟩ := ih.mp h
              refine ⟨.unit s w :: before, s', w', after, rfl, ?_⟩
              simp only [width, size]
              omega
      · rintro ⟨_ | ⟨g', before⟩, s, w, after, e, hle, hlt⟩
        · cases e
          exact List.mem_append_left _ (List.mem_range'_1.mpr ⟨hle, hlt⟩)
        · cases e
          have hrest : i ∈ places (start + g.size) (before ++ .unit s w :: after) := by
            refine ih.mpr ⟨before, s, w, after, rfl, ?_⟩
            simp only [width] at hle hlt
            omega
          cases g with
          | skipped c => exact hrest
          | unit s w => exact List.mem_append_right _ hrest

theorem le_of_mem_places (h : i ∈ places start gs) : start ≤ i := by
  obtain ⟨before, s, w, after, -, hle, -⟩ := mem_places_iff.mp h
  omega

/-- The places are in order, each of them once. -/
theorem pairwise_places (start : Nat) (gs : List Segment) : (places start gs).Pairwise (· < ·) := by
  induction gs generalizing start with
  | nil => exact .nil
  | cons g gs ih =>
      cases g with
      | skipped c => exact ih (start + 1)
      | unit s w =>
          refine List.pairwise_append.mpr ⟨List.pairwise_lt_range', ih (start + w), ?_⟩
          intro i hi j hj
          have hlt := (List.mem_range'_1.mp hi).2
          have hle := le_of_mem_places hj
          omega

theorem places_append (start : Nat) (gs hs : List Segment) :
    places start (gs ++ hs) = places start gs ++ places (start + width gs) hs := by
  induction gs generalizing start with
  | nil => rfl
  | cons g gs ih =>
      cases g <;>
        simp only [List.cons_append, places, ih, width, size, Nat.add_assoc, List.append_assoc]

/-- No place is that of a kana that is skipped. -/
theorem notMem_places_skipped (start : Nat) (before after : List Segment) (c : Char) :
    start + width before ∉ places start (before ++ .skipped c :: after) := by
  rw [places_append, List.mem_append]
  rintro (h | h)
  · obtain ⟨front, s, w, rear, rfl, -, hlt⟩ := mem_places_iff.mp h
    simp only [width_append, width, size] at hlt
    omega
  · have hle : start + width before + 1 ≤ start + width before := le_of_mem_places h
    omega

/-! ### The segments of the first kana -/

/-- The segments at the front that are together no wider than `k` kana. -/
def within (k : Nat) : (gs : List Segment) → List Segment
  | [] => []
  | g :: gs => if g.size ≤ k then g :: within (k - g.size) gs else []

/-- Segments are told by their width among those they are in front of. -/
theorem within_width (h : ∀ g ∈ hs, 0 < g.size) : within (width gs) (gs ++ hs) = gs := by
  induction gs with
  | nil =>
      cases hs with
      | nil => rfl
      | cons g hs =>
          have hpos := h g List.mem_cons_self
          exact if_neg (Nat.not_le.mpr hpos)
  | cons g gs ih =>
      simp only [List.cons_append, within, width, Nat.le_add_right, if_true,
        Nat.add_sub_cancel_left, ih]

end Segment

/-- The segments at the front of those of some kana are told by their width. -/
theorem Lexicon.within_segments {x : Lexicon} {kana : List Char} {gs hs : List Segment}
    (h : x.segments kana = gs ++ hs) :
    Segment.within (Segment.width gs) (x.segments kana) = gs := by
  have hpos : ∀ g ∈ hs, 0 < g.size := fun g hg =>
    size_pos_of_mem_segments (h ▸ List.mem_append_right _ hg)
  rw [h, Segment.within_width hpos]

/-! ### The glyphs of units -/

namespace Cursor

variable {u v : Cursor}

/-- The glyphs of the units among the segments, of which the first begins at the cursor. -/
def unitGlyphs (u : Cursor) : (gs : List Segment) → List Glyph
  | [] => []
  | .unit _ w :: gs => u.glyphs w ++ (u.advanceBy w).unitGlyphs gs
  | .skipped _ :: gs => u.advance.unitGlyphs gs

theorem unitGlyphs_append (u : Cursor) (gs hs : List Segment) :
    u.unitGlyphs (gs ++ hs) =
      u.unitGlyphs gs ++ (u.advanceBy (Segment.width gs)).unitGlyphs hs := by
  induction gs generalizing u with
  | nil => rfl
  | cons g gs ih =>
      cases g with
      | skipped c =>
          rw [List.cons_append, unitGlyphs, unitGlyphs, ih, Segment.width, advanceBy_add]
          rfl
      | unit s w =>
          rw [List.cons_append, unitGlyphs, unitGlyphs, ih, Segment.width, advanceBy_add,
            List.append_assoc]
          rfl

/-- A walk finds the glyphs of units at their places. -/
theorem map_some_unitGlyphs (hv : v.Settled) {start : Nat} {gs : List Segment}
    (hw : Segment.width gs ≤ (v.advanceBy start).unread.length) :
    ((v.advanceBy start).unitGlyphs gs).map some =
      (Segment.places start gs).map fun i => (v.advanceBy i).glyph := by
  induction gs generalizing start with
  | nil => rfl
  | cons g gs ih =>
      have hrest : Segment.width gs ≤ (v.advanceBy (start + g.size)).unread.length := by
        rw [advanceBy_add, (hv.advanceBy start).unread_advanceBy, List.length_drop]
        simp only [Segment.width] at hw
        omega
      have hgs := ih hrest
      rw [advanceBy_add] at hgs
      cases g with
      | skipped c => exact hgs
      | unit s w =>
          have hwidth : w ≤ (v.advanceBy start).unread.length :=
            Nat.le_trans (Nat.le_add_right _ _) hw
          rw [unitGlyphs, Segment.places, List.map_append, List.map_append,
            map_some_glyphs hv hwidth]
          exact congrArg _ hgs

end Cursor

namespace Progress

variable {x : Lexicon} {l : Lyric} {p q : Progress}

/-- The glyphs that the keys complete, as they are shown after each key that completes a unit. -/
def completions (x : Lexicon) (p : Progress) : (keys : List Char) → List Glyph
  | [] => []
  | key :: keys =>
    let q := (p.press x key).2
    (if p.resolved < q.resolved then q.completed else []) ++ q.completions x keys

/-! ### Moving on -/

/-- `q` is `p` moved over the segments `gs`, with the glyphs of their units completed and those of
the unit it stops on ready. -/
structure Collects (x : Lexicon) (p q : Progress) (gs : List Segment) : Prop
    extends MovesOver x p q gs where
  completed : q.completed = p.completed ++ p.cursor.unitGlyphs gs
  active : ∀ n, q.node = some n →
    q.active = (p.cursor.advanceBy (Segment.width gs)).glyphs (q.consumed - q.highlighted)

/-- The induction on `moveOn`, as in `moveOn_spec`, with the glyphs. -/
theorem exists_collects_moveOn (x : Lexicon) (p : Progress) (hu : p.cursor.Settled) :
    ∃ gs, Collects x p (moveOn x p) gs := by
  fun_induction moveOn x p with
  | case1 p h =>
      refine ⟨[], ⟨by simp, rfl, rfl, .inl ⟨rfl, ?_, rfl⟩⟩, (List.append_nil _).symm, by simp⟩
      rw [(Lexicon.take_eq_none_iff hu).mp h, Lexicon.segments_nil]
  | case2 p c u h ih =>
      obtain ⟨rfl, hl⟩ := Lexicon.take_spec hu h
      obtain ⟨gs, hgs⟩ := ih (hu.advanceBy _)
      refine ⟨.skipped c :: gs, hgs.toMovesOver.cons rfl hl rfl rfl rfl, hgs.completed, ?_⟩
      intro n hn
      rw [hgs.active n hn, Segment.width, Cursor.advanceBy_add]
  | case3 p s width u h glyphs ho ih =>
      -- the unit is completed on the way, so its glyphs come next
      obtain ⟨rfl, hl⟩ := Lexicon.take_spec hu h
      obtain ⟨gs, hgs⟩ := ih (hu.advanceBy _)
      refine ⟨.unit s width :: gs, hgs.toMovesOver.cons ho hl rfl rfl rfl, ?_, ?_⟩
      · rw [hgs.completed, Cursor.unitGlyphs, ← List.append_assoc]
        rfl
      · intro n hn
        rw [hgs.active n hn, Segment.width, Cursor.advanceBy_add]
  | case4 p s width u h glyphs ho =>
      obtain ⟨rfl, hl⟩ := Lexicon.take_spec hu h
      refine ⟨[], ⟨by simp, rfl, rfl, .inr ⟨s, width, rfl, by simpa using ho, hl, ?_, rfl⟩⟩,
        (List.append_nil _).symm, ?_⟩
      · simp [Segment.width, Segment.size]
      · intro n _
        exact congrArg p.cursor.glyphs (Nat.add_sub_cancel_left ..).symm

/-! ### What has been completed -/

/-- The glyphs `seen` so far are those of the units before the one being typed, and the glyphs of
that one are ready. -/
structure Tells (x : Lexicon) (l : Lyric) (p : Progress) (seen : List Glyph) : Prop where
  stands : Stands x l p
  active : ∀ n, p.node = some n →
    p.active = (l.cursor.advanceBy p.highlighted).glyphs (p.consumed - p.highlighted)
  seen : seen = l.cursor.unitGlyphs (Segment.within p.highlighted (x.segments l.kana))

/-- Moving on with the segments `before` done, and with the glyphs of their units seen but for those
that are still to be shown as completed. -/
theorem tells_moveOn (before : List Segment) (seen : List Glyph)
    (line : x.segments l.kana = before ++ x.segments p.cursor.unread)
    (cursor : p.cursor = l.cursor.advanceBy (Segment.width before))
    (resolved : p.resolved = (Segment.spellings before).length)
    (consumed : p.consumed = Segment.width before)
    (shown : seen ++ p.completed = l.cursor.unitGlyphs before) :
    Tells x l (moveOn x p) (seen ++ (moveOn x p).completed) := by
  have hu : p.cursor.Settled := cursor ▸ l.settled_cursor.advanceBy _
  obtain ⟨gs, hgs⟩ := exists_collects_moveOn x p hu
  have hwidth : (moveOn x p).highlighted = Segment.width (before ++ gs) := by
    rw [hgs.highlighted, consumed, Segment.width_append]
  -- what is left of the line after the segments passed
  obtain ⟨rest, hrest⟩ : ∃ rest, x.segments l.kana = (before ++ gs) ++ rest := by
    rcases hgs.lands with ⟨-, hl, -⟩ | ⟨s, w, -, -, hl, -, -⟩
    · exact ⟨[], by rw [line, hl, List.append_nil]⟩
    · exact ⟨_, by rw [line, hl, List.append_assoc]⟩
  refine ⟨stands_moveOn before line cursor resolved consumed, fun n hn => ?_, ?_⟩
  · rw [hgs.active n hn, cursor, ← Cursor.advanceBy_add, ← Segment.width_append, ← hwidth]
  · rw [hwidth, Lexicon.within_segments hrest, Cursor.unitGlyphs_append, ← shown, ← cursor,
      List.append_assoc, hgs.completed]

theorem tells_start (x : Lexicon) (l : Lyric) : Tells x l (start x l) (start x l).completed := by
  refine tells_moveOn [] [] ?_ rfl rfl rfl rfl
  rw [List.nil_append, l.unread_cursor]

/-- A key that completes no unit leaves the glyphs completed last. -/
theorem completed_press (x : Lexicon) (p : Progress) {key : Char}
    (h : ¬ p.resolved < (p.press x key).2.resolved) :
    (p.press x key).2.completed = p.completed := by
  obtain ⟨stroke, q, e, hp⟩ := press_spec x p key
  rw [e] at h ⊢
  cases hp with
  | finished | refused | within => rfl
  | completes => exact absurd (resolved_lt_completeUnit x p) h

/-- A key adds to the glyphs seen those that it completes, and no others. -/
theorem Tells.press {seen : List Glyph} (h : Tells x l p seen) (key : Char) :
    Tells x l (p.press x key).2 (seen ++
      if p.resolved < (p.press x key).2.resolved then (p.press x key).2.completed else []) := by
  have hstands := h.stands.press key
  obtain ⟨stroke, q, e, hp⟩ := press_spec x p key
  rw [e] at hstands ⊢
  cases hp with
  | finished | refused =>
      rw [if_neg (Nat.lt_irrefl _), List.append_nil]
      exact h
  | @within n m o hn =>
      rw [if_neg (Nat.lt_irrefl _), List.append_nil]
      exact ⟨hstands, fun _ _ => h.active n hn, h.seen⟩
  | @completes n m hn =>
      rw [if_pos (resolved_lt_completeUnit x p)]
      cases h.stands with
      | behindAll node => rw [hn] at node; cases node
      | onUnit before s w _ _ _ line cursor resolved highlighted consumed =>
          have hw : Segment.width (before ++ [.unit s w]) = Segment.width before + w := by
            rw [Segment.width_append]; rfl
          have hline : x.segments l.kana =
              (before ++ [.unit s w]) ++ x.segments p.cursor.unread := by
            rw [line, List.append_assoc]; rfl
          have hseen : seen = l.cursor.unitGlyphs before := by
            rw [h.seen, highlighted, Lexicon.within_segments line]
          have hactive : p.active = (l.cursor.advanceBy (Segment.width before)).glyphs w := by
            rw [h.active n hn, highlighted, consumed, Nat.add_sub_cancel_left]
          refine tells_moveOn (before ++ [.unit s w]) seen hline ?_ ?_ ?_ ?_
          · rw [hw]; exact cursor
          · rw [Segment.spellings_append, List.length_append, ← resolved]; rfl
          · rw [hw]; exact consumed
          · rw [hseen, hactive, Cursor.unitGlyphs_append, Cursor.unitGlyphs, Cursor.unitGlyphs,
              List.append_nil]

theorem Tells.pressAll {seen : List Glyph} (h : Tells x l p seen) (keys : List Char) :
    Tells x l (p.pressAll x keys).2 (seen ++ p.completions x keys) := by
  induction keys generalizing p seen with
  | nil => exact (List.append_nil seen).symm ▸ h
  | cons key keys ih =>
      rw [completions, ← List.append_assoc]
      exact ih (h.press key)

/-- **The glyphs completed are those a walk finds.**  On every line, the glyphs completed at its
start and those completed by any keys are together the glyphs that a walk along the line finds at
the kana of the units before the one being typed, and of all units when the line is finished: each
of them once, in order, and none at a kana that is skipped.  A key that completes no unit leaves the
glyphs completed last as they are. -/
theorem completions_eq_walk (x : Lexicon) (l : Lyric) (keys : List Char) :
    let p := ((start x l).pressAll x keys).2
    (∃ done todo, x.segments l.kana = done ++ todo ∧
        p.resolved = (Segment.spellings done).length ∧
        (p.node = none → todo = []) ∧
        (∀ n, p.node = some n → ∃ s w rest, todo = .unit s w :: rest ∧ n ∈ s.head.toLast) ∧
        ((start x l).completed ++ (start x l).completions x keys).map some =
          (Segment.places 0 done).map (fun i => (l.cursor.advanceBy i).glyph) ∧
        (Segment.places 0 done).Pairwise (· < ·) ∧
        (∀ i, i ∈ Segment.places 0 done ↔ ∃ before s w after, done = before ++ .unit s w :: after ∧
          Segment.width before ≤ i ∧ i < Segment.width before + w) ∧
        ∀ before c after, done = before ++ .skipped c :: after →
          Segment.width before ∉ Segment.places 0 done) ∧
      ∀ key, ¬ p.resolved < (p.press x key).2.resolved →
        (p.press x key).2.completed = p.completed := by
  intro p
  have h : Tells x l p ((start x l).completed ++ (start x l).completions x keys) :=
    (tells_start x l).pressAll keys
  refine ⟨?_, fun key => completed_press x p⟩
  -- the segments done, with what is left, and the two ways in which a state stands in its line
  obtain ⟨done, todo, line, highlighted, resolved, hnone, hsome⟩ :
      ∃ done todo, x.segments l.kana = done ++ todo ∧ p.highlighted = Segment.width done ∧
        p.resolved = (Segment.spellings done).length ∧ (p.node = none → todo = []) ∧
        ∀ n, p.node = some n → ∃ s w rest, todo = .unit s w :: rest ∧ n ∈ s.head.toLast := by
    cases h.stands with
    | behindAll node resolved highlighted =>
        refine ⟨x.segments l.kana, [], (List.append_nil _).symm, ?_, resolved, fun _ => rfl, ?_⟩
        · rw [highlighted, Lexicon.width_segments]
        · simp [node]
    | onUnit before s w node place _ line _ resolved highlighted _ =>
        refine ⟨before, _, line, highlighted, resolved, by simp [node], fun n hn => ?_⟩
        rw [node] at hn
        cases hn
        exact ⟨s, w, _, rfl, place⟩
  have hwidth : Segment.width done ≤ (l.cursor.advanceBy 0).unread.length := by
    rw [Cursor.advanceBy, l.unread_cursor, ← Lexicon.width_segments x, line, Segment.width_append]
    exact Nat.le_add_right _ _
  refine ⟨done, todo, line, resolved, hnone, hsome, ?_, Segment.pairwise_places 0 done,
    fun i => ?_, ?_⟩
  · rw [h.seen, highlighted, Lexicon.within_segments line]
    exact Cursor.map_some_unitGlyphs l.settled_cursor hwidth
  · have hplaces : i ∈ Segment.places 0 done ↔ _ := Segment.mem_places_iff
    simpa only [Nat.zero_add] using hplaces
  · rintro before c after rfl
    simpa only [Nat.zero_add] using Segment.notMem_places_skipped 0 before after c

/-- In `しーヶん` the long vowel mark is passed with `し`, and `ヶ` begins no unit. -/
example :
    let l : Lyric := .ofPlain ['し', 'ー', 'ヶ', 'ん']
    ((start .sample l).completions .sample ['s', 'x', 'i', 'n']).map Glyph.char =
      ['し', 'ー', 'ん'] := by
  decide +kernel

end Progress

end KanaTyping
