import Mathlib.Data.List.Forall2
import KanaTyping.Proofs.Play.Due

/-!
# Play — lines that are typed alike

Two lines may be cut into parts in different ways, with other text between the kana, or be written
in kana that the lexicon does not tell apart (`Lexicon.Blind`).  A player cannot tell them apart
either: the states of the two lines stay `Alike`, in lockstep.

* `Cursor.Alike.take`: at alike cursors the same is taken.
* `Progress.Alike.moveOn` and `Progress.Alike.press`: what one step does to alike states.
* `Progress.Alike.start` and `Progress.Alike.pressAll`: what a whole run does.

With equality for the relation of the kana, `play_of_same_kana` has it that a line is played by its
kana alone.
-/

namespace KanaTyping

variable {V : Char → Char → Prop} {x : Lexicon}

/-! ### Kana that are not told apart -/

namespace Lexicon

variable {ks ks' : List Char}

/-- The lexicon does not tell kana apart that are related by `V`. -/
def Blind (x : Lexicon) (V : Char → Char → Prop) : Prop :=
  ∀ ks ks', List.Forall₂ V ks ks' → x.find ks = x.find ks'

theorem blind_eq (x : Lexicon) : x.Blind (· = ·) := by
  rintro ks ks' h
  rw [List.forall₂_eq_eq_eq] at h
  rw [h]

theorem Blind.frontOf_eq (hx : x.Blind V) (h : List.Forall₂ V ks ks') (n : Nat) :
    x.frontOf ks n = x.frontOf ks' n := by
  rw [frontOf, frontOf, h.length_eq, hx _ _ (List.forall₂_take n h)]

theorem Blind.front_eq (hx : x.Blind V) (h : List.Forall₂ V ks ks') : x.front ks = x.front ks' := by
  simp only [front, hx.frontOf_eq h]

/-- The units of the two are spelled the same. -/
theorem Blind.spellings_eq (hx : x.Blind V) (h : List.Forall₂ V ks ks') :
    Segment.spellings (x.segments ks) = Segment.spellings (x.segments ks') := by
  fun_induction segments x ks generalizing ks' with
  | case1 =>
      cases h
      rw [segments_nil]
  | case2 c cs s n hf ih =>
      rw [segments_of_front ((hx.front_eq h).symm.trans hf), Segment.spellings_cons_unit,
        Segment.spellings_cons_unit, ih (List.forall₂_drop n h)]
  | case3 c cs hf ih =>
      rw [hx.front_eq h] at hf
      cases h with
      | cons _ hcs =>
          rw [segments_of_front_none hf, Segment.spellings_cons_skipped,
            Segment.spellings_cons_skipped, ih hcs]

theorem Blind.due_eq (hx : x.Blind V) (h : List.Forall₂ V ks ks') : x.due ks = x.due ks' := by
  rw [due, due, hx.spellings_eq h]

end Lexicon

/-! ### Alike cursors -/

namespace Cursor

variable {u v : Cursor}

/-- The cursors are at rest, with related kana unread. -/
structure Alike (V : Char → Char → Prop) (u v : Cursor) : Prop where
  left : u.Settled
  right : v.Settled
  unread : List.Forall₂ V u.unread v.unread

theorem Alike.advanceBy (h : Alike V u v) (n : Nat) :
    Alike V (u.advanceBy n) (v.advanceBy n) where
  left := h.left.advanceBy n
  right := h.right.advanceBy n
  unread := by
    rw [h.left.unread_advanceBy, h.right.unread_advanceBy]
    exact List.forall₂_drop n h.unread

/-- The glyphs at a cursor show the kana unread. -/
theorem Settled.map_char_glyphs (hu : u.Settled) (n : Nat) :
    (u.glyphs n).map Glyph.char = u.unread.take n := by
  induction n generalizing u with
  | zero => rw [List.take_zero]; rfl
  | succ n ih =>
      have hone : u.glyph.toList.map Glyph.char = u.unread.head?.toList := by
        rw [← Option.toList_map, hu.map_char_glyph, hu.current_eq_head?]
      rw [glyphs, List.map_append, hone, ih hu.advance, hu.unread_advance]
      cases u.unread <;> simp

theorem Alike.chars (h : Alike V u v) (n : Nat) :
    List.Forall₂ V ((u.glyphs n).map Glyph.char) ((v.glyphs n).map Glyph.char) := by
  rw [h.left.map_char_glyphs, h.right.map_char_glyphs]
  exact List.forall₂_take n h.unread

/-- At alike cursors nothing is taken, or the same unit, or from each a kana is skipped. -/
theorem Alike.take (hx : x.Blind V) (h : Alike V u v) :
    x.take u = none ∧ x.take v = none ∨
      (∃ s n, x.take u = some (.unit s n, u.advanceBy n) ∧
        x.take v = some (.unit s n, v.advanceBy n)) ∨
      ∃ c c', x.take u = some (.skipped c, u.advance) ∧
        x.take v = some (.skipped c', v.advance) := by
  rw [Lexicon.take_eq_front h.left, Lexicon.take_eq_front h.right, ← hx.front_eq h.unread]
  cases hu : u.unread with
  | nil =>
      have hv : v.unread = [] := List.forall₂_nil_left_iff.mp (hu ▸ h.unread)
      exact .inl (by simp [hv])
  | cons c cs =>
      obtain ⟨c', cs', -, -, hv⟩ := List.forall₂_cons_left_iff.mp (hu ▸ h.unread)
      cases hf : x.front (c :: cs) with
      | some f => exact .inr (.inl ⟨f.1, f.2, by simp, by simp [hv]⟩)
      | none => exact .inr (.inr ⟨c, c', by simp, by simp [hv]⟩)

end Cursor

/-! ### Alike states -/

namespace Progress

variable {l l' : Lyric} {p q : Progress}

/-- The states are at the same step with the same counts, at alike cursors, and their glyphs show
related kana. -/
structure Alike (V : Char → Char → Prop) (p q : Progress) : Prop where
  node : p.node = q.node
  cursor : p.cursor.Alike V q.cursor
  resolved : p.resolved = q.resolved
  consumed : p.consumed = q.consumed
  highlighted : p.highlighted = q.highlighted
  active : List.Forall₂ V (p.active.map Glyph.char) (q.active.map Glyph.char)
  completed : List.Forall₂ V (p.completed.map Glyph.char) (q.completed.map Glyph.char)

/-- The induction on what is left of the line, which the segment taken makes less. -/
theorem Alike.moveOn (hx : x.Blind V) (h : Alike V p q) :
    Alike V (moveOn x p) (moveOn x q) := by
  induction hleft : p.cursor.left using Nat.strongRecOn generalizing p q with
  | _ left ih =>
      subst hleft
      rw [moveOn_eq x p, moveOn_eq x q]
      obtain ⟨e, e'⟩ | ⟨s, n, e, e'⟩ | ⟨c, c', e, e'⟩ := h.cursor.take hx
      -- the end of both lines
      · simp only [e, e']
        exact { h with node := rfl, highlighted := h.consumed }
      -- a unit, which is passed if it asks for no key
      · simp only [e, e']
        have hconsumed : p.consumed + n = q.consumed + n := by rw [h.consumed]
        have hresolved : p.resolved + 1 = q.resolved + 1 := by rw [h.resolved]
        have hchars := h.cursor.chars n
        split
        · refine ih _ (Lexicon.left_lt_of_take e) ?_ rfl
          refine { h with
            cursor := h.cursor.advanceBy n
            resolved := hresolved
            consumed := hconsumed
            highlighted := h.consumed
            active := .nil
            completed := ?_ }
          rw [List.map_append, List.map_append]
          exact List.rel_append h.completed hchars
        · exact { h with
            node := rfl
            cursor := h.cursor.advanceBy n
            consumed := hconsumed
            highlighted := h.consumed
            active := hchars }
      -- a kana of each line that begins no unit
      · simp only [e, e']
        have hconsumed : p.consumed + 1 = q.consumed + 1 := by rw [h.consumed]
        refine ih _ (Lexicon.left_lt_of_take e) ?_ rfl
        exact { h with cursor := h.cursor.advanceBy 1, consumed := hconsumed }

theorem Alike.start (hx : x.Blind V) (h : List.Forall₂ V l.kana l'.kana) :
    Alike V (start x l) (start x l') := by
  refine Alike.moveOn hx ⟨rfl, ⟨l.settled_cursor, l'.settled_cursor, ?_⟩, rfl, rfl, rfl, .nil, .nil⟩
  rwa [l.unread_cursor, l'.unread_cursor]

theorem Alike.completeUnit (hx : x.Blind V) (h : Alike V p q) :
    Alike V (p.completeUnit x) (q.completeUnit x) := by
  have hresolved : p.resolved + 1 = q.resolved + 1 := by rw [h.resolved]
  exact Alike.moveOn hx { h with resolved := hresolved, active := .nil, completed := h.active }

theorem Alike.afterStep (hx : x.Blind V) (h : Alike V p q) (n : Node) :
    Alike V (p.afterStep x n) (q.afterStep x n) := by
  rw [Progress.afterStep, Progress.afterStep]
  split
  · exact h.completeUnit hx
  · split
    · exact h.completeUnit hx
    · exact { h with node := rfl }

/-- A key is the same stroke in alike states and leads to alike states. -/
theorem Alike.press (hx : x.Blind V) (h : Alike V p q) (key : Char) :
    (p.press x key).1 = (q.press x key).1 ∧ Alike V (p.press x key).2 (q.press x key).2 := by
  rw [Progress.press, Progress.press, h.node]
  cases q.node with
  | none => exact ⟨rfl, h⟩
  | some n =>
      dsimp only
      cases n.reach key.toUpper with
      | none => exact ⟨rfl, h⟩
      | some m => exact ⟨rfl, h.afterStep hx m⟩

theorem Alike.pressAll (hx : x.Blind V) (h : Alike V p q) (keys : List Char) :
    (p.pressAll x keys).1 = (q.pressAll x keys).1 ∧
      Alike V (p.pressAll x keys).2 (q.pressAll x keys).2 := by
  induction keys generalizing p q with
  | nil => exact ⟨rfl, h⟩
  | cons key keys ih =>
      obtain ⟨hstroke, hnext⟩ := h.press hx key
      obtain ⟨hstrokes, hend⟩ := ih hnext
      rw [pressAll_cons, pressAll_cons]
      exact ⟨by rw [hstroke, hstrokes], hend⟩

/-- The hint of alike states is the same. -/
theorem Alike.keys_hint_eq (hx : x.Blind V) (h : Alike V p q) (hp : Coherent x p)
    (hq : Coherent x q) : (p.hint x).keys x = (q.hint x).keys x := by
  rw [hp.keys_hint, hq.keys_hint, due, due, h.node, hx.due_eq h.cursor.unread]

/-- **A line is played by its kana alone.**  On two lines with the same kana, in whatever parts they
stand and whatever else stands between them, the same keys are the same strokes and lead to the
same step, counts and hint, with glyphs of the same kana completed last. -/
theorem play_of_same_kana (x : Lexicon) (h : l.kana = l'.kana) (keys : List Char) :
    let r := (start x l).pressAll x keys
    let r' := (start x l').pressAll x keys
    r.1 = r'.1 ∧ r.2.finished = r'.2.finished ∧ r.2.resolved = r'.2.resolved ∧
      r.2.highlighted = r'.2.highlighted ∧ r.2.node = r'.2.node ∧
      (r.2.hint x).keys x = (r'.2.hint x).keys x ∧
      r.2.completed.map Glyph.char = r'.2.completed.map Glyph.char := by
  intro r r'
  have hkana : List.Forall₂ (· = ·) l.kana l'.kana := by rw [List.forall₂_eq_eq_eq, h]
  have hx := x.blind_eq
  obtain ⟨hstrokes, halike⟩ := (Alike.start hx hkana).pressAll hx keys
  have hr : Coherent x r.2 := (coherent_restart x idle l).pressAll keys
  have hr' : Coherent x r'.2 := (coherent_restart x idle l').pressAll keys
  have hcompleted := halike.completed
  rw [List.forall₂_eq_eq_eq] at hcompleted
  refine ⟨hstrokes, ?_, halike.resolved, halike.highlighted, halike.node,
    halike.keys_hint_eq hx hr hr', hcompleted⟩
  rw [finished, finished, halike.node]

/-- `しゃん` and a line with the same kana in four parts, two of them in a reading of their own and
one empty, are played alike. -/
theorem play_of_same_kana_sample :
    let l : Lyric := .ofPlain ['し', 'ゃ', 'ん']
    let l' : Lyric :=
      ⟨[.plain ['「'], .ruby ['車'] ['し'], .ruby ['空'] [], .plain ['ゃ', '、', 'ん', '」']]⟩
    l.kana = l'.kana ∧ l ≠ l' ∧
      ((start .sample l').pressAll .sample ['s', 'x', 'h', 'A']).1 = [.hit, .miss, .hit, .hit] ∧
      ((start .sample l').pressAll .sample ['s', 'x', 'h', 'A']).2.completed.map Glyph.char =
        ['し', 'ゃ'] := by
  intro l l'
  have hkana : l.kana = l'.kana := by decide +kernel
  have hl : ((start .sample l).pressAll .sample ['s', 'x', 'h', 'A']).1 =
        [.hit, .miss, .hit, .hit] ∧
      ((start .sample l).pressAll .sample ['s', 'x', 'h', 'A']).2.completed.map Glyph.char =
        ['し', 'ゃ'] := by
    decide +kernel
  obtain ⟨hstrokes, -, -, -, -, -, hcompleted⟩ :=
    play_of_same_kana .sample hkana ['s', 'x', 'h', 'A']
  exact ⟨hkana, by decide +kernel, hstrokes.symm.trans hl.1, hcompleted.symm.trans hl.2⟩

end Progress

end KanaTyping
