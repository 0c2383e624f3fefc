import KanaTyping.Play.Progress
import KanaTyping.Proofs.Lyrics.Glyphs
import KanaTyping.Proofs.Lyrics.Walk
import KanaTyping.Proofs.Text.Columns
import Mathlib.Data.Prod.Lex
import Mathlib.Order.Monotone.Basic

/-!
# Cursors — all the glyphs of a line

`Lyric.glyphs` are the glyphs that a walk to the end of a line meets.  A *place* is the number of a
part with the number of a character in it; places are in the order in which the line is read.

* `strictMonoOn_kanaBefore`: later kana have more kana before them, so that the number of a kana
  tells its place.
* `pairwise_place` and `exists_mem_glyphs`: a walk meets its glyphs in the order of their places,
  one at every kana.
* `Glyph.Shows.cellEnd_le`: a glyph ends before the next one starts, in the same part or a later
  one.

`cells_in_order` has it that glyphs do not overlap where texts are as wide as their characters;
`exists_cells_overlap` has some that do, in a text that is so on the whole only, and
`cells_in_order_of_kana` has lines for which nothing need be assumed.  `base_shown_last` says with
which glyph of a reading its base is shown.
-/

namespace KanaTyping

namespace Cursor

variable [Text.Metric] {u v : Cursor}

/-- A walk finds a glyph at each of the next `n` kana, if there are so many. -/
theorem map_some_glyphs (hv : v.Settled) {start n : Nat}
    (hn : n ≤ (v.advanceBy start).unread.length) :
    ((v.advanceBy start).glyphs n).map some =
      (List.range' start n).map fun i => (v.advanceBy i).glyph := by
  induction n generalizing start with
  | zero => rfl
  | succ n ih =>
      have hu := hv.advanceBy start
      have hnext : (v.advanceBy start).advance = v.advanceBy (start + 1) := by
        rw [advanceBy_add]
        rfl
      have hrest : n ≤ (v.advanceBy (start + 1)).unread.length := by
        rw [← hnext, hu.unread_advance, List.length_tail]
        omega
      -- the cursor is on a kana, so it has a glyph
      obtain ⟨c, cs, hk⟩ := List.exists_cons_of_length_pos (Nat.lt_of_lt_of_le n.succ_pos hn)
      have hchar : (v.advanceBy start).glyph.map Glyph.char = some c := by
        rw [hu.map_char_glyph, hu.current_eq_head?, hk]
        rfl
      obtain ⟨g, hg, -⟩ := Option.map_eq_some_iff.mp hchar
      rw [glyphs, hnext, List.range'_succ, List.map_append, List.map_cons, ih hrest, hg]
      rfl

theorem glyphs_add (u : Cursor) (m n : Nat) :
    u.glyphs (m + n) = u.glyphs m ++ (u.advanceBy m).glyphs n := by
  induction m generalizing u with
  | zero => rw [Nat.zero_add]; rfl
  | succ m ih =>
      rw [Nat.succ_add, glyphs, glyphs, ih, List.append_assoc]
      rfl

/-- At the end a walk meets nothing more. -/
theorem Settled.glyphs_of_atEnd (hu : u.Settled) (h : u.atEnd = true) (n : Nat) :
    u.glyphs n = [] := by
  induction n with
  | zero => rfl
  | succ n ih => rw [glyphs, hu.glyph_eq_none_iff.mpr h, hu.advance_of_atEnd h, ih]; rfl

end Cursor

/-! ### Places -/

namespace Lyric

variable {l : Lyric} {p q : Part} {c : Char} {a b : ℕ ×ₗ ℕ}

/-- The text of the line before a place. -/
def textBefore (l : Lyric) (a : ℕ ×ₗ ℕ) : List Char :=
  (l.parts.take (ofLex a).1).flatMap Part.text ++
    ((l.parts[(ofLex a).1]?.map Part.text).getD []).take (ofLex a).2

/-- The number of kana before a place. -/
def kanaBefore (l : Lyric) (a : ℕ ×ₗ ℕ) : Nat :=
  (l.textBefore a).countP isKana

/-- A kana of the line stands at the place. -/
def KanaAt (l : Lyric) (a : ℕ ×ₗ ℕ) : Prop :=
  ∃ p c, l.parts[(ofLex a).1]? = some p ∧ p.text[(ofLex a).2]? = some c ∧ isKana c = true

theorem textBefore_eq (hp : l.parts[(ofLex a).1]? = some p) :
    l.textBefore a = (l.parts.take (ofLex a).1).flatMap Part.text ++ p.text.take (ofLex a).2 := by
  rw [textBefore, hp]
  rfl

/-- The parts up to a place, the last one as a whole. -/
theorem flatMap_text_take_succ (i : Nat) (hp : l.parts[i]? = some p) :
    (l.parts.take (i + 1)).flatMap Part.text = (l.parts.take i).flatMap Part.text ++ p.text := by
  rw [List.take_add_one, hp, List.flatMap_append]
  simp

theorem flatMap_text_take_isPrefix {m n : Nat} (h : m ≤ n) :
    (l.parts.take m).flatMap Part.text <+: (l.parts.take n).flatMap Part.text := by
  obtain ⟨k, rfl⟩ := Nat.exists_eq_add_of_le h
  rw [List.take_add, List.flatMap_append]
  exact List.prefix_append _ _

/-- What stands before a place and at it stands before every later place. -/
theorem textBefore_concat_isPrefix (hp : l.parts[(ofLex a).1]? = some p)
    (hc : p.text[(ofLex a).2]? = some c) (hlt : a < b) :
    l.textBefore a ++ [c] <+: l.textBefore b := by
  have htake : p.text.take (ofLex a).2 ++ [c] = p.text.take ((ofLex a).2 + 1) := by
    rw [List.take_add_one, hc]
    rfl
  rw [textBefore_eq hp, List.append_assoc, htake]
  rcases Prod.Lex.lt_iff.mp hlt with hpart | ⟨hpart, hindex⟩
  · refine List.IsPrefix.trans ?_ (List.prefix_append _ _)
    refine List.IsPrefix.trans ?_ (flatMap_text_take_isPrefix (Nat.succ_le_of_lt hpart))
    rw [flatMap_text_take_succ _ hp]
    exact (List.prefix_append_right_inj _).mpr (List.take_prefix _ _)
  · have hb : l.parts[(ofLex b).1]? = some p := hpart ▸ hp
    rw [textBefore_eq hb, hpart]
    exact (List.prefix_append_right_inj _).mpr (List.take_prefix_take_left hindex)

/-- A later place has more kana before it than a kana's own place. -/
theorem kanaBefore_lt (ha : l.KanaAt a) (hlt : a < b) : l.kanaBefore a < l.kanaBefore b := by
  obtain ⟨p, c, hp, hc, hkana⟩ := ha
  have hle := (textBefore_concat_isPrefix hp hc hlt).sublist.countP_le (p := isKana)
  rw [List.countP_append, List.countP_singleton, if_pos hkana] at hle
  exact hle

theorem strictMonoOn_kanaBefore (l : Lyric) : StrictMonoOn l.kanaBefore {a | l.KanaAt a} :=
  fun _ ha _ _ hlt => kanaBefore_lt ha hlt

/-- The kana before a kana are not all of the line. -/
theorem kanaBefore_lt_length (ha : l.KanaAt a) : l.kanaBefore a < l.kana.length := by
  have hend : l.textBefore (toLex (l.parts.length, 0)) = l.parts.flatMap Part.text := by
    simp [textBefore]
  have hlt : a < toLex (l.parts.length, 0) := by
    obtain ⟨p, c, hp, -⟩ := ha
    exact Prod.Lex.lt_iff.mpr (.inl (List.getElem?_eq_some_iff.mp hp).1)
  rw [kana, ← List.countP_eq_length_filter, ← hend]
  exact kanaBefore_lt ha hlt

end Lyric

namespace Glyph

/-- Where in its line the kana of the glyph stands. -/
def place (g : Glyph) : ℕ ×ₗ ℕ :=
  toLex (g.part, g.index)

theorem index_lt_index {g g' : Glyph} (h : g.place < g'.place) (hpart : g.part = g'.part) :
    g.index < g'.index := by
  rcases Prod.Lex.lt_iff.mp h with hlt | ⟨-, hlt⟩
  · exact absurd hpart (Nat.ne_of_lt hlt)
  · exact hlt

/-- The column after the glyph. -/
def cellEnd [Text.Metric] (g : Glyph) : Nat :=
  g.column + Text.Metric.width [g.char]

variable [Text.Metric] {l : Lyric} {g g' : Glyph} {j k : Nat} {p p' : Part}

theorem Shows.isKana_char (h : g.Shows l k p) : isKana g.char = true :=
  (List.mem_filter.mp (List.mem_of_getElem? h.kana)).2

theorem Shows.kanaAt (h : g.Shows l k p) : l.KanaAt g.place :=
  ⟨p, g.char, h.part, h.char, h.isKana_char⟩

/-- The number of a kana is the number of kana before its place. -/
theorem Shows.kanaBefore_place (h : g.Shows l k p) : l.kanaBefore g.place = k := by
  rw [Lyric.kanaBefore, Lyric.textBefore_eq (a := g.place) h.part]
  exact h.before

/-- Later kana stand at later places. -/
theorem Shows.place_lt_place (h : g.Shows l j p) (h' : g'.Shows l k p') (hjk : j < k) :
    g.place < g'.place := by
  rw [← l.strictMonoOn_kanaBefore.lt_iff_lt h.kanaAt h'.kanaAt, h.kanaBefore_place,
    h'.kanaBefore_place]
  exact hjk

end Glyph

/-! ### The glyphs of a walk -/

namespace Lyric

variable [Text.Metric] {l : Lyric} {g : Glyph} {k : Nat} {a : ℕ ×ₗ ℕ}

/-- The glyphs that a walk to the end of the line meets. -/
def glyphs (l : Lyric) : List Glyph :=
  l.cursor.glyphs l.kana.length

theorem map_some_glyphs (l : Lyric) :
    l.glyphs.map some = (List.range l.kana.length).map fun i => (l.cursor.advanceBy i).glyph := by
  have hlength : l.kana.length ≤ (l.cursor.advanceBy 0).unread.length := by
    rw [Cursor.advanceBy, l.unread_cursor]
  rw [List.range_eq_range']
  exact Cursor.map_some_glyphs l.settled_cursor hlength

/-- A walk that has come to the end has met all of them. -/
theorem glyphs_of_atEnd {n : Nat} (h : (l.cursor.advanceBy n).atEnd = true) :
    l.cursor.glyphs n = l.glyphs := by
  have hend := l.atEnd_advanceBy_iff.mpr (Nat.le_refl l.kana.length)
  obtain ⟨m, rfl⟩ := Nat.exists_eq_add_of_le (l.atEnd_advanceBy_iff.mp h)
  rw [Cursor.glyphs_add, (l.settled_cursor.advanceBy _).glyphs_of_atEnd hend, List.append_nil]
  rfl

/-- A walk that stops before has met the first of them. -/
theorem glyphs_isPrefix (l : Lyric) (n : Nat) : l.cursor.glyphs n <+: l.glyphs := by
  rcases Nat.le_total l.kana.length n with hn | hn
  · rw [glyphs_of_atEnd (l.atEnd_advanceBy_iff.mpr hn)]
  · obtain ⟨m, hm⟩ := Nat.exists_eq_add_of_le hn
    rw [glyphs, hm, Cursor.glyphs_add]
    exact List.prefix_append _ _

theorem length_glyphs (l : Lyric) : l.glyphs.length = l.kana.length := by
  have hlength := congrArg List.length l.map_some_glyphs
  rwa [List.length_map, List.length_map, List.length_range] at hlength

theorem exists_shows (hk : k < l.kana.length) :
    ∃ g p, (l.cursor.advanceBy k).glyph = some g ∧ g.Shows l k p := by
  obtain ⟨g, p, hg, hshows, -⟩ :=
    (l.located_advanceBy k).exists_shows (l.settled_cursor.advanceBy k) hk (l.unread_advanceBy k)
  exact ⟨g, p, hg, hshows⟩

/-- The glyphs of a line are numbered as its kana are. -/
theorem shows_of_getElem? (h : l.glyphs[k]? = some g) : ∃ p, g.Shows l k p := by
  have hk : k < l.kana.length := l.length_glyphs ▸ (List.getElem?_eq_some_iff.mp h).1
  obtain ⟨g', p, hg', hshows⟩ := exists_shows hk
  have hget := congrArg (·[k]?) l.map_some_glyphs
  simp only [List.getElem?_map, h, List.getElem?_range hk, Option.map_some, hg',
    Option.some.injEq] at hget
  exact ⟨p, hget ▸ hshows⟩

theorem shows_of_mem (h : g ∈ l.glyphs) : ∃ k p, g.Shows l k p := by
  obtain ⟨k, hk⟩ := List.getElem?_of_mem h
  exact ⟨k, shows_of_getElem? hk⟩

/-- A walk meets the glyphs in the order of their places. -/
theorem pairwise_place (l : Lyric) : l.glyphs.Pairwise fun g g' => g.place < g'.place := by
  rw [List.pairwise_iff_getElem]
  intro j k hj hk hjk
  obtain ⟨p, hshows⟩ := shows_of_getElem? (List.getElem?_eq_getElem hj)
  obtain ⟨q, hshows'⟩ := shows_of_getElem? (List.getElem?_eq_getElem hk)
  exact hshows.place_lt_place hshows' hjk

/-- A walk meets a glyph at every kana. -/
theorem exists_mem_glyphs (ha : l.KanaAt a) : ∃ g ∈ l.glyphs, g.place = a := by
  have hk : l.kanaBefore a < l.glyphs.length := by
    rw [l.length_glyphs]
    exact kanaBefore_lt_length ha
  obtain ⟨p, hshows⟩ := shows_of_getElem? (List.getElem?_eq_getElem hk)
  refine ⟨_, List.getElem_mem hk, ?_⟩
  exact l.strictMonoOn_kanaBefore.injOn hshows.kanaAt ha hshows.kanaBefore_place

end Lyric

/-! ### Cells -/

section Cells

variable [Text.Metric]

/-- A part leaves room for its text where it is drawn. -/
theorem Part.indent_add_width_text_le (p : Part) :
    p.indent + Text.Metric.width p.text ≤ p.width := by
  cases p with
  | plain t => simp [indent, text, width]
  | ruby base reading =>
      simp only [indent, text, width]
      omega

namespace Lyric

variable {l : Lyric} {p : Part} {i m n : Nat}

theorem width_append (ps qs : List Part) : width ⟨ps ++ qs⟩ = width ⟨ps⟩ + width ⟨qs⟩ := by
  induction qs generalizing ps with
  | nil => simp [width]
  | cons p qs ih =>
      rw [← List.singleton_append, ← List.append_assoc, ih, ih [p], width_concat, Nat.add_assoc]
      simp [width]

theorem width_take_succ (hp : l.parts[i]? = some p) :
    width ⟨l.parts.take (i + 1)⟩ = width ⟨l.parts.take i⟩ + p.width := by
  rw [List.take_add_one, hp]
  exact width_concat _ p

theorem width_take_le (h : m ≤ n) : width ⟨l.parts.take m⟩ ≤ width ⟨l.parts.take n⟩ := by
  obtain ⟨k, rfl⟩ := Nat.exists_eq_add_of_le h
  rw [List.take_add, width_append]
  exact Nat.le_add_right _ _

theorem width_take_le_width (l : Lyric) (n : Nat) : width ⟨l.parts.take n⟩ ≤ l.width := by
  have hsplit := width_append (l.parts.take n) (l.parts.drop n)
  rw [List.take_append_drop] at hsplit
  exact Nat.le.intro hsplit.symm

end Lyric

namespace Glyph

variable {l : Lyric} {g g' : Glyph} {j k : Nat} {p p' : Part}

/-- A glyph ends within its part. -/
theorem Shows.cellEnd_le_width (h : g.Shows l k p) (hp : Text.Additive p.text) :
    g.cellEnd ≤ Lyric.width ⟨l.parts.take (g.part + 1)⟩ := by
  have htext := hp.width_take_add_le_width h.char h.isKana_char
  have hpart := p.indent_add_width_text_le
  rw [cellEnd, h.column, Lyric.width_take_succ h.part]
  omega

/-- A glyph ends before one at a later place starts. -/
theorem Shows.cellEnd_le (h : g.Shows l j p) (h' : g'.Shows l k p') (hp : Text.Additive p.text)
    (hlt : g.place < g'.place) : g.cellEnd ≤ g'.column := by
  rcases Prod.Lex.lt_iff.mp hlt with hpart | ⟨hpart, hindex⟩
  · calc g.cellEnd
        ≤ Lyric.width ⟨l.parts.take (g.part + 1)⟩ := h.cellEnd_le_width hp
      _ ≤ Lyric.width ⟨l.parts.take g'.part⟩ := Lyric.width_take_le hpart
      _ ≤ g'.column := by
          rw [h'.column, Nat.add_assoc]
          exact Nat.le_add_right _ _
  · replace hpart : g.part = g'.part := hpart
    obtain rfl : p = p' := Option.some.inj (h.part.symm.trans (hpart ▸ h'.part))
    have hnext := hp.width_take_add_le h.char h.isKana_char h'.char h'.isKana_char hindex
    rw [cellEnd, h.column, h'.column, hpart, Nat.add_assoc]
    exact Nat.add_le_add_left hnext _

end Glyph

namespace Lyric

variable {l : Lyric} {n : Nat}

/-- However far a walk goes, it ends a glyph before it starts the next ones. -/
theorem pairwise_cellEnd_le (h : ∀ p ∈ l.parts, Text.Additive p.text) (n : Nat) :
    (l.cursor.glyphs n).Pairwise fun g g' => g.cellEnd ≤ g'.column := by
  refine List.Pairwise.sublist (l.glyphs_isPrefix n).sublist ?_
  refine l.pairwise_place.imp_of_mem fun hg hg' hlt => ?_
  obtain ⟨j, p, hshows⟩ := shows_of_mem hg
  obtain ⟨k, p', hshows'⟩ := shows_of_mem hg'
  exact hshows.cellEnd_le hshows' (h p (List.mem_of_getElem? hshows.part)) hlt

/-- No glyph ends beyond the width of the line. -/
theorem cellEnd_le_width (h : ∀ p ∈ l.parts, Text.Additive p.text) {g : Glyph}
    (hg : g ∈ l.cursor.glyphs n) : g.cellEnd ≤ l.width := by
  obtain ⟨k, p, hshows⟩ := shows_of_mem ((l.glyphs_isPrefix n).subset hg)
  have hp := h p (List.mem_of_getElem? hshows.part)
  exact Nat.le_trans (hshows.cellEnd_le_width hp) (l.width_take_le_width _)

/-- **Glyphs are drawn in order, apart from one another and within the line.**  However far a walk
goes along a line of which the texts are as wide as their characters, and so is what stands before
each of their kana, every glyph that it meets ends before the next ones start, be they in its part
or in a later one, and none ends beyond the width of the line. -/
theorem cells_in_order (l : Lyric) (h : ∀ p ∈ l.parts, Text.Additive p.text) (n : Nat) :
    (l.cursor.glyphs n).Pairwise
        (fun g g' => g.column + Text.Metric.width [g.char] ≤ g'.column) ∧
      ∀ g ∈ l.cursor.glyphs n, g.column + Text.Metric.width [g.char] ≤ l.width :=
  ⟨pairwise_cellEnd_le h n, fun _ => cellEnd_le_width h⟩

end Lyric

end Cells

/-- A reading narrower than its base, a mark that is not typed, and a reading wider than its
base. -/
theorem Lyric.cells_in_order_sample :
    let l : Lyric := ⟨[.ruby ['大', '丈', '夫'] ['だ', 'い'], .plain ['、', 'A'],
      .ruby ['花'] ['は', '・', 'な']]⟩
    (l.cursor.glyphs 5).map (fun g => (g.char, g.column)) =
        [('だ', 1), ('い', 3), ('A', 8), ('は', 9), ('な', 13)] ∧
      (l.cursor.glyphs 5).Pairwise (fun g g' => g.column + Text.width [g.char] ≤ g'.column) ∧
      ∀ g ∈ l.cursor.glyphs 5, g.column + Text.width [g.char] ≤ 15 := by
  intro l
  have hall : (l.parts.all fun p => p.text.all fun c => decide (Text.Inert c)) = true := by
    decide +kernel
  simp only [List.all_eq_true, decide_eq_true_eq] at hall
  have h : ∀ p ∈ l.parts, Text.Additive p.text := fun p hp => Text.additive_of_inert (hall p hp)
  have hwidth : l.width = 15 := by decide +kernel
  obtain ⟨horder, hwithin⟩ := l.cells_in_order h 5
  exact ⟨by decide +kernel, horder, hwidth ▸ hwithin⟩

/-- It is not enough that the texts are as wide as their characters on the whole: here an emoji that
is joined to a keycap is two columns narrower than the characters of both, and the sun behind them
two columns wider, so that the second digit is drawn over the first. -/
theorem Lyric.exists_cells_overlap :
    ∃ l : Lyric, (∀ p ∈ l.parts, Text.width p.text = Text.columns p.text) ∧
      l.glyphs.map (fun g => (g.char, g.column)) = [('1', 2), ('2', 2)] ∧
      ¬ l.glyphs.Pairwise (fun g g' => g.column + Text.width [g.char] ≤ g'.column) :=
  ⟨⟨[.plain ([0x1F600, 0x200D, 0x31, 0xFE0F, 0x32, 0x2600, 0xFE0F].map Char.ofNat)]⟩,
    by decide +kernel⟩

/-- Lines of kana and kanji are drawn in order as they are, with the columns of a terminal. -/
theorem Lyric.cells_in_order_of_kana (l : Lyric)
    (h : ∀ p ∈ l.parts, ∀ c ∈ p.text, isKana c = true ∨ isKanji c = true) :
    l.glyphs.Pairwise (fun g g' => g.column + Text.width [g.char] ≤ g'.column) ∧
      ∀ g ∈ l.glyphs, g.column + Text.width [g.char] ≤ l.width := by
  have hadditive : ∀ p ∈ l.parts, Text.Additive p.text := fun p hp =>
    Text.additive_of_inert fun c hc => (h p hp c hc).elim Text.inert_of_isKana Text.inert_of_isKanji
  exact ⟨pairwise_cellEnd_le hadditive _, fun _ => cellEnd_le_width hadditive⟩

/-! ### Bases -/

namespace Glyph

variable [Text.Metric] {l : Lyric} {g g' : Glyph} {k : Nat} {text base reading : List Char}

theorem Shows.base_of_plain (h : g.Shows l k (.plain text)) : g.base = none := by
  refine Option.eq_none_iff_forall_ne_some.mpr fun base hbase => ?_
  obtain ⟨reading, heq, -⟩ := (h.base base).mp hbase
  cases heq

theorem Shows.base_of_ruby (h : g.Shows l k (.ruby base reading)) :
    g.base = if g.index + 1 = reading.length then some base else none := by
  split
  · next hlast => exact (h.base base).mpr ⟨reading, rfl, hlast⟩
  · next hlast =>
      refine Option.eq_none_iff_forall_ne_some.mpr fun base' hbase => ?_
      obtain ⟨reading', heq, hlast'⟩ := (h.base base').mp hbase
      cases heq
      exact hlast hlast'

end Glyph

namespace Lyric

variable [Text.Metric] {l : Lyric} {g last : Glyph} {before : List Glyph} {i j : Nat}
variable {base reading : List Char} {c : Char}

/-- The glyphs of the part number `i`, as a walk meets them. -/
def glyphsOf (l : Lyric) (i : Nat) : List Glyph :=
  l.glyphs.filter (·.part == i)

theorem mem_glyphsOf : g ∈ l.glyphsOf i ↔ g ∈ l.glyphs ∧ g.part = i := by
  rw [glyphsOf, List.mem_filter, beq_iff_eq]

theorem shows_of_mem_glyphsOf (hp : l.parts[i]? = some (.ruby base reading))
    (hg : g ∈ l.glyphsOf i) : g.part = i ∧ ∃ k, g.Shows l k (.ruby base reading) := by
  obtain ⟨hmem, hpart⟩ := mem_glyphsOf.mp hg
  obtain ⟨k, p, hshows⟩ := shows_of_mem hmem
  obtain rfl : p = .ruby base reading :=
    Option.some.inj (hshows.part.symm.trans (hpart ▸ hp))
  exact ⟨hpart, k, hshows⟩

/-- Each kana of a reading has its glyph. -/
theorem exists_mem_glyphsOf (hp : l.parts[i]? = some (.ruby base reading))
    (hj : reading[j]? = some c) (hc : isKana c = true) : ∃ g ∈ l.glyphsOf i, g.index = j := by
  obtain ⟨g, hg, hplace⟩ := exists_mem_glyphs (a := toLex (i, j)) ⟨_, c, hp, hj, hc⟩
  have hpart : g.part = i := congrArg (fun a => (ofLex a).1) hplace
  exact ⟨g, mem_glyphsOf.mpr ⟨hg, hpart⟩, congrArg (fun a => (ofLex a).2) hplace⟩

/-- The other glyphs of a reading stand before the last one. -/
theorem index_lt_last (hp : l.parts[i]? = some (.ruby base reading))
    (hglyphs : l.glyphsOf i = before ++ [last]) (hg : g ∈ before) : g.index < last.index := by
  have hplaces : (before ++ [last]).Pairwise fun g g' => g.place < g'.place :=
    hglyphs ▸ l.pairwise_place.filter _
  have hlt := (List.pairwise_append.mp hplaces).2.2 g hg last (List.mem_singleton_self _)
  have hpart : ∀ g ∈ before ++ [last], g.part = i := fun g hg =>
    (shows_of_mem_glyphsOf hp (hglyphs ▸ hg)).1
  refine Glyph.index_lt_index hlt ?_
  rw [hpart g (List.mem_append_left _ hg), hpart last (List.mem_concat_self ..)]

/-- The last glyph of a reading is at its last character when that is a kana. -/
theorem index_last_iff (hp : l.parts[i]? = some (.ruby base reading))
    (hglyphs : l.glyphsOf i = before ++ [last]) :
    last.index + 1 = reading.length ↔ reading.getLast?.any isKana = true := by
  obtain ⟨-, k, hshows⟩ := shows_of_mem_glyphsOf (g := last) hp (by simp [hglyphs])
  have hchar : reading[last.index]? = some last.char := hshows.char
  obtain ⟨hlt, -⟩ := List.getElem?_eq_some_iff.mp hchar
  rw [List.getLast?_eq_getElem?]
  constructor
  · intro hlast
    have hindex : reading.length - 1 = last.index := by omega
    rw [hindex, hchar]
    exact hshows.isKana_char
  · intro hany
    have hend := List.getElem?_eq_getElem (show reading.length - 1 < reading.length by omega)
    rw [hend] at hany
    -- the kana at the end has a glyph, and no glyph stands behind the last one
    obtain ⟨g, hg, hindex⟩ := exists_mem_glyphsOf hp hend hany
    rw [hglyphs, List.mem_append, List.mem_singleton] at hg
    rcases hg with hbefore | rfl
    · have hbehind := index_lt_last hp hglyphs hbefore
      omega
    · omega

end Lyric

/-- **Which glyph shows a base.**  No glyph of plain text shows one.  Of the glyphs of a reading
that has any kana, those before the last one show none; the last one shows the base when the reading
ends in a kana, and otherwise it shows none either. -/
theorem Lyric.base_shown_last [Text.Metric] (l : Lyric) :
    (∀ g ∈ l.glyphs, ∀ text, l.parts[g.part]? = some (.plain text) → g.base = none) ∧
      ∀ i base reading, l.parts[i]? = some (.ruby base reading) → reading.any isKana = true →
        ∃ before last, l.glyphsOf i = before ++ [last] ∧
          (∀ g ∈ before, g.base = none) ∧
          last.base = if reading.getLast?.any isKana then some base else none := by
  constructor
  · intro g hg text htext
    obtain ⟨k, p, hshows⟩ := shows_of_mem hg
    obtain rfl := Option.some.inj (hshows.part.symm.trans htext)
    exact hshows.base_of_plain
  · intro i base reading hp hkana
    obtain ⟨c, hc, hck⟩ := List.any_eq_true.mp hkana
    obtain ⟨j, hj⟩ := List.getElem?_of_mem hc
    obtain ⟨g, hg, -⟩ := exists_mem_glyphsOf hp hj hck
    rcases List.eq_nil_or_concat' (l.glyphsOf i) with hnil | ⟨before, last, hglyphs⟩
    · rw [hnil] at hg
      cases hg
    · have hshows : ∀ g ∈ before ++ [last], ∃ k, g.Shows l k (.ruby base reading) := fun g hg =>
        (shows_of_mem_glyphsOf hp (hglyphs ▸ hg)).2
      obtain ⟨k, hlast⟩ := hshows last (List.mem_concat_self ..)
      obtain ⟨hlt, -⟩ := List.getElem?_eq_some_iff.mp hlast.char
      refine ⟨before, last, hglyphs, fun g hg => ?_, ?_⟩
      · obtain ⟨k', hother⟩ := hshows g (List.mem_append_left _ hg)
        have hindex := index_lt_last hp hglyphs hg
        replace hlt : last.index < reading.length := hlt
        rw [hother.base_of_ruby, if_neg (by omega)]
      · rw [hlast.base_of_ruby]
        simp only [index_last_iff hp hglyphs]

/-- A reading that ends in a kana, and one that ends in a full stop. -/
theorem Lyric.base_shown_last_sample :
    let l : Lyric := ⟨[.ruby ['空'] ['そ', 'ら'], .ruby ['花'] ['は', 'な', '。']]⟩
    ∃ before last before' last', l.glyphsOf 0 = before ++ [last] ∧ last.base = some ['空'] ∧
      l.glyphsOf 1 = before' ++ [last'] ∧ last'.base = none := by
  intro l
  obtain ⟨before, last, hglyphs, -, hlast⟩ :=
    l.base_shown_last.2 0 ['空'] ['そ', 'ら'] rfl (by decide)
  obtain ⟨before', last', hglyphs', -, hlast'⟩ :=
    l.base_shown_last.2 1 ['花'] ['は', 'な', '。'] rfl (by decide)
  exact ⟨before, last, before', last', hglyphs, hlast, hglyphs', hlast'⟩

/-- A base may never be shown, though its reading has kana: in `(花|はな。)` neither glyph shows
it. -/
theorem Lyric.exists_base_not_shown :
    ∃ (l : Lyric) (i : Nat) (base reading : List Char),
      l.parts[i]? = some (.ruby base reading) ∧
      reading.any isKana = true ∧ l.glyphs.map Glyph.char = ['は', 'な'] ∧
      ∀ g ∈ l.glyphs, g.base = none :=
  ⟨⟨[.ruby ['花'] ['は', 'な', '。']]⟩, 0, ['花'], ['は', 'な', '。'], by decide +kernel⟩

end KanaTyping
