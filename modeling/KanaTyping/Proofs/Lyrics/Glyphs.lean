import KanaTyping.Proofs.Lyrics.Stream

/-!
# Cursors — where the kana of a line are drawn

A cursor counts parts, characters, bytes and columns as it goes.  `Cursor.Located` says that the
counts agree with the line: the parts, the text and the columns before the cursor are those of the
first parts of the line, and the byte is that of the character.

* `Located.pass` and `Located.nextPart`: both ways of going on keep the counts right, and so does
  every walk (`Located.advanceBy`).
* `Located.text_eq`: what lies before a cursor and what lies ahead is the text of the line.
* `Located.exists_shows`: the glyph at a kana, read off the line.

`Lyric.glyph_of_kana` puts them together for the kana of a line, by their numbers.
-/

namespace KanaTyping

namespace Part

/-- The columns left free before the text of the part: half of what a base is wider than its
reading. -/
def indent [Text.Metric] : Part → Nat
  | plain _ => 0
  | ruby base reading => ((ruby base reading).width - Text.Metric.width reading) / 2

/-- A part is at least as wide as its text. -/
theorem width_text_le [Text.Metric] (p : Part) : Text.Metric.width p.text ≤ p.width := by
  cases p with
  | plain text => exact Nat.le_refl _
  | ruby base reading => exact Nat.le_max_right _ _

end Part

theorem Lyric.width_concat [Text.Metric] (ps : List Part) (p : Part) :
    Lyric.width ⟨ps ++ [p]⟩ = Lyric.width ⟨ps⟩ + p.width := by
  induction ps with
  | nil => simp [width]
  | cons q ps ih =>
      simp only [width, List.cons_append, List.foldr_cons] at ih ⊢
      omega

namespace Cursor

variable {l : Lyric} {u : Cursor} {c : Char} {rest : List Char} {p : Part} {ps : List Part}

/-- The text of the part that the cursor stands in. -/
def text (u : Cursor) : List Char :=
  (u.parts.head?.map Part.text).getD []

/-- The numbers of the cursor say where in the line it stands. -/
structure Located [Text.Metric] (l : Lyric) (u : Cursor) : Prop where
  parts : u.parts = l.parts.drop u.part
  ahead : u.ahead = u.text.drop u.index
  offset : u.offset = (String.ofList (u.text.take u.index)).utf8ByteSize
  column : u.column = Lyric.width ⟨l.parts.take u.part⟩

/-! ### Going on -/

variable [Text.Metric]

theorem located_startOf (l : Lyric) : Located l (startOf l.parts 0 0) where
  parts := rfl
  ahead := rfl
  offset := by simp [startOf]
  column := rfl

theorem Located.getElem?_text (h : Located l u) (ha : u.ahead = c :: rest) :
    u.text[u.index]? = some c := by
  rw [← List.head?_drop, ← h.ahead, ha]
  rfl

theorem Located.getElem?_parts (h : Located l u) (hp : u.parts = p :: ps) :
    l.parts[u.part]? = some p := by
  rw [← List.head?_drop, ← h.parts, hp]
  rfl

theorem Located.pass (h : Located l u) (ha : u.ahead = c :: rest) : Located l (u.pass c rest) where
  parts := h.parts
  ahead := by
    have htail : u.ahead.tail = u.text.drop (u.index + 1) := by rw [h.ahead, List.tail_drop]
    rwa [ha] at htail
  offset := by
    have htake : u.text.take (u.index + 1) = u.text.take u.index ++ [c] := by
      rw [List.take_add_one, h.getElem?_text ha]
      rfl
    change u.offset + c.utf8Size = (String.ofList (u.text.take (u.index + 1))).utf8ByteSize
    rw [htake, String.ofList_append, String.utf8ByteSize_append, ← h.offset]
    simp
  column := h.column

theorem Located.nextPart (h : Located l u) (hp : u.parts = p :: ps) :
    Located l (startOf ps (u.part + 1) (u.column + p.width)) where
  parts := by
    have htail : u.parts.tail = l.parts.drop (u.part + 1) := by rw [h.parts, List.tail_drop]
    rwa [hp] at htail
  ahead := rfl
  offset := by simp [startOf]
  column := by
    change u.column + p.width = Lyric.width ⟨l.parts.take (u.part + 1)⟩
    rw [List.take_add_one, h.getElem?_parts hp, h.column]
    exact (Lyric.width_concat _ p).symm

theorem Located.settle (h : Located l u) : Located l u.settle := by
  fun_induction Cursor.settle u with
  | case1 => exact h
  | case2 => exact h
  | case3 u _ _ c rest _ ha _ ih => exact ih (h.pass ha)
  | case4 u p ps hp _ ih => exact ih (h.nextPart hp)

theorem Located.advance (h : Located l u) : Located l u.advance := by
  rw [Cursor.advance]
  split
  · exact h.settle
  · next ha => exact (h.pass ha).settle

theorem Located.advanceBy (h : Located l u) (n : Nat) : Located l (u.advanceBy n) := by
  induction n generalizing u with
  | zero => exact h
  | succ n ih => exact ih h.advance

/-! ### At a kana -/

/-- What lies before the cursor and what lies ahead is the text of the line. -/
theorem Located.text_eq (h : Located l u) :
    l.parts.flatMap Part.text =
      (l.parts.take u.part).flatMap Part.text ++ u.text.take u.index ++ u.remaining := by
  have hparts : u.parts.flatMap Part.text = u.text ++ u.parts.tail.flatMap Part.text := by
    rw [text]
    cases u.parts <;> rfl
  rw [remaining, h.ahead, List.append_assoc, ← List.append_assoc (u.text.take u.index),
    List.take_append_drop, ← hparts, h.parts, ← List.flatMap_append, List.take_append_drop]

/-- The byte of the cursor is the start of a character, or the end of the text. -/
theorem Located.isValid_offset (h : Located l u) :
    String.Pos.Raw.IsValid (String.ofList u.text) ⟨u.offset⟩ := by
  refine String.Pos.Raw.isValid_iff_exists_append.mpr
    ⟨String.ofList (u.text.take u.index), String.ofList (u.text.drop u.index), ?_, ?_⟩
  · rw [← String.ofList_append, List.take_append_drop]
  · rw [h.offset]
    rfl

/-- The character under the cursor is the last one of its text when nothing is left behind it. -/
theorem Located.rest_eq_nil_iff (h : Located l u) (ha : u.ahead = c :: rest) :
    rest = [] ↔ u.index + 1 = u.text.length := by
  have hlength := congrArg List.length h.ahead
  rw [ha, List.length_cons, List.length_drop] at hlength
  rw [← List.length_eq_zero_iff]
  omega

/-- What is drawn at a character, with the numbers of the cursor. -/
theorem exists_glyph (hp : u.parts = p :: ps) (ha : u.ahead = c :: rest) :
    ∃ g, u.glyph = some g ∧ g.char = c ∧ g.part = u.part ∧ g.index = u.index ∧
      g.column = u.column + p.indent + Text.Metric.width (p.text.take u.index) ∧
      (g.onRuby = true ↔ ∃ base reading, p = .ruby base reading) ∧
      ∀ base, g.base = some base ↔ ∃ reading, p = .ruby base reading ∧ rest = [] := by
  cases p with
  | plain text => exact ⟨_, by rw [glyph, hp, ha], rfl, rfl, rfl, rfl, by simp, by simp⟩
  | ruby base reading =>
      refine ⟨_, by rw [glyph, hp, ha], rfl, rfl, rfl, rfl, by simp, fun base' => ?_⟩
      cases rest <;> simp

theorem Settled.glyph_eq_none_iff (hu : u.Settled) : u.glyph = none ↔ u.atEnd = true := by
  cases hu with
  | atEnd hp ha => simp [glyph, Cursor.atEnd, hp, ha]
  | onKana hp ha _ =>
      obtain ⟨g, hg, -⟩ := exists_glyph hp ha
      simp [hg, Cursor.atEnd, hp]

end Cursor

/-- `g` is the glyph of the kana number `k` of the line, which stands in the part `p`. -/
structure Glyph.Shows [Text.Metric] (g : Glyph) (l : Lyric) (k : Nat) (p : Part) : Prop where
  part : l.parts[g.part]? = some p
  char : p.text[g.index]? = some g.char
  kana : l.kana[k]? = some g.char
  before : ((l.parts.take g.part).flatMap Part.text ++ p.text.take g.index).countP isKana = k
  column : g.column =
    Lyric.width ⟨l.parts.take g.part⟩ + p.indent + Text.Metric.width (p.text.take g.index)
  onRuby : g.onRuby = true ↔ ∃ base reading, p = .ruby base reading
  base : ∀ base, g.base = some base ↔
    ∃ reading, p = .ruby base reading ∧ g.index + 1 = reading.length

namespace Cursor

variable [Text.Metric] {l : Lyric} {u : Cursor} {k : Nat}

/-- When all but the first `k` kana of the line are unread, those `k` lie before the cursor. -/
theorem Located.countP_before (h : Located l u) (hk : k ≤ l.kana.length)
    (hunread : u.unread = l.kana.drop k) :
    ((l.parts.take u.part).flatMap Part.text ++ u.text.take u.index).countP isKana = k := by
  have hlength : l.kana.length = ((l.parts.take u.part).flatMap Part.text ++
      u.text.take u.index).countP isKana + u.unread.length := by
    rw [Lyric.kana, h.text_eq, ← List.countP_eq_length_filter, List.countP_append, unread,
      ← List.countP_eq_length_filter]
  rw [hunread, List.length_drop] at hlength
  omega

/-- The glyph at a kana, read off the line. -/
theorem Located.exists_shows (h : Located l u) (hu : u.Settled) (hk : k < l.kana.length)
    (hunread : u.unread = l.kana.drop k) :
    ∃ g p, u.glyph = some g ∧ g.Shows l k p ∧ g.index = u.index ∧ u.text = p.text := by
  have hcurrent : u.current = l.kana[k]? := by
    rw [hu.current_eq_head?, hunread, List.head?_drop]
  have hbefore := h.countP_before (Nat.le_of_lt hk) hunread
  cases hu with
  | atEnd hp ha =>
      rw [current, ha, List.getElem?_eq_getElem hk] at hcurrent
      cases hcurrent
  | @onKana p ps c rest hp ha hc =>
      have htext : u.text = p.text := by rw [text, hp]; rfl
      obtain ⟨g, hg, rfl, hpart, hindex, hcolumn, hruby, hbase⟩ := exists_glyph hp ha
      refine ⟨g, p, hg, ⟨?_, ?_, ?_, ?_, ?_, hruby, fun base => ?_⟩, hindex, htext⟩
      · rw [hpart]
        exact h.getElem?_parts hp
      · rw [hindex, ← htext]
        exact h.getElem?_text ha
      · rw [← hcurrent, current, ha]
        rfl
      · rw [hpart, hindex, ← htext]
        exact hbefore
      · rw [hcolumn, h.column, hpart, hindex]
      · rw [hbase base, h.rest_eq_nil_iff ha, hindex, htext]
        -- the text of a part with a base is its reading
        constructor
        · rintro ⟨reading, rfl, hlast⟩
          exact ⟨reading, rfl, hlast⟩
        · rintro ⟨reading, rfl, hlast⟩
          exact ⟨reading, rfl, hlast⟩

end Cursor

theorem Lyric.located_advanceBy [Text.Metric] (l : Lyric) (k : Nat) :
    Cursor.Located l (l.cursor.advanceBy k) :=
  (Cursor.located_startOf l).settle.advanceBy k

/-- **The glyph of each kana.**  A cursor that has advanced over `k` kana is on the kana number `k`
of the line.  The glyph there names the part and the character at which that kana stands, with `k`
kana before it; its column is that of the part and of the text before it, with a reading centred
above its base; and it shows the base exactly at the last character of a reading.  The byte of the
cursor is where that character starts.  Only at the end of the line there is no glyph. -/
theorem Lyric.glyph_of_kana [Text.Metric] (l : Lyric) :
    (∀ k < l.kana.length, ∃ g p, (l.cursor.advanceBy k).glyph = some g ∧ g.Shows l k p ∧
      (l.cursor.advanceBy k).offset = (String.ofList (p.text.take g.index)).utf8ByteSize ∧
      String.Pos.Raw.IsValid (String.ofList p.text) ⟨(l.cursor.advanceBy k).offset⟩ ∧
      Text.Metric.width p.text ≤ p.width) ∧
    ∀ k, (l.cursor.advanceBy k).glyph = none ↔ (l.cursor.advanceBy k).atEnd = true := by
  refine ⟨fun k hk => ?_, fun k => (l.settled_cursor.advanceBy k).glyph_eq_none_iff⟩
  have hlocated := l.located_advanceBy k
  obtain ⟨g, p, hg, hshows, hindex, htext⟩ :=
    hlocated.exists_shows (l.settled_cursor.advanceBy k) hk (l.unread_advanceBy k)
  refine ⟨g, p, hg, hshows, ?_, ?_, p.width_text_le⟩
  · rw [hlocated.offset, htext, hindex]
  · rw [← htext]
    exact hlocated.isValid_offset

/-- In `あ、(大丈夫|だい)` the last kana is the second of a reading of four columns, which stands one
column in above a base of six. -/
theorem Lyric.glyph_of_kana_sample :
    let l : Lyric := ⟨[.plain ['あ', '、'], .ruby ['大', '丈', '夫'] ['だ', 'い']]⟩
    2 < l.kana.length ∧ (l.cursor.advanceBy 2).offset = 3 ∧
      ∃ p, Glyph.Shows ⟨'い', 1, 1, 7, true, some ['大', '丈', '夫']⟩ l 2 p := by
  intro l
  have hk : 2 < l.kana.length := by decide +kernel
  have hcursor : (l.cursor.advanceBy 2).glyph =
      some ⟨'い', 1, 1, 7, true, some ['大', '丈', '夫']⟩ ∧ (l.cursor.advanceBy 2).offset = 3 := by
    decide +kernel
  obtain ⟨g, p, hg, hshows, -⟩ := l.glyph_of_kana.1 2 hk
  obtain rfl := Option.some.inj (hg.symm.trans hcursor.1)
  exact ⟨hk, hcursor.2, p, hshows⟩

end KanaTyping
