import Mathlib.Data.List.Chain
import KanaTyping.Lyrics.Markup

/-!
# Lyrics — reading and writing their markup

`Lyric.IsMarkup` is the markup, told without its reader: plain characters and groups of a base and
its reading.  A line is `Canonical` when no text of it has a mark in it, no plain part is empty, and
no two plain parts stand side by side.

* `write_of_parse` and `canonical_of_parse`: a line that is read writes the markup it was read from,
  and is canonical.  What a draft has read (`Draft.written`) grows by each character, and its whole
  parts stay canonical (`Draft.Sound.feed`).
* `parse_write`: a canonical line is read back from its markup, part by part.
* `exists_parse_iff`: a text is read exactly when it is a markup.

`markup_round_trip` puts them together.
-/

namespace KanaTyping

/-! ### Markup and canonical lines -/

/-- A text without the three marks. -/
def Unmarked (text : List Char) : Prop :=
  ∀ c ∈ text, c ≠ '(' ∧ c ≠ '|' ∧ c ≠ ')'

theorem unmarked_cons {c : Char} {cs : List Char} :
    Unmarked (c :: cs) ↔ (c ≠ '(' ∧ c ≠ '|' ∧ c ≠ ')') ∧ Unmarked cs :=
  List.forall_mem_cons

theorem unmarked_reverse {text : List Char} : Unmarked text.reverse ↔ Unmarked text := by
  simp [Unmarked]

namespace Part

/-- No text of the part has a mark in it. -/
def Unmarked : Part → Prop
  | plain text => KanaTyping.Unmarked text
  | ruby base reading => KanaTyping.Unmarked base ∧ KanaTyping.Unmarked reading

def isPlain : Part → Bool
  | plain _ => true
  | ruby _ _ => false

end Part

namespace Lyric

/-- A sequence of plain characters and groups of a base and its reading. -/
inductive IsMarkup : (markup : List Char) → Prop
  | nil : IsMarkup []
  | plain {c : Char} {rest : List Char} (char : c ≠ '(' ∧ c ≠ '|' ∧ c ≠ ')')
      (more : IsMarkup rest) : IsMarkup (c :: rest)
  | ruby {base reading rest : List Char} (base_unmarked : Unmarked base)
      (reading_unmarked : Unmarked reading) (more : IsMarkup rest) :
      IsMarkup ('(' :: (base ++ '|' :: (reading ++ ')' :: rest)))

/-- No text of the line has a mark in it, no plain part is empty, and no two stand side by side. -/
structure Canonical (l : Lyric) : Prop where
  unmarked : ∀ p ∈ l.parts, p.Unmarked
  filled : ∀ p ∈ l.parts, p ≠ .plain []
  apart : l.parts.IsChain fun p q => ¬(p.isPlain = true ∧ q.isPlain = true)

variable {l : Lyric} {p : Part} {ps : List Part}

theorem canonical_nil : Canonical ⟨[]⟩ :=
  ⟨by simp, by simp, .nil⟩

theorem canonical_cons :
    Canonical ⟨p :: ps⟩ ↔ p.Unmarked ∧ p ≠ .plain [] ∧
      (p.isPlain = true → ∀ q ∈ ps.head?, q.isPlain = false) ∧ Canonical ⟨ps⟩ := by
  constructor
  · rintro ⟨hunmarked, hfilled, hapart⟩
    rw [List.forall_mem_cons] at hunmarked hfilled
    rw [List.isChain_cons] at hapart
    refine ⟨hunmarked.1, hfilled.1, fun hp q hq => ?_, hunmarked.2, hfilled.2, hapart.2⟩
    exact Bool.eq_false_iff.mpr fun hq' => hapart.1 q hq ⟨hp, hq'⟩
  · rintro ⟨hunmarked, hfilled, hapart, h⟩
    refine ⟨List.forall_mem_cons.mpr ⟨hunmarked, h.unmarked⟩,
      List.forall_mem_cons.mpr ⟨hfilled, h.filled⟩,
      List.isChain_cons.mpr ⟨fun q hq hpq => ?_, h.apart⟩⟩
    rw [hapart hpq.1 q hq] at hpq
    cases hpq.2

/-- Read from its end, a canonical line is still one. -/
theorem canonical_reverse : Canonical ⟨ps.reverse⟩ ↔ Canonical ⟨ps⟩ := by
  have hchain : ps.reverse.IsChain (fun p q => ¬(p.isPlain = true ∧ q.isPlain = true)) ↔
      ps.IsChain fun p q => ¬(p.isPlain = true ∧ q.isPlain = true) := by
    rw [List.isChain_reverse]
    simp only [and_comm]
  constructor
  · exact fun h => ⟨by simpa using h.unmarked, by simpa using h.filled, hchain.mp h.apart⟩
  · exact fun h => ⟨by simpa using h.unmarked, by simpa using h.filled, hchain.mpr h.apart⟩

/-- What a line without marks in its texts writes is a markup. -/
theorem isMarkup_write (h : ∀ p ∈ ps, p.Unmarked) : IsMarkup (ps.flatMap Part.write) := by
  induction ps with
  | nil => exact .nil
  | cons p ps ih =>
      rw [List.forall_mem_cons] at h
      have hrest := ih h.2
      rw [List.flatMap_cons]
      cases p with
      | ruby base reading => simpa [Part.write] using IsMarkup.ruby h.1.1 h.1.2 hrest
      | plain text =>
          have htext : Unmarked text := h.1
          rw [Part.write]
          clear h ih
          induction text with
          | nil => exact hrest
          | cons c cs ih =>
              rw [unmarked_cons] at htext
              exact .plain htext.1 (ih htext.2)

/-- Every markup is written by a canonical line. -/
theorem exists_canonical {markup : List Char} (h : IsMarkup markup) :
    ∃ l : Lyric, l.Canonical ∧ l.write = markup := by
  induction h with
  | nil => exact ⟨⟨[]⟩, canonical_nil, rfl⟩
  | @plain c rest hc _ ih =>
      obtain ⟨⟨ps⟩, hps, rfl⟩ := ih
      have hchar : Unmarked [c] := unmarked_cons.mpr ⟨hc, by simp [Unmarked]⟩
      -- the character joins the plain part at the front, if there is one
      rcases ps with _ | ⟨text | ⟨base, reading⟩, ps⟩
      · exact ⟨⟨[.plain [c]]⟩, canonical_cons.mpr ⟨hchar, by simp, by simp, hps⟩, rfl⟩
      · obtain ⟨htext, -, hapart, hps⟩ := canonical_cons.mp hps
        refine ⟨⟨.plain (c :: text) :: ps⟩, canonical_cons.mpr ⟨?_, by simp, hapart, hps⟩, rfl⟩
        exact unmarked_cons.mpr ⟨hc, htext⟩
      · refine ⟨⟨.plain [c] :: .ruby base reading :: ps⟩, canonical_cons.mpr ?_, rfl⟩
        exact ⟨hchar, by simp, by simp [Part.isPlain], hps⟩
  | @ruby base reading rest hbase hreading _ ih =>
      obtain ⟨⟨ps⟩, hps, rfl⟩ := ih
      refine ⟨⟨.ruby base reading :: ps⟩, canonical_cons.mpr ?_, by simp [write, Part.write]⟩
      exact ⟨⟨hbase, hreading⟩, by simp, by simp [Part.isPlain], hps⟩

/-! ### What a draft has read -/

/-- The characters of the part that stands open. -/
def Pending.written : Pending → List Char
  | nothing => []
  | plain text => text.reverse
  | .base b => '(' :: b.reverse
  | .reading b r => '(' :: (b.reverse ++ '|' :: r.reverse)

/-- The part that stands open with more characters, none of which is a mark. -/
def Pending.add (cs : List Char) : Pending → Pending
  | nothing => if cs.isEmpty then nothing else plain cs.reverse
  | plain text => plain (cs.reverse ++ text)
  | .base b => .base (cs.reverse ++ b)
  | .reading b r => .reading b (cs.reverse ++ r)

theorem Pending.add_nil (p : Pending) : p.add [] = p := by
  cases p <;> rfl

theorem Pending.add_cons (c : Char) (cs : List Char) (p : Pending) :
    p.add (c :: cs) = (p.add [c]).add cs := by
  cases p <;> simp [add]

namespace Draft

variable {d d' : Draft} {pos : Nat} {c : Char} {cs rest : List Char}

/-- The markup that has been read. -/
def written (d : Draft) : List Char :=
  d.parts.reverse.flatMap Part.write ++ d.pending.written

theorem feed_of_unmarked (hc : c ≠ '(' ∧ c ≠ '|' ∧ c ≠ ')') (pos : Nat) (d : Draft) :
    d.feed pos c = .ok ⟨d.parts, d.pending.add [c]⟩ := by
  obtain ⟨ps, pending⟩ := d
  rw [feed, if_neg hc.1, if_neg hc.2.1, if_neg hc.2.2]
  cases pending <;> rfl

/-- What one character does to a draft. -/
theorem feed_cases (h : d.feed pos c = .ok d') :
    (c = '(' ∧ (d.pending = .nothing ∧ d' = ⟨d.parts, .base []⟩ ∨
      ∃ text, d.pending = .plain text ∧ d' = ⟨.plain text.reverse :: d.parts, .base []⟩)) ∨
    (c = '|' ∧ ∃ base, d.pending = .base base ∧ d' = ⟨d.parts, .reading base []⟩) ∨
    (c = ')' ∧ ∃ base reading, d.pending = .reading base reading ∧
      d' = ⟨.ruby base.reverse reading.reverse :: d.parts, .nothing⟩) ∨
    ((c ≠ '(' ∧ c ≠ '|' ∧ c ≠ ')') ∧ d' = ⟨d.parts, d.pending.add [c]⟩) := by
  by_cases hopen : c = '('
  · rw [feed, if_pos hopen] at h
    split at h <;> cases h
    · exact .inl ⟨hopen, .inl ⟨‹_›, rfl⟩⟩
    · exact .inl ⟨hopen, .inr ⟨_, ‹_›, rfl⟩⟩
  by_cases hbar : c = '|'
  · rw [feed, if_neg hopen, if_pos hbar] at h
    split at h <;> cases h
    exact .inr (.inl ⟨hbar, _, ‹_›, rfl⟩)
  by_cases hclose : c = ')'
  · rw [feed, if_neg hopen, if_neg hbar, if_pos hclose] at h
    split at h <;> cases h
    exact .inr (.inr (.inl ⟨hclose, _, _, ‹_›, rfl⟩))
  · have hc := And.intro hopen (And.intro hbar hclose)
    rw [feed_of_unmarked hc] at h
    cases h
    exact .inr (.inr (.inr ⟨hc, rfl⟩))

theorem written_feed (h : d.feed pos c = .ok d') : d'.written = d.written ++ [c] := by
  obtain ⟨ps, pending⟩ := d
  obtain ⟨rfl, ⟨rfl, rfl⟩ | ⟨text, rfl, rfl⟩⟩ | ⟨rfl, base, rfl, rfl⟩ |
      ⟨rfl, base, reading, rfl, rfl⟩ | ⟨-, rfl⟩ := feed_cases h
  · simp [written, Pending.written]
  · simp [written, Pending.written, Part.write]
  · simp [written, Pending.written]
  · simp [written, Pending.written, Part.write]
  · cases pending <;> simp [written, Pending.written, Pending.add]

theorem write_of_finish (h : d.finish = .ok l) : l.write = d.written := by
  obtain ⟨ps, pending⟩ := d
  cases pending with
  | nothing => cases h; simp [write, written, Pending.written]
  | plain text => cases h; simp [write, written, Pending.written, Part.write]
  | base base | reading base reading => cases h

theorem write_of_readAll (h : d.readAll pos cs = .ok l) : l.write = d.written ++ cs := by
  induction cs generalizing d pos with
  | nil => rw [write_of_finish h, List.append_nil]
  | cons c cs ih =>
      simp only [readAll] at h
      split at h
      · cases h
      · next d' hd => rw [ih h, written_feed hd, ← List.append_cons]

/-! ### What is read is canonical -/

/-- Whether the part that stands open fits the whole parts `ps`, the latest first: its texts have no
marks in them, a plain part is not empty, and where one stands or may come next no other is before
it. -/
def Fits (ps : List Part) : Pending → Prop
  | .nothing => ∀ q ∈ ps.head?, q.isPlain = false
  | .plain text => text ≠ [] ∧ Unmarked text ∧ ∀ q ∈ ps.head?, q.isPlain = false
  | .base base => Unmarked base
  | .reading base reading => Unmarked base ∧ Unmarked reading

/-- The whole parts of a draft are canonical, and the part that stands open fits them. -/
structure Sound (d : Draft) : Prop where
  parts : Canonical ⟨d.parts⟩
  pending : Fits d.parts d.pending

/-- A plain part that stands open can be closed. -/
theorem Sound.close {text : List Char} (h : Sound ⟨ps, .plain text⟩) :
    Canonical ⟨.plain text.reverse :: ps⟩ := by
  obtain ⟨hparts, hfilled, htext, hapart⟩ := h
  refine canonical_cons.mpr ⟨unmarked_reverse.mpr htext, ?_, fun _ => hapart, hparts⟩
  simpa using hfilled

theorem Sound.feed (h : d.Sound) (e : d.feed pos c = .ok d') : d'.Sound := by
  obtain ⟨ps, pending⟩ := d
  obtain ⟨-, ⟨rfl, rfl⟩ | ⟨text, rfl, rfl⟩⟩ | ⟨-, base, rfl, rfl⟩ | ⟨-, base, reading, rfl, rfl⟩ |
      ⟨hc, rfl⟩ := feed_cases e
  · exact ⟨h.parts, by simp [Fits, Unmarked]⟩
  · exact ⟨h.close, by simp [Fits, Unmarked]⟩
  · exact ⟨h.parts, h.pending, by simp [Unmarked]⟩
  · obtain ⟨hparts, hbase, hreading⟩ := h
    refine ⟨canonical_cons.mpr ⟨?_, by simp, by simp [Part.isPlain], hparts⟩, ?_⟩
    · exact ⟨unmarked_reverse.mpr hbase, unmarked_reverse.mpr hreading⟩
    · simp [Fits, Part.isPlain]
  · obtain ⟨hparts, hfits⟩ := h
    refine ⟨hparts, ?_⟩
    cases pending with
    | nothing => exact ⟨by simp, unmarked_cons.mpr ⟨hc, by simp [Unmarked]⟩, hfits⟩
    | plain text => exact ⟨by simp, unmarked_cons.mpr ⟨hc, hfits.2.1⟩, hfits.2.2⟩
    | base base => exact unmarked_cons.mpr ⟨hc, hfits⟩
    | reading base reading => exact ⟨hfits.1, unmarked_cons.mpr ⟨hc, hfits.2⟩⟩

theorem Sound.finish (h : d.Sound) (e : d.finish = .ok l) : l.Canonical := by
  obtain ⟨ps, pending⟩ := d
  cases pending with
  | nothing => cases e; exact canonical_reverse.mpr h.parts
  | plain text => cases e; exact canonical_reverse.mpr h.close
  | base base | reading base reading => cases e

theorem Sound.readAll (h : d.Sound) (e : d.readAll pos cs = .ok l) : l.Canonical := by
  induction cs generalizing d pos with
  | nil => exact h.finish e
  | cons c cs ih =>
      simp only [Draft.readAll] at e
      split at e
      · cases e
      · next d' hd => exact ih (h.feed hd) e

/-! ### The markup is read back -/

variable {done : List Part}

theorem readAll_of_feed (hc : d.feed pos c = .ok d') (h : d'.readAll (pos + 1) cs = .ok l) :
    d.readAll pos (c :: cs) = .ok l := by
  rw [readAll, hc]
  exact h

/-- A text without marks is added to the part that stands open. -/
theorem readAll_text {p : Pending} {text : List Char} (htext : Unmarked text)
    (h : ∀ pos, readAll pos ⟨done, p.add text⟩ rest = .ok l) (pos : Nat) :
    readAll pos ⟨done, p⟩ (text ++ rest) = .ok l := by
  induction text generalizing p pos with
  | nil => simpa [Pending.add_nil] using h pos
  | cons c cs ih =>
      rw [unmarked_cons] at htext
      refine readAll_of_feed (feed_of_unmarked htext.1 pos _) (ih htext.2 (fun pos => ?_) _)
      simpa [← Pending.add_cons] using h pos

/-- A group is read as one part, where the base has begun. -/
theorem readAll_ruby {base reading : List Char} (hbase : Unmarked base)
    (hreading : Unmarked reading)
    (h : ∀ pos, readAll pos ⟨.ruby base reading :: done, .nothing⟩ rest = .ok l) (pos : Nat) :
    readAll pos ⟨done, .base []⟩ (base ++ '|' :: (reading ++ ')' :: rest)) = .ok l := by
  have hbar : ∀ pos, feed pos '|' ⟨done, .base base.reverse⟩ =
      .ok ⟨done, .reading base.reverse []⟩ := fun pos => by simp [feed]
  have hclose : ∀ pos, feed pos ')' ⟨done, .reading base.reverse reading.reverse⟩ =
      .ok ⟨.ruby base reading :: done, .nothing⟩ := fun pos => by simp [feed]
  have hread : ∀ pos, readAll pos ⟨done, .reading base.reverse []⟩ (reading ++ ')' :: rest) =
      .ok l := readAll_text hreading fun pos => by
    simpa [Pending.add] using readAll_of_feed (hclose pos) (h _)
  exact readAll_text hbase (fun pos => by
    simpa [Pending.add] using readAll_of_feed (hbar pos) (hread _)) pos

/-- A plain part that stands open is closed by the part after it, or by the end. -/
theorem readAll_close {text : List Char} (hps : ∀ q ∈ ps.head?, q.isPlain = false)
    (h : readAll pos ⟨.plain text.reverse :: done, .nothing⟩ (ps.flatMap Part.write) = .ok l) :
    readAll pos ⟨done, .plain text⟩ (ps.flatMap Part.write) = .ok l := by
  cases ps with
  | nil => exact h
  | cons p ps =>
      cases p with
      | plain text' => cases hps (.plain text') rfl
      | ruby base reading => exact h

theorem readAll_parts (hps : Canonical ⟨ps⟩) (pos : Nat) :
    readAll pos ⟨done, .nothing⟩ (ps.flatMap Part.write) = .ok ⟨done.reverse ++ ps⟩ := by
  induction ps generalizing done pos with
  | nil => simp [readAll, finish]
  | cons p ps ih =>
      obtain ⟨hp, hfilled, hapart, hps⟩ := canonical_cons.mp hps
      have hrest : ∀ pos, readAll pos ⟨p :: done, .nothing⟩ (ps.flatMap Part.write) =
          .ok ⟨(p :: done).reverse ++ ps⟩ := ih hps
      rw [List.reverse_cons, ← List.append_cons] at hrest
      rw [List.flatMap_cons]
      cases p with
      | plain text =>
          refine readAll_text hp (fun pos => ?_) pos
          have htext : text ≠ [] := fun h => hfilled (h ▸ rfl)
          have hclosed : readAll pos ⟨.plain text.reverse.reverse :: done, .nothing⟩
              (ps.flatMap Part.write) = .ok ⟨done.reverse ++ .plain text :: ps⟩ := by
            rw [List.reverse_reverse]
            exact hrest pos
          simpa [Pending.add, htext] using readAll_close (hapart rfl) hclosed
      | ruby base reading =>
          have hgroup := readAll_ruby hp.1 hp.2 hrest (pos + 1)
          exact readAll_of_feed rfl (by simpa using hgroup)

end Draft

/-! ### Lines and their markup -/

variable {markup : List Char}

/-- A line that is read writes the markup it was read from. -/
theorem write_of_parse (h : parse markup = .ok l) : l.write = markup :=
  Draft.write_of_readAll h

theorem canonical_of_parse (h : parse markup = .ok l) : l.Canonical :=
  Draft.Sound.readAll (d := ⟨[], .nothing⟩) ⟨canonical_nil, by simp [Draft.Fits]⟩ h

/-- A canonical line is read back from its markup. -/
theorem parse_write (h : l.Canonical) : parse l.write = .ok l :=
  Draft.readAll_parts h 0

/-- A text is read exactly when it is a markup. -/
theorem exists_parse_iff : (∃ l, parse markup = .ok l) ↔ IsMarkup markup := by
  constructor
  · rintro ⟨l, h⟩
    rw [← write_of_parse h]
    exact isMarkup_write (canonical_of_parse h).unmarked
  · intro h
    obtain ⟨l, hl, rfl⟩ := exists_canonical h
    exact ⟨l, parse_write hl⟩

/-- **Reading and writing a markup.**  A text is read exactly when it is a sequence of plain
characters and groups of a base and its reading.  The line that is read writes the same text and is
canonical; and every canonical line is read back from what it writes. -/
theorem markup_round_trip :
    (∀ markup, (∃ l, parse markup = .ok l) ↔ IsMarkup markup) ∧
      (∀ markup l, parse markup = .ok l → l.write = markup ∧ l.Canonical) ∧
      ∀ l : Lyric, l.Canonical → parse l.write = .ok l :=
  ⟨fun _ => exists_parse_iff, fun _ _ h => ⟨write_of_parse h, canonical_of_parse h⟩,
    fun _ => parse_write⟩

/-- Two groups side by side, with plain text around them and an empty reading. -/
theorem markup_round_trip_sample :
    let l : Lyric := ⟨[.plain ['あ'], .ruby ['空'] ['そ', 'ら'], .ruby ['。'] [], .plain ['い', ' ']]⟩
    l.Canonical ∧ l.write = "あ(空|そら)(。|)い ".toList ∧ parse l.write = .ok l := by
  intro l
  have hl : l.Canonical := by
    refine ⟨?_, by simp [l], by simp [l, Part.isPlain]⟩
    simp [l, Part.Unmarked, Unmarked]
  exact ⟨hl, by decide, markup_round_trip.2.2 l hl⟩

end Lyric

end KanaTyping
