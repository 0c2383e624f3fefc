import KanaTyping.Proofs.Play.Hints

/-!
# Play — lines put together

A line made of the parts of two lines is cut into the units of the one and then those of the other,
unless a unit is found across the place where they meet.  None is when the first kana of the second
line stands in second or third place of no unit of the lexicon (`Lexicon.Continues`).

* `front_append`: the unit at the front is then the one that is found when nothing follows.
* `segments_append`: so the segments of both are those of the one and then those of the other.

`joined_lines_add_up` has it of the segments of two lines, of their hints and of the number of keys
that remain.
-/

namespace KanaTyping

namespace Lexicon

variable {x : Lexicon} {kana more : List Char} {c : Char}

/-- `c` stands in second or third place of a unit of two or three kana. -/
def Continues (x : Lexicon) (c : Char) : Prop :=
  ∃ key s, x.find key = some s ∧ (key.length = 2 ∨ key.length = 3) ∧ c ∈ key.tail

theorem continues_iff :
    x.Continues c ↔ ∃ e ∈ x.units, (e.1.length = 2 ∨ e.1.length = 3) ∧ c ∈ e.1.tail := by
  constructor
  · rintro ⟨key, s, hfind, hlength, hc⟩
    obtain ⟨l₁, l₂, hunits, -⟩ := List.lookup_eq_some_iff.mp hfind
    exact ⟨(key, s), by simp [hunits], hlength, hc⟩
  · rintro ⟨⟨key, s⟩, he, hlength, hc⟩
    cases hfind : x.find key with
    | some t => exact ⟨key, t, hfind, hlength, hc⟩
    | none => simpa using List.lookup_eq_none_iff.mp hfind _ he

instance : DecidablePred x.Continues := fun _ => decidable_of_iff _ continues_iff.symm

/-- A text that goes on behind `kana` has the next character behind its first one. -/
theorem mem_tail_take {n : Nat} {rest : List Char} (hkana : kana ≠ []) (hn : kana.length < n) :
    c ∈ ((kana ++ c :: rest).take n).tail := by
  obtain ⟨a, as, rfl⟩ := List.exists_cons_of_ne_nil hkana
  obtain ⟨k, rfl⟩ := Nat.exists_eq_add_of_lt hn
  have hsplit : (a :: as ++ c :: rest).take ((a :: as).length + (k + 1)) =
      a :: (as ++ c :: rest.take k) := List.take_length_add_append (k + 1)
  rw [Nat.add_assoc, hsplit, List.tail_cons]
  exact List.mem_append_right as List.mem_cons_self

/-- No unit is found across the end of `kana`. -/
theorem frontOf_append (hkana : kana ≠ []) (h : ∀ c ∈ more.head?, ¬ x.Continues c) {n : Nat}
    (hn : n ≤ 3) : x.frontOf (kana ++ more) n = x.frontOf kana n := by
  by_cases hle : n ≤ kana.length
  · have hle' : n ≤ (kana ++ more).length := by rw [List.length_append]; omega
    rw [frontOf, frontOf, if_pos hle, if_pos hle', List.take_append_of_le_length hle]
  · rw [frontOf, frontOf, if_neg hle]
    split
    · next hlength =>
      cases more with
      | nil => exact absurd (by simpa using hlength) hle
      | cons c rest =>
          -- such a unit would have the first kana of `more` in second or third place
          have hnone : x.find ((kana ++ c :: rest).take n) = none := by
            refine Option.eq_none_iff_forall_ne_some.mpr fun s hs => h c rfl ⟨_, s, hs, ?_, ?_⟩
            · have hpos := List.length_pos_iff.mpr hkana
              rw [List.length_take, Nat.min_eq_left hlength]
              omega
            · exact mem_tail_take hkana (Nat.lt_of_not_le hle)
          rw [hnone, Option.map_none]
    · rfl

theorem front_append (hkana : kana ≠ []) (h : ∀ c ∈ more.head?, ¬ x.Continues c) :
    x.front (kana ++ more) = x.front kana := by
  have across {n : Nat} := frontOf_append (n := n) hkana h
  rw [front, front, across (by decide), across (by decide), across (by decide)]

/-- The segments of both are those of the one and then those of the other. -/
theorem segments_append (x : Lexicon) (kana : List Char)
    (h : ∀ c ∈ more.head?, ¬ x.Continues c) :
    x.segments (kana ++ more) = x.segments kana ++ x.segments more := by
  fun_induction segments x kana with
  | case1 => rfl
  | case2 c cs s n hf ih =>
      obtain ⟨-, -, hn, -⟩ := front_eq_some hf
      rw [segments_of_front ((front_append (List.cons_ne_nil c cs) h).trans hf),
        List.drop_append_of_le_length hn, ih, List.cons_append]
  | case3 c cs hf ih =>
      have hf' : x.front (c :: (cs ++ more)) = none :=
        (front_append (List.cons_ne_nil c cs) h).trans hf
      rw [List.cons_append, segments_of_front_none hf', ih, List.cons_append]

theorem due_append (x : Lexicon) (kana : List Char) (h : ∀ c ∈ more.head?, ¬ x.Continues c) :
    x.due (kana ++ more) = x.due kana ++ x.due more := by
  rw [due, segments_append x kana h, Segment.spellings_append, List.flatMap_append, due, due]

end Lexicon

namespace Progress

variable {x : Lexicon} {l₂ : Lyric}

/-- At the start of a line the keys due are those of the whole line. -/
theorem due_start (x : Lexicon) (l : Lyric) : (start x l).due x = x.due l.kana := by
  rw [start, restart, due_moveOn x _ l.settled_cursor, l.unread_cursor]

/-- **Lines put together add up.**  If the first kana of the second line stands in second or third
place of no unit, or the second line has no kana, then the segments of the line made of the parts of
both are those of the first line followed by those of the second; the hint for it shows the keys of
the one hint and then those of the other, and as many keys remain at its start as at the starts of
the two. -/
theorem joined_lines_add_up (l₁ : Lyric) (h : ∀ c ∈ l₂.kana.head?, ¬ x.Continues c) :
    let joined : Lyric := ⟨l₁.parts ++ l₂.parts⟩
    x.segments joined.kana = x.segments l₁.kana ++ x.segments l₂.kana ∧
      (Hint.ofLyric x joined).Shows x
        ((Hint.ofLyric x l₁).keys x ++ (Hint.ofLyric x l₂).keys x) ∧
      (start x joined).remaining x = (start x l₁).remaining x + (start x l₂).remaining x := by
  intro joined
  have hkana : joined.kana = l₁.kana ++ l₂.kana := by
    simp only [joined, Lyric.kana, List.flatMap_append, List.filter_append]
  have hdue : x.due joined.kana = x.due l₁.kana ++ x.due l₂.kana :=
    hkana ▸ Lexicon.due_append x l₁.kana h
  have hremaining : ∀ l : Lyric, (start x l).remaining x = (x.due l.kana).length := fun l => by
    rw [(Reachable.start x l).coherent.remaining_eq, due_start]
  refine ⟨hkana ▸ Lexicon.segments_append x l₁.kana h, Hint.shows_of_keys ?_, ?_⟩
  · rw [Hint.keys_ofLyric, Hint.keys_ofLyric, Hint.keys_ofLyric, hdue]
  · rw [hremaining, hremaining, hremaining, hdue, List.length_append]

/-- Behind `しー` the reading `しゃ` begins with no kana that continues a unit. -/
theorem joined_lines_add_up_sample :
    let l₁ : Lyric := .ofPlain ['し', 'ー']
    let l₂ : Lyric := ⟨[.ruby ['社'] ['し', 'ゃ'], .plain ['ん']]⟩
    let joined : Lyric := ⟨l₁.parts ++ l₂.parts⟩
    ¬ Lexicon.sample.Continues 'し' ∧
      (Segment.spellings (Lexicon.sample.segments l₂.kana)).length = 2 ∧
      Lexicon.sample.segments joined.kana =
        Lexicon.sample.segments l₁.kana ++ Lexicon.sample.segments l₂.kana ∧
      (start .sample joined).remaining .sample =
        (start .sample l₁).remaining .sample + (start .sample l₂).remaining .sample := by
  intro l₁ l₂ joined
  have apart : ¬ Lexicon.sample.Continues 'し' := by decide +kernel
  have first : ∀ c ∈ l₂.kana.head?, ¬ Lexicon.sample.Continues c := by
    rw [show l₂.kana.head? = some 'し' from by decide +kernel]
    simpa using apart
  obtain ⟨segments, -, remaining⟩ := joined_lines_add_up l₁ first
  exact ⟨apart, by decide +kernel, segments, remaining⟩

/-- Where the second line continues a unit the two may be cut otherwise: `し` and `ゃ` make one. -/
example : Lexicon.sample.Continues 'ゃ' ∧
    (Lexicon.sample.segments ['し', 'ゃ']).length = 1 ∧
    (Lexicon.sample.segments ['し']).length + (Lexicon.sample.segments ['ゃ']).length = 2 := by
  decide +kernel

end Progress

end KanaTyping
