import KanaTyping.Proofs.Play.Shortest
import KanaTyping.Proofs.Spelling.Language

/-!
# Play — the language of a line

The words of a line are those of its units, one after the other, and nothing for the kana that are
skipped.  What is left to type of a line has a language too (`Progress.language`), and a key moves
it on: after a key that hits, the words left are words that were left without their first key
(`Coherent.language_of_reach`).

* `Coherent.mem_language_of_hits`: keys that all hit and finish the line are a word of it.
* `Coherent.hits_of_mem_language`: where the spellings are unambiguous, the keys of a word all hit
  and finish the line.

`keys_of_line` has both of any line, from its first key on.
-/

namespace KanaTyping

/-- The words that write the units among the segments. -/
def Segment.language (gs : List Segment) : Language Char :=
  ((spellings gs).map Spelling.language).prod

/-- The words that write a list of kana. -/
def Lexicon.language (x : Lexicon) (kana : List Char) : Language Char :=
  Segment.language (x.segments kana)

namespace Segment

theorem language_append (gs hs : List Segment) :
    language (gs ++ hs) = language gs * language hs := by
  rw [language, spellings_append, List.map_append, List.prod_append]
  rfl

theorem language_cons_unit (s : Spelling) (n : Nat) (gs : List Segment) :
    language (.unit s n :: gs) = s.language * language gs := by
  rw [language, spellings_cons_unit, List.map_cons, List.prod_cons]
  rfl

/-- Segments that ask for no key have the empty word alone. -/
theorem language_of_effortless {gs : List Segment} (h : ∀ g ∈ gs, g.effortless = true) :
    language gs = 1 := by
  induction gs with
  | nil => rfl
  | cons g gs ih =>
      rw [List.forall_mem_cons] at h
      cases g with
      | skipped c => exact ih h.2
      | unit s n =>
          have hs : s.language = 1 := Step.language_of_optional (List.all_eq_true.mp h.1)
          rw [language_cons_unit, hs, ih h.2, one_mul]

end Segment

namespace Progress

variable {x : Lexicon} {t : Table} {p : Progress} {key : Char} {w : List Char}

/-- The words that finish the line from a state on. -/
def language (x : Lexicon) (p : Progress) : Language Char :=
  (p.node.elim 1 fun n => Step.language n.remaining) * x.language p.cursor.unread

theorem language_moveOn (x : Lexicon) (p : Progress) (hu : p.cursor.Settled) :
    (moveOn x p).language x = x.language p.cursor.unread := by
  have hco := coherent_moveOn x p hu
  obtain ⟨gs, hg, -, -, ⟨hn, hl, -⟩ | ⟨s, n, hn, -, hl, -, -⟩⟩ := moveOn_spec x p hu
  · rw [language, hn, hco.ended hn, Lexicon.language, Lexicon.language, hl,
      Segment.language_of_effortless hg, Lexicon.segments_nil]
    exact one_mul 1
  · rw [language, hn, Lexicon.language, Lexicon.language, hl, Segment.language_append,
      Segment.language_of_effortless hg, one_mul, Segment.language_cons_unit]
    rfl

/-- After a key that reaches the step `m`, the words left are those of the steps after `m` and of
the units after them. -/
theorem Coherent.language_of_reach (h : Coherent x p) {n m : Node} (hn : p.node = some n)
    (hm : n.reach key.toUpper = some m) :
    (p.press x key).2.language x = Step.language m.ahead * x.language p.cursor.unread := by
  obtain ⟨o, ho, -, e⟩ | ⟨hrest, e⟩ := press_of_reach x hn hm
  · rw [e, Node.remaining_of_next ho]
    rfl
  · rw [e, Step.language_of_optional hrest, one_mul]
    exact language_moveOn x _ h.settled

/-- The empty word is left when the line is finished. -/
theorem Coherent.nil_mem_language_iff (h : Coherent x p) :
    [] ∈ p.language x ↔ p.finished = true := by
  rw [finished, Option.isNone_iff_eq_none, language]
  cases hn : p.node with
  | none =>
      rw [h.ended hn, Lexicon.language, Lexicon.segments_nil]
      exact iff_of_true (Language.append_mem_mul Language.nil_mem_one Language.nil_mem_one) rfl
  | some n =>
      refine iff_of_false (fun hmem => ?_) (by simp)
      obtain ⟨a, ha, b, -, hab⟩ := Language.mem_mul.mp hmem
      obtain ⟨rfl, rfl⟩ := List.append_eq_nil_iff.mp hab
      exact Node.nil_notMem_language (h.asks n hn) ha

/-- A key that hits is the first key of words that were left. -/
theorem Coherent.cons_mem_language (h : Coherent x p) (hhit : (p.press x key).1 = .hit)
    (hw : w ∈ (p.press x key).2.language x) : key.toUpper :: w ∈ p.language x := by
  obtain ⟨n, m, hn, hm⟩ := exists_reach_of_hit hhit
  rw [h.language_of_reach hn hm] at hw
  obtain ⟨a, ha, b, hb, rfl⟩ := Language.mem_mul.mp hw
  obtain ⟨gap, hgap, hskip, hkey⟩ := Node.reach_eq_some_iff.mp hm
  have hstep : key.toUpper :: a ∈ Step.language n.remaining :=
    (Node.cons_mem_language_iff (h.asks n hn)).mpr
      ⟨gap, m, hgap, fun s hs => (hskip s hs).1, hkey, ha⟩
  rw [language, hn]
  exact Language.append_mem_mul hstep hb

/-- The first key of a word that is left hits, if the spellings are unambiguous. -/
theorem Coherent.press_of_cons_mem (h : Coherent x p) (hx : x.DrawsOn t)
    (clear : ∀ s ∈ x.spellings, s.Unambiguous) (hw : key :: w ∈ p.language x) :
    (p.press x key).1 = .hit ∧ w ∈ (p.press x key).2.language x := by
  cases hn : p.node with
  | none =>
      rw [language, hn, h.ended hn, Lexicon.language, Lexicon.segments_nil] at hw
      obtain ⟨a, ha, b, hb, hab⟩ := Language.mem_mul.mp hw
      cases ha
      cases hb
      cases hab
  | some n =>
      rw [language, hn] at hw
      -- the unit being typed asks for a key, so the first key of the word is one of its own
      obtain ⟨_ | ⟨c, a⟩, ha, b, hb, hab⟩ := Language.mem_mul.mp hw
      · exact absurd ha (Node.nil_notMem_language (h.asks n hn))
      · cases hab
        obtain ⟨gap, m, hgap, hskip, hkey, ha⟩ := (Node.cons_mem_language_iff (h.asks n hn)).mp ha
        obtain ⟨s, hs, hkeyed, hmem⟩ := h.exists_spelling hx hn
        have hreach := (clear s hs).reach hmem hgap hskip hkey
        rw [← hkeyed.toUpper_of_accepts (hgap.mem_toLast hmem) hkey] at hreach
        refine ⟨(h.due_of_reach hn hreach).1, ?_⟩
        rw [h.language_of_reach hn hreach]
        exact Language.append_mem_mul ha hb

/-- Keys that all hit and finish the line are, in upper case, a word that was left. -/
theorem Coherent.mem_language_of_hits (h : Coherent x p) {keys : List Char}
    (hits : ∀ stroke ∈ (p.pressAll x keys).1, stroke = .hit)
    (fin : (p.pressAll x keys).2.finished = true) : keys.map Char.toUpper ∈ p.language x := by
  induction keys generalizing p with
  | nil => exact h.nil_mem_language_iff.mpr fin
  | cons key keys ih =>
      rw [pressAll_cons] at hits fin
      obtain ⟨hhit, hits⟩ := List.forall_mem_cons.mp hits
      exact h.cons_mem_language hhit (ih (h.press key) hits fin)

/-- The keys of a word that is left all hit and finish the line. -/
theorem Coherent.hits_of_mem_language (h : Coherent x p) (hx : x.DrawsOn t)
    (clear : ∀ s ∈ x.spellings, s.Unambiguous) (hw : w ∈ p.language x) :
    (∀ stroke ∈ (p.pressAll x w).1, stroke = .hit) ∧ (p.pressAll x w).2.finished = true := by
  induction w generalizing p with
  | nil => exact ⟨by simp [Progress.pressAll], h.nil_mem_language_iff.mp hw⟩
  | cons key w ih =>
      obtain ⟨hhit, hrest⟩ := h.press_of_cons_mem hx clear hw
      obtain ⟨hhits, hfin⟩ := ih (h.press key) hrest
      rw [pressAll_cons]
      exact ⟨List.forall_mem_cons.mpr ⟨hhit, hhits⟩, hfin⟩

/-- **The keys that write a line are its words.**  Keys that all hit and leave the line finished
are, in upper case, a word of it.  If no optional step takes a key of a later step with only
optional steps between the two, then every word of the line is such keys.  The built-in spellings
are of that kind. -/
theorem keys_of_line (hx : Lexicon.ofTable t = .ok x) (l : Lyric) :
    (∀ keys, (∀ stroke ∈ ((start x l).pressAll x keys).1, stroke = .hit) →
        ((start x l).pressAll x keys).2.finished = true →
        keys.map Char.toUpper ∈ x.language l.kana) ∧
      ((∀ s ∈ x.spellings, s.Unambiguous) → ∀ w ∈ x.language l.kana,
        (∀ stroke ∈ ((start x l).pressAll x w).1, stroke = .hit) ∧
          ((start x l).pressAll x w).2.finished = true) ∧
      Lexicon.ofTable Table.builtin = .ok .builtin ∧
      ∀ s ∈ Lexicon.builtin.spellings, s.Unambiguous := by
  have hp : Coherent x (start x l) := (Reachable.start x l).coherent
  have hl : (start x l).language x = x.language l.kana := by
    rw [← l.unread_cursor]
    exact language_moveOn x _ l.settled_cursor
  refine ⟨fun keys hits fin => ?_, fun clear w hw => ?_, Lexicon.ofTable_builtin,
    Lexicon.unambiguous_builtin⟩
  · rw [← hl]
    exact hp.mem_language_of_hits hits fin
  · rw [← hl] at hw
    exact hp.hits_of_mem_language (Lexicon.drawsOn_of_ofTable hx) clear hw

/-- `sHisyan` writes a line with a unit of optional steps alone, a kanji that is not typed and a kana
that begins no unit and is skipped; and in upper case it is a word of the line, which writes it
too. -/
theorem keys_of_line_sample :
    let l : Lyric := .ofPlain ['し', 'ー', '漢', 'ゐ', 'し', 'ゃ', 'ん']
    let w := ['S', 'H', 'I', 'S', 'Y', 'A', 'N']
    .skipped 'ゐ' ∈ Lexicon.sample.segments l.kana ∧ w ∈ Lexicon.sample.language l.kana ∧
      (∀ stroke ∈ ((start .sample l).pressAll .sample w).1, stroke = .hit) ∧
      ((start .sample l).pressAll .sample w).2.finished = true := by
  intro l w
  obtain ⟨sound, complete, -⟩ := keys_of_line Lexicon.ofTable_sample l
  have hw : w ∈ Lexicon.sample.language l.kana :=
    sound ['s', 'H', 'i', 's', 'y', 'a', 'n'] (by decide +kernel) (by decide +kernel)
  exact ⟨by decide +kernel, hw, complete (by decide +kernel) w hw⟩

end Progress

end KanaTyping
