import KanaTyping.Proofs.Kana.Lookup
import KanaTyping.Proofs.Play.Alike

/-!
# Play — the same line in another script

A line may be written anew with katakana in place of its hiragana, and with its Latin letters and
digits in other cases and widths (`Lyric.Respelt`).  The tables for which this makes no difference
are the `Table.Respellable` ones: no unit has katakana letters, and no unit of several kana has
Latin letters or digits.

* `Entry.standsFor_eq_of_respelt`: an entry stands for a text without Latin letters and digits and
  for what becomes of it, or for neither.
* `Lexicon.blind_of_respellable`: the lexicon of a respellable table does not tell a text without
  katakana letters from what becomes of it.
* `Lyric.Respelt.kana`: what is typed of a line is respelt with it.

`play_of_respelt` has it, by way of `Alike`, that such a line is played as before.
-/

namespace KanaTyping

variable {n : Nat} {ks ks' : List Char}

/-! ### Respellable tables -/

namespace Table

/-- No unit has katakana letters, and none of several kana has Latin letters or digits. -/
@[mk_iff]
structure Respellable (t : Table) : Prop where
  single : ∀ e ∈ t.single, ∀ c ∈ e.key.val, isKatakanaLetter c = false
  pair : ∀ e ∈ t.pair, ∀ c ∈ e.key.val, isKatakanaLetter c = false ∧ isLatin c = false
  triple : ∀ e ∈ t.triple, ∀ c ∈ e.key.val, isKatakanaLetter c = false ∧ isLatin c = false

instance (t : Table) : Decidable t.Respellable :=
  decidable_of_iff
    ((t.single.all fun e => e.key.val.all fun c => !isKatakanaLetter c) = true ∧
      (t.pair.all fun e => e.key.val.all fun c => !isKatakanaLetter c && !isLatin c) = true ∧
      (t.triple.all fun e => e.key.val.all fun c => !isKatakanaLetter c && !isLatin c) = true)
    (by simp [respellable_iff])

theorem respellable_builtin : builtin.Respellable := by decide +kernel

/-- Of two texts that the same entries stand for, the last spellings are the same. -/
theorem lastSpelling_congr {es : List (Entry n)}
    (h : ∀ e ∈ es, e.standsFor ks = e.standsFor ks') : lastSpelling es ks = lastSpelling es ks' := by
  induction es with
  | nil => rfl
  | cons e es ih =>
      rw [List.forall_mem_cons] at h
      rw [lastSpelling_cons, lastSpelling_cons, ih h.2, Entry.spellingFor, Entry.spellingFor, h.1]

end Table

namespace Entry

variable {e : Entry n}

/-- An entry without Latin letters and digits stands for no text that has some. -/
theorem standsFor_eq_false (hkey : ∀ c ∈ e.key.val, isLatin c = false)
    (hks : ∃ c ∈ ks, isLatin c = true) : e.standsFor ks = false := by
  obtain ⟨c, hc, hlatin⟩ := hks
  refine Bool.eq_false_iff.mpr fun h => ?_
  obtain rfl | rfl := standsFor_iff.mp h
  · rw [hkey c hc] at hlatin
    cases hlatin
  · obtain ⟨k, hk, rfl⟩ := List.mem_map.mp hc
    rw [isLatin_toKatakana, hkey k hk] at hlatin
    cases hlatin

/-- Without katakana letters in the entry and in the text, the entry stands for the text and for
its katakana when the text is its own, and for neither otherwise. -/
theorem standsFor_eq_of_respelt (hkey : ∀ c ∈ e.key.val, isKatakanaLetter c = false)
    (hks : ∀ c ∈ ks, isKatakanaLetter c = false) (hlatin : ∀ c ∈ ks, isLatin c = false)
    (h : List.Forall₂ Respelt ks ks') : e.standsFor ks = e.standsFor ks' := by
  rw [Respelt.eq_map_toKatakana h hlatin, Bool.eq_iff_iff, standsFor_iff, standsFor_iff]
  have hown : ks = e.key.val.map toKatakana → ks = e.key.val := eq_of_eq_map_toKatakana hks
  have hown' : ks.map toKatakana = e.key.val → ks = e.key.val := fun heq =>
    (eq_of_eq_map_toKatakana hkey heq.symm).symm
  have hinj : ks.map toKatakana = e.key.val.map toKatakana → ks = e.key.val :=
    map_toKatakana_injOn hks hkey
  constructor
  · rintro (heq | heq)
    · exact .inr (congrArg _ heq)
    · exact .inr (congrArg _ (hown heq))
  · rintro (heq | heq)
    · exact .inl (hown' heq)
    · exact .inl (hinj heq)

end Entry

/-- Respelling makes no difference to the last spelling if the entries have no katakana letters and
either the text or they have no Latin letters and digits. -/
theorem Table.lastSpelling_eq_of_respelt {es : List (Entry n)}
    (hes : ∀ e ∈ es, ∀ c ∈ e.key.val, isKatakanaLetter c = false)
    (hks : ∀ c ∈ ks, isKatakanaLetter c = false)
    (hlatin : (∀ c ∈ ks, isLatin c = false) ∨ ∀ e ∈ es, ∀ c ∈ e.key.val, isLatin c = false)
    (h : List.Forall₂ Respelt ks ks') : lastSpelling es ks = lastSpelling es ks' := by
  refine lastSpelling_congr fun e he => ?_
  by_cases hsome : ∃ c ∈ ks, isLatin c = true
  · have hkey : ∀ c ∈ e.key.val, isLatin c = false := by
      obtain hnone | hes' := hlatin
      · obtain ⟨c, hc, hc'⟩ := hsome
        rw [hnone c hc] at hc'
        cases hc'
      · exact hes' e he
    rw [Entry.standsFor_eq_false hkey hsome,
      Entry.standsFor_eq_false hkey (Respelt.exists_isLatin h hsome)]
  · have hnone : ∀ c ∈ ks, isLatin c = false := fun c hc =>
      Bool.eq_false_iff.mpr fun hc' => hsome ⟨c, hc, hc'⟩
    exact Entry.standsFor_eq_of_respelt (hes e he) hks hnone h

/-! ### Lexicons of respellable tables -/

theorem latinSpelling_eq_of_respelt (h : List.Forall₂ Respelt ks ks') :
    latinSpelling ks = latinSpelling ks' := by
  cases h with
  | nil => rfl
  | cons hcd hcs =>
      cases hcs with
      | cons => rfl
      | nil =>
          rw [latinSpelling, latinSpelling, hcd.isLatin_eq]
          split
          · next hc => rw [hcd.latinKey_eq hc]
          · rfl

namespace Lexicon

variable {x : Lexicon} {t : Table}

/-- A Latin letter or digit has its own key, whatever the units of one kana say, and more of them
are no unit of one kana. -/
theorem single_eq_of_respelt (ht : t.Respellable) (hks : ∀ c ∈ ks, isKatakanaLetter c = false)
    (h : List.Forall₂ Respelt ks ks') :
    (latinSpelling ks).or (Table.lastSpelling t.single ks) =
      (latinSpelling ks').or (Table.lastSpelling t.single ks') := by
  rw [← latinSpelling_eq_of_respelt h]
  cases hs : latinSpelling ks with
  | some s => rfl
  | none =>
      refine congrArg _ ?_
      by_cases hlength : ks.length = 1
      · obtain ⟨c, rfl⟩ := List.length_eq_one_iff.mp hlength
        have hc : isLatin c = false := by
          rw [latinSpelling] at hs
          split at hs
          · cases hs
          · next hc => exact Bool.eq_false_iff.mpr hc
        exact Table.lastSpelling_eq_of_respelt ht.single hks
          (.inl (List.forall_mem_singleton.mpr hc)) h
      · refine Table.lastSpelling_congr fun e _ => ?_
        have hlength' : ks'.length ≠ 1 := h.length_eq ▸ hlength
        rw [Bool.eq_false_iff.mpr (mt Entry.length_of_standsFor hlength),
          Bool.eq_false_iff.mpr (mt Entry.length_of_standsFor hlength')]

/-- The lexicon of a respellable table does not tell a text without katakana letters from what
becomes of it. -/
theorem blind_of_respellable (hx : ofTable t = .ok x) (ht : t.Respellable) :
    x.Blind fun c d => isKatakanaLetter c = false ∧ Respelt c d := by
  intro ks ks' h
  obtain ⟨hks, h⟩ := (List.forall₂_and_left ks ks').mp h
  have hpair : Table.lastSpelling t.pair ks = Table.lastSpelling t.pair ks' :=
    Table.lastSpelling_eq_of_respelt (fun e he c hc => (ht.pair e he c hc).1) hks
      (.inr fun e he c hc => (ht.pair e he c hc).2) h
  have htriple : Table.lastSpelling t.triple ks = Table.lastSpelling t.triple ks' :=
    Table.lastSpelling_eq_of_respelt (fun e he c hc => (ht.triple e he c hc).1) hks
      (.inr fun e he c hc => (ht.triple e he c hc).2) h
  rw [find_of_ofTable hx, find_of_ofTable hx, htriple, hpair, single_eq_of_respelt ht hks h]

end Lexicon

/-! ### Lines -/

/-- What may become of a part: its text is respelt.  The kanji over a reading may be any. -/
inductive Part.Respelt : Part → Part → Prop
  | plain {text text' : List Char} (h : List.Forall₂ KanaTyping.Respelt text text') :
      Respelt (.plain text) (.plain text')
  | ruby {reading reading' : List Char} (base base' : List Char)
      (h : List.Forall₂ KanaTyping.Respelt reading reading') :
      Respelt (.ruby base reading) (.ruby base' reading')

theorem Part.Respelt.text {p p' : Part} (h : p.Respelt p') :
    List.Forall₂ KanaTyping.Respelt p.text p'.text := by
  cases h with
  | plain h | ruby _ _ h => exact h

/-- What may become of a line: each of its parts is respelt. -/
def Lyric.Respelt (l l' : Lyric) : Prop :=
  List.Forall₂ Part.Respelt l.parts l'.parts

/-- What is typed of a line is respelt with it. -/
theorem Lyric.Respelt.kana {l l' : Lyric} (h : l.Respelt l') :
    List.Forall₂ KanaTyping.Respelt l.kana l'.kana := by
  have htext : List.Forall₂ KanaTyping.Respelt (l.parts.flatMap Part.text)
      (l'.parts.flatMap Part.text) := List.rel_flatMap h fun _ _ => Part.Respelt.text
  exact List.rel_filter (fun _ _ hcd => Bool.eq_iff_iff.mp hcd.isKana_eq.symm) htext

/-! ### Play -/

namespace Progress

open Lexicon (ofTable)

/-- **A line is played the same in another script.**  With the lexicon of a respellable table, such
as the built-in one, a line of which no katakana letters are typed and what becomes of it have the
same strokes for the same keys, and are at the same step, with the same counts and the same hint,
after them. -/
theorem play_of_respelt :
    (ofTable .builtin = .ok .builtin ∧ Table.builtin.Respellable) ∧
      ∀ {t : Table} {x : Lexicon} {l l' : Lyric}, ofTable t = .ok x → t.Respellable →
        (∀ c ∈ l.kana, isKatakanaLetter c = false) → l.Respelt l' → ∀ keys : List Char,
        let r := (start x l).pressAll x keys
        let r' := (start x l').pressAll x keys
        r.1 = r'.1 ∧ r.2.finished = r'.2.finished ∧ r.2.resolved = r'.2.resolved ∧
          r.2.highlighted = r'.2.highlighted ∧ r.2.node = r'.2.node ∧
          (r.2.hint x).keys x = (r'.2.hint x).keys x := by
  refine ⟨⟨Lexicon.ofTable_builtin, Table.respellable_builtin⟩, ?_⟩
  intro t x l l' hx ht hl hrespelt keys r r'
  have hblind := Lexicon.blind_of_respellable hx ht
  have hkana := (List.forall₂_and_left l.kana l'.kana).mpr ⟨hl, hrespelt.kana⟩
  obtain ⟨hstrokes, halike⟩ := (Alike.start hblind hkana).pressAll hblind keys
  have hr : Coherent x r.2 := (coherent_restart x idle l).pressAll keys
  have hr' : Coherent x r'.2 := (coherent_restart x idle l').pressAll keys
  refine ⟨hstrokes, ?_, halike.resolved, halike.highlighted, halike.node,
    halike.keys_hint_eq hblind hr hr'⟩
  rw [finished, finished, halike.node]

/-- `しゃ` as the reading of `車`, with `ん、a` after it, in hiragana and a half-width letter, and in
katakana and a full-width capital. -/
theorem play_of_respelt_sample :
    let l : Lyric := ⟨[.ruby ['車'] ['し', 'ゃ'], .plain ['ん', '、', 'a']]⟩
    let l' : Lyric := ⟨[.ruby ['車'] ['シ', 'ャ'], .plain ['ン', '、', 'Ａ']]⟩
    Table.sample.Respellable ∧ (∀ c ∈ l.kana, isKatakanaLetter c = false) ∧ l.Respelt l' ∧
      ((start .sample l').pressAll .sample ['s', 'i', 'h', 'a', 'n']).1 =
        [.hit, .miss, .hit, .hit, .hit] ∧
      ((start .sample l').pressAll .sample ['s', 'i', 'h', 'a', 'n']).2.highlighted = 3 := by
  intro l l'
  have ht : Table.sample.Respellable := by decide +kernel
  have hl : ∀ c ∈ l.kana, isKatakanaLetter c = false := by
    have hall : l.kana.all (!isKatakanaLetter ·) = true := by decide +kernel
    simpa using hall
  have hrespelt : l.Respelt l' :=
    .cons (.ruby _ _ (.cons (.katakana (by decide)) (.cons (.katakana (by decide)) .nil)))
      (.cons (.plain (.cons (.katakana (by decide)) (.cons (.other (by decide) (by decide))
        (.cons (.latin (k := 'A') (by decide) (by decide) (by decide)) .nil)))) .nil)
  have hrun : ((start .sample l).pressAll .sample ['s', 'i', 'h', 'a', 'n']).1 =
        [.hit, .miss, .hit, .hit, .hit] ∧
      ((start .sample l).pressAll .sample ['s', 'i', 'h', 'a', 'n']).2.highlighted = 3 := by
    decide +kernel
  obtain ⟨hstrokes, -, -, hhighlighted, -⟩ :=
    play_of_respelt.2 Lexicon.ofTable_sample ht hl hrespelt ['s', 'i', 'h', 'a', 'n']
  exact ⟨ht, hl, hrespelt, hstrokes.symm.trans hrun.1, hhighlighted.symm.trans hrun.2⟩

end Progress

end KanaTyping
