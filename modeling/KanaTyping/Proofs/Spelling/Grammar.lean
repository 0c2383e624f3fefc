import Mathlib.Data.List.Forall2
import Mathlib.Data.Set.Function
import KanaTyping.Proofs.Spelling.Keys

/-!
# Spellings — reading and writing their grammar

`Spelling.IsText text s` is the grammar, told without its reader: the text is cut into pieces, one
for each step of the spelling, and a piece is a key character or some key characters in brackets,
with or without a `?` after it.

* `write_of_parse`: a spelling that is read writes the text it was read from.  The text of a draft
  (`Draft.written`) grows by each character that is read.
* `parse_write`: a spelling whose steps accept key characters only is read back from its text, step
  by step (`Draft.readAll_step`).
* `isText_iff`: the grammar relates such a spelling to its text, and to no other.

`bijOn_write` puts them together.
-/

namespace KanaTyping

/-! ### The grammar -/

/-- The text of an atom: a key character, or some in brackets. -/
inductive Atom.IsText : (text : List Char) → Atom → Prop
  | key {c : Char} (key : isKeyChar c = true) : IsText [c] (.key c)
  | choice {c : Char} {cs : List Char} (keys : ∀ k ∈ c :: cs, isKeyChar k = true) :
      IsText ('[' :: c :: (cs ++ [']'])) (.choice c cs)

/-- The text of a step: that of its atom, and a `?` after it if the step is optional. -/
inductive Step.IsText : (text : List Char) → Step → Prop
  | required {text : List Char} {a : Atom} (atom : a.IsText text) : IsText text ⟨a, false⟩
  | optional {text : List Char} {a : Atom} (atom : a.IsText text) : IsText (text ++ ['?']) ⟨a, true⟩

/-- The text of a spelling: those of its steps, one after the other. -/
def Spelling.IsText (text : List Char) (s : Spelling) : Prop :=
  ∃ pieces : List (List Char), text = pieces.flatten ∧ List.Forall₂ Step.IsText pieces s.steps

theorem Atom.isText_iff {text : List Char} {a : Atom} :
    a.IsText text ↔ (∀ k ∈ a.keys, isKeyChar k = true) ∧ a.write = text := by
  constructor
  · rintro (hc | hcs)
    · exact ⟨by simpa [keys] using hc, rfl⟩
    · exact ⟨hcs, rfl⟩
  · rintro ⟨hkeys, rfl⟩
    cases a with
    | key c => exact .key (hkeys c (List.mem_singleton_self c))
    | choice c cs => exact .choice hkeys

theorem Step.isText_iff {text : List Char} {s : Step} :
    s.IsText text ↔ s.Keyed ∧ s.write = text := by
  constructor
  · rintro (ha | ha)
    · obtain ⟨hkeys, rfl⟩ := Atom.isText_iff.mp ha
      exact ⟨hkeys, by simp [Step.write]⟩
    · obtain ⟨hkeys, rfl⟩ := Atom.isText_iff.mp ha
      exact ⟨hkeys, by simp [Step.write]⟩
  · rintro ⟨hkeys, rfl⟩
    obtain ⟨a, optional⟩ := s
    have ha : a.IsText a.write := Atom.isText_iff.mpr ⟨hkeys, rfl⟩
    cases optional with
    | false => simpa [Step.write] using Step.IsText.required ha
    | true => simpa [Step.write] using Step.IsText.optional ha

/-- The grammar relates a spelling with key characters to its text, and to no other. -/
theorem Spelling.isText_iff {text : List Char} {s : Spelling} :
    s.IsText text ↔ s.Keyed ∧ s.write = text := by
  have pieces_iff : ∀ {ss : List Step} {pieces : List (List Char)},
      List.Forall₂ Step.IsText pieces ss ↔ (∀ t ∈ ss, t.Keyed) ∧ ss.map Step.write = pieces := by
    intro ss
    induction ss with
    | nil => intro pieces; simp [eq_comm]
    | cons t ss ih =>
        intro pieces
        rw [List.forall₂_cons_right_iff, List.forall_mem_cons, List.map_cons]
        constructor
        · rintro ⟨piece, pieces, ht, hss, rfl⟩
          obtain ⟨hkeyed, rfl⟩ := Step.isText_iff.mp ht
          obtain ⟨hkeyeds, rfl⟩ := ih.mp hss
          exact ⟨⟨hkeyed, hkeyeds⟩, rfl⟩
        · rintro ⟨⟨hkeyed, hkeyeds⟩, rfl⟩
          exact ⟨_, _, Step.isText_iff.mpr ⟨hkeyed, rfl⟩, ih.mpr ⟨hkeyeds, rfl⟩, rfl⟩
  constructor
  · rintro ⟨pieces, rfl, h⟩
    obtain ⟨hkeyed, rfl⟩ := pieces_iff.mp h
    exact ⟨hkeyed, List.flatMap_def⟩
  · rintro ⟨hkeyed, rfl⟩
    exact ⟨s.steps.map Step.write, List.flatMap_def, pieces_iff.mpr ⟨hkeyed, rfl⟩⟩

namespace Spelling

namespace Draft

variable {d d' : Draft} {s : Spelling} {pos : Nat} {c : Char} {cs rest : List Char}
  {done : List Step}

/-! ### What is read is the text -/

/-- The text that has been read. -/
def written : Draft → List Char
  | steps done => done.reverse.flatMap Step.write
  | set done _ keys => done.reverse.flatMap Step.write ++ '[' :: keys.reverse

theorem written_feed (h : d.feed pos c = .ok d') : d'.written = d.written ++ [c] := by
  cases d with
  | steps done =>
      simp only [feed] at h
      split at h
      · next hc =>
        cases h
        simp [written, hc]
      split at h
      · next hc =>
        split at h
        · cases h
          simp [written, Step.write, hc]
        · cases h
      split at h
      · cases h
        simp [written, Step.write, Atom.write]
      · cases h
  | set done start keys =>
      simp only [feed] at h
      split at h
      · next hc =>
        split at h
        · cases h
        · next k ks hkeys =>
          cases h
          simp [written, Step.write, Atom.write, hkeys, hc]
      split at h
      · cases h
        simp [written]
      · cases h

theorem write_of_finish (h : d.finish = .ok s) : s.write = d.written := by
  cases d with
  | set done start keys => cases h
  | steps done =>
      simp only [finish] at h
      split at h
      · cases h
      · next t ts hdone =>
        cases h
        rw [written, hdone]
        rfl

theorem write_of_readAll (h : d.readAll pos cs = .ok s) : s.write = d.written ++ cs := by
  induction cs generalizing d pos with
  | nil => rw [write_of_finish h, List.append_nil]
  | cons c cs ih =>
      simp only [readAll] at h
      split at h
      · cases h
      · next d' hd => rw [ih h, written_feed hd, ← List.append_cons]

/-! ### The text is read back -/

/-- Key characters are none of the marks of the grammar. -/
theorem ne_mark_of_isKeyChar (h : isKeyChar c = true) : c ≠ '[' ∧ c ≠ ']' ∧ c ≠ '?' := by
  refine ⟨?_, ?_, ?_⟩ <;> (rintro rfl; exact absurd h (by decide))

theorem readAll_of_feed (hc : d.feed pos c = .ok d')
    (h : d'.readAll (pos + c.utf8Size) cs = .ok s) : d.readAll pos (c :: cs) = .ok s := by
  rw [readAll, hc]
  exact h

/-- The keys of a set are read one by one. -/
theorem readAll_keys {start : Nat} {keys ks : List Char} (hks : ∀ k ∈ ks, isKeyChar k = true)
    (h : ∀ pos, (set done start (ks.reverse ++ keys)).readAll pos rest = .ok s) (pos : Nat) :
    (set done start keys).readAll pos (ks ++ rest) = .ok s := by
  induction ks generalizing keys pos with
  | nil => exact h pos
  | cons k ks ih =>
      rw [List.forall_mem_cons] at hks
      obtain ⟨-, hclose, -⟩ := ne_mark_of_isKeyChar hks.1
      have hk : (set done start keys).feed pos k = .ok (set done start (k :: keys)) := by
        rw [feed, if_neg hclose, if_pos hks.1]
      exact readAll_of_feed hk (ih hks.2 (by simpa using h) _)

theorem readAll_atom {a : Atom} (ha : ∀ k ∈ a.keys, isKeyChar k = true)
    (h : ∀ pos, (steps (⟨a, false⟩ :: done)).readAll pos rest = .ok s) (pos : Nat) :
    (steps done).readAll pos (a.write ++ rest) = .ok s := by
  cases a with
  | key c =>
      have hc : isKeyChar c = true := ha c (List.mem_singleton_self c)
      obtain ⟨hopen, -, hmark⟩ := ne_mark_of_isKeyChar hc
      refine readAll_of_feed ?_ (h _)
      simp only [feed, if_neg hopen, if_neg hmark, if_pos hc]
  | choice c cs =>
      have hset : ∀ start pos, (set done start []).readAll pos (c :: cs ++ (']' :: rest)) = .ok s :=
        fun start => readAll_keys ha fun pos => readAll_of_feed (by simp [feed]) (h _)
      have hopen : (steps done).feed pos '[' = .ok (set done pos []) := rfl
      rw [Atom.write, List.cons_append]
      exact readAll_of_feed hopen (by simpa using hset pos _)

/-- The text of a step is read as that step. -/
theorem readAll_step {t : Step} (ht : t.Keyed)
    (h : ∀ pos, (steps (t :: done)).readAll pos rest = .ok s) (pos : Nat) :
    (steps done).readAll pos (t.write ++ rest) = .ok s := by
  obtain ⟨a, optional⟩ := t
  cases optional with
  | false => simpa [Step.write] using readAll_atom ht h pos
  | true =>
      have hmark : ∀ pos, (steps (⟨a, false⟩ :: done)).readAll pos ('?' :: rest) = .ok s :=
        fun pos => readAll_of_feed (by simp [feed]) (h _)
      simpa [Step.write] using readAll_atom ht hmark pos

theorem readAll_steps {ts : List Step} (hts : ∀ t ∈ ts, t.Keyed)
    (h : (steps (ts.reverse ++ done)).finish = .ok s) (pos : Nat) :
    (steps done).readAll pos (ts.flatMap Step.write) = .ok s := by
  induction ts generalizing done pos with
  | nil => exact h
  | cons t ts ih =>
      rw [List.forall_mem_cons] at hts
      rw [List.flatMap_cons]
      exact readAll_step hts.1 (ih hts.2 (by simpa using h)) pos

end Draft

variable {text text' : List Char} {s s' : Spelling}

/-- A spelling that is read writes the text it was read from. -/
theorem write_of_parse (h : parse text = .ok s) : s.write = text :=
  Draft.write_of_readAll h

/-- A spelling with key characters is read back from its text. -/
theorem parse_write (h : s.Keyed) : parse s.write = .ok s :=
  Draft.readAll_steps h (by simp [Draft.finish, steps]) 0

theorem parse_eq_ok_iff : parse text = .ok s ↔ s.Keyed ∧ s.write = text := by
  constructor
  · exact fun h => ⟨keyed_of_parse h, write_of_parse h⟩
  · rintro ⟨hkeyed, rfl⟩
    exact parse_write hkeyed

/-- Two texts that are read are the same when their spellings are. -/
theorem eq_iff_of_parse (h : parse text = .ok s) (h' : parse text' = .ok s') :
    text = text' ↔ s = s' := by
  constructor
  · rintro rfl
    exact Except.ok.inj (h.symm.trans h')
  · rintro rfl
    exact (write_of_parse h).symm.trans (write_of_parse h')

/-- **Reading and writing are inverse to each other.**  A text is read as a spelling exactly when
the grammar relates the two, and then the spelling writes that text; a spelling whose steps accept
key characters only is read back from what it writes.  So such spellings and the texts that can be
read are one to one, and equal texts are the same as equal spellings. -/
theorem bijOn_write :
    (∀ text s, parse text = .ok s ↔ s.IsText text) ∧
      (∀ text s, parse text = .ok s → s.write = text) ∧
      (∀ s : Spelling, s.Keyed → parse s.write = .ok s) ∧
      Set.BijOn write {s | s.Keyed} {text | ∃ s, parse text = .ok s} ∧
      ∀ text text' s s', parse text = .ok s → parse text' = .ok s' → (text = text' ↔ s = s') := by
  refine ⟨fun text s => parse_eq_ok_iff.trans isText_iff.symm, fun _ _ => write_of_parse,
    fun _ => parse_write, ⟨?_, ?_, ?_⟩, fun _ _ _ _ => eq_iff_of_parse⟩
  · exact fun s hs => ⟨s, parse_write hs⟩
  · exact fun s hs s' hs' => (eq_iff_of_parse (parse_write hs) (parse_write hs')).mp
  · rintro text ⟨s, hs⟩
    exact ⟨s, keyed_of_parse hs, write_of_parse hs⟩

/-- The spelling of `ち`, whose text has a set in it and an optional step. -/
theorem bijOn_write_sample :
    let s : Spelling := ⟨⟨.choice 'T' ['C'], false⟩, [⟨.key 'H', true⟩, ⟨.key 'I', false⟩]⟩
    s.Keyed ∧ s.write = "[TC]H?I".toList ∧ parse s.write = .ok s ∧ s.IsText s.write := by
  intro s
  have hs : s.Keyed := by
    have hall : (s.steps.all fun t => t.atom.keys.all isKeyChar) = true := by decide
    simpa [Keyed, Step.Keyed] using hall
  have hread : parse s.write = .ok s := bijOn_write.2.2.1 s hs
  exact ⟨hs, by decide, hread, (bijOn_write.1 s.write s).mp hread⟩

end Spelling

end KanaTyping
