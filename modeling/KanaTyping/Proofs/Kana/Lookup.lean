import KanaTyping.Proofs.Kana.Respelling
import KanaTyping.Proofs.Kana.Sources

/-!
# Lexicons — what is found

An entry of a table stands for its own kana and for their katakana, and of the entries of a section
that stand for the same kana the last one counts (`Table.lastSpelling`).  The Latin letters and
digits have the spelling of their key, whatever the units of one kana say (`latinSpelling`).

* `find_of_addEntries` and `find_foldl_addLatin`: what adding to a lexicon does to what it finds.
* `find_of_ofTable`: what the lexicon of a table finds, read off the table.
-/

namespace KanaTyping

variable {n : Nat}

/-- Whether the entry stands for `kana`: they are its own, or their katakana. -/
def Entry.standsFor (e : Entry n) (kana : List Char) : Bool :=
  kana == e.key.val || kana == e.key.val.map toKatakana

theorem Entry.standsFor_iff {e : Entry n} {kana : List Char} :
    e.standsFor kana = true ↔ kana = e.key.val ∨ kana = e.key.val.map toKatakana := by
  simp [standsFor]

theorem Entry.length_of_standsFor {e : Entry n} {kana : List Char}
    (h : e.standsFor kana = true) : kana.length = n := by
  obtain rfl | rfl := standsFor_iff.mp h
  · exact e.key.property
  · rw [List.length_map]
    exact e.key.property

/-- The spelling that the entry gives to `kana`, if it stands for them. -/
def Entry.spellingFor (e : Entry n) (kana : List Char) : Option Spelling :=
  if e.standsFor kana then (Spelling.parse e.grammar).toOption else none

/-- The spelling that the last of the entries that stand for `kana` gives. -/
def Table.lastSpelling (es : List (Entry n)) (kana : List Char) : Option Spelling :=
  es.reverse.findSome? (·.spellingFor kana)

theorem Table.lastSpelling_cons (e : Entry n) (es : List (Entry n)) (kana : List Char) :
    lastSpelling (e :: es) kana = (lastSpelling es kana).or (e.spellingFor kana) := by
  rw [lastSpelling, List.reverse_cons, List.findSome?_append, List.findSome?_singleton]
  rfl

/-- The spelling of a Latin letter or digit: its key. -/
def latinSpelling : (kana : List Char) → Option Spelling
  | [c] => if isLatin c then some (.ofKey (latinKey c)) else none
  | _ => none

theorem latinSpelling_eq_some {kana : List Char} {s : Spelling} (h : latinSpelling kana = some s) :
    ∃ c, kana = [c] ∧ isLatin c = true ∧ s = .ofKey (latinKey c) := by
  unfold latinSpelling at h
  split at h
  · next c =>
    split at h
    · next hc => cases h; exact ⟨c, rfl, hc, rfl⟩
    · cases h
  · cases h

namespace Lexicon

variable {x y : Lexicon} {t : Table} {s : Spelling} {kana : List Char}

theorem find_put (x : Lexicon) (k : List Char) (s : Spelling) (kana : List Char) :
    (x.put k s).find kana = if kana = k then some s else x.find kana := by
  rw [find, put, List.lookup_cons]
  by_cases h : kana = k
  · rw [if_pos h, beq_iff_eq.mpr h]
  · rw [if_neg h, beq_eq_false_iff_ne.mpr h]
    rfl

theorem find_keep (x : Lexicon) (s : Spelling) (kana : List Char) :
    (x.keep s).find kana = x.find kana := by
  rw [keep]
  split <;> rfl

/-! ### Entries -/

/-- An entry gives its spelling to what it stands for, and nothing to anything else. -/
theorem find_of_addEntry {e : Entry n} (h : x.addEntry e = .ok y) (kana : List Char) :
    y.find kana = (e.spellingFor kana).or (x.find kana) := by
  obtain ⟨s, hs, rfl⟩ := addEntry_eq_ok_iff.mp h
  rw [Entry.spellingFor, hs]
  simp only [Entry.standsFor_iff, Except.toOption]
  by_cases hkatakana : e.key.val.map toKatakana = e.key.val
  · simp only [hkatakana, if_true, or_self, find_put, find_keep]
    split <;> rfl
  · simp only [hkatakana, if_false, find_put, find_keep]
    by_cases h₁ : kana = e.key.val <;> by_cases h₂ : kana = e.key.val.map toKatakana <;>
      simp [h₁, h₂]

/-- Of the entries that stand for the same kana the last one counts. -/
theorem find_of_addEntries {es : List (Entry n)} (h : es.foldlM addEntry x = .ok y)
    (kana : List Char) : y.find kana = (Table.lastSpelling es kana).or (x.find kana) := by
  induction es generalizing x with
  | nil => cases h; rfl
  | cons e es ih =>
      obtain ⟨z, he, h⟩ := addEntries_cons_eq_ok_iff.mp h
      rw [ih h, find_of_addEntry he, Table.lastSpelling_cons, Option.or_assoc]

/-! ### Latin letters and digits -/

theorem find_foldl_put (x : Lexicon) (s : Spelling) (cs : List Char) (kana : List Char) :
    (cs.foldl (fun x c => x.put [c] s) x).find kana =
      if kana ∈ cs.map ([·]) then some s else x.find kana := by
  induction cs generalizing x with
  | nil => rfl
  | cons c cs ih =>
      rw [List.foldl_cons, ih, find_put]
      simp only [List.map_cons, List.mem_cons]
      by_cases h₁ : kana = [c] <;> by_cases h₂ : kana ∈ cs.map ([·]) <;> simp [h₁, h₂]

/-- A key is the spelling of its forms. -/
theorem find_addLatin (x : Lexicon) (k : Char) (kana : List Char) :
    (x.addLatin k).find kana =
      if kana ∈ (latinForms k).map ([·]) then some (.ofKey k) else x.find kana := by
  rw [← find_keep x (.ofKey k)]
  exact find_foldl_put _ _ _ _

/-- The keys that stand for themselves give their spelling to the Latin letters and digits. -/
theorem find_foldl_addLatin (x : Lexicon) (kana : List Char) :
    (latinKeys.foldl addLatin x).find kana = (latinSpelling kana).or (x.find kana) := by
  cases hs : latinSpelling kana with
  | some s =>
      obtain ⟨c, rfl, hc, rfl⟩ := latinSpelling_eq_some hs
      obtain ⟨k, hk, hform⟩ := isLatin_iff.mp hc
      rw [latinKey_of_mem_latinForms hk hform]
      -- the key of the letter gives it its spelling, and the keys after it do not have the form
      obtain ⟨before, after, hkeys⟩ := List.append_of_mem hk
      rw [hkeys, List.foldl_append, List.foldl_cons]
      refine List.foldlRecOn (motive := fun y => y.find [c] = some (.ofKey k)) after addLatin
        ?_ fun y hy k' hk' => ?_
      · rw [find_addLatin, if_pos (List.mem_map_of_mem hform)]
      · rw [find_addLatin]
        split
        · next hform' =>
          obtain ⟨c', hc', e⟩ := List.mem_map.mp hform'
          cases e
          have hmem : k' ∈ latinKeys :=
            hkeys ▸ List.mem_append_right _ (List.mem_cons_of_mem _ hk')
          rw [← latinKey_of_mem_latinForms hk hform, latinKey_of_mem_latinForms hmem hc']
        · exact hy
  | none =>
      refine List.foldlRecOn (motive := fun y => y.find kana = x.find kana) latinKeys addLatin
        rfl fun y hy k hk => ?_
      rw [find_addLatin, if_neg, hy]
      intro hform
      obtain ⟨c, hc, rfl⟩ := List.mem_map.mp hform
      rw [latinSpelling, if_pos (isLatin_of_mem_latinForms hk hc)] at hs
      cases hs

/-! ### The lexicon of a table -/

/-- What the lexicon of a table finds. -/
theorem find_of_ofTable (h : ofTable t = .ok x) (kana : List Char) :
    x.find kana = (Table.lastSpelling t.triple kana).or ((Table.lastSpelling t.pair kana).or
      ((latinSpelling kana).or (Table.lastSpelling t.single kana))) := by
  obtain ⟨a, ha, b, hb, hx⟩ := ofTable_eq_ok_iff.mp h
  have hempty : empty.find kana = none := rfl
  rw [find_of_addEntries hx, find_of_addEntries hb, find_foldl_addLatin, find_of_addEntries ha,
    hempty, Option.or_none]

end Lexicon

end KanaTyping
