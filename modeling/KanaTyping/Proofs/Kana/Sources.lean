import KanaTyping.Kana.Builtin
import KanaTyping.Proofs.Spelling.Keys

/-!
# Lexicons — where the spellings come from

* `DrawsOn`: every spelling that a lexicon finds is one it holds, and every spelling it holds is
  read from a grammar text of the table or is that of a Latin key.  `drawsOn_of_ofTable` has it of
  the lexicon of any table.
* `exists_ofTable`: a table of which all grammar texts can be read has a lexicon.
* `ofTable_builtin`: the built-in table has one, and it is `Lexicon.builtin`.
-/

namespace KanaTyping

/-- The grammar texts of a table. -/
def Table.grammars (t : Table) : List (List Char) :=
  t.single.map (·.grammar) ++ t.pair.map (·.grammar) ++ t.triple.map (·.grammar)

/-- The spellings that a table gives: those of its grammar texts and those of the Latin keys. -/
inductive Table.Gives (t : Table) : Spelling → Prop
  | entry {g : List Char} {s : Spelling} (mem : g ∈ t.grammars) (read : Spelling.parse g = .ok s) :
      Gives t s
  | latin {c : Char} (mem : c ∈ Lexicon.latinKeys) : Gives t (.ofKey c)

theorem Lexicon.isKeyChar_of_mem_latinKeys {k : Char} (hk : k ∈ latinKeys) :
    isKeyChar k = true := by
  have all : latinKeys.all isKeyChar = true := by decide
  exact List.all_eq_true.mp all k hk

theorem Table.Gives.keyed {t : Table} {s : Spelling} (h : t.Gives s) : s.Keyed := by
  cases h with
  | entry _ read => exact Spelling.keyed_of_parse read
  | latin mem => exact Spelling.keyed_ofKey (Lexicon.isKeyChar_of_mem_latinKeys mem)

/-- A chain of two actions succeeds when both do. -/
theorem bind_eq_ok_iff {ε α β : Type} {m : Except ε α} {f : α → Except ε β} {b : β} :
    m >>= f = .ok b ↔ ∃ a, m = .ok a ∧ f a = .ok b := by
  cases m with
  | error e => exact ⟨nofun, nofun⟩
  | ok a => exact ⟨fun h => ⟨a, rfl, h⟩, fun ⟨_, ha, hb⟩ => by cases ha; exact hb⟩

/-- A chain of two actions fails when the first does, or the second after it. -/
theorem bind_eq_error_iff {ε α β : Type} {m : Except ε α} {f : α → Except ε β} {e : ε} :
    m >>= f = .error e ↔ m = .error e ∨ ∃ a, m = .ok a ∧ f a = .error e := by
  cases m with
  | error e' =>
      change (.error e' : Except ε β) = .error e ↔ _
      simp
  | ok a =>
      change f a = .error e ↔ _
      simp

namespace Lexicon

variable {x y : Lexicon} {t : Table} {s : Spelling} {kana : List Char}

/-- The spellings of the lexicon are those that the table gives. -/
structure DrawsOn (x : Lexicon) (t : Table) : Prop where
  held : ∀ u ∈ x.units, u.2 ∈ x.spellings
  given : ∀ s ∈ x.spellings, t.Gives s

theorem DrawsOn.mem_of_find (h : x.DrawsOn t) (hs : x.find kana = some s) : s ∈ x.spellings := by
  obtain ⟨l₁, l₂, hl, -⟩ := List.lookup_eq_some_iff.mp hs
  exact h.held (kana, s) (hl ▸ List.mem_append_right _ List.mem_cons_self)

/-! ### What adding to a lexicon keeps -/

theorem drawsOn_empty (t : Table) : empty.DrawsOn t :=
  ⟨by simp [empty], by simp [empty]⟩

theorem mem_keep (x : Lexicon) (s : Spelling) : s ∈ (x.keep s).spellings := by
  rw [keep]
  split
  · next h => exact h
  · exact List.mem_cons_self

theorem DrawsOn.keep (h : x.DrawsOn t) (hs : t.Gives s) : (x.keep s).DrawsOn t := by
  rw [Lexicon.keep]
  split
  · exact h
  · exact ⟨fun u hu => List.mem_cons_of_mem _ (h.held u hu),
      List.forall_mem_cons.mpr ⟨hs, h.given⟩⟩

theorem DrawsOn.put (h : x.DrawsOn t) (kana : List Char) (hs : s ∈ x.spellings) :
    (x.put kana s).DrawsOn t :=
  ⟨List.forall_mem_cons.mpr ⟨hs, h.held⟩, h.given⟩

theorem DrawsOn.addLatin (h : x.DrawsOn t) {c : Char} (hc : c ∈ latinKeys) :
    (x.addLatin c).DrawsOn t :=
  have hs : Spelling.ofKey c ∈ (x.keep (Spelling.ofKey c)).spellings := mem_keep x _
  ((((h.keep (.latin hc)).put _ hs).put _ hs).put _ hs).put _ hs

/-- An entry is added when its grammar text can be read. -/
theorem addEntry_eq_ok_iff {n : Nat} {e : Entry n} :
    x.addEntry e = .ok y ↔ ∃ s, Spelling.parse e.grammar = .ok s ∧
      y = let z := (x.keep s).put e.key.val s
        if e.key.val.map toKatakana = e.key.val then z else z.put (e.key.val.map toKatakana) s := by
  simp only [addEntry]
  cases Spelling.parse e.grammar with
  | error fault => simp
  | ok s =>
      constructor
      · intro h
        cases h
        exact ⟨s, rfl, rfl⟩
      · rintro ⟨s', hs, rfl⟩
        cases hs
        rfl

theorem DrawsOn.addEntry {n : Nat} {e : Entry n} (h : x.DrawsOn t) (he : e.grammar ∈ t.grammars)
    (hy : x.addEntry e = .ok y) : y.DrawsOn t := by
  obtain ⟨s, hs, rfl⟩ := addEntry_eq_ok_iff.mp hy
  have hz := (h.keep (.entry he hs)).put e.key.val (mem_keep x s)
  dsimp only
  split
  · exact hz
  · exact hz.put _ (mem_keep x s)

theorem addEntries_cons_eq_ok_iff {n : Nat} {e : Entry n} {es : List (Entry n)} :
    (e :: es).foldlM addEntry x = .ok y ↔
      ∃ z, x.addEntry e = .ok z ∧ es.foldlM addEntry z = .ok y := by
  rw [List.foldlM_cons]
  exact bind_eq_ok_iff

theorem DrawsOn.addEntries {n : Nat} {es : List (Entry n)} (h : x.DrawsOn t)
    (hes : ∀ e ∈ es, e.grammar ∈ t.grammars) (hy : es.foldlM Lexicon.addEntry x = .ok y) :
    y.DrawsOn t := by
  induction es generalizing x with
  | nil => cases hy; exact h
  | cons e es ih =>
      rw [List.forall_mem_cons] at hes
      obtain ⟨z, he, hy⟩ := addEntries_cons_eq_ok_iff.mp hy
      exact ih (h.addEntry hes.1 he) hes.2 hy

theorem exists_addEntries {n : Nat} {es : List (Entry n)}
    (hes : ∀ e ∈ es, ∃ s, Spelling.parse e.grammar = .ok s) (x : Lexicon) :
    ∃ y, es.foldlM addEntry x = .ok y := by
  induction es generalizing x with
  | nil => exact ⟨x, rfl⟩
  | cons e es ih =>
      rw [List.forall_mem_cons] at hes
      obtain ⟨s, hs⟩ := hes.1
      obtain ⟨y, hy⟩ := ih hes.2 _
      exact ⟨y, addEntries_cons_eq_ok_iff.mpr ⟨_, addEntry_eq_ok_iff.mpr ⟨s, hs, rfl⟩, hy⟩⟩

/-! ### The lexicon of a table -/

/-- The lexicon of a table is made in three steps, with the Latin keys between the first two. -/
theorem ofTable_eq_ok_iff :
    ofTable t = .ok x ↔ ∃ a, t.single.foldlM addEntry empty = .ok a ∧
      ∃ b, t.pair.foldlM addEntry (latinKeys.foldl addLatin a) = .ok b ∧
        t.triple.foldlM addEntry b = .ok x := by
  simp only [ofTable, bind_eq_ok_iff]

theorem drawsOn_of_ofTable (h : ofTable t = .ok x) : x.DrawsOn t := by
  have hsingle : ∀ e ∈ t.single, e.grammar ∈ t.grammars := fun e he =>
    List.mem_append_left _ (List.mem_append_left _ (List.mem_map_of_mem he))
  have hpair : ∀ e ∈ t.pair, e.grammar ∈ t.grammars := fun e he =>
    List.mem_append_left _ (List.mem_append_right _ (List.mem_map_of_mem he))
  have htriple : ∀ e ∈ t.triple, e.grammar ∈ t.grammars := fun e he =>
    List.mem_append_right _ (List.mem_map_of_mem he)
  obtain ⟨a, ha, b, hb, hx⟩ := ofTable_eq_ok_iff.mp h
  have hlatin : (latinKeys.foldl addLatin a).DrawsOn t :=
    List.foldlRecOn (motive := (DrawsOn · t)) latinKeys addLatin
      ((drawsOn_empty t).addEntries hsingle ha) fun _ hb _ hc => hb.addLatin hc
  exact (hlatin.addEntries hpair hb).addEntries htriple hx

/-- A table of which all grammar texts can be read has a lexicon. -/
theorem exists_ofTable (h : ∀ g ∈ t.grammars, ∃ s, Spelling.parse g = .ok s) :
    ∃ x, ofTable t = .ok x := by
  simp only [Table.grammars, List.mem_append, or_imp, forall_and, List.forall_mem_map] at h
  obtain ⟨⟨hsingle, hpair⟩, htriple⟩ := h
  obtain ⟨a, ha⟩ := exists_addEntries hsingle empty
  obtain ⟨b, hb⟩ := exists_addEntries hpair (latinKeys.foldl addLatin a)
  obtain ⟨c, hc⟩ := exists_addEntries htriple b
  exact ⟨c, ofTable_eq_ok_iff.mpr ⟨a, ha, b, hb, hc⟩⟩

/-- The built-in table has a lexicon. -/
theorem ofTable_builtin : ofTable Table.builtin = .ok builtin := by
  have readable : ∀ g ∈ Table.builtin.grammars, (Spelling.parse g).isOk = true := by
    decide +kernel
  obtain ⟨x, hx⟩ := exists_ofTable (t := Table.builtin) fun g hg => by
    have := readable g hg
    cases hs : Spelling.parse g with
    | error fault => rw [hs] at this; cases this
    | ok s => exact ⟨s, rfl⟩
  unfold builtin
  simp only [hx]

end Lexicon

/-- A small table, in which an optional step stands between two others, at the end of a spelling
and alone. -/
def Table.sample : Table where
  single := [one 'し' "SH?I", one 'ん' "NN?", one 'ー' "-?"]
  pair := [two 'し' 'ゃ' "S[YH]A"]
  triple := []

/-- The lexicon of the small table. -/
def Lexicon.sample : Lexicon :=
  match ofTable Table.sample with
  | .ok x => x
  | .error _ => empty

theorem Lexicon.ofTable_sample : ofTable Table.sample = .ok sample := rfl

end KanaTyping
