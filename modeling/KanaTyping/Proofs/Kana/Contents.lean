import Mathlib.Data.Finset.Card
import KanaTyping.Proofs.Kana.Faults
import KanaTyping.Proofs.Kana.Lookup
import KanaTyping.Proofs.Spelling.Grammar

/-!
# Lexicons — what is held and shared

The lexicon of a table is told here by the grammar texts of the table alone.  `Table.grammarFor`
gives the text that counts for a unit: that of the last entry that stands for it, or the key of a
Latin letter or digit.

* `find_eq_some_iff`: a unit has the spelling that is read from the text that counts for it.
* `Holds`: every spelling met is held, once.  `spellingCount_eq` counts the spellings by the
  texts, since two texts that are read differ exactly when their spellings do.

`ofTable_contents` puts them together.
-/

namespace KanaTyping

variable {n : Nat}

namespace Lexicon

/-! ### What is held -/

variable {x y : Lexicon} {t : Table} {s : Spelling}

/-- The text of a key that stands for itself is that key. -/
theorem parse_latinKey {k : Char} (hk : k ∈ latinKeys) :
    Spelling.parse [k] = .ok (.ofKey k) :=
  Spelling.parse_write (Spelling.keyed_ofKey (isKeyChar_of_mem_latinKeys hk))

/-- The lexicon holds each spelling once, those of the grammar texts among them. -/
structure Holds (x : Lexicon) (texts : List (List Char)) : Prop where
  nodup : x.spellings.Nodup
  mem : ∀ g ∈ texts, ∀ s, Spelling.parse g = .ok s → s ∈ x.spellings

variable {g : List Char} {gs : List (List Char)}

theorem holds_empty : empty.Holds [] :=
  ⟨List.nodup_nil, by simp⟩

theorem Holds.put (h : x.Holds gs) (kana : List Char) (s : Spelling) : (x.put kana s).Holds gs :=
  ⟨h.nodup, h.mem⟩

theorem Holds.keep (h : x.Holds gs) (hs : Spelling.parse g = .ok s) :
    (x.keep s).Holds (gs ++ [g]) := by
  have hmem : ∀ s', s' ∈ x.spellings → s' ∈ (x.keep s).spellings := by
    intro s' hs'
    rw [Lexicon.keep]
    split
    · exact hs'
    · exact List.mem_cons_of_mem _ hs'
  refine ⟨?_, fun g' hg' s' hs' => ?_⟩
  · rw [Lexicon.keep]
    split
    · exact h.nodup
    · next hnew => exact List.nodup_cons.mpr ⟨hnew, h.nodup⟩
  · rcases List.mem_append.mp hg' with hg' | hg'
    · exact hmem s' (h.mem g' hg' s' hs')
    · cases List.mem_singleton.mp hg'
      rw [hs] at hs'
      cases hs'
      exact mem_keep x s

theorem Holds.addEntry {e : Entry n} (h : x.Holds gs) (hy : x.addEntry e = .ok y) :
    y.Holds (gs ++ [e.grammar]) := by
  obtain ⟨s, hs, rfl⟩ := addEntry_eq_ok_iff.mp hy
  dsimp only
  split
  · exact (h.keep hs).put _ _
  · exact ((h.keep hs).put _ _).put _ _

theorem Holds.addEntries {es : List (Entry n)} (h : x.Holds gs)
    (hy : es.foldlM Lexicon.addEntry x = .ok y) : y.Holds (gs ++ es.map (·.grammar)) := by
  induction es generalizing x gs with
  | nil => cases hy; simpa using h
  | cons e es ih =>
      obtain ⟨z, he, hy⟩ := addEntries_cons_eq_ok_iff.mp hy
      simpa using ih (h.addEntry he) hy

theorem Holds.foldl_addLatin {ks : List Char} (h : x.Holds gs) (hks : ∀ k ∈ ks, k ∈ latinKeys) :
    (ks.foldl addLatin x).Holds (gs ++ ks.map ([·])) := by
  induction ks generalizing x gs with
  | nil => simpa using h
  | cons k ks ih =>
      rw [List.forall_mem_cons] at hks
      have hk : (x.addLatin k).Holds (gs ++ [[k]]) :=
        ((((h.keep (parse_latinKey hks.1)).put _ _).put _ _).put _ _).put _ _
      simpa using ih hk hks.2

theorem holds_of_ofTable (h : ofTable t = .ok x) :
    x.Holds (t.grammars ++ latinKeys.map ([·])) := by
  obtain ⟨a, ha, b, hb, hx⟩ := ofTable_eq_ok_iff.mp h
  have hlatin := (holds_empty.addEntries ha).foldl_addLatin fun _ hk => hk
  have hall := (hlatin.addEntries hb).addEntries hx
  refine ⟨hall.nodup, fun g hg => hall.mem g ?_⟩
  simp only [Table.grammars, List.mem_append] at hg ⊢
  tauto

/-- A spelling is held when it is read from a grammar text of the table or of a Latin key. -/
theorem mem_spellings_iff (h : ofTable t = .ok x) :
    s ∈ x.spellings ↔ ∃ g ∈ t.grammars ++ latinKeys.map ([·]), Spelling.parse g = .ok s := by
  constructor
  · intro hs
    cases (drawsOn_of_ofTable h).given s hs with
    | entry mem read => exact ⟨_, List.mem_append_left _ mem, read⟩
    | latin mem =>
        exact ⟨_, List.mem_append_right _ (List.mem_map_of_mem mem), parse_latinKey mem⟩
  · rintro ⟨g, hg, hs⟩
    exact (holds_of_ofTable h).mem g hg s hs

/-- The grammar texts of a table that has a lexicon, and those of the Latin keys, are read. -/
theorem exists_parse (h : ofTable t = .ok x) (hg : g ∈ t.grammars ++ latinKeys.map ([·])) :
    ∃ s, Spelling.parse g = .ok s := by
  rcases List.mem_append.mp hg with hg | hg
  · exact exists_ofTable_iff.mp ⟨x, h⟩ g hg
  · obtain ⟨k, hk, rfl⟩ := List.mem_map.mp hg
    exact ⟨_, parse_latinKey hk⟩

/-- There are as many spellings as different grammar texts. -/
theorem spellingCount_eq (h : ofTable t = .ok x) :
    x.spellingCount = (t.grammars ++ latinKeys.map ([·])).toFinset.card := by
  have hwrite : ∀ s ∈ x.spellings, Spelling.parse s.write = .ok s := by
    intro s hs
    obtain ⟨g, -, hread⟩ := (mem_spellings_iff h).mp hs
    exact Spelling.parse_write (Spelling.keyed_of_parse hread)
  have hnodup : (x.spellings.map Spelling.write).Nodup :=
    (holds_of_ofTable h).nodup.map_on fun s hs s' hs' =>
      (Spelling.eq_iff_of_parse (hwrite s hs) (hwrite s' hs')).mp
  have htexts : (x.spellings.map Spelling.write).toFinset =
      (t.grammars ++ latinKeys.map ([·])).toFinset := by
    ext g
    rw [List.mem_toFinset, List.mem_toFinset, List.mem_map]
    constructor
    · rintro ⟨s, hs, rfl⟩
      obtain ⟨g, hg, hread⟩ := (mem_spellings_iff h).mp hs
      rwa [Spelling.write_of_parse hread]
    · intro hg
      obtain ⟨s, hs⟩ := exists_parse h hg
      exact ⟨s, (mem_spellings_iff h).mpr ⟨g, hg, hs⟩, Spelling.write_of_parse hs⟩
  calc x.spellingCount = (x.spellings.map Spelling.write).length := (List.length_map _).symm
    _ = (x.spellings.map Spelling.write).toFinset.card := (List.toFinset_card_of_nodup hnodup).symm
    _ = (t.grammars ++ latinKeys.map ([·])).toFinset.card := by rw [htexts]

end Lexicon

/-! ### The text that counts for a unit -/

namespace Table

/-- The last of the entries that stand for `kana`. -/
def lastEntry (es : List (Entry n)) (kana : List Char) : Option (Entry n) :=
  (es.filter (·.standsFor kana)).getLast?

/-- The grammar text that counts for a unit: of a Latin letter or digit the text of its key, and
otherwise that of the last entry that stands for it. -/
def grammarFor (t : Table) : (kana : List Char) → Option (List Char)
  | [c] => if isLatin c then some [latinKey c] else (lastEntry t.single [c]).map (·.grammar)
  | [a, b] => (lastEntry t.pair [a, b]).map (·.grammar)
  | [a, b, c] => (lastEntry t.triple [a, b, c]).map (·.grammar)
  | _ => none

variable {t : Table} {e : Entry n} {es : List (Entry n)} {kana : List Char}

theorem lastEntry_cons (e : Entry n) (es : List (Entry n)) (kana : List Char) :
    lastEntry (e :: es) kana =
      (lastEntry es kana).or (if e.standsFor kana then some e else none) := by
  rw [lastEntry, lastEntry, List.filter_cons]
  split
  · rw [List.getLast?_cons]
    cases (es.filter (·.standsFor kana)).getLast? <;> rfl
  · rw [Option.or_none]

theorem mem_of_lastEntry (h : lastEntry es kana = some e) : e ∈ es :=
  List.mem_of_mem_filter (List.mem_of_getLast? h)

/-- Where all grammar texts can be read, the last spelling is that of the last entry. -/
theorem lastSpelling_eq (hes : ∀ e ∈ es, ∃ s, Spelling.parse e.grammar = .ok s) :
    lastSpelling es kana =
      (lastEntry es kana).bind fun e => (Spelling.parse e.grammar).toOption := by
  induction es with
  | nil => rfl
  | cons e es ih =>
      rw [List.forall_mem_cons] at hes
      rw [lastSpelling_cons, lastEntry_cons, ih hes.2]
      cases hlast : lastEntry es kana with
      | none =>
          rw [Entry.spellingFor]
          split <;> rfl
      | some e' =>
          obtain ⟨s, hs⟩ := hes.2 e' (mem_of_lastEntry hlast)
          simp [hs, Except.toOption]

theorem latinSpelling_of_length_ne (h : kana.length ≠ 1) : latinSpelling kana = none := by
  unfold latinSpelling
  split
  · simp at h
  · rfl

theorem lastSpelling_of_length_ne (h : kana.length ≠ n) : lastSpelling es kana = none := by
  refine List.findSome?_eq_none_iff.mpr fun e _ => ?_
  rw [Entry.spellingFor, if_neg (mt Entry.length_of_standsFor h)]

end Table

namespace Lexicon

variable {x : Lexicon} {t : Table} {s : Spelling} {g : List Char} {kana : List Char}

theorem latinKey_mem_latinKeys {c : Char} (h : isLatin c = true) : latinKey c ∈ latinKeys := by
  obtain ⟨k, hk, hform⟩ := isLatin_iff.mp h
  rwa [latinKey_of_mem_latinForms hk hform]

theorem mem_of_grammarFor (h : t.grammarFor kana = some g) :
    g ∈ t.grammars ++ latinKeys.map ([·]) := by
  have of_entry : ∀ {n : Nat} {es : List (Entry n)},
      (Table.lastEntry es kana).map (·.grammar) = some g → g ∈ es.map (·.grammar) := by
    intro n es h
    obtain ⟨e, he, rfl⟩ := Option.map_eq_some_iff.mp h
    exact List.mem_map_of_mem (Table.mem_of_lastEntry he)
  simp only [Table.grammars, List.mem_append]
  unfold Table.grammarFor at h
  split at h
  · split at h
    · next hc =>
      cases h
      exact .inr (List.mem_map_of_mem (latinKey_mem_latinKeys hc))
    · exact .inl (.inl (.inl (of_entry h)))
  · exact .inl (.inl (.inr (of_entry h)))
  · exact .inl (.inr (of_entry h))
  · cases h

/-- A unit has the spelling that is read from the grammar text that counts for it. -/
theorem find_eq (h : ofTable t = .ok x) (kana : List Char) :
    x.find kana = (t.grammarFor kana).bind fun g => (Spelling.parse g).toOption := by
  have hread := exists_ofTable_iff.mp ⟨x, h⟩
  simp only [Table.grammars, List.mem_append, or_imp, forall_and, List.forall_mem_map] at hread
  obtain ⟨⟨hsingle, hpair⟩, htriple⟩ := hread
  rw [find_of_ofTable h]
  -- the sections of other lengths have no entry for the unit
  unfold Table.grammarFor
  split
  · next c =>
    rw [Table.lastSpelling_of_length_ne (by simp), Table.lastSpelling_of_length_ne (by simp),
      Table.lastSpelling_eq hsingle, latinSpelling]
    split
    · next hc => simp [parse_latinKey (latinKey_mem_latinKeys hc), Except.toOption]
    · simp [Option.bind_map]
  · next a b =>
    rw [Table.lastSpelling_of_length_ne (by simp), Table.lastSpelling_eq hpair,
      Table.latinSpelling_of_length_ne (by simp), Table.lastSpelling_of_length_ne (by simp)]
    simp [Option.bind_map]
  · next a b c =>
    rw [Table.lastSpelling_eq htriple, Table.lastSpelling_of_length_ne (by simp),
      Table.latinSpelling_of_length_ne (by simp), Table.lastSpelling_of_length_ne (by simp)]
    simp [Option.bind_map]
  · next hone htwo hthree =>
    have hne₁ : kana.length ≠ 1 := fun hl => by
      obtain ⟨c, rfl⟩ := List.length_eq_one_iff.mp hl
      exact hone c rfl
    have hne₂ : kana.length ≠ 2 := fun hl => by
      obtain ⟨a, b, rfl⟩ := List.length_eq_two.mp hl
      exact htwo a b rfl
    have hne₃ : kana.length ≠ 3 := fun hl => by
      obtain ⟨a, b, c, rfl⟩ := List.length_eq_three.mp hl
      exact hthree a b c rfl
    rw [Table.lastSpelling_of_length_ne hne₃, Table.lastSpelling_of_length_ne hne₂,
      Table.latinSpelling_of_length_ne hne₁, Table.lastSpelling_of_length_ne hne₁]
    rfl

theorem find_eq_some_iff (h : ofTable t = .ok x) :
    x.find kana = some s ↔ ∃ g, t.grammarFor kana = some g ∧ Spelling.parse g = .ok s := by
  have toOption_iff : ∀ {r : Except Spelling.Fault Spelling}, r.toOption = some s ↔ r = .ok s := by
    intro r
    cases r <;> simp [Except.toOption]
  simp only [find_eq h, Option.bind_eq_some_iff, toOption_iff]

/-- A unit has a spelling when there is a grammar text that counts for it. -/
theorem exists_find (h : ofTable t = .ok x) (hg : t.grammarFor kana = some g) :
    ∃ s ∈ x.spellings, x.find kana = some s ∧ Spelling.parse g = .ok s := by
  obtain ⟨s, hs⟩ := exists_parse h (mem_of_grammarFor hg)
  have hheld : s ∈ x.spellings := (mem_spellings_iff h).mpr ⟨g, mem_of_grammarFor hg, hs⟩
  exact ⟨s, hheld, (find_eq_some_iff h).mpr ⟨g, hg, hs⟩, hs⟩

theorem find_eq_none_iff (h : ofTable t = .ok x) :
    x.find kana = none ↔ t.grammarFor kana = none := by
  constructor
  · intro hfind
    refine Option.eq_none_iff_forall_not_mem.mpr fun g hg => ?_
    obtain ⟨s, -, hs, -⟩ := exists_find h hg
    rw [hfind] at hs
    cases hs
  · intro hg
    rw [find_eq h, hg]
    rfl

/-- **What the lexicon of a table holds.**  A table has a lexicon exactly when all grammar texts in
it can be read, and otherwise is refused because of the first that cannot, over the units of one
kana, of two, and of three.  The lexicon gives a Latin letter or digit the spelling of its key and
every other unit the one read from the text of the last entry that stands for it, and finds nothing
else.  It holds each spelling once: two units share one exactly when their grammar texts are equal,
and there are as many as different texts in the table and among the Latin keys. -/
theorem ofTable_contents (t : Table) :
    ((∃ fault, ofTable t = .error fault) ↔ ∃ row ∈ t.rows, ∀ s, Spelling.parse row.2 ≠ .ok s) ∧
      (∀ fault, ofTable t = .error fault ↔ ∃ before row after f,
        t.rows = before ++ row :: after ∧ (∀ r ∈ before, ∃ s, Spelling.parse r.2 = .ok s) ∧
          Spelling.parse row.2 = .error f ∧ fault = .grammar row.1 f) ∧
      ∀ x, ofTable t = .ok x →
        (∀ c, isLatin c = true → x.find [c] = some (.ofKey (latinKey c))) ∧
        (∀ kana s, x.find kana = some s ↔
          ∃ g, t.grammarFor kana = some g ∧ Spelling.parse g = .ok s) ∧
        (∀ kana, x.find kana = none ↔ t.grammarFor kana = none) ∧
        x.spellings.Nodup ∧
        (∀ kana kana' g g', t.grammarFor kana = some g → t.grammarFor kana' = some g' →
          ((∃ s ∈ x.spellings, x.find kana = some s ∧ x.find kana' = some s) ↔ g = g')) ∧
        x.spellingCount = (t.grammars ++ latinKeys.map ([·])).toFinset.card := by
  refine ⟨?_, fun fault => ?_, fun x h => ⟨fun c hc => ?_, fun _ _ => find_eq_some_iff h,
    fun _ => find_eq_none_iff h, (holds_of_ofTable h).nodup, fun kana kana' g g' hg hg' => ?_,
    spellingCount_eq h⟩⟩
  · have hrows : (∃ x, ofTable t = .ok x) ↔ ∀ row ∈ t.rows, ∃ s, Spelling.parse row.2 = .ok s :=
      exists_ofTable_iff.trans Table.forall_rows.symm
    have hdual : (∃ fault, ofTable t = .error fault) ↔ ¬∃ x, ofTable t = .ok x := by
      cases ofTable t <;> simp
    rw [hdual, hrows]
    push Not
    rfl
  · rw [ofTable_eq_error_iff, List.findSome?_eq_some_iff]
    simp only [Table.rowFault_eq_some_iff, Table.rowFault_eq_none_iff]
    constructor
    · rintro ⟨before, row, after, hrows, ⟨f, hf, rfl⟩, hbefore⟩
      exact ⟨before, row, after, f, hrows, hbefore, hf, rfl⟩
    · rintro ⟨before, row, after, f, hrows, hbefore, hf, rfl⟩
      exact ⟨before, row, after, hrows, ⟨f, hf, rfl⟩, hbefore⟩
  · have hg : t.grammarFor [c] = some [latinKey c] := if_pos hc
    exact (find_eq_some_iff h).mpr ⟨_, hg, parse_latinKey (latinKey_mem_latinKeys hc)⟩
  · obtain ⟨s, hheld, hs, hread⟩ := exists_find h hg
    obtain ⟨s', -, hs', hread'⟩ := exists_find h hg'
    rw [Spelling.eq_iff_of_parse hread hread', hs, hs']
    constructor
    · rintro ⟨r, -, hr, hr'⟩
      exact Option.some.inj (hr.trans hr'.symm)
    · rintro rfl
      exact ⟨s, hheld, rfl, rfl⟩

/-- The katakana カ is given after か and counts for itself, the letter ａ keeps its key, and two
units share a spelling.  An optional mark alone is refused. -/
theorem ofTable_contents_sample :
    let t : Table :=
      { single := [Table.one 'か' "KA", Table.one 'カ' "CA", Table.one 'ａ' "B"]
        pair := [Table.two 'っ' 'か' "CA"]
        triple := [] }
    ofTable { t with triple := [Table.three 'き' 'ゃ' 'ー' "?"] } =
        .error (.grammar ['き', 'ゃ', 'ー'] (.danglingOptional 0)) ∧
      ∃ x, ofTable t = .ok x ∧ x.find ['ａ'] = some (.ofKey 'A') ∧
        (∃ s ∈ x.spellings, x.find ['カ'] = some s ∧ x.find ['ッ', 'カ'] = some s) ∧
        x.find ['か', 'っ'] = none ∧ x.spellingCount = 38 := by
  intro t
  obtain ⟨x, hx⟩ : ∃ x, ofTable t = .ok x := ⟨_, rfl⟩
  obtain ⟨hlatin, -, hnone, -, hshare, hcount⟩ := (ofTable_contents t).2.2 x hx
  refine ⟨((ofTable_contents _).2.1 _).mpr ⟨t.rows, _, [], _, rfl, ?_, rfl, rfl⟩, x, hx,
    hlatin 'ａ' (by decide), (hshare _ _ _ _ rfl rfl).mpr rfl, (hnone _).mpr rfl, ?_⟩
  · exact Table.forall_rows.mpr (exists_ofTable_iff.mp ⟨x, hx⟩)
  · rw [hcount]
    decide

end Lexicon

end KanaTyping
