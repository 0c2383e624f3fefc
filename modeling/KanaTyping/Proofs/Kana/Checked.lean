import KanaTyping.Kana.Published
import KanaTyping.Proofs.Kana.Contents
import KanaTyping.Proofs.Toml.Keys

/-!
# Kana tables — what is checked, and what it is good for

A table that is read from a document makes a lexicon, and no key of it has the spelling of another
entry: the katakana that an entry stands for are never before its own kana, and the entries of a
document are in the order of their keys.

* `lastEntry_key`: where the entries stand in the order of their keys, each counts for its own kana.
* `Decodes`: what a document gives to the checks.  `Decodes.pairwise` has its entries in order.
* `exists_ofTable_of_parse`: a table that is read from a document makes a lexicon.

`parse_checked` puts them together.
-/

namespace KanaTyping

variable {n : Nat}

/-! ### No entry is shadowed -/

/-- An entry stands for no kana before its own. -/
theorem Entry.standsFor_eq_false_of_lt {e : Entry n} {kana : List Char} (h : kana < e.key.val) :
    e.standsFor kana = false := by
  refine Bool.eq_false_iff.mpr fun hstands => ?_
  obtain rfl | rfl := standsFor_iff.mp hstands
  · exact List.lt_irrefl _ h
  · exact not_map_toKatakana_lt e.key.val h

namespace Table

/-- The entries stand in the order of their keys. -/
def Ordered (es : List (Entry n)) : Prop :=
  es.Pairwise (·.key.val < ·.key.val)

theorem ordered_iff {es : List (Entry n)} :
    Ordered es ↔ (es.map Entry.row).Pairwise (·.1 < ·.1) := by
  rw [List.pairwise_map]
  rfl

/-- Where the entries stand in the order of their keys, each of them counts for its own unit. -/
theorem lastEntry_key {es : List (Entry n)} (hes : Ordered es) {e : Entry n} (he : e ∈ es) :
    lastEntry es e.key.val = some e := by
  induction es with
  | nil => cases he
  | cons e' es ih =>
      obtain ⟨hfirst, hes⟩ := List.pairwise_cons.mp hes
      rw [lastEntry_cons]
      rcases List.mem_cons.mp he with rfl | he
      · -- the entries after the first have greater keys, so none of them stands for its kana
        have hnone : lastEntry es e.key.val = none := by
          rw [lastEntry, List.getLast?_eq_none_iff, List.filter_eq_nil_iff]
          exact fun e' he' => Bool.eq_false_iff.mp (Entry.standsFor_eq_false_of_lt (hfirst e' he'))
        rw [hnone, if_pos (Entry.standsFor_iff.mpr (.inl rfl))]
        rfl
      · rw [ih hes he]
        rfl

variable {t : Table}

/-- In a table of which the entries stand in the order of their keys, each key has the grammar text
of its own entry, the Latin letters and digits apart. -/
theorem grammarFor_key (hsingle : Ordered t.single) (hpair : Ordered t.pair)
    (htriple : Ordered t.triple) :
    (∀ e ∈ t.single, (∀ c ∈ e.key.val, isLatin c = false) →
        t.grammarFor e.key.val = some e.grammar) ∧
      (∀ e ∈ t.pair, t.grammarFor e.key.val = some e.grammar) ∧
      ∀ e ∈ t.triple, t.grammarFor e.key.val = some e.grammar := by
  refine ⟨fun e he hlatin => ?_, fun e he => ?_, fun e he => ?_⟩
  · obtain ⟨c, hc⟩ := List.length_eq_one_iff.mp e.key.property
    have hlast := lastEntry_key hsingle he
    rw [hc] at hlast hlatin ⊢
    rw [grammarFor, if_neg (by simp [hlatin c]), hlast]
    rfl
  · obtain ⟨a, b, hab⟩ := List.length_eq_two.mp e.key.property
    have hlast := lastEntry_key hpair he
    rw [hab] at hlast ⊢
    rw [grammarFor, hlast]
    rfl
  · obtain ⟨a, b, c, habc⟩ := List.length_eq_three.mp e.key.property
    have hlast := lastEntry_key htriple he
    rw [habc] at hlast ⊢
    rw [grammarFor, hlast]
    rfl

/-! ### Documents -/

variable {document : List Char} {single pair triple : List (List Char × List Char)}
variable {s : Section} {rows : List (List Char × List Char)}

theorem rawSection_eq_error {root : Toml.Value} {place : Nat} {fault : Fault}
    (h : rawSection root s place = .error fault) : fault = .malformed := by
  rw [rawSection] at h
  split at h
  · cases h
  · split at h
    · cases h
      rfl
    · cases h

theorem pairwise_of_rawSection {root : Toml.Value} {place : Nat} (hroot : root.Distinct)
    (h : rawSection root s place = .ok rows) : rows.Pairwise (·.1 < ·.1) := by
  rw [rawSection] at h
  split at h
  · cases h
    exact List.Pairwise.nil
  · next v hv =>
    split at h
    · cases h
    · next htexts =>
      cases h
      exact (hroot.of_field hv).pairwise_texts htexts

section Decoder

variable [Toml.Decoder]

/-- The document is read, and its sections have the given entries. -/
def Decodes (document : List Char) (single pair triple : List (List Char × List Char)) : Prop :=
  ∃ root, Toml.Decoder.decode document = some root ∧ rawSection root .single 0 = .ok single ∧
    rawSection root .pair 1 = .ok pair ∧ rawSection root .triple 2 = .ok triple

theorem Decodes.parse_eq (h : Decodes document single pair triple) :
    parse document = ofRaw single pair triple := by
  obtain ⟨root, hroot, hsingle, hpair, htriple⟩ := h
  rw [parse, hroot]
  simp only [hsingle, hpair, htriple]
  rfl

/-- A document that does not decode is refused as malformed. -/
theorem exists_decodes_or_malformed (document : List Char) :
    (∃ single pair triple, Decodes document single pair triple) ∨
      parse document = .error .malformed := by
  cases hroot : Toml.Decoder.decode document with
  | none =>
      rw [parse, hroot]
      exact .inr rfl
  | some root =>
      cases h : parse document with
      | ok t =>
          rw [parse, hroot] at h
          simp only [bind_eq_ok_iff] at h
          obtain ⟨single, hsingle, pair, hpair, triple, htriple, -⟩ := h
          exact .inl ⟨single, pair, triple, root, hroot, hsingle, hpair, htriple⟩
      | error fault =>
          rw [parse, hroot] at h
          simp only [bind_eq_error_iff] at h
          rcases h with h | ⟨single, hsingle, h | ⟨pair, hpair, h | ⟨triple, htriple, -⟩⟩⟩
          · exact .inr (congrArg _ (rawSection_eq_error h))
          · exact .inr (congrArg _ (rawSection_eq_error h))
          · exact .inr (congrArg _ (rawSection_eq_error h))
          · exact .inl ⟨single, pair, triple, root, hroot, hsingle, hpair, htriple⟩

/-- The entries of a document stand in the order of their keys, each key once. -/
theorem Decodes.pairwise [Toml.LawfulDecoder] (h : Decodes document single pair triple) :
    single.Pairwise (·.1 < ·.1) ∧ pair.Pairwise (·.1 < ·.1) ∧ triple.Pairwise (·.1 < ·.1) := by
  obtain ⟨root, hroot, hsingle, hpair, htriple⟩ := h
  have hdistinct := Toml.LawfulDecoder.distinct hroot
  exact ⟨pairwise_of_rawSection hdistinct hsingle, pairwise_of_rawSection hdistinct hpair,
    pairwise_of_rawSection hdistinct htriple⟩

/-- A table that is read from a document has the entries of the document. -/
theorem decodes_of_parse (h : parse document = .ok t) :
    Decodes document (t.single.map Entry.row) (t.pair.map Entry.row) (t.triple.map Entry.row) := by
  obtain ⟨single, pair, triple, hdecodes⟩ | hmalformed := exists_decodes_or_malformed document
  · rw [hdecodes.parse_eq] at h
    obtain ⟨rfl, rfl, rfl⟩ := rows_of_ofRaw h
    exact hdecodes
  · rw [hmalformed] at h
    cases h

/-- The lexicon of a table that is read from a document. -/
theorem exists_ofTable_of_parse (h : parse document = .ok t) : ∃ x, Lexicon.ofTable t = .ok x := by
  rw [(decodes_of_parse h).parse_eq] at h
  obtain ⟨-, -, hread⟩ := exists_ofRaw_iff.mp ⟨t, h⟩
  exact Lexicon.exists_ofTable_iff.mpr (forall_rows.mp hread)

/-- **What the checks of a kana table are for.**  The sections of a document have their entries in
the order of their keys.  The document is a table exactly when every section has entries, with keys
of the length of the section and grammar texts that can be read; otherwise it is refused because of
the first fault, section by section and entry by entry, that of a key before that of its grammar
text.  A table that is read has the entries of the document and makes a lexicon, which finds every
key with the grammar text of its own entry: none is shadowed by the katakana of another.  Only the
Latin letters and digits among the units of one kana have the spelling of their key instead. -/
theorem parse_checked [Toml.LawfulDecoder] (document : List Char) :
    (∀ single pair triple, Decodes document single pair triple →
      (single.Pairwise (·.1 < ·.1) ∧ pair.Pairwise (·.1 < ·.1) ∧ triple.Pairwise (·.1 < ·.1)) ∧
      ((∃ t, parse document = .ok t) ↔
        (single ≠ [] ∧ pair ≠ [] ∧ triple ≠ []) ∧
          ((∀ row ∈ single, row.1.length = 1) ∧ (∀ row ∈ pair, row.1.length = 2) ∧
            ∀ row ∈ triple, row.1.length = 3) ∧
          ∀ row ∈ single ++ pair ++ triple, ∃ s, Spelling.parse row.2 = .ok s) ∧
      (∀ fault, parse document = .error fault ↔
        (faults single pair triple).head? = some fault) ∧
      ∀ t, parse document = .ok t → t.single.map Entry.row = single ∧
        t.pair.map Entry.row = pair ∧ t.triple.map Entry.row = triple) ∧
    ∀ t, parse document = .ok t → ∃ x, Lexicon.ofTable t = .ok x ∧
      (∀ e ∈ t.single, (∀ c ∈ e.key.val, isLatin c = false) →
        ∃ s, x.find e.key.val = some s ∧ s.write = e.grammar) ∧
      (∀ e ∈ t.pair, ∃ s, x.find e.key.val = some s ∧ s.write = e.grammar) ∧
      ∀ e ∈ t.triple, ∃ s, x.find e.key.val = some s ∧ s.write = e.grammar := by
  refine ⟨fun single pair triple h => ⟨h.pairwise, ?_, ?_, fun t ht => ?_⟩, fun t ht => ?_⟩
  · rw [h.parse_eq]
    exact exists_ofRaw_iff
  · rw [h.parse_eq]
    exact reports_ofRaw single pair triple
  · rw [h.parse_eq] at ht
    exact rows_of_ofRaw ht
  · obtain ⟨hsingle, hpair, htriple⟩ := (decodes_of_parse ht).pairwise
    obtain ⟨hsingle, hpair, htriple⟩ := grammarFor_key (ordered_iff.mpr hsingle)
      (ordered_iff.mpr hpair) (ordered_iff.mpr htriple)
    obtain ⟨x, hx⟩ := exists_ofTable_of_parse ht
    have hfind : ∀ {kana g}, t.grammarFor kana = some g →
        ∃ s, x.find kana = some s ∧ s.write = g := by
      intro kana g hg
      obtain ⟨s, -, hs, hread⟩ := Lexicon.exists_find hx hg
      exact ⟨s, hs, Spelling.write_of_parse hread⟩
    exact ⟨x, hx, fun e he hlatin => hfind (hsingle e he hlatin), fun e he => hfind (hpair e he),
      fun e he => hfind (htriple e he)⟩

end Decoder

/-- A document that gives katakana entries of their own, some of them before the hiragana they
would stand for. -/
def sampleDocument : List Char :=
  ("[single]\n'カ' = 'CA'\n'か' = 'KA'\n" ++
    "[pair]\n'キゃ' = 'QA'\n'きゃ' = 'KYA'\n[triple]\n'っきゃ' = 'KKYA'\n").toList

/-- The entries of a section as they are held, the latest first. -/
def heldSection (root : Toml.Value) (s : Section) (place : Nat) :
    Option (List (List Char × List Char)) := do
  let v ← root.field? s.name place
  let es ← v.entries?
  es.mapM fun (k, v) => v.text?.map (k, ·)

/-- A section of which the entries are held in the order of their keys. -/
theorem rawSection_of_heldSection {root : Toml.Value} {place : Nat}
    (h : heldSection root s place = some rows)
    (hsorted : rows.Pairwise fun a b => (!decide (b.1 < a.1)) = true) :
    rawSection root s place = .ok rows := by
  obtain ⟨v, hv, h⟩ := Option.bind_eq_some_iff.mp h
  obtain ⟨es, hes, hrows⟩ := Option.bind_eq_some_iff.mp h
  have htexts : v.texts? = some rows := by
    rw [Toml.Value.texts?, hes, Option.bind_eq_bind, Option.bind_some, hrows]
    exact congrArg some (List.mergeSort_of_pairwise hsorted)
  rw [rawSection, hv]
  simp only [htexts]

theorem decodes_sampleDocument :
    Decodes sampleDocument [(['か'], ['K', 'A']), (['カ'], ['C', 'A'])]
      [(['き', 'ゃ'], ['K', 'Y', 'A']), (['キ', 'ゃ'], ['Q', 'A'])]
      [(['っ', 'き', 'ゃ'], ['K', 'K', 'Y', 'A'])] := by
  have hheld : (Toml.parse sampleDocument).map (fun root =>
        [heldSection root .single 0, heldSection root .pair 1, heldSection root .triple 2]) =
      some [some [(['か'], ['K', 'A']), (['カ'], ['C', 'A'])],
        some [(['き', 'ゃ'], ['K', 'Y', 'A']), (['キ', 'ゃ'], ['Q', 'A'])],
        some [(['っ', 'き', 'ゃ'], ['K', 'K', 'Y', 'A'])]] := by
    decide +kernel
  obtain ⟨root, hroot, hsections⟩ := Option.map_eq_some_iff.mp hheld
  simp only [List.cons.injEq, and_true] at hsections
  obtain ⟨hsingle, hpair, htriple⟩ := hsections
  exact ⟨root, hroot, rawSection_of_heldSection hsingle (by decide),
    rawSection_of_heldSection hpair (by decide), rawSection_of_heldSection htriple (by decide)⟩

/-- The document is not refused, and each of its units is found with its own grammar text. -/
theorem parse_checked_sample :
    (∀ fault, parse sampleDocument ≠ .error fault) ∧
      ∃ t x, parse sampleDocument = .ok t ∧ Lexicon.ofTable t = .ok x ∧
        (∃ s, x.find ['か'] = some s ∧ s.write = ['K', 'A']) ∧
        (∃ s, x.find ['カ'] = some s ∧ s.write = ['C', 'A']) ∧
        ∃ s, x.find ['キ', 'ゃ'] = some s ∧ s.write = ['Q', 'A'] := by
  constructor
  · intro fault h
    obtain ⟨-, -, hfault, -⟩ := (parse_checked sampleDocument).1 _ _ _ decodes_sampleDocument
    cases (hfault fault).mp h
  · have ht : parse sampleDocument = .ok
        { single := [one 'か' "KA", one 'カ' "CA"]
          pair := [two 'き' 'ゃ' "KYA", two 'キ' 'ゃ' "QA"]
          triple := [three 'っ' 'き' 'ゃ' "KKYA"] } := by
      rw [decodes_sampleDocument.parse_eq]
      rfl
    obtain ⟨x, hx, hsingle, hpair, -⟩ := (parse_checked sampleDocument).2 _ ht
    refine ⟨_, x, ht, hx, ?_, ?_, ?_⟩
    · exact hsingle (one 'か' "KA") (by simp) (List.forall_mem_singleton.mpr (by decide))
    · exact hsingle (one 'カ' "CA") (by simp) (List.forall_mem_singleton.mpr (by decide))
    · exact hpair (two 'キ' 'ゃ' "QA") (by simp)

end Table

end KanaTyping
