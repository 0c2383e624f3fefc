import Mathlib.Tactic.Tauto
import KanaTyping.Proofs.Kana.Sources

/-!
# Kana tables — the first fault

Whatever is refused on the way from the texts of a table to its lexicon is refused because of the
first of its faults.  `Reports` says this of an action and a list of faults, and goes through chains
and loops of actions.

* `Table.reports_ofRaw`: the checks of three sections, with all their faults.
* `Lexicon.reports_ofTable`: the making of a lexicon, with the grammar texts that cannot be read.
* `Table.exists_ofRaw_iff` and `Lexicon.exists_ofTable_iff`: what is not refused.
-/

namespace KanaTyping

variable {n : Nat}

/-! ### The first of several errors -/

section Reports

variable {ε α β : Type} {m : Except ε α} {k : α → Except ε β} {errors others : List ε} {e : ε}

/-- The action fails with the first of the errors, and succeeds if there is none. -/
def Reports (m : Except ε α) (errors : List ε) : Prop :=
  ∀ e, m = .error e ↔ errors.head? = some e

theorem Reports.exists_ok_iff (h : Reports m errors) : (∃ a, m = .ok a) ↔ errors = [] := by
  cases m with
  | error e =>
      have hhead := (h e).mp rfl
      constructor
      · rintro ⟨a, ha⟩
        cases ha
      · rintro rfl
        cases hhead
  | ok a =>
      refine ⟨fun _ => List.head?_eq_none_iff.mp ?_, fun _ => ⟨a, rfl⟩⟩
      refine Option.eq_none_iff_forall_not_mem.mpr fun e he => ?_
      cases (h e).mpr he

theorem reports_ok (a : α) : Reports (.ok a : Except ε α) [] :=
  fun _ => by simp

theorem reports_error (e : ε) (others : List ε) : Reports (.error e : Except ε α) (e :: others) :=
  fun _ => by simp

/-- A chain of two actions fails with the first error of the one, or else of the other. -/
theorem Reports.bind (h : Reports m errors) (hk : ∀ a, m = .ok a → Reports (k a) others) :
    Reports (m >>= k) (errors ++ others) := by
  intro e
  rw [bind_eq_error_iff, h, List.head?_append, Option.or_eq_some_iff, List.head?_eq_none_iff]
  refine or_congr_right ⟨?_, ?_⟩
  · rintro ⟨a, ha, he⟩
    exact ⟨h.exists_ok_iff.mp ⟨a, ha⟩, (hk a ha e).mp he⟩
  · rintro ⟨hnone, he⟩
    obtain ⟨a, ha⟩ := h.exists_ok_iff.mpr hnone
    exact ⟨a, ha, (hk a ha e).mpr he⟩

theorem Reports.mapM {check : α → Except ε β} {errorsOf : α → List ε}
    (h : ∀ a, Reports (check a) (errorsOf a)) (as : List α) :
    Reports (as.mapM check) (as.flatMap errorsOf) := by
  induction as with
  | nil => exact reports_ok _
  | cons a as ih =>
      rw [List.mapM_cons, List.flatMap_cons]
      refine (h a).bind fun b _ => ?_
      rw [← List.append_nil (as.flatMap errorsOf)]
      exact ih.bind fun bs _ => reports_ok _

theorem Reports.foldlM {add : β → α → Except ε β} {errorsOf : α → List ε}
    (h : ∀ b a, Reports (add b a) (errorsOf a)) (as : List α) (b : β) :
    Reports (as.foldlM add b) (as.flatMap errorsOf) := by
  induction as generalizing b with
  | nil => exact reports_ok b
  | cons a as ih =>
      rw [List.foldlM_cons, List.flatMap_cons]
      exact (h b a).bind fun b' _ => ih b'

end Reports

/-! ### The faults of a table -/

/-- The kana of an entry and its grammar text. -/
def Entry.row (e : Entry n) : List Char × List Char :=
  (e.key.val, e.grammar)

namespace Table

/-- The kana and grammar texts of a table: its units of one kana, of two, and of three. -/
def rows (t : Table) : List (List Char × List Char) :=
  t.single.map Entry.row ++ t.pair.map Entry.row ++ t.triple.map Entry.row

/-- The fault of a row of which the grammar text cannot be read. -/
def rowFault (row : List Char × List Char) : Option Fault :=
  match Spelling.parse row.2 with
  | .error f => some (.grammar row.1 f)
  | .ok _ => none

variable {s : Section} {row : List Char × List Char} {rows : List (List Char × List Char)}
variable {single pair triple : List (List Char × List Char)} {t : Table} {fault : Fault}

theorem rowFault_eq_some_iff : rowFault row = some fault ↔
    ∃ f, Spelling.parse row.2 = .error f ∧ fault = .grammar row.1 f := by
  rw [rowFault]
  cases Spelling.parse row.2 with
  | error f => simp [eq_comm]
  | ok s => simp

theorem rowFault_eq_none_iff : rowFault row = none ↔ ∃ s, Spelling.parse row.2 = .ok s := by
  rw [rowFault]
  cases Spelling.parse row.2 with
  | error f => simp
  | ok s => simp

theorem forall_rows {P : List Char → Prop} :
    (∀ row ∈ t.rows, P row.2) ↔ ∀ g ∈ t.grammars, P g := by
  simp only [rows, grammars, List.mem_append, or_imp, forall_and, List.forall_mem_map]
  rfl

/-- The faults of an entry of a section: that of its key, and that of its grammar text. -/
def entryFaults (s : Section) (row : List Char × List Char) : List Fault :=
  (if row.1.length = s.size then [] else [.keyLength s row.1]) ++ (rowFault row).toList

/-- The faults of a section: that it has no entry, and those of its entries. -/
def sectionFaults (s : Section) (rows : List (List Char × List Char)) : List Fault :=
  (if rows = [] then [.empty s] else []) ++ rows.flatMap (entryFaults s)

/-- The faults of three sections, in the order in which they are looked for. -/
def faults (single pair triple : List (List Char × List Char)) : List Fault :=
  sectionFaults .single single ++ (sectionFaults .pair pair ++ sectionFaults .triple triple)

theorem reports_checkEntry (s : Section) (row : List Char × List Char) :
    Reports (checkEntry s row) (entryFaults s row) := by
  rw [checkEntry, entryFaults, rowFault]
  split
  · cases Spelling.parse row.2 with
    | error f => exact reports_error _ _
    | ok sp => exact reports_ok _
  · exact reports_error _ _

theorem reports_checkSection (s : Section) (rows : List (List Char × List Char)) :
    Reports (checkSection s rows) (sectionFaults s rows) := by
  rw [checkSection, sectionFaults]
  cases rows with
  | nil => exact reports_error _ _
  | cons row rows => exact Reports.mapM (reports_checkEntry s) (row :: rows)

/-- Three sections are refused because of the first fault in them. -/
theorem reports_ofRaw (single pair triple : List (List Char × List Char)) :
    Reports (ofRaw single pair triple) (faults single pair triple) := by
  refine (reports_checkSection .single single).bind fun a _ =>
    (reports_checkSection .pair pair).bind fun b _ => ?_
  rw [← List.append_nil (sectionFaults .triple triple)]
  exact (reports_checkSection .triple triple).bind fun c _ => reports_ok _

theorem sectionFaults_eq_nil_iff :
    sectionFaults s rows = [] ↔
      rows ≠ [] ∧ ∀ row ∈ rows, row.1.length = s.size ∧ ∃ sp, Spelling.parse row.2 = .ok sp := by
  simp [sectionFaults, entryFaults, rowFault_eq_none_iff]

/-! ### The entries of a table that is checked -/

theorem row_of_checkEntry {e : Entry s.size} (h : checkEntry s row = .ok e) : e.row = row := by
  rw [checkEntry] at h
  split at h
  · cases hread : Spelling.parse row.2 with
    | error f => rw [hread] at h; cases h
    | ok sp => rw [hread] at h; cases h; rfl
  · cases h

/-- Checking changes nothing about the entries. -/
theorem rows_of_checkEntries {es : List (Entry s.size)} (h : rows.mapM (checkEntry s) = .ok es) :
    es.map Entry.row = rows := by
  induction rows generalizing es with
  | nil => cases h; rfl
  | cons row rows ih =>
      rw [List.mapM_cons] at h
      obtain ⟨e, he, h⟩ := bind_eq_ok_iff.mp h
      obtain ⟨es, hes, h⟩ := bind_eq_ok_iff.mp h
      cases h
      rw [List.map_cons, row_of_checkEntry he, ih hes]

theorem rows_of_checkSection {es : List (Entry s.size)} (h : checkSection s rows = .ok es) :
    es.map Entry.row = rows := by
  rw [checkSection] at h
  split at h
  · cases h
  · exact rows_of_checkEntries h

theorem rows_of_ofRaw (h : ofRaw single pair triple = .ok t) :
    t.single.map Entry.row = single ∧ t.pair.map Entry.row = pair ∧
      t.triple.map Entry.row = triple := by
  obtain ⟨a, ha, h⟩ := bind_eq_ok_iff.mp h
  obtain ⟨b, hb, h⟩ := bind_eq_ok_iff.mp h
  obtain ⟨c, hc, h⟩ := bind_eq_ok_iff.mp h
  cases h
  exact ⟨rows_of_checkSection ha, rows_of_checkSection hb, rows_of_checkSection hc⟩

/-- Three sections make a table exactly when each has entries, all of them with keys of the length
of the section and with grammar texts that can be read. -/
theorem exists_ofRaw_iff : (∃ t, ofRaw single pair triple = .ok t) ↔
    (single ≠ [] ∧ pair ≠ [] ∧ triple ≠ []) ∧
      ((∀ row ∈ single, row.1.length = 1) ∧ (∀ row ∈ pair, row.1.length = 2) ∧
        ∀ row ∈ triple, row.1.length = 3) ∧
      ∀ row ∈ single ++ pair ++ triple, ∃ sp, Spelling.parse row.2 = .ok sp := by
  rw [(reports_ofRaw single pair triple).exists_ok_iff]
  simp only [faults, List.append_eq_nil_iff, sectionFaults_eq_nil_iff, Section.size,
    forall_and, List.mem_append, or_imp]
  tauto

end Table

/-! ### The faults of a lexicon -/

namespace Lexicon

variable {t : Table} {fault : Table.Fault}

theorem reports_addEntry (x : Lexicon) (e : Entry n) :
    Reports (x.addEntry e) (Table.rowFault e.row).toList := by
  simp only [addEntry, Table.rowFault, Entry.row]
  cases Spelling.parse e.grammar with
  | error f => exact reports_error _ _
  | ok s => exact reports_ok _

theorem reports_addEntries (es : List (Entry n)) (x : Lexicon) :
    Reports (es.foldlM addEntry x)
      ((es.map Entry.row).flatMap fun row => (Table.rowFault row).toList) := by
  rw [List.flatMap_map]
  exact Reports.foldlM reports_addEntry es x

/-- A table has no lexicon because of the first grammar text in it that cannot be read. -/
theorem reports_ofTable (t : Table) :
    Reports (ofTable t) (t.rows.flatMap fun row => (Table.rowFault row).toList) := by
  rw [Table.rows, List.append_assoc, List.flatMap_append, List.flatMap_append]
  exact (reports_addEntries t.single _).bind fun a _ =>
    (reports_addEntries t.pair _).bind fun b _ => reports_addEntries t.triple b

theorem ofTable_eq_error_iff :
    ofTable t = .error fault ↔ t.rows.findSome? Table.rowFault = some fault := by
  rw [reports_ofTable t fault, List.head?_flatMap]
  simp only [Option.head?_toList]

/-- A table has a lexicon exactly when all grammar texts in it can be read. -/
theorem exists_ofTable_iff :
    (∃ x, ofTable t = .ok x) ↔ ∀ g ∈ t.grammars, ∃ s, Spelling.parse g = .ok s := by
  rw [(reports_ofTable t).exists_ok_iff, ← Table.forall_rows]
  simp [Table.rowFault_eq_none_iff]

end Lexicon

end KanaTyping
