import Mathlib.Data.List.Nodup
import KanaTyping.Toml.Document

/-!
# TOML documents — no key twice

A document is refused when it gives a key of a table twice, however the two are written: in lines,
as dotted keys, as headings or in an inline table.  So a table of a document that is read is a map
from its keys to their values.

* `Entries.Distinct.change`: a change below a table gives it no key twice, when what is done at the
  end of the path does not.
* `of_rounds`: what every round of a loop keeps, its result has.
* `distinct_of_parse`: no table of a document that is read has a key twice (`LawfulDecoder`).
* `Value.Distinct.pairwise_texts`: the texts of a table are in the order of their keys, each once.
-/

namespace KanaTyping.Toml

/-- No table in the value has a key twice. -/
inductive Value.Distinct : Value → Prop
  | text (cs : List Char) : Distinct (.text cs)
  | integer (n : Int) : Distinct (.integer n)
  | float (x : Float) : Distinct (.float x)
  | boolean (b : Bool) : Distinct (.boolean b)
  | moment (written : List Char) : Distinct (.moment written)
  | array {items : List Value} (values : ∀ v ∈ items, Distinct v) : Distinct (.array items)
  | table {origin : Origin} {es : Entries} (keys : (es.map Prod.fst).Nodup)
      (values : ∀ e ∈ es, Distinct e.2) : Distinct (.table origin es)
  | tables {items : List Entries} (keys : ∀ es ∈ items, (es.map Prod.fst).Nodup)
      (values : ∀ es ∈ items, ∀ e ∈ es, Distinct e.2) : Distinct (.tables items)

/-- The entries have no key twice, and no table in their values has. -/
structure Entries.Distinct (es : Entries) : Prop where
  keys : (es.map Prod.fst).Nodup
  values : ∀ e ∈ es, e.2.Distinct

theorem Value.distinct_table_iff {origin : Origin} {es : Entries} :
    (Value.table origin es).Distinct ↔ es.Distinct :=
  ⟨fun h => by cases h with | table keys values => exact ⟨keys, values⟩,
    fun h => .table h.keys h.values⟩

theorem Value.distinct_tables_iff {items : List Entries} :
    (Value.tables items).Distinct ↔ ∀ es ∈ items, es.Distinct :=
  ⟨fun h es hes => by cases h with | tables keys values => exact ⟨keys es hes, values es hes⟩,
    fun h => .tables (fun es hes => (h es hes).keys) fun es hes => (h es hes).values⟩

namespace Entries

variable {es es' : Entries} {path : List (List Char)} {key : List Char} {v : Value}

theorem distinct_nil : Entries.Distinct [] :=
  ⟨List.nodup_nil, by simp⟩

theorem Distinct.of_lookup (h : es.Distinct) (hv : List.lookup key es = some v) : v.Distinct := by
  obtain ⟨before, after, hes, -⟩ := List.lookup_eq_some_iff.mp hv
  exact h.values (key, v) (hes ▸ List.mem_append_right _ List.mem_cons_self)

/-- A new key is added. -/
theorem Distinct.cons (h : es.Distinct) (hkey : List.lookup key es = none) (hv : v.Distinct) :
    Entries.Distinct ((key, v) :: es) := by
  refine ⟨List.nodup_cons.mpr ⟨?_, h.keys⟩, List.forall_mem_cons.mpr ⟨hv, h.values⟩⟩
  rintro hmem
  obtain ⟨e, he, rfl⟩ := List.mem_map.mp hmem
  simpa using List.lookup_eq_none_iff.mp hkey e he

theorem keys_set (key : List Char) (v : Value) (es : Entries) :
    (set key v es).map Prod.fst = es.map Prod.fst := by
  induction es with
  | nil => rfl
  | cons e es ih =>
      rw [set]
      split
      · rfl
      · rw [List.map_cons, List.map_cons, ih]

theorem forall_mem_set {P : Value → Prop} (h : ∀ e ∈ es, P e.2) (hv : P v) :
    ∀ e ∈ set key v es, P e.2 := by
  induction es with
  | nil => exact h
  | cons e es ih =>
      rw [List.forall_mem_cons] at h
      rw [set]
      split
      · exact List.forall_mem_cons.mpr ⟨hv, h.2⟩
      · exact List.forall_mem_cons.mpr ⟨h.1, ih h.2⟩

/-- The value of a key is changed. -/
theorem Distinct.set (h : es.Distinct) (hv : v.Distinct) : (set key v es).Distinct :=
  ⟨by rw [keys_set]; exact h.keys, forall_mem_set h.values hv⟩

/-- A change below a table gives it no key twice, when what is done at the end of the path does
not. -/
theorem Distinct.change {dotted : Bool} {f : Origin → Entries → Option Entries}
    (hf : ∀ {origin es es'}, Distinct es → f origin es = some es' → Distinct es')
    {origin : Origin} (h : es.Distinct) (hchange : change dotted f path origin es = some es') :
    es'.Distinct := by
  induction path generalizing origin es es' with
  | nil => exact hf h hchange
  | cons key path ih =>
      rw [Entries.change] at hchange
      split at hchange
      · next hkey =>
        obtain ⟨inner, hinner, e⟩ := Option.bind_eq_some_iff.mp hchange
        cases e
        exact h.cons hkey (Value.distinct_table_iff.mpr (ih distinct_nil hinner))
      · cases hchange
      · next hkey =>
        split at hchange
        · cases hchange
        · obtain ⟨inner, hinner, e⟩ := Option.bind_eq_some_iff.mp hchange
          cases e
          have hbefore := Value.distinct_table_iff.mp (h.of_lookup hkey)
          exact h.set (Value.distinct_table_iff.mpr (ih hbefore hinner))
      · next hkey =>
        obtain ⟨inner, hinner, e⟩ := Option.bind_eq_some_iff.mp hchange
        cases e
        have hbefore := List.forall_mem_cons.mp (Value.distinct_tables_iff.mp (h.of_lookup hkey))
        refine h.set (Value.distinct_tables_iff.mpr ?_)
        exact List.forall_mem_cons.mpr ⟨ih hbefore.1 hinner, hbefore.2⟩
      · cases hchange

theorem Distinct.addKey {origin : Origin} (h : es.Distinct) (hv : v.Distinct)
    (hadd : addKey path key v origin es = some es') : es'.Distinct := by
  refine h.change (fun {_ es es'} hes hend => ?_) hadd
  split at hend
  · next hnew =>
    cases hend
    simp only [Bool.and_eq_true, Option.isNone_iff_eq_none] at hnew
    exact hes.cons hnew.2 hv
  · cases hend

theorem Distinct.openTable (h : es.Distinct) (hopen : openTable path key es = some es') :
    es'.Distinct := by
  refine h.change (fun {_ es es'} hes hend => ?_) hopen
  split at hend
  · next hkey =>
    cases hend
    exact hes.cons hkey (Value.distinct_table_iff.mpr distinct_nil)
  · next hkey =>
    cases hend
    have hbefore := Value.distinct_table_iff.mp (hes.of_lookup hkey)
    exact hes.set (Value.distinct_table_iff.mpr hbefore)
  · cases hend

theorem Distinct.openNext (h : es.Distinct) (hopen : openNext path key es = some es') :
    es'.Distinct := by
  refine h.change (fun {_ es es'} hes hend => ?_) hopen
  split at hend
  · next hkey =>
    cases hend
    exact hes.cons hkey (Value.distinct_tables_iff.mpr (by simp [distinct_nil]))
  · next hkey =>
    cases hend
    have hbefore := Value.distinct_tables_iff.mp (hes.of_lookup hkey)
    exact hes.set (Value.distinct_tables_iff.mpr (List.forall_mem_cons.mpr ⟨distinct_nil, hbefore⟩))
  · cases hend

end Entries

/-! ### Loops -/

/-- A round leads on to states of the one kind, or to a result of the other. -/
def Round.Keeps {σ α : Type} (P : σ → Prop) (Q : α → Prop) : Round σ α → Prop
  | .more s _ => P s
  | .done a _ => Q a

/-- What every round of a loop keeps, its result has. -/
theorem of_rounds {σ α : Type} {round : σ → List Char → Option (Round σ α)} {P : σ → Prop}
    {Q : α → Prop} (hround : ∀ s cs r, P s → round s cs = some r → r.Keeps P Q) {s : σ}
    {cs rest : List Char} {a : α} (hs : P s) (h : rounds round s cs = some (a, rest)) : Q a := by
  rw [rounds] at h
  generalize cs.length + 1 = fuel at h
  induction fuel generalizing s cs with
  | zero => cases h
  | succ fuel ih =>
      rw [roundsFor] at h
      split at h
      · cases h
      · next hr => exact ih (hround _ _ _ hs hr) h
      · next hr =>
        cases h
        exact hround _ _ _ hs hr

/-! ### Values -/

variable {cs rest : List Char} {v : Value}

theorem distinct_of_moment (h : moment cs = some (v, rest)) : v.Distinct := by
  obtain ⟨r, -, e⟩ := Option.map_eq_some_iff.mp h
  cases e
  exact .moment _

theorem distinct_of_float (h : float cs = some (v, rest)) : v.Distinct := by
  rw [float] at h
  generalize sign cs = signed at h
  dsimp only at h
  split at h
  · cases h
    exact .float _
  · obtain ⟨_, -, h⟩ := Option.bind_eq_some_iff.mp h
    obtain ⟨_, -, h⟩ := Option.bind_eq_some_iff.mp h
    obtain ⟨-, h⟩ := Option.ite_none_left_eq_some.mp h
    cases h
    exact .float _

theorem distinct_of_based {base : Nat} (h : based base cs = some (v, rest)) : v.Distinct := by
  obtain ⟨_, -, h⟩ := Option.bind_eq_some_iff.mp h
  obtain ⟨-, h⟩ := Option.ite_none_right_eq_some.mp h
  cases h
  exact .integer _

theorem distinct_of_integer (h : integer cs = some (v, rest)) : v.Distinct := by
  rw [integer.eq_def] at h
  split at h
  · exact distinct_of_based h
  · exact distinct_of_based h
  · exact distinct_of_based h
  · generalize sign cs = signed at h
    obtain ⟨_, -, h⟩ := Option.bind_eq_some_iff.mp h
    obtain ⟨-, h⟩ := Option.ite_none_right_eq_some.mp h
    cases h
    exact .integer _

theorem distinct_of_number (h : number cs = some (v, rest)) : v.Distinct := by
  simp only [number, Option.orElse_eq_orElse, Option.orElse_eq_or, Option.or_eq_some_iff] at h
  rcases h with h | ⟨-, h | ⟨-, h⟩⟩
  · exact distinct_of_moment h
  · exact distinct_of_float h
  · exact distinct_of_integer h

/-- A reader of values of which no table has a key twice. -/
def ReadsDistinct (item : Reader Value) : Prop :=
  ∀ cs v rest, item cs = some (v, rest) → v.Distinct

variable {item : Reader Value}

theorem distinct_of_itemRound (hitem : ReadsDistinct item) {before : List Value}
    {r : Round (List Value) Value} (h : ∀ v ∈ before, v.Distinct)
    (hround : itemRound item before cs = some r) :
    r.Keeps (fun before => ∀ v ∈ before, v.Distinct) Value.Distinct := by
  have array_reverse : ∀ {vs : List Value}, (∀ v ∈ vs, v.Distinct) →
      (Value.array vs.reverse).Distinct := fun hvs => .array (by simpa using hvs)
  rw [itemRound] at hround
  split at hround
  · cases hround
    exact array_reverse h
  · obtain ⟨⟨v, after⟩, hv, hround⟩ := Option.bind_eq_some_iff.mp hround
    have hvs := List.forall_mem_cons.mpr ⟨hitem _ _ _ hv, h⟩
    dsimp only at hround
    split at hround
    · cases hround
      exact hvs
    · cases hround
      exact array_reverse hvs
    · cases hround

theorem distinct_of_keyValue (hitem : ReadsDistinct item) {path : List (List Char)}
    {key : List Char} (h : keyValue item cs = some ((path, key, v), rest)) : v.Distinct := by
  obtain ⟨_, -, h⟩ := Option.bind_eq_some_iff.mp h
  obtain ⟨_, -, h⟩ := Option.bind_eq_some_iff.mp h
  obtain ⟨_, hv, h⟩ := Option.bind_eq_some_iff.mp h
  cases h
  exact hitem _ _ _ hv

theorem distinct_of_entryRound (hitem : ReadsDistinct item) {es : Entries}
    {r : Round Entries Value} (h : es.Distinct) (hround : entryRound item es cs = some r) :
    r.Keeps Entries.Distinct Value.Distinct := by
  obtain ⟨⟨⟨path, key, v⟩, after⟩, hv, hround⟩ := Option.bind_eq_some_iff.mp hround
  obtain ⟨es', hadd, hround⟩ := Option.bind_eq_some_iff.mp hround
  have hes' := h.addKey (distinct_of_keyValue hitem hv) hadd
  split at hround
  · cases hround
    exact hes'
  · cases hround
    exact Value.distinct_table_iff.mpr hes'
  · cases hround

/-- No table of a value has a key twice, however deep. -/
theorem readsDistinct_value (depth : Nat) : ReadsDistinct (value depth) := by
  induction depth using Nat.strongRecOn with
  | _ depth ih =>
    intro cs v rest h
    rw [value.eq_def] at h
    dsimp only at h
    split at h
    · cases h
    split at h
    · obtain ⟨t, -, e⟩ := Option.map_eq_some_iff.mp h
      cases e
      exact .text _
    split at h
    · split at h
      · cases h
      · exact of_rounds (fun _ _ _ hs hr => distinct_of_itemRound (ih _ (Nat.lt_succ_self _)) hs hr)
          (by simp) h
    split at h
    · split at h
      · cases h
      · split at h
        · cases h
          exact Value.distinct_table_iff.mpr Entries.distinct_nil
        · exact of_rounds
            (fun _ _ _ hs hr => distinct_of_entryRound (ih _ (Nat.lt_succ_self _)) hs hr)
            Entries.distinct_nil h
    split at h
    · obtain ⟨t, -, e⟩ := Option.map_eq_some_iff.mp h
      cases e
      exact .boolean _
    split at h
    · obtain ⟨t, -, e⟩ := Option.map_eq_some_iff.mp h
      cases e
      exact .boolean _
    · exact distinct_of_number h

/-! ### Documents -/

theorem distinct_of_lineRound {d : Draft} {r : Round Draft Entries} (h : d.root.Distinct)
    (hround : lineRound d cs = some r) : r.Keeps (·.root.Distinct) Entries.Distinct := by
  rw [lineRound] at hround
  split at hround
  · cases hround
    exact h
  · obtain ⟨_, -, e⟩ := Option.map_eq_some_iff.mp hround
    cases e
    exact h
  · obtain ⟨_, -, hround⟩ := Option.bind_eq_some_iff.mp hround
    obtain ⟨root, hopen, e⟩ := Option.bind_eq_some_iff.mp hround
    cases e
    exact h.openNext hopen
  · obtain ⟨_, -, hround⟩ := Option.bind_eq_some_iff.mp hround
    obtain ⟨root, hopen, e⟩ := Option.bind_eq_some_iff.mp hround
    cases e
    exact h.openTable hopen
  · split at hround
    · cases hround
      exact h
    · obtain ⟨⟨⟨path, key, v⟩, after⟩, hv, hround⟩ := Option.bind_eq_some_iff.mp hround
      obtain ⟨_, -, hround⟩ := Option.bind_eq_some_iff.mp hround
      obtain ⟨root, hchange, e⟩ := Option.bind_eq_some_iff.mp hround
      cases e
      have hv := distinct_of_keyValue (readsDistinct_value _) hv
      exact h.change (fun hes hadd => hes.addKey hv hadd) hchange

/-- No table of a document that is read has a key twice. -/
theorem distinct_of_parse {text : List Char} (h : parse text = some v) : v.Distinct := by
  obtain ⟨⟨root, rest⟩, hroot, e⟩ := Option.bind_eq_some_iff.mp h
  cases e
  exact Value.distinct_table_iff.mpr <|
    of_rounds (fun _ _ _ hs hr => distinct_of_lineRound hs hr) Entries.distinct_nil hroot

/-- A reader of documents that refuses keys given twice. -/
class LawfulDecoder [Decoder] : Prop where
  distinct : ∀ {text : List Char} {v : Value}, Decoder.decode text = some v → v.Distinct

instance : LawfulDecoder := ⟨distinct_of_parse⟩

/-! ### Tables of texts -/

namespace Value

theorem Distinct.of_items (h : v.Distinct) {vs : List Value} (hvs : v.items? = some vs) :
    ∀ w ∈ vs, w.Distinct := by
  cases v with
  | array items =>
      cases hvs
      cases h with
      | array values => exact values
  | tables items =>
      cases hvs
      simpa [distinct_table_iff] using distinct_tables_iff.mp h
  | text | integer | float | boolean | moment | table => cases hvs

theorem Distinct.of_entries (h : v.Distinct) {es : Entries} (hes : v.entries? = some es) :
    es.Distinct := by
  cases v with
  | table origin entries =>
      cases hes
      exact distinct_table_iff.mp h
  | moment written =>
      cases hes
      exact Entries.distinct_nil.cons rfl (.text written)
  | text | integer | float | boolean | array | tables => cases hes

theorem Distinct.of_field (h : v.Distinct) {name : String} {place : Nat} {w : Value}
    (hw : v.field? name place = some w) : w.Distinct := by
  rw [field?] at hw
  split at hw
  · next hvs => exact h.of_items hvs w (List.mem_of_getElem? hw)
  · obtain ⟨es, hes, hw⟩ := Option.bind_eq_some_iff.mp hw
    exact (h.of_entries hes).of_lookup hw

theorem keys_of_mapM {es : Entries} {rows : List (List Char × List Char)}
    (h : es.mapM (fun (k, v) => v.text?.map (k, ·)) = some rows) :
    rows.map Prod.fst = es.map Prod.fst := by
  induction es generalizing rows with
  | nil => cases h; rfl
  | cons e es ih =>
      rw [List.mapM_cons] at h
      obtain ⟨row, hrow, h⟩ := Option.bind_eq_some_iff.mp h
      obtain ⟨rows, hrows, h⟩ := Option.bind_eq_some_iff.mp h
      obtain ⟨text, -, e⟩ := Option.map_eq_some_iff.mp hrow
      cases e
      cases h
      rw [List.map_cons, List.map_cons, ih hrows]

/-- The texts of a table stand in the order of their keys, each key once. -/
theorem Distinct.pairwise_texts (h : v.Distinct) {rows : List (List Char × List Char)}
    (hrows : v.texts? = some rows) : rows.Pairwise (·.1 < ·.1) := by
  obtain ⟨es, hes, hrows⟩ := Option.bind_eq_some_iff.mp hrows
  obtain ⟨unsorted, hunsorted, e⟩ := Option.bind_eq_some_iff.mp hrows
  cases e
  have hkeys : (unsorted.map Prod.fst).Nodup := by
    rw [keys_of_mapM hunsorted]
    exact (h.of_entries hes).keys
  let before (a b : List Char × List Char) : Bool := !decide (b.1 < a.1)
  have hbefore : ∀ {a b}, before a b = true ↔ ¬b.1 < a.1 := by simp [before]
  have hsorted : (unsorted.mergeSort before).Pairwise (fun a b => ¬b.1 < a.1) := by
    refine (List.pairwise_mergeSort (fun a b c hab hbc => ?_) (fun a b => ?_) unsorted).imp
      hbefore.mp
    · rw [hbefore, List.not_lt] at hab hbc ⊢
      exact List.le_trans hab hbc
    · rw [Bool.or_eq_true, hbefore, hbefore, List.not_lt, List.not_lt]
      exact List.le_total a.1 b.1
  have hdistinct : (unsorted.mergeSort before).Pairwise (·.1 ≠ ·.1) :=
    List.pairwise_map.mp (((List.mergeSort_perm unsorted before).map Prod.fst).nodup_iff.mpr hkeys)
  exact (hsorted.and hdistinct).imp fun h =>
    (List.le_iff_lt_or_eq.mp (List.not_lt.mp h.1)).resolve_right h.2

end Value

end KanaTyping.Toml
