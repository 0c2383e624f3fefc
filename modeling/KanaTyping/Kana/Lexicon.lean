import KanaTyping.Kana.Script
import KanaTyping.Kana.Table

/-!
# Lexicons

A *lexicon* answers how a unit of kana is typed.  It is made from a table: each entry also stands
for its katakana, and every Latin letter and digit, of either case and width, is typed by its own
key.  Of two entries for one unit the later one counts, and the Latin keys come after the units
of one kana.

A spelling that several units share is held once.
-/

namespace KanaTyping

/-- The spellings of units of kana. -/
structure Lexicon where
  /-- Every spelling met, once each, the latest first. -/
  spellings : List Spelling
  /-- The units and their spellings, the latest first. -/
  units : List (List Char × Spelling)
deriving DecidableEq

namespace Lexicon

/-- The lexicon without units. -/
def empty : Lexicon := ⟨[], []⟩

/-- The spelling of the unit `kana`. -/
def find (x : Lexicon) (kana : List Char) : Option Spelling :=
  x.units.lookup kana

/-- The number of different spellings met. -/
def spellingCount (x : Lexicon) : Nat :=
  x.spellings.length

/-- Holds the spelling `s`, if it is not held already. -/
def keep (x : Lexicon) (s : Spelling) : Lexicon :=
  if s ∈ x.spellings then x else { x with spellings := s :: x.spellings }

/-- Gives the unit `kana` the spelling `s`. -/
def put (x : Lexicon) (kana : List Char) (s : Spelling) : Lexicon :=
  { x with units := (kana, s) :: x.units }

/-- Adds an entry of a table, for its own kana and for their katakana. -/
def addEntry {n : Nat} (x : Lexicon) (e : Entry n) : Except Table.Fault Lexicon :=
  match Spelling.parse e.grammar with
  | .error fault => .error (.grammar e.key.val fault)
  | .ok s =>
    let katakana := e.key.val.map toKatakana
    let x := (x.keep s).put e.key.val s
    .ok (if katakana = e.key.val then x else x.put katakana s)

/-- The keys that stand for themselves. -/
def latinKeys : List Char :=
  ['A', 'B', 'C', 'D', 'E', 'F', 'G', 'H', 'I', 'J', 'K', 'L', 'M', 'N', 'O', 'P', 'Q', 'R', 'S',
    'T', 'U', 'V', 'W', 'X', 'Y', 'Z', '0', '1', '2', '3', '4', '5', '6', '7', '8', '9']

/-- Adds the key `c` as the spelling of its own character, in either case and width. -/
def addLatin (x : Lexicon) (c : Char) : Lexicon :=
  [c, toFullwidth c, c.toLower, toFullwidth c.toLower].foldl
    (fun x k => x.put [k] (Spelling.ofKey c)) (x.keep (Spelling.ofKey c))

/-- The lexicon of a table, or the first grammar in it that is none. -/
def ofTable (t : Table) : Except Table.Fault Lexicon := do
  let x ← t.single.foldlM addEntry empty
  let x := latinKeys.foldl addLatin x
  let x ← t.pair.foldlM addEntry x
  t.triple.foldlM addEntry x

/-- The longest unit, of at most three kana, at the front of `kana`: its spelling and the number
of its kana. -/
def longest (x : Lexicon) (kana : List Char) : Option (Spelling × Nat) :=
  match kana with
  | a :: b :: c :: _ =>
    (x.find [a, b, c]).map (·, 3) <|> (x.find [a, b]).map (·, 2) <|> (x.find [a]).map (·, 1)
  | [a, b] => (x.find [a, b]).map (·, 2) <|> (x.find [a]).map (·, 1)
  | [a] => (x.find [a]).map (·, 1)
  | [] => none

/-- A unit at the front has one to three kana, all of them there. -/
theorem width_of_longest {x : Lexicon} {kana : List Char} {s : Spelling} {width : Nat}
    (h : x.longest kana = some (s, width)) : 1 ≤ width ∧ width ≤ min 3 kana.length := by
  unfold longest at h
  split at h <;> simp [Option.or_eq_some_iff, Option.map_eq_some_iff] at h <;> grind

end Lexicon

end KanaTyping
