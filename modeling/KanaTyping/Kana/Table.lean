import KanaTyping.Spelling.Grammar

/-!
# Kana tables

A *kana table* gives the grammar texts of units of one, two and three kana.  `Table.ofRaw` makes
one from three lists of keys and grammar texts: every list must have an entry, every key the
number of kana of its section, and every grammar must be that of a spelling.
-/

namespace KanaTyping

/-- The kana of a unit of length `n`. -/
def Key (n : Nat) : Type := { kana : List Char // kana.length = n }

instance {n : Nat} : DecidableEq (Key n) :=
  inferInstanceAs (DecidableEq { kana : List Char // kana.length = n })

/-- One entry of a table: the kana of a unit and the grammar text of its spelling. -/
structure Entry (n : Nat) where
  key : Key n
  grammar : List Char
deriving DecidableEq

/-- A kana table. -/
structure Table where
  single : List (Entry 1)
  pair : List (Entry 2)
  triple : List (Entry 3)
deriving DecidableEq

namespace Table

/-- The sections of a table. -/
inductive Section where
  | single
  | pair
  | triple
deriving DecidableEq

/-- The number of kana of a unit of the section. -/
def Section.size : Section → Nat
  | single => 1
  | pair => 2
  | triple => 3

def Section.name : Section → String
  | single => "single"
  | pair => "pair"
  | triple => "triple"

/-- Why a text or its entries are not a table. -/
inductive Fault where
  | malformed
  | empty (section_ : Section)
  | keyLength (section_ : Section) (key : List Char)
  | grammar (key : List Char) (fault : Spelling.Fault)
deriving DecidableEq

def Fault.message : Fault → String
  | malformed => "TOML parse error: not a document of kana tables"
  | empty s => s!"[{s.name}] table is empty"
  | keyLength s key => s!"[{s.name}] key {Text.quoted key} must be {s.size} character(s)"
  | grammar key fault => s!"invalid grammar for {Text.quoted key}: {fault.message}"

/-- Checks one entry of a section: the length of its key, then its grammar. -/
def checkEntry (s : Section) (raw : List Char × List Char) : Except Fault (Entry s.size) :=
  if h : raw.1.length = s.size then
    match Spelling.parse raw.2 with
    | .error fault => .error (.grammar raw.1 fault)
    | .ok _ => .ok ⟨⟨raw.1, h⟩, raw.2⟩
  else .error (.keyLength s raw.1)

/-- Checks the entries of a section, in order. -/
def checkSection (s : Section) (raw : List (List Char × List Char)) :
    Except Fault (List (Entry s.size)) :=
  if raw.isEmpty then .error (.empty s) else raw.mapM (checkEntry s)

/-- The table of three lists of keys and grammar texts, or the first fault in them. -/
def ofRaw (single pair triple : List (List Char × List Char)) : Except Fault Table := do
  return {
    single := ← checkSection .single single
    pair := ← checkSection .pair pair
    triple := ← checkSection .triple triple }

end Table

end KanaTyping
