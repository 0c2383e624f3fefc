import KanaTyping.Toml.Number
import KanaTyping.Toml.Text

/-!
# TOML documents

A document is read line by line into a tree of tables.  A heading opens a table below the root,
a heading in double brackets one more table of an array, and a line with a key and a value adds
to the table that is open.  What a line may add to depends on how each table on its way came
about (`Origin`).  What is read from documents only asks a `Decoder` for the tree, and this one is
the standard one.
-/

namespace KanaTyping.Toml

namespace Entries

/-- The entries with the value of `key` changed. -/
def set (key : List Char) (v : Value) : Entries → Entries
  | [] => []
  | (k, w) :: es => if k = key then (k, v) :: es else (k, w) :: set key v es

/-- Changes the table at a path below a table of the given origin.  Tables that are missing on the
way are made: `dotted` ones on a dotted key's way, `implied` ones on a heading's.  Of an array of
tables the latest is meant.  A dotted key passes through no table with a heading of its own, and
nothing passes through a value. -/
def change (dotted : Bool) (f : Origin → Entries → Option Entries) :
    (path : List (List Char)) → Origin → Entries → Option Entries
  | [], origin, es => f origin es
  | key :: path, _, es =>
    match List.lookup key es with
    | none => do
      let origin := if dotted then .dotted else .implied
      let inner ← change dotted f path origin []
      return (key, .table origin inner) :: es
    | some (.table .inline _) => none
    | some (.table origin inner) =>
      if dotted && origin = .header then none
      else do
        let inner ← change dotted f path origin inner
        return set key (.table origin inner) es
    | some (.tables (latest :: before)) => do
      let latest ← change dotted f path .header latest
      return set key (.tables (latest :: before)) es
    | some _ => none

/-- Adds a new key with its value at the end of the dotted key's path, which must lead to a table
of dotted keys if it leads anywhere. -/
def addKey (path : List (List Char)) (key : List Char) (v : Value) (origin : Origin)
    (es : Entries) : Option Entries :=
  change true
    (fun origin es =>
      if (path.isEmpty || origin = .dotted) && (List.lookup key es).isNone then
        some ((key, v) :: es)
      else none)
    path origin es

/-- Opens the table of a heading.  A table that other headings imply is opened; no table is
opened twice. -/
def openTable (path : List (List Char)) (key : List Char) (es : Entries) : Option Entries :=
  change false
    (fun _ es =>
      match List.lookup key es with
      | none => some ((key, .table .header []) :: es)
      | some (.table .implied inner) => some (set key (.table .header inner) es)
      | some _ => none)
    path .header es

/-- Opens one more table of an array of tables. -/
def openNext (path : List (List Char)) (key : List Char) (es : Entries) : Option Entries :=
  change false
    (fun _ es =>
      match List.lookup key es with
      | none => some ((key, .tables [[]]) :: es)
      | some (.tables before) => some (set key (.tables ([] :: before)) es)
      | some _ => none)
    path .header es

end Entries

/-! ### Values -/

/-- The text after the word `word`. -/
def afterWord? (word : String) (cs : List Char) : Option (List Char) :=
  if word.toList.isPrefixOf cs then some (cs.drop word.length) else none

/-- One item of an array, after those in `done`, the latest first.  A comma may follow the last
item. -/
def itemRound (item : Reader Value) (done : List Value) (cs : List Char) :
    Option (Round (List Value) Value) :=
  match skipTrivia false cs with
  | ']' :: rest => some (.done (.array done.reverse) rest)
  | cs => do
    let (v, rest) ← item cs
    match skipTrivia false rest with
    | ',' :: rest => return .more (v :: done) rest
    | ']' :: rest => return .done (.array (v :: done).reverse) rest
    | _ => none

/-- Reads a key, an equals sign and a value. -/
def keyValue (item : Reader Value) (cs : List Char) :
    Option ((List (List Char) × List Char × Value) × List Char) := do
  let ((path, key), rest) ← dottedKey cs
  let rest ← mark '=' rest
  let (v, rest) ← item (skipBlanks rest)
  return ((path, key, v), skipBlanks rest)

/-- One entry of an inline table, after those in `es`.  No comma follows the last one. -/
def entryRound (item : Reader Value) (es : Entries) (cs : List Char) :
    Option (Round Entries Value) := do
  let ((path, key, v), rest) ← keyValue item cs
  let es ← Entries.addKey path key v .inline es
  match rest with
  | ',' :: rest => return .more es rest
  | '\x7d' :: rest => return .done (.table .inline es) rest
  | _ => none

/-- Reads a value with at most `depth` arrays and inline tables one inside the other. -/
def value : (depth : Nat) → Reader Value
  | depth, cs =>
    match cs with
    | [] => none
    | c :: rest =>
      if c = '\x22' || c = '\x27' then (anyText cs).map fun (t, rest) => (.text t, rest)
      else if c = '[' then
        match depth with
        | 0 => none
        | depth + 1 => rounds (itemRound (value depth)) [] rest
      else if c = '\x7b' then
        match depth with
        | 0 => none
        | depth + 1 =>
          match skipBlanks rest with
          | '\x7d' :: rest => some (.table .inline [], rest)
          | _ => rounds (entryRound (value depth)) [] rest
      else if c = 't' then (afterWord? "true" cs).map (.boolean true, ·)
      else if c = 'f' then (afterWord? "false" cs).map (.boolean false, ·)
      else number cs

/-! ### Lines -/

/-- A document that is being read: its tables so far and the path of the one that is open. -/
structure Draft where
  root : Entries
  table : List (List Char)

/-- Reads a heading, after its brackets, up to `close`. -/
def heading (close : List Char) (cs : List Char) :
    Option ((List (List Char) × List Char) × List Char) := do
  let (key, rest) ← dottedKey cs
  if close.isPrefixOf rest then
    let rest ← lineEnd? (rest.drop close.length)
    return (key, rest)
  else none

/-- One line of a document. -/
def lineRound (d : Draft) (cs : List Char) : Option (Round Draft Entries) :=
  match skipBlanks cs with
  | [] => some (.done d.root [])
  | '#' :: rest => (lineEnd? ('#' :: rest)).map (.more d ·)
  | '[' :: '[' :: rest => do
    let ((path, key), rest) ← heading [']', ']'] rest
    let root ← Entries.openNext path key d.root
    return .more ⟨root, path ++ [key]⟩ rest
  | '[' :: rest => do
    let ((path, key), rest) ← heading [']'] rest
    let root ← Entries.openTable path key d.root
    return .more ⟨root, path ++ [key]⟩ rest
  | cs =>
    match newline? cs with
    | some rest => some (.more d rest)
    | none => do
      let ((path, key, v), rest) ← keyValue (value (depthLimit - 1)) cs
      let rest ← lineEnd? rest
      let root ← Entries.change false (Entries.addKey path key v) d.table .header d.root
      return .more ⟨root, d.table⟩ rest

/-- Reads a document, with or without a byte order mark in front: the table of its root. -/
def parse (text : List Char) : Option Value := do
  let text := match text with
    | '\uFEFF' :: rest => rest
    | _ => text
  let (root, _) ← rounds lineRound ⟨[], []⟩ text
  return .table .header root

/-- How documents are read, if they can be. -/
class Decoder where
  decode : List Char → Option Value

instance : Decoder := ⟨parse⟩

end KanaTyping.Toml
