/-!
# TOML values

The values of a TOML document, and the typed readings of them that the settings and the kana
tables take.
-/

namespace KanaTyping.Toml

/-- How a table of a document came about, which decides how it may still grow.

* `header`: it has a heading of its own.
* `implied`: a heading below it names it.
* `dotted`: a dotted key names it.
* `inline`: it is written as one value. -/
inductive Origin where
  | header
  | implied
  | dotted
  | inline
deriving DecidableEq

/-- A value.  `tables` are those of the headings in double brackets of one name, the latest
first. -/
inductive Value where
  | text (cs : List Char)
  | integer (n : Int)
  | float (x : Float)
  | boolean (b : Bool)
  | moment (written : List Char)
  | array (items : List Value)
  | table (origin : Origin) (entries : List (List Char × Value))
  | tables (items : List (List (List Char × Value)))

/-- The keys and values of a table. -/
abbrev Entries := List (List Char × Value)

namespace Value

/-- The name under which the text of a date or time is found when it is taken for a table. -/
def momentKey : List Char := "$__toml_private_datetime".toList

/-- The entries of a table; a date or time counts as a table of one entry. -/
def entries? : Value → Option Entries
  | table _ es => some es
  | moment written => some [(momentKey, .text written)]
  | _ => none

/-- The items of an array. -/
def items? : Value → Option (List Value)
  | array vs => some vs
  | tables ts => some (ts.reverse.map (.table .header))
  | _ => none

/-- A field of a record: by its name in a table, or by its place in an array. -/
def field? (v : Value) (name : String) (place : Nat) : Option Value :=
  match v.items? with
  | some vs => vs[place]?
  | none => (v.entries?).bind (·.lookup name.toList)

def integer? : Value → Option Int
  | integer n => some n
  | _ => none

def text? : Value → Option (List Char)
  | text cs => some cs
  | _ => none

/-- A table of texts, with its keys in increasing order. -/
def texts? (v : Value) : Option (List (List Char × List Char)) := do
  let es ← v.entries?
  let es ← es.mapM fun (k, v) => v.text?.map (k, ·)
  return es.mergeSort (fun a b => !decide (b.1 < a.1))

end Value

end KanaTyping.Toml
