import KanaTyping.Kana.Table
import KanaTyping.Toml.Document

/-!
# Kana tables as documents

A kana table is published as a TOML document with a section for the units of one, two and three
kana, each of them a table of grammar texts by unit.  A section that is missing counts as empty,
and the entries of a section are taken in the order of their keys.
-/

namespace KanaTyping.Table

/-- The entries of a section of a document, without their checks. -/
def rawSection (root : Toml.Value) (s : Section) (place : Nat) :
    Except Fault (List (List Char × List Char)) :=
  match root.field? s.name place with
  | none => .ok []
  | some v =>
    match v.texts? with
    | none => .error .malformed
    | some raw => .ok raw

/-- Reads a table from a document. -/
def parse [Toml.Decoder] (document : List Char) : Except Fault Table := do
  match Toml.Decoder.decode document with
  | none => .error .malformed
  | some root =>
    let single ← rawSection root .single 0
    let pair ← rawSection root .pair 1
    let triple ← rawSection root .triple 2
    ofRaw single pair triple

end KanaTyping.Table
