import KanaTyping.Lyrics.Lyric
import KanaTyping.Text.Quoted

/-!
# Cursors

A *cursor* is a place in the kana of a line.  It rests on kana only: moving on passes over every
other character and from the end of a part into the next one.  Past the last kana it rests at
the end, for good.

A cursor carries the part it stands in with the parts that follow, what is left of that part's
text, and where that is: the numbers of the part, of the character and of the byte, and the
column at which the part is drawn.  `Cursor.glyph` says where its character is drawn.
-/

namespace KanaTyping

/-- A place in the kana of a line. -/
structure Cursor where
  /-- The part the cursor stands in and those after it. -/
  parts : List Part
  /-- What is left of the text of that part. -/
  ahead : List Char
  /-- The number of parts before. -/
  part : Nat
  /-- The number of bytes of the part's text before the cursor. -/
  offset : Nat
  /-- The number of characters of the part's text before the cursor. -/
  index : Nat
  /-- The column where the part starts. -/
  column : Nat
deriving DecidableEq

/-- What is drawn for one kana, and where. -/
structure Glyph where
  char : Char
  part : Nat
  index : Nat
  column : Nat
  /-- Whether the kana is part of a reading above kanji. -/
  onRuby : Bool
  /-- The kanji shown as typed with this kana: those of a reading, at its last character. -/
  base : Option (List Char)
deriving DecidableEq

namespace Cursor

variable [Text.Metric]

/-- The start of the first of `parts`, which has the number `part` and starts at `column`. -/
def startOf (parts : List Part) (part column : Nat) : Cursor where
  parts := parts
  ahead := (parts.head?.map Part.text).getD []
  part := part
  offset := 0
  index := 0
  column := column

/-- The cursor one character further in its part. -/
def pass (u : Cursor) (c : Char) (rest : List Char) : Cursor :=
  { u with ahead := rest, offset := u.offset + c.utf8Size, index := u.index + 1 }

/-- The cursor at the first kana from `u` on, or at the end. -/
def settle (u : Cursor) : Cursor :=
  match _hp : u.parts, _ha : u.ahead with
  | [], _ => u
  | _ :: _, c :: rest => if isKana c then u else (u.pass c rest).settle
  | p :: ps, [] => (startOf ps (u.part + 1) (u.column + p.width)).settle
termination_by u.parts.length + u.ahead.length + (u.parts.tail.flatMap Part.text).length
decreasing_by
  · simp [pass, _ha]
  · cases ps with
    | nil => simp [startOf, _hp, _ha]
    | cons => simp [startOf, _hp, _ha]; omega

/-- The kana under the cursor. -/
def current (u : Cursor) : Option Char :=
  u.ahead.head?

/-- Whether the cursor is at the end. -/
def atEnd (u : Cursor) : Bool :=
  u.parts.isEmpty

/-- The cursor at the next kana. -/
def advance (u : Cursor) : Cursor :=
  match u.ahead with
  | [] => u.settle
  | c :: rest => (u.pass c rest).settle

/-- The cursor `n` kana further. -/
def advanceBy (u : Cursor) : (n : Nat) → Cursor
  | 0 => u
  | n + 1 => u.advance.advanceBy n

/-- The kana `n` places ahead. -/
def peek (u : Cursor) (n : Nat) : Option Char :=
  (u.advanceBy n).current

/-- The kana under the cursor and the two after it, as far as there are any. -/
def window (u : Cursor) : List Char :=
  let v := u.advance
  [u.current, v.current, v.advance.current].filterMap id

/-- What is drawn for the kana under the cursor.  A reading stands centred above its kanji. -/
def glyph (u : Cursor) : Option Glyph :=
  match u.parts, u.ahead with
  | p :: _, c :: rest =>
    let before := Text.Metric.width (p.text.take u.index)
    match p with
    | .plain _ => some ⟨c, u.part, u.index, u.column + before, false, none⟩
    | .ruby base reading =>
      let indent := (p.width - Text.Metric.width reading) / 2
      some ⟨c, u.part, u.index, u.column + indent + before, true,
        if rest.isEmpty then some base else none⟩
  | _, _ => none

/-- How a place is named: its part, its byte there and its kana. -/
def describe (u : Cursor) : String :=
  let kana := match u.current with
    | none => "None"
    | some c => "Some(" ++ Text.quotedChar c ++ ")"
  "KanaCursor \x7b part: " ++ toString u.part ++ ", offset: " ++ toString u.offset ++
    ", current: " ++ kana ++ " \x7d"

end Cursor

/-- The place of the first kana of a line. -/
def Lyric.cursor [Text.Metric] (l : Lyric) : Cursor :=
  (Cursor.startOf l.parts 0 0).settle

end KanaTyping
