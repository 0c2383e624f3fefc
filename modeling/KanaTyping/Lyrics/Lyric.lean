import KanaTyping.Kana.Script
import KanaTyping.Text.Width

/-!
# Lyrics

One displayed line of lyrics is a sequence of *parts*: plain text, and kanji with the reading that
is drawn above them.  What a player types is the kana of the plain text and of the readings; the
kanji are only shown.
-/

namespace KanaTyping

/-- A part of a line: plain text, or a base of kanji with its reading. -/
inductive Part where
  | plain (text : List Char)
  | ruby (base reading : List Char)
deriving DecidableEq

namespace Part

/-- The text of the part that holds its kana. -/
def text : Part → List Char
  | plain text => text
  | ruby _ reading => reading

/-- What is shown on the main line. -/
def surface : Part → List Char
  | plain text => text
  | ruby base _ => base

/-- The columns the part takes: for a base and its reading, those of the wider one. -/
def width [Text.Metric] : Part → Nat
  | plain text => Text.Metric.width text
  | ruby base reading => max (Text.Metric.width base) (Text.Metric.width reading)

end Part

/-- One line of lyrics. -/
structure Lyric where
  parts : List Part
deriving DecidableEq

namespace Lyric

/-- The line with nothing on it. -/
def blank : Lyric := ⟨[]⟩

/-- The line of one plain part. -/
def ofPlain (text : List Char) : Lyric := ⟨[.plain text]⟩

/-- The columns the line takes. -/
def width [Text.Metric] (l : Lyric) : Nat :=
  l.parts.foldr (fun p columns => p.width + columns) 0

/-- The kana that a player types, in order. -/
def kana (l : Lyric) : List Char :=
  (l.parts.flatMap Part.text).filter isKana

/-- The line as it is shown, with the kanji in place of their readings. -/
def surface (l : Lyric) : List Char :=
  l.parts.flatMap Part.surface

end Lyric

end KanaTyping
