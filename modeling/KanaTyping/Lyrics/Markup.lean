import KanaTyping.Lyrics.Lyric

/-!
# Markup of lyrics

A line is written as its parts one after the other: plain text as it is, and kanji with their
reading as `(base|reading)`.  The three marks stand for nothing else.

`Lyric.write` writes a line and `Lyric.parse` reads one back.  The reader takes one character at
a time; what it has seen so far is a `Lyric.Draft`.
-/

namespace KanaTyping

/-- The markup of a part. -/
def Part.write : Part → List Char
  | plain text => text
  | ruby base reading => '(' :: (base ++ '|' :: (reading ++ [')']))

namespace Lyric

/-- The markup of a line. -/
def write (l : Lyric) : List Char :=
  l.parts.flatMap Part.write

/-- Why a text is not the markup of a line.  Positions count characters. -/
inductive Fault where
  | nestedRuby (pos : Nat)
  | strayBar (pos : Nat)
  | strayClose (pos : Nat)
  | unclosedRuby
deriving DecidableEq

def Fault.message : Fault → String
  | nestedRuby pos => s!"'(' at {pos} inside a ruby group"
  | strayBar pos => s!"'|' at {pos} outside a ruby base"
  | strayClose pos => s!"')' at {pos} outside a ruby reading"
  | unclosedRuby => "ruby group is not closed"

/-- The part that stands open at the end of what has been read, its characters in reverse. -/
inductive Pending where
  | nothing
  | plain (text : List Char)
  | base (base : List Char)
  | reading (base reading : List Char)
deriving DecidableEq

/-- What has been read of a markup: the whole parts so far, the latest first, and the part that
stands open. -/
structure Draft where
  parts : List Part
  pending : Pending
deriving DecidableEq

namespace Draft

/-- Takes one more character, which has the number `pos`. -/
def feed (pos : Nat) (c : Char) (d : Draft) : Except Fault Draft :=
  if c = '(' then
    match d.pending with
    | .nothing => .ok ⟨d.parts, .base []⟩
    | .plain text => .ok ⟨.plain text.reverse :: d.parts, .base []⟩
    | .base _ | .reading _ _ => .error (.nestedRuby pos)
  else if c = '|' then
    match d.pending with
    | .base base => .ok ⟨d.parts, .reading base []⟩
    | _ => .error (.strayBar pos)
  else if c = ')' then
    match d.pending with
    | .reading base reading => .ok ⟨.ruby base.reverse reading.reverse :: d.parts, .nothing⟩
    | _ => .error (.strayClose pos)
  else
    match d.pending with
    | .nothing => .ok ⟨d.parts, .plain [c]⟩
    | .plain text => .ok ⟨d.parts, .plain (c :: text)⟩
    | .base base => .ok ⟨d.parts, .base (c :: base)⟩
    | .reading base reading => .ok ⟨d.parts, .reading base (c :: reading)⟩

/-- The line, at the end of the markup. -/
def finish (d : Draft) : Except Fault Lyric :=
  match d.pending with
  | .nothing => .ok ⟨d.parts.reverse⟩
  | .plain text => .ok ⟨(.plain text.reverse :: d.parts).reverse⟩
  | .base _ | .reading _ _ => .error .unclosedRuby

/-- Takes the characters of a markup, the first of which has the number `pos`, and finishes. -/
def readAll (pos : Nat) (d : Draft) : List Char → Except Fault Lyric
  | [] => d.finish
  | c :: cs =>
    match d.feed pos c with
    | .error e => .error e
    | .ok d => readAll (pos + 1) d cs

end Draft

/-- Reads the markup of a line. -/
def parse (markup : List Char) : Except Fault Lyric :=
  Draft.readAll 0 ⟨[], .nothing⟩ markup

end Lyric

end KanaTyping
