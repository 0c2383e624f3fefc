import KanaTyping.Lyrics.Song
import KanaTyping.Play.Hint
import KanaTyping.Play.Score

/-!
# Guides and replays

A *guide* shows what is to be typed for each line of a song.  A *replay* types given keys against
one line and scores it as if its time had then run out.
-/

namespace KanaTyping

/-- What is to be typed for a line. -/
structure Guide where
  duration : UInt32
  surface : List Char
  kana : List Char
  keys : List Char
deriving DecidableEq

def TimedLyric.guide (x : Lexicon) (t : TimedLyric) : Guide where
  duration := t.duration
  surface := t.lyric.surface
  kana := t.lyric.kana
  keys := (Hint.ofLyric x t.lyric).keys x

/-- The guides of a song's lines. -/
def Song.guides (x : Lexicon) (s : Song) : List Guide :=
  s.lines.map (·.guide x)

/-- What came of typing keys against a line. -/
structure Replay where
  /-- The keys, and what each of them was. -/
  keys : List (Char × Stroke)
  finished : Bool
  resolved : Nat
  /-- The kana before the unit being typed. -/
  typed : List Char
  /-- The kana from the unit being typed on. -/
  pending : List Char
  /-- The number of keys left untyped, which are charged as misses. -/
  unfinished : Nat
  score : Score
deriving DecidableEq

/-- Types `keys` against a line. -/
def TimedLyric.replay (x : Lexicon) (r : ScoreRules) (t : TimedLyric) (keys : List Char) :
    Replay :=
  let (strokes, p) := (Progress.start x t.lyric).pressAll x keys
  let unfinished := p.remaining x
  { keys := keys.zip strokes
    finished := p.finished
    resolved := p.resolved
    typed := t.lyric.kana.take p.highlighted
    pending := t.lyric.kana.drop p.highlighted
    unfinished := unfinished
    score := (strokes.foldl (Score.record r) .zero).charge r unfinished }

namespace Replay

/-- Why there is no replay: the song has no line of that number. -/
inductive Fault where
  | lineOutOfRange (number lines : Nat)
deriving DecidableEq

def Fault.message : Fault → String
  | lineOutOfRange number lines =>
    s!"line {number} out of range (song has {lines} line(s))"

end Replay

/-- Types `keys` against the line of that number, of which the first is 1. -/
def Song.replay (x : Lexicon) (r : ScoreRules) (s : Song) (number : Nat) (keys : List Char) :
    Except Replay.Fault Replay :=
  match number with
  | 0 => .error (.lineOutOfRange 0 s.lines.length)
  | i + 1 =>
    match s.lines[i]? with
    | none => .error (.lineOutOfRange (i + 1) s.lines.length)
    | some t => .ok (t.replay x r keys)

end KanaTyping
