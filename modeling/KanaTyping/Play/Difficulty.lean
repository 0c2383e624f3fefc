import KanaTyping.Lyrics.Song
import KanaTyping.Play.Hint

/-!
# Difficulty

A song is as difficult as its busiest line: the most keys per millisecond, times a scale, and
no more than a cap.  Lines that last no time do not count.
-/

namespace KanaTyping

/-- How keys per millisecond become a level. -/
structure LevelRules where
  scale : Float
  cap : UInt32
deriving DecidableEq

/-- The number of keys a line takes. -/
def TimedLyric.keyCount (x : Lexicon) (t : TimedLyric) : Nat :=
  ((Hint.ofLyric x t.lyric).keys x).length

namespace Song

/-- The most keys per millisecond over the lines that last. -/
def peak (x : Lexicon) (s : Song) : Float :=
  (s.lines.filter (·.duration > 0)).foldl
    (fun most t =>
      let rate := Float.ofNat (t.keyCount x) / Float.ofNat t.duration.toNat
      if most < rate then rate else most)
    0.0

/-- The level of a song. -/
def level (x : Lexicon) (r : LevelRules) (s : Song) : UInt32 :=
  min (s.peak x * r.scale).toUInt32 r.cap

end Song

end KanaTyping
