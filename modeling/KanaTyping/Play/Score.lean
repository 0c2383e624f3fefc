import KanaTyping.Play.Progress

/-!
# Scores

A player's score over a run of strokes: points, the current and the longest run of hits, and the
numbers of misses and strokes.  Keys left untyped when a line ends are charged as misses.  The
numbers are as large as they come to be; `Play.Words` has the same steps in machine words.
-/

namespace KanaTyping

/-- The points for a hit and those taken off for a miss. -/
structure ScoreRules where
  hit : Int
  miss : Int
deriving DecidableEq

/-- A score. -/
structure Score where
  points : Int
  combo : Nat
  maxCombo : Nat
  misses : Nat
  strokes : Nat
deriving DecidableEq

namespace Score

/-- The largest number that a charge can bring the counts of misses and strokes to. -/
def countLimit : Nat := UInt32.size - 1

/-- The score before the first stroke. -/
def zero : Score := ⟨0, 0, 0, 0, 0⟩

/-- The score after one more stroke. -/
def record (r : ScoreRules) (s : Score) : Stroke → Score
  | .hit => { s with
      points := s.points + r.hit
      combo := s.combo + 1
      maxCombo := max s.maxCombo (s.combo + 1)
      strokes := s.strokes + 1 }
  | .miss => { s with
      points := s.points - r.miss
      combo := 0
      misses := s.misses + 1
      strokes := s.strokes + 1 }

/-- The score after `n` untyped keys have been charged as misses.  No more than `countLimit` keys
are charged at once, and the counts stop there. -/
def charge (r : ScoreRules) (s : Score) (n : Nat) : Score :=
  if n = 0 then s
  else
    let n := min n countLimit
    { s with
      points := s.points - r.miss * n
      combo := 0
      misses := min (s.misses + n) countLimit
      strokes := min (s.strokes + n) countLimit }

/-- The number of strokes that hit. -/
def hits (s : Score) : Nat :=
  s.strokes - s.misses

/-- The share of strokes that hit, all of them before the first. -/
def accuracy (s : Score) : Float :=
  if s.strokes = 0 then 1.0 else Float.ofNat s.hits / Float.ofNat s.strokes

end Score

end KanaTyping
