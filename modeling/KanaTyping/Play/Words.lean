import KanaTyping.Play.Score

/-!
# Scores in machine words

A score in a machine has its points in a word of 64 bits with a sign, and its counts in words of 32
bits without one.  Where a number does not fit in its word, the machine stops or goes on with the
bits that do, as it has been built.  Either way the steps below keep to the order in which the
machine works the numbers out.
-/

namespace KanaTyping.Score

/-- The number fits in 64 bits with a sign. -/
def Fits (v : Int) : Prop :=
  Int64.minValue.toInt ≤ v ∧ v ≤ Int64.maxValue.toInt

instance : DecidablePred Fits := fun v =>
  inferInstanceAs (Decidable (Int64.minValue.toInt ≤ v ∧ v ≤ Int64.maxValue.toInt))

/-- The number that is left in 64 bits with a sign. -/
def wrap (v : Int) : Int :=
  (Int64.ofInt v).toInt

/-- What a machine does with a number that does not fit in its word. -/
inductive Overflow where
  | stops
  | wraps
deriving DecidableEq

namespace Overflow

/-- Points as the machine has them, unless it stops. -/
def points : Overflow → Int → Option Int
  | stops, v => if Fits v then some v else none
  | wraps, v => some (wrap v)

/-- A count as the machine has it, unless it stops. -/
def count : Overflow → Nat → Option Nat
  | stops, n => if n ≤ countLimit then some n else none
  | wraps, n => some (UInt32.ofNat n).toNat

end Overflow

/-- The score after one more stroke. -/
def recordIn (m : Overflow) (r : ScoreRules) (s : Score) : Stroke → Option Score
  | .hit => do
    let strokes ← m.count (s.strokes + 1)
    let points ← m.points (s.points + r.hit)
    let combo ← m.count (s.combo + 1)
    some { s with points, combo, maxCombo := max s.maxCombo combo, strokes }
  | .miss => do
    let strokes ← m.count (s.strokes + 1)
    let points ← m.points (s.points - r.miss)
    let misses ← m.count (s.misses + 1)
    some { s with points, combo := 0, misses, strokes }

/-- The score after `n` untyped keys have been charged as misses.  What they cost together is a
number of its own; the counts stop at their limit by themselves. -/
def chargeIn (m : Overflow) (r : ScoreRules) (s : Score) (n : Nat) : Option Score :=
  if n = 0 then some s
  else do
    let n := min n countLimit
    let cost ← m.points (r.miss * n)
    let points ← m.points (s.points - cost)
    some { s with
      points
      combo := 0
      misses := min (s.misses + n) countLimit
      strokes := min (s.strokes + n) countLimit }

end KanaTyping.Score
