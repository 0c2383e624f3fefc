import KanaTyping.Proofs.Play.Words

/-!
# Play — scores of strokes and charges

What the counts of a score say about the strokes and the charges entered in it, and how far a
machine has them right that keeps them in words.  The counts are those of the word of the entries,
where every key charged is a miss.  For the points it depends on the machine what has to fit: one
that goes on after an overflow has them right as soon as they fit in the end; one that stops has to
come to the end first, and to charge keys it works out a number that as many misses do not need,
what they cost together.

`score_of_entries` puts it together, and `charge_may_stop` has the misses that fit one by one, but
not at once.
-/

namespace KanaTyping.Score

/-- Misses may fit one by one and not when they are charged at once: after a hit for `2 ^ 62` points
four misses at `2 ^ 61` points come to the end, and the charge stops at `2 ^ 63`. -/
theorem charge_may_stop :
    let r : ScoreRules := ⟨2 ^ 62, 2 ^ 61⟩
    let s := zero.record r .hit
    zero.recordIn .stops r .hit = some s ∧
      s.enterAllIn .stops r (List.replicate 4 (.stroke .miss)) = some ⟨-2 ^ 62, 0, 1, 4, 5⟩ ∧
      s.chargeIn .stops r 4 = none ∧ s.chargeIn .wraps r 4 = some ⟨-2 ^ 62, 0, 1, 4, 5⟩ := by
  decide

end KanaTyping.Score
