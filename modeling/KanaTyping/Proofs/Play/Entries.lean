import KanaTyping.Play.Words
import KanaTyping.Proofs.Play.Tally

/-!
# Play — what is entered in a score

What is entered in a score is a stroke, or a number of keys left untyped that are charged at once.
The *word* of some entries has a miss for each of those keys.

* `Tallies.enterAll`: a score is that of the word of its entries, as long as the word is no longer
  than the counts can be.
* `Ordered.enterAll`: whatever is charged, there are no more misses than strokes, and the run of
  hits at the end is no longer than the longest.
* `computedAll` and `countedAll`: the numbers worked out on the way for the points and for the
  counts; `mem_computedAll` finds the entry at which each is.
-/

namespace KanaTyping.Score

/-- What is entered in a score: a stroke, or keys left untyped. -/
inductive Entry where
  | stroke (k : Stroke)
  | untyped (n : Nat)
deriving DecidableEq

/-- The strokes that an entry stands for. -/
def Entry.strokes : Entry → List Stroke
  | stroke k => [k]
  | untyped n => List.replicate n .miss

/-- The strokes that some entries stand for. -/
def word (es : List Entry) : List Stroke :=
  es.flatMap Entry.strokes

/-- The score after one more entry. -/
def enter (r : ScoreRules) (s : Score) : Entry → Score
  | .stroke k => s.record r k
  | .untyped n => s.charge r n

/-- The score after some entries, one by one. -/
def enterAll (r : ScoreRules) (s : Score) (es : List Entry) : Score :=
  es.foldl (enter r) s

/-- The score after one more entry, in machine words. -/
def enterIn (m : Overflow) (r : ScoreRules) (s : Score) : Entry → Option Score
  | .stroke k => s.recordIn m r k
  | .untyped n => s.chargeIn m r n

/-- The score after some entries, one by one, in machine words. -/
def enterAllIn (m : Overflow) (r : ScoreRules) (s : Score) (es : List Entry) : Option Score :=
  es.foldlM (enterIn m r) s

variable {r : ScoreRules} {s : Score} {w : List Stroke} {e : Entry} {es : List Entry}
variable {v : Int} {n : Nat}

theorem enterAll_map_stroke (r : ScoreRules) (s : Score) (w : List Stroke) :
    s.enterAll r (w.map .stroke) = w.foldl (record r) s := by
  rw [enterAll, List.foldl_map]
  rfl

/-- The strokes of the first entry come first. -/
theorem append_word_cons (w : List Stroke) (e : Entry) (es : List Entry) :
    w ++ word (e :: es) = w ++ e.strokes ++ word es := by
  rw [word, List.flatMap_cons, ← List.append_assoc]
  rfl

theorem word_map_stroke (w : List Stroke) : word (w.map .stroke) = w := by
  rw [word, List.flatMap_map]
  exact List.flatMap_singleton' w

/-! ### Below the limit of the counts -/

theorem Tallies.enter (h : Tallies r w s) (e : Entry)
    (hlimit : (w ++ e.strokes).length ≤ countLimit) : Tallies r (w ++ e.strokes) (s.enter r e) := by
  cases e with
  | stroke k => exact h.record k
  | untyped n =>
      rw [Entry.strokes, List.length_append, List.length_replicate] at hlimit
      exact h.charge hlimit

theorem Tallies.enterAll (h : Tallies r w s) (es : List Entry)
    (hlimit : (w ++ word es).length ≤ countLimit) : Tallies r (w ++ word es) (s.enterAll r es) := by
  induction es generalizing w s with
  | nil => exact (List.append_nil w).symm ▸ h
  | cons e es ih =>
      rw [append_word_cons] at hlimit ⊢
      refine ih (h.enter e ?_) hlimit
      rw [List.length_append] at hlimit
      exact Nat.le_trans (Nat.le_add_right _ _) hlimit

/-! ### At the limit and beyond -/

/-- There are no more misses than strokes, and the run of hits at the end is no longer than the
longest. -/
structure Ordered (s : Score) : Prop where
  misses : s.misses ≤ s.strokes
  combo : s.combo ≤ s.maxCombo

theorem Ordered.record (h : s.Ordered) (r : ScoreRules) (k : Stroke) : (s.record r k).Ordered := by
  cases k with
  | hit => exact ⟨Nat.le_succ_of_le h.misses, Nat.le_max_right _ _⟩
  | miss => exact ⟨Nat.succ_le_succ h.misses, Nat.zero_le _⟩

/-- Both counts stop at the same limit. -/
theorem Ordered.charge (h : s.Ordered) (r : ScoreRules) (n : Nat) : (s.charge r n).Ordered := by
  rw [Score.charge]
  split
  · exact h
  · exact ⟨min_le_min_right _ (Nat.add_le_add_right h.misses _), Nat.zero_le _⟩

theorem Ordered.enterAll (h : s.Ordered) (r : ScoreRules) (es : List Entry) :
    (s.enterAll r es).Ordered := by
  induction es generalizing s with
  | nil => exact h
  | cons e es ih =>
      cases e with
      | stroke k => exact ih (h.record r k)
      | untyped n => exact ih (h.charge r n)

/-! ### What is worked out for the points -/

/-- What `n` untyped keys that are charged at once cost together. -/
def charged (r : ScoreRules) (n : Nat) : Int :=
  r.miss * min n countLimit

theorem points_charge (r : ScoreRules) (s : Score) (n : Nat) :
    (s.charge r n).points = s.points - charged r n := by
  rw [charge, charged]
  split
  · next h => simp [h]
  · push_cast
    rfl

/-- The numbers worked out for the points when an entry is made: the points after it, and for keys
that are charged first of all their cost. -/
def computed (r : ScoreRules) (s : Score) : Entry → List Int
  | .stroke k => [(s.record r k).points]
  | .untyped n => [charged r n, s.points - charged r n]

/-- The numbers worked out for the points over some entries. -/
def computedAll (r : ScoreRules) (s : Score) : (es : List Entry) → List Int
  | [] => []
  | e :: es => computed r s e ++ computedAll r (s.enter r e) es

/-- What is worked out over some entries is worked out at one of them. -/
theorem mem_computedAll (h : v ∈ computedAll r s es) :
    ∃ before e after, es = before ++ e :: after ∧ v ∈ computed r (s.enterAll r before) e := by
  induction es generalizing s with
  | nil => cases h
  | cons e es ih =>
      rw [computedAll, List.mem_append] at h
      rcases h with h | h
      · exact ⟨[], e, es, rfl, h⟩
      · obtain ⟨before, e', after, rfl, hv⟩ := ih h
        exact ⟨e :: before, e', after, rfl, hv⟩

theorem computedAll_append (r : ScoreRules) (s : Score) (es fs : List Entry) :
    computedAll r s (es ++ fs) = computedAll r s es ++ computedAll r (s.enterAll r es) fs := by
  induction es generalizing s with
  | nil => rfl
  | cons e es ih =>
      rw [List.cons_append, computedAll, computedAll, ih, List.append_assoc]
      rfl

/-- The points after an entry are the last number worked out for it. -/
theorem points_enter_mem (r : ScoreRules) (s : Score) (e : Entry) :
    (s.enter r e).points ∈ computed r s e := by
  cases e with
  | stroke k => exact List.mem_singleton_self _
  | untyped n => simp [enter, computed, points_charge]

/-! ### What is worked out for the counts -/

/-- The counts that a stroke makes one larger.  Those of a charge stop at their limit by
themselves. -/
def counted (s : Score) : Entry → List Nat
  | .stroke .hit => [s.strokes + 1, s.combo + 1]
  | .stroke .miss => [s.strokes + 1, s.misses + 1]
  | .untyped _ => []

/-- The counts made larger over some entries. -/
def countedAll (r : ScoreRules) (s : Score) : (es : List Entry) → List Nat
  | [] => []
  | e :: es => counted s e ++ countedAll r (s.enter r e) es

/-- No count is larger than the strokes. -/
theorem Tallies.le_of_mem_counted (h : Tallies r w s) (hn : n ∈ counted s e) :
    n ≤ (w ++ e.strokes).length := by
  have hmisses := h.misses_le_strokes
  have hcombo : s.combo ≤ w.length := by
    have hsuffix := h.combo.1.length_le
    rwa [List.length_replicate] at hsuffix
  have hstrokes := h.strokes
  cases e with
  | stroke k =>
      have hlength : (w ++ (Entry.stroke k).strokes).length = w.length + 1 := List.length_append
      rw [hlength]
      cases k with
      | hit =>
          simp only [counted, List.mem_cons, List.not_mem_nil, or_false] at hn
          omega
      | miss =>
          simp only [counted, List.mem_cons, List.not_mem_nil, or_false] at hn
          omega
  | untyped k => cases hn

theorem Tallies.le_of_mem_countedAll (h : Tallies r w s)
    (hlimit : (w ++ word es).length ≤ countLimit) (hn : n ∈ countedAll r s es) :
    n ≤ countLimit := by
  induction es generalizing w s with
  | nil => cases hn
  | cons e es ih =>
      rw [append_word_cons] at hlimit
      have he : (w ++ e.strokes).length ≤ countLimit := by
        rw [List.length_append] at hlimit
        exact Nat.le_trans (Nat.le_add_right _ _) hlimit
      rw [countedAll, List.mem_append] at hn
      rcases hn with hn | hn
      · exact Nat.le_trans (h.le_of_mem_counted hn) he
      · exact ih (h.enter e he) hlimit hn

end KanaTyping.Score
