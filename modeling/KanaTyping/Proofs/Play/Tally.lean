import Mathlib.Order.Bounds.Basic
import Mathlib.Tactic.Ring
import KanaTyping.Play.Score

/-!
# Play — the score of a run of strokes

`Score.Tallies r w s` says what the counts of a score are: the points for the hits of `w` less those
for its misses, the numbers of its misses and strokes, and the lengths of the hits at its end and of
the longest run of hits in it.

* `Tallies.record`: one more stroke, and `Tallies.foldl`: a run of them.
* `charge_eq_foldl`: keys charged at once count as that many misses, as long as the counts stay
  below their limit.
* `Tallies.accuracy_eq`: the share of hits.
-/

namespace KanaTyping

/-! ### Runs of one element in a list -/

section Runs

variable {α : Type} {a b : α} {w : List α} {n : ℕ}

theorem replicate_suffix_concat_self :
    List.replicate n a <:+ w ++ [a] ↔ n = 0 ∨ ∃ m, n = m + 1 ∧ List.replicate m a <:+ w := by
  constructor
  · intro h
    cases n with
    | zero => exact .inl rfl
    | succ m =>
        rw [List.replicate_succ', List.suffix_append_self_iff] at h
        exact .inr ⟨m, rfl, h⟩
  · rintro (rfl | ⟨m, rfl, h⟩)
    · exact List.nil_suffix
    · rw [List.replicate_succ', List.suffix_append_self_iff]
      exact h

theorem replicate_suffix_concat_of_ne (hab : a ≠ b) :
    List.replicate n a <:+ w ++ [b] ↔ n = 0 := by
  constructor
  · intro h
    cases n with
    | zero => rfl
    | succ m =>
        rw [List.replicate_succ', List.suffix_concat_iff] at h
        rcases h with h | ⟨t, ht, -⟩
        · simp at h
        · exact absurd (List.append_inj_right' ht rfl) (by simpa using hab)
  · rintro rfl
    exact List.nil_suffix

end Runs

/-- Every stroke hits or misses. -/
theorem Stroke.count_hit_add_count_miss (w : List Stroke) :
    w.count .hit + w.count .miss = w.length := by
  induction w with
  | nil => rfl
  | cons k w ih => cases k <;> simp <;> omega

namespace Score

variable {r : ScoreRules} {s : Score} {w : List Stroke} {n : ℕ}

/-- The score `s` is that of the strokes `w`. -/
structure Tallies (r : ScoreRules) (w : List Stroke) (s : Score) : Prop where
  points : s.points = r.hit * w.count .hit - r.miss * w.count .miss
  misses : s.misses = w.count .miss
  strokes : s.strokes = w.length
  combo : IsGreatest {n | List.replicate n Stroke.hit <:+ w} s.combo
  maxCombo : IsGreatest {n | List.replicate n Stroke.hit <:+: w} s.maxCombo

theorem tallies_zero (r : ScoreRules) : Tallies r [] .zero where
  points := by simp [zero]
  misses := rfl
  strokes := rfl
  combo := by simp [zero, IsGreatest, upperBounds]
  maxCombo := by simp [zero, IsGreatest, upperBounds]

/-! ### One more stroke -/

/-- A run of hits ends at the last stroke, or lies before it. -/
theorem setOf_infix_concat (w : List Stroke) (k : Stroke) :
    {n | List.replicate n Stroke.hit <:+: w ++ [k]} =
      {n | List.replicate n Stroke.hit <:+: w} ∪ {n | List.replicate n Stroke.hit <:+ w ++ [k]} := by
  ext n
  exact List.infix_concat_iff.trans or_comm

theorem Tallies.record (h : Tallies r w s) (k : Stroke) :
    Tallies r (w ++ [k]) (s.record r k) := by
  cases k with
  | hit =>
      have hcombo : IsGreatest {n | List.replicate n Stroke.hit <:+ w ++ [.hit]} (s.combo + 1) := by
        refine ⟨replicate_suffix_concat_self.mpr (.inr ⟨s.combo, rfl, h.combo.1⟩), ?_⟩
        intro n hn
        rcases replicate_suffix_concat_self.mp hn with rfl | ⟨m, rfl, hm⟩
        · exact Nat.zero_le _
        · exact Nat.succ_le_succ (h.combo.2 hm)
      refine ⟨?_, ?_, ?_, hcombo, ?_⟩
      · simp only [Score.record, h.points, List.count_append, List.count_singleton]
        push_cast
        simp
        ring
      · simp [Score.record, h.misses]
      · simp [Score.record, h.strokes]
      · rw [setOf_infix_concat]
        exact h.maxCombo.union hcombo
  | miss =>
      have hcombo : IsGreatest {n | List.replicate n Stroke.hit <:+ w ++ [.miss]} 0 := by
        refine ⟨List.nil_suffix, ?_⟩
        intro n hn
        exact Nat.le_of_eq ((replicate_suffix_concat_of_ne (by decide)).mp hn)
      refine ⟨?_, ?_, ?_, hcombo, ?_⟩
      · simp only [Score.record, h.points, List.count_append, List.count_singleton]
        push_cast
        simp
        ring
      · simp [Score.record, h.misses]
      · simp [Score.record, h.strokes]
      · have hmax := h.maxCombo.union hcombo
        rw [max_eq_left (Nat.zero_le _)] at hmax
        rw [setOf_infix_concat]
        exact hmax

theorem Tallies.foldl (h : Tallies r w s) (v : List Stroke) :
    Tallies r (w ++ v) (v.foldl (Score.record r) s) := by
  induction v generalizing w s with
  | nil => rwa [List.append_nil]
  | cons k v ih =>
      rw [List.foldl_cons, List.append_cons]
      exact ih (h.record k)

theorem Tallies.misses_le_strokes (h : Tallies r w s) : s.misses ≤ s.strokes := by
  rw [h.misses, h.strokes]
  exact List.count_le_length

/-! ### Keys that are charged -/

/-- Some misses on end. -/
theorem foldl_record_miss (r : ScoreRules) (s : Score) (n : ℕ) :
    (List.replicate (n + 1) Stroke.miss).foldl (record r) s =
      { s with
        points := s.points - r.miss * (n + 1)
        combo := 0
        misses := s.misses + (n + 1)
        strokes := s.strokes + (n + 1) } := by
  induction n with
  | zero => simp [record]
  | succ n ih =>
      rw [List.replicate_succ', List.foldl_append, ih]
      simp only [List.foldl_cons, List.foldl_nil, record, Score.mk.injEq, true_and]
      push_cast
      refine ⟨by ring, by omega, by omega⟩

/-- Keys charged at once are as many misses, as long as the counts stay below their limit. -/
theorem charge_eq_foldl (hle : s.misses ≤ s.strokes) (hn : s.strokes + n ≤ countLimit) :
    s.charge r n = (List.replicate n Stroke.miss).foldl (record r) s := by
  cases n with
  | zero => rfl
  | succ n =>
      have hcount : min (n + 1) countLimit = n + 1 := Nat.min_eq_left (by omega)
      have hmisses : min (s.misses + (n + 1)) countLimit = s.misses + (n + 1) :=
        Nat.min_eq_left (by omega)
      have hstrokes : min (s.strokes + (n + 1)) countLimit = s.strokes + (n + 1) :=
        Nat.min_eq_left hn
      rw [foldl_record_miss, charge, if_neg n.succ_ne_zero]
      simp only [hcount, hmisses, hstrokes]
      push_cast
      rfl

theorem Tallies.charge (h : Tallies r w s) (hn : w.length + n ≤ countLimit) :
    Tallies r (w ++ List.replicate n .miss) (s.charge r n) := by
  rw [charge_eq_foldl h.misses_le_strokes (by rwa [h.strokes])]
  exact h.foldl _

theorem maxCombo_charge (r : ScoreRules) (s : Score) (n : ℕ) :
    (s.charge r n).maxCombo = s.maxCombo := by
  rw [charge]
  split <;> rfl

/-! ### The share of hits -/

theorem Tallies.accuracy_eq (h : Tallies r w s) :
    s.accuracy =
      if w.length = 0 then 1.0 else Float.ofNat (w.count .hit) / Float.ofNat w.length := by
  have hhits : s.hits = w.count .hit := by
    have hcount := Stroke.count_hit_add_count_miss w
    rw [hits, h.misses, h.strokes]
    omega
  rw [accuracy, hhits, h.strokes]

end Score

end KanaTyping
