import Mathlib.Data.List.Infix
import KanaTyping.Proofs.Kana.Respelling
import KanaTyping.Text.Width

/-!
# Texts — as wide as their characters

A text is as wide as its characters one by one, but for the sequences that take more or fewer
columns.  `Additive t` says that it is so for `t` as a whole, and for what stands before each of its
kana.

* `Additive.width_take_add_le`: the columns of a kana of such a text lie before those of the next.
* `additive_of_inert`: a text is additive when none of its characters is of note to the one before
  it.
* `inert_of_isKana` and `inert_of_isKanji`: no kana is of note, and no kanji.
-/

namespace KanaTyping

namespace Text

section Metric

variable [Metric]

/-- The columns that the characters of a text take one by one. -/
def columns : List Char → Nat
  | [] => 0
  | c :: cs => Metric.width [c] + columns cs

/-- The text is as wide as its characters one by one, and so is what stands before each of its
kana. -/
structure Additive (t : List Char) : Prop where
  whole : Metric.width t = columns t
  before : ∀ (n : Nat) (c : Char), t[n]? = some c → isKana c = true →
    Metric.width (t.take n) = columns (t.take n)

variable {t : List Char} {c d : Char} {m n : Nat}

theorem columns_append (s t : List Char) : columns (s ++ t) = columns s + columns t := by
  induction s with
  | nil => simp [columns]
  | cons c s ih => rw [List.cons_append, columns, columns, ih, Nat.add_assoc]

theorem columns_take_succ (hc : t[n]? = some c) :
    columns (t.take (n + 1)) = columns (t.take n) + Metric.width [c] := by
  rw [List.take_add_one, hc, columns_append]
  rfl

theorem columns_take_le (t : List Char) (h : m ≤ n) :
    columns (t.take m) ≤ columns (t.take n) := by
  obtain ⟨k, rfl⟩ := Nat.exists_eq_add_of_le h
  rw [List.take_add, columns_append]
  exact Nat.le_add_right _ _

/-- The columns of a kana lie before those of the next one. -/
theorem Additive.width_take_add_le (h : Additive t) (hc : t[m]? = some c) (hck : isKana c = true)
    (hd : t[n]? = some d) (hdk : isKana d = true) (hlt : m < n) :
    Metric.width (t.take m) + Metric.width [c] ≤ Metric.width (t.take n) := by
  rw [h.before m c hc hck, h.before n d hd hdk, ← columns_take_succ hc]
  exact columns_take_le t hlt

/-- They lie within the text. -/
theorem Additive.width_take_add_le_width (h : Additive t) (hc : t[n]? = some c)
    (hck : isKana c = true) : Metric.width (t.take n) + Metric.width [c] ≤ Metric.width t := by
  have hle := columns_take_le t (List.getElem?_eq_some_iff.mp hc).1
  rw [List.take_length] at hle
  rw [h.before n c hc hck, h.whole, ← columns_take_succ hc]
  exact hle

end Metric

/-! ### Characters of no note -/

/-- The character is of no note to the one before it: no sequence goes on with it. -/
def Inert (c : Char) : Prop :=
  (Width.step c .start).2 = .start

instance : DecidablePred Inert := fun c =>
  inferInstanceAs (Decidable ((Width.step c .start).2 = .start))

variable {t : List Char} {c : Char}

theorem Width.ite_nonneg {p : Prop} [Decidable p] {a b : Int × Width.Context} (ha : 0 ≤ a.1)
    (hb : 0 ≤ b.1) : 0 ≤ (if p then a else b).1 := by
  split
  · exact ha
  · exact hb

theorem Width.alone_nonneg (c : Char) : 0 ≤ (Width.alone c).1 := by
  unfold Width.alone
  dsimp only
  repeat' refine Width.ite_nonneg ?_ ?_
  all_goals decide

theorem Width.step_start (c : Char) :
    Width.step c .start =
      if c.toNat ≤ 0xA0 then
        if c.toNat = 0x0A then (1, Width.Following.lineFeed.plain) else (1, .start)
      else Width.alone c := by
  have hnone : Width.Context.start.emojiStyle = false := rfl
  have hfeed : Width.Context.start.following ≠ .lineFeed := by decide
  simp [Width.step, hnone, hfeed]

/-- At the end of a text no character takes columns away. -/
theorem Width.step_start_nonneg (c : Char) : 0 ≤ (Width.step c .start).1 := by
  rw [Width.step_start]
  refine Width.ite_nonneg (Width.ite_nonneg ?_ ?_) (Width.alone_nonneg c)
  · decide
  · decide

/-- The columns of a character of no note. -/
theorem Inert.step_start (h : Inert c) : Width.step c .start = ((width [c] : Int), .start) := by
  refine Prod.ext ?_ h
  have hwidth : Width.measure [c] = (0 + (Width.step c .start).1, (Width.step c .start).2) := rfl
  rw [width, hwidth, Int.zero_add, Int.toNat_of_nonneg (Width.step_start_nonneg c)]

theorem measure_of_inert (h : ∀ c ∈ t, Inert c) :
    Width.measure t = ((columns t : Int), .start) := by
  induction t with
  | nil => rfl
  | cons c t ih =>
      rw [List.forall_mem_cons] at h
      have ht := ih h.2
      have hcolumns : columns (c :: t) = width [c] + columns t := rfl
      rw [Width.measure] at ht ⊢
      rw [List.foldr_cons, ht, hcolumns]
      simp only [h.1.step_start]
      push_cast
      rw [Int.add_comm]

theorem width_of_inert (h : ∀ c ∈ t, Inert c) : width t = columns t := by
  rw [width, measure_of_inert h]
  exact Int.toNat_natCast _

/-- Characters that are of no note to one another take their own columns. -/
theorem additive_of_inert (h : ∀ c ∈ t, Inert c) : Additive t where
  whole := width_of_inert h
  before _ _ _ _ := width_of_inert fun c hc => h c (List.mem_of_mem_take hc)

/-! ### Kana and kanji -/

theorem inert_of_isKana (h : isKana c = true) : Inert c := by
  by_cases hc : c = longVowelMark
  · subst hc
    decide +kernel
  · simp only [isKana, isHiragana, isKatakana, isAlphanum_eq, isFullwidthAlphanumeric,
      Bool.or_eq_true, beq_iff_eq, hc, or_false] at h
    rcases h with ((h | h) | (h | h) | h) | (h | h) | h <;>
      exact forall_liesWithin (by decide +kernel) h

end Text

namespace RangeTable

variable {t : RangeTable} {c first last : Char} {n lo hi : Nat}

/-- What a table holds lies in one of its ranges. -/
theorem exists_range_of_holdsBetween (h : t.holdsBetween n lo hi = true) :
    ∃ r ∈ t.ranges, r.1 ≤ n ∧ n ≤ r.2 := by
  fun_induction holdsBetween t n lo hi with
  | case1 | case5 => cases h
  | case2 _ _ _ _ _ _ _ _ ih => exact ih h
  | case3 _ _ _ _ _ _ _ _ _ ih => exact ih h
  | case4 _ _ _ _ first last hget hfirst hlast =>
      exact ⟨_, Array.mem_of_getElem? hget, Nat.le_of_not_lt hfirst, Nat.le_of_not_lt hlast⟩

/-- A table contains nothing of a range that lies outside its own. -/
theorem contains_of_liesWithin
    (h : t.ranges.all (fun r => decide (r.2 < first.toNat ∨ last.toNat < r.1)) = true)
    (hc : liesWithin first last c = true) : t.contains c = false := by
  rw [Bool.eq_false_iff]
  intro hcontains
  obtain ⟨r, hr, hfirst, hlast⟩ := exists_range_of_holdsBetween hcontains
  have hout := Array.all_eq_true_iff_forall_mem.mp h r hr
  have hin := liesWithin_iff.mp hc
  rw [decide_eq_true_eq] at hout
  omega

end RangeTable

namespace Text

open Width

variable {c : Char}

/-- Among the ideographs only emoji are of note. -/
theorem inert_of_not_emoji
    (hc : 0x3000 ≤ c.toNat ∧ c.toNat ≤ 0x9FFF ∨ 0x20000 ≤ c.toNat ∧ c.toNat ≤ 0x2FFFF)
    (h : emojiTable.contains c = false) : Inert c := by
  have halef : isAlef c.toNat = false := by simp [isAlef, within]; omega
  have hcoeng : isCoengLetter c.toNat = false := by simp [isCoengLetter, within]; omega
  have htifinagh : isTifinagh c.toNat = false := by simp [isTifinagh, within]; omega
  have hlisu : within 0xA4FC 0xA4FD c.toNat = false := by simp [within]; omega
  have hflag : isFlagLetter c.toNat = false := by simp [isFlagLetter, within]; omega
  have htone : isSkinTone c.toNat = false := by simp [isSkinTone, within]; omega
  have hne {k : Nat} (hk : k < 0x3000 ∨ 0x9FFF < k ∧ k < 0x20000) : c.toNat ≠ k := by omega
  rw [Inert, step_start, if_neg (by omega)]
  simp only [alone, h, halef, hcoeng, htifinagh, hlisu, hflag, htone, hne, Nat.reduceLT, and_true,
    and_self, or_false, or_true, decide_false, Bool.or_self, Bool.false_eq_true, ↓reduceIte]
  -- a Latin-1 character, one without columns, a wide one, and any other
  repeat' split
  all_goals rfl

theorem inert_of_isKanji (h : isKanji c = true) : Inert c := by
  by_cases hc : c = '々'
  · subst hc
    decide +kernel
  · simp only [isKanji, Bool.or_eq_true, beq_iff_eq, hc, or_false] at h
    have hrange : (0x4E00 ≤ c.toNat ∧ c.toNat ≤ 0x9FFF ∨ 0x3400 ≤ c.toNat ∧ c.toNat ≤ 0x4DBF) ∨
        0x20000 ≤ c.toNat ∧ c.toNat ≤ 0x2A6DF :=
      h.imp (Or.imp liesWithin_iff.mp liesWithin_iff.mp) liesWithin_iff.mp
    refine inert_of_not_emoji (by omega) ?_
    rcases h with (h | h) | h <;>
      exact RangeTable.contains_of_liesWithin (by decide +kernel) h

end Text

end KanaTyping
