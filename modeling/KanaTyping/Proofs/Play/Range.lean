import KanaTyping.Proofs.Play.Charges
import KanaTyping.Proofs.Play.Replays
import KanaTyping.Proofs.Settings.Session

/-!
# Play — the range of points

A machine has 64 bits with a sign for the points.  Settings *allow* `N` strokes when the points of
`N` hits fit and so do those of `N` misses.

* `nonneg_of_parse`: settings that are taken have no negative points.
* `Tallies.fits_points`: the points fit when those of as many hits do, and those of as many misses.
* `Allows.fits_of_mem`: then everything worked out on the way fits, and `Allows.of_fits`: nothing
  less will do.

`points_fit_iff` says of which settings all numbers fit, for scores of up to a number of strokes.
-/

namespace KanaTyping

/-- Settings that are taken have no negative points. -/
theorem Settings.nonneg_of_parse [Toml.Decoder] {document : List Char} {s : Settings}
    (h : parse document = .ok s) : 0 ≤ s.score.hit ∧ 0 ≤ s.score.miss := by
  have hflaw : s.flaw? = none := by
    rw [parse] at h
    split at h
    · cases h
    · split at h
      · cases h
      · next hnone =>
          cases h
          exact hnone
  rw [flaw?] at hflaw
  split at hflaw
  · cases hflaw
  · split at hflaw
    · cases hflaw
    · omega

namespace Score

variable {r : ScoreRules} {s : Score} {w : List Stroke} {e : Entry} {es : List Entry}
variable {a b v : Int} {n N : Nat}

/-! ### Numbers that fit -/

theorem Fits.of_nonneg_of_le (hb : Fits b) (ha : 0 ≤ a) (hab : a ≤ b) : Fits a := by
  rw [fits_iff] at hb ⊢
  omega

theorem Fits.sub (ha : Fits a) (hb : Fits b) (ha0 : 0 ≤ a) (hb0 : 0 ≤ b) : Fits (a - b) := by
  rw [fits_iff] at ha hb ⊢
  omega

/-- Fewer points of one kind fit as well. -/
theorem Fits.mul_le (h : Fits (a * N)) (ha : 0 ≤ a) (hn : n ≤ N) : Fits (a * n) := by
  have hle : (n : Int) ≤ N := Int.ofNat_le.mpr hn
  exact h.of_nonneg_of_le (Int.mul_nonneg ha (Int.natCast_nonneg n))
    (Int.mul_le_mul_of_nonneg_left hle ha)

/-! ### Within the range -/

/-- The points of `N` hits and those of `N` misses fit, and neither are negative. -/
structure Allows (r : ScoreRules) (N : Nat) : Prop where
  hit : 0 ≤ r.hit
  miss : 0 ≤ r.miss
  fits_hit : Fits (r.hit * N)
  fits_miss : Fits (r.miss * N)

theorem Tallies.fits_points (h : Tallies r w s) (hr : Allows r N) (hw : w.length ≤ N) :
    Fits s.points := by
  have hcount := Stroke.count_hit_add_count_miss w
  have hhits : Fits (r.hit * w.count .hit) := hr.fits_hit.mul_le hr.hit (by omega)
  have hmisses : Fits (r.miss * w.count .miss) := hr.fits_miss.mul_le hr.miss (by omega)
  rw [h.points]
  exact hhits.sub hmisses (Int.mul_nonneg hr.hit (Int.natCast_nonneg _))
    (Int.mul_nonneg hr.miss (Int.natCast_nonneg _))

/-- What is worked out at one entry fits. -/
theorem Tallies.fits_computed (h : Tallies r w s) (hr : Allows r N) (hN : N ≤ countLimit)
    (hw : (w ++ e.strokes).length ≤ N) (hv : v ∈ computed r s e) : Fits v := by
  have hafter := h.enter e (Nat.le_trans hw hN)
  cases e with
  | stroke k =>
      obtain rfl := List.mem_singleton.mp hv
      exact hafter.fits_points hr hw
  | untyped n =>
      -- the cost first, and then the points that it is taken off
      have hn : min n countLimit ≤ N := by
        rw [Entry.strokes, List.length_append, List.length_replicate] at hw
        omega
      rw [computed, List.mem_cons, List.mem_singleton] at hv
      rcases hv with rfl | rfl
      · exact hr.fits_miss.mul_le hr.miss hn
      · rw [← points_charge]
        exact hafter.fits_points hr hw

/-- What is worked out over some entries fits. -/
theorem Allows.fits_of_mem (hr : Allows r N) (hN : N ≤ countLimit) (hes : (word es).length ≤ N)
    (hv : v ∈ computedAll r zero es) : Fits v := by
  obtain ⟨before, e, after, rfl, hlast⟩ := mem_computedAll hv
  rw [word, List.flatMap_append, ← word, ← word, append_word_cons, List.length_append] at hes
  have hw : (word before ++ e.strokes).length ≤ N := Nat.le_trans (Nat.le_add_right _ _) hes
  have hbefore : (word before).length ≤ countLimit := by
    rw [List.length_append] at hw
    omega
  exact ((tallies_zero r).enterAll before hbefore).fits_computed hr hN hw hlast

/-- The points of `N` hits are worked out, and so is the cost of `N` misses. -/
theorem Allows.of_fits (hhit : 0 ≤ r.hit) (hmiss : 0 ≤ r.miss) (hN : N ≤ countLimit)
    (h : ∀ es, (word es).length ≤ N → ∀ v ∈ computedAll r zero es, Fits v) : Allows r N := by
  refine ⟨hhit, hmiss, ?_, ?_⟩
  · -- the hits, and then a charge of nothing
    let hits : List Entry := (List.replicate N Stroke.hit).map .stroke
    have hword : word (hits ++ [.untyped 0]) = List.replicate N .hit := by
      rw [word, List.flatMap_append]
      exact (List.append_nil _).trans (word_map_stroke _)
    have hpoints : (zero.enterAll r hits).points = r.hit * N := by
      rw [enterAll_map_stroke, ((tallies_zero r).foldl _).points]
      simp [List.count_replicate]
    have hmem : r.hit * N ∈ computedAll r zero (hits ++ [.untyped 0]) := by
      rw [computedAll_append, List.mem_append]
      right
      simp [computedAll, computed, hpoints, charged]
    exact h _ (by rw [hword, List.length_replicate]) _ hmem
  · have hcost : charged r N = r.miss * N := by
      rw [charged, Nat.min_eq_left hN]
    rw [← hcost]
    refine h [.untyped N] ?_ _ List.mem_cons_self
    simp [word, Entry.strokes]

/-! ### Settings -/

/-- **Which settings keep the points in range.**  Settings that are taken keep every number worked
out for the points of up to `N` strokes in 64 bits with a sign, whatever is entered, exactly if the
points of `N` hits fit and those of `N` misses do.  Then the numbers of every replay of so many keys
fit, typed ones and untyped ones together. -/
theorem points_fit_iff [Toml.Decoder] {document : List Char} {s : Settings} {N : Nat}
    (h : Settings.parse document = .ok s) (hN : N ≤ countLimit) :
    ((∀ es, (word es).length ≤ N → ∀ v ∈ computedAll s.score zero es, Fits v) ↔
        Fits (s.score.hit * N) ∧ Fits (s.score.miss * N)) ∧
      (Fits (s.score.hit * N) ∧ Fits (s.score.miss * N) →
        ∀ (x : Lexicon) (t : TimedLyric) (keys : List Char), let a := t.replay x s.score keys
          keys.length + a.unfinished ≤ N → a.score = zero.enterAll s.score a.entries ∧
            ∀ v ∈ computedAll s.score zero a.entries, Fits v) := by
  obtain ⟨hhit, hmiss⟩ := Settings.nonneg_of_parse h
  have hfits : Fits (s.score.hit * N) ∧ Fits (s.score.miss * N) →
      ∀ es, (word es).length ≤ N → ∀ v ∈ computedAll s.score zero es, Fits v :=
    fun hs es hes v => Allows.fits_of_mem ⟨hhit, hmiss, hs.1, hs.2⟩ hN hes
  refine ⟨⟨fun hall => ?_, hfits⟩, fun hs x t keys => ?_⟩
  · have hallows := Allows.of_fits hhit hmiss hN hall
    exact ⟨hallows.fits_hit, hallows.fits_miss⟩
  · intro a ha
    exact ⟨TimedLyric.score_replay, hfits hs a.entries (TimedLyric.length_word_replay.trans_le ha)⟩

/-- The standard settings keep the points in range for as many strokes as can be counted. -/
theorem points_fit_standard :
    Settings.parse Settings.standardText.toList = .ok Settings.standard ∧
      ∀ es, (word es).length ≤ countLimit →
        ∀ v ∈ computedAll Settings.standard.score zero es, Fits v :=
  ⟨Settings.parse_standardText,
    (points_fit_iff Settings.parse_standardText (Nat.le_refl _)).1.mpr (by decide)⟩

/-- Settings that are taken may give so many points for a hit that those of two do not fit. -/
theorem exists_points_out_of_range :
    ∃ (document : List Char) (s : Settings) (es : List Entry),
      Settings.parse document = .ok s ∧ (word es).length ≤ countLimit ∧
        ∃ v ∈ computedAll s.score zero es, ¬ Fits v := by
  let document : List Char := ("[score]\nhit = 9223372036854775807\nmiss = 601\n\n" ++
    "[level]\nkana_per_ms_scale = 11000.0\nmax = 99\n").toList
  let s : Settings := ⟨⟨9223372036854775807, 601⟩, Settings.standard.level⟩
  have hs : Settings.parse document = .ok s := Settings.eq_ok_of_toOption (by decide +kernel)
  exact ⟨document, s, [.stroke .hit, .stroke .hit], hs, by decide, by decide⟩

end Score

end KanaTyping
