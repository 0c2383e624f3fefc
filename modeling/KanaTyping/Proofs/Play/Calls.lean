import KanaTyping.Proofs.Kana.Contents
import KanaTyping.Proofs.Lyrics.Walk
import KanaTyping.Proofs.Play.Due
import Mathlib.Order.Bounds.Defs

/-!
# Play — how often a line is looked at

Three loops take segments from a line one after the other: that of a hint for the next unit, the one
for its next step that is not optional, and that of a player's progress for the next unit that asks
for a key.  A relation for each says how the loop goes, with the number of segments that it takes.

* `front_isGreatest` and `front_eq_none_iff`: the unit at the front is the longest one known.
* `Takes.add_length_le`: every take leaves less kana, so there are no more of them than kana.
* `Pulls.takes`, `Passes.takes` and `Moves.takes`: a loop takes its segments one after the other.

`takes_bounded` puts them together for the cursors of a line.
-/

namespace KanaTyping

namespace Lexicon

variable {t : Table} {x : Lexicon} {kana : List Char} {s : Spelling} {n w : Nat}

/-! ### The longest unit -/

/-- A unit has one to three kana. -/
theorem length_of_find (h : ofTable t = .ok x) (hs : x.find kana = some s) :
    1 ≤ kana.length ∧ kana.length ≤ 3 := by
  obtain ⟨g, hg, -⟩ := (find_eq_some_iff h).mp hs
  unfold Table.grammarFor at hg
  split at hg
  · simp
  · simp
  · simp
  · cases hg

/-- The numbers of kana at the front that are a unit together. -/
def known (x : Lexicon) (kana : List Char) : Set Nat :=
  {n | n ≤ kana.length ∧ ∃ s, x.find (kana.take n) = some s}

theorem known_subset (h : ofTable t = .ok x) (hn : n ∈ x.known kana) : 1 ≤ n ∧ n ≤ 3 := by
  obtain ⟨hle, s, hs⟩ := hn
  have hlength := length_of_find h hs
  rwa [List.length_take_of_le hle] at hlength

theorem frontOf_eq_none_iff : x.frontOf kana n = none ↔ n ∉ x.known kana := by
  rw [frontOf, known, Set.mem_ofPred_eq]
  split
  · next hle => simp [hle, Option.eq_none_iff_forall_ne_some]
  · next hle => simp [hle]

theorem mem_known_of_front (h : x.front kana = some (s, w)) : w ∈ x.known kana :=
  ⟨(front_eq_some h).2.2.1, s, (front_eq_some h).2.2.2⟩

/-- The unit at the front is the longest one known. -/
theorem front_isGreatest (h : ofTable t = .ok x) (hf : x.front kana = some (s, w)) :
    IsGreatest (x.known kana) w := by
  refine ⟨mem_known_of_front hf, fun n hn => ?_⟩
  have hthree := (known_subset h hn).2
  -- a number that was tried before `w` is not known
  have hne : ∀ m, x.frontOf kana m = none → n ≠ m := by
    rintro m hm rfl
    exact frontOf_eq_none_iff.mp hm hn
  simp only [front, Option.orElse_eq_orElse, Option.orElse_eq_or, Option.or_eq_some_iff] at hf
  rcases hf with hf | ⟨hno, hf | ⟨hno', hf⟩⟩
  · obtain ⟨rfl, -⟩ := frontOf_eq_some hf
    exact hthree
  · obtain ⟨rfl, -⟩ := frontOf_eq_some hf
    have := hne 3 hno
    omega
  · obtain ⟨rfl, -⟩ := frontOf_eq_some hf
    have := hne 3 hno
    have := hne 2 hno'
    omega

/-- No unit is at the front exactly when none is known. -/
theorem front_eq_none_iff (h : ofTable t = .ok x) : x.front kana = none ↔ x.known kana = ∅ := by
  constructor
  · intro hf
    simp only [front, Option.orElse_eq_orElse, Option.orElse_eq_or, Option.or_eq_none_iff] at hf
    refine Set.eq_empty_of_forall_notMem fun n hn => ?_
    obtain ⟨hone, hthree⟩ := known_subset h hn
    obtain rfl | rfl | rfl : n = 1 ∨ n = 2 ∨ n = 3 := by omega
    · exact frontOf_eq_none_iff.mp hf.2.2 hn
    · exact frontOf_eq_none_iff.mp hf.2.1 hn
    · exact frontOf_eq_none_iff.mp hf.1 hn
  · intro hempty
    refine Option.eq_none_iff_forall_ne_some.mpr ?_
    rintro ⟨s, w⟩ hf
    exact Set.notMem_empty w (hempty ▸ mem_known_of_front hf)

/-! ### Takes -/

variable {u v v' : Cursor} {g : Segment} {k : Nat} {c : Char}

/-- What is found when a unit is taken. -/
theorem take_eq_unit (h : ofTable t = .ok x) (hu : u.Settled)
    (ht : x.take u = some (.unit s w, v)) :
    1 ≤ w ∧ w ≤ min 3 u.unread.length ∧ IsGreatest (x.known u.unread) w ∧
      x.find (u.unread.take w) = some s ∧ v.unread = u.unread.drop w := by
  have hf : x.front u.unread = some (s, w) := by
    rw [take_eq_front hu, Option.map_eq_some_iff] at ht
    obtain ⟨c, -, ht⟩ := ht
    split at ht
    · next hf => cases ht; exact hf
    · cases ht
  obtain ⟨rfl, -⟩ := take_spec hu ht
  obtain ⟨hone, hthree, hle, hfind⟩ := front_eq_some hf
  exact ⟨hone, le_min hthree hle, front_isGreatest h hf, hfind, hu.unread_advanceBy w⟩

/-- A kana is skipped exactly when there is one and no unit is known. -/
theorem exists_take_eq_skipped_iff (h : ofTable t = .ok x) (hu : u.Settled) :
    (∃ c v, x.take u = some (.skipped c, v)) ↔ 0 < u.unread.length ∧ x.known u.unread = ∅ := by
  rw [take_eq_front hu, ← front_eq_none_iff h, List.length_pos_iff]
  cases hk : u.unread with
  | nil => simp
  | cons c cs => cases hf : x.front (c :: cs) <;> simp

/-- `k` takes in a row, which lead from one cursor to another. -/
inductive Takes (x : Lexicon) : Cursor → Nat → Cursor → Prop
  | none (u : Cursor) : Takes x u 0 u
  | more {u v v' : Cursor} {g : Segment} {k : Nat} (take : x.take u = some (g, v))
      (rest : Takes x v k v') : Takes x u (k + 1) v'

theorem Takes.one (take : x.take u = some (g, v)) : Takes x u 1 v :=
  .more take (.none v)

theorem Takes.trans {j : Nat} (h : Takes x u j v) (h' : Takes x v k v') :
    Takes x u (j + k) v' := by
  induction h with
  | none => rwa [Nat.zero_add]
  | more take _ ih => rw [Nat.succ_add]; exact .more take (ih h')

/-- Every take leaves less kana. -/
theorem length_lt_of_take (hu : u.Settled) (ht : x.take u = some (g, v)) :
    v.Settled ∧ v.unread.length < u.unread.length := by
  obtain ⟨rfl, hsegments⟩ := take_spec hu ht
  refine ⟨hu.advanceBy _, ?_⟩
  have hwidth := congrArg Segment.width hsegments
  rw [Segment.width, width_segments, width_segments] at hwidth
  have hpos : 0 < g.size := size_pos_of_mem_segments (hsegments ▸ List.mem_cons_self)
  omega

/-- There are no more takes than kana that they read. -/
theorem Takes.add_length_le (h : Takes x u k v) (hu : u.Settled) :
    k + v.unread.length ≤ u.unread.length := by
  induction h with
  | none => exact Nat.le_of_eq (Nat.zero_add _)
  | more take _ ih =>
      obtain ⟨hv, hlt⟩ := length_lt_of_take hu take
      have hle := ih hv
      omega

end Lexicon

/-! ### The loops of a hint -/

namespace Hint

variable {x : Lexicon} {u v : Cursor} {h g : Hint} {k : Nat}

/-- The search for the next unit from a cursor on: `k` segments are taken until it is found, or the
line ends. -/
inductive Pulls (x : Lexicon) : Cursor → Nat → Hint → Prop
  | atEnd {u : Cursor} (take : x.take u = none) : Pulls x u 0 ⟨none, u⟩
  | skips {u v : Cursor} {c : Char} {k : Nat} {h : Hint} (take : x.take u = some (.skipped c, v))
      (rest : Pulls x v k h) : Pulls x u (k + 1) h
  | finds {u v : Cursor} {s : Spelling} {w : Nat} (take : x.take u = some (.unit s w, v)) :
      Pulls x u 1 ⟨some s.head, v⟩

/-- The search for the next step that is not optional: `k` segments are taken until it is found, or
the line ends. -/
inductive Passes (x : Lexicon) : Hint → Nat → Hint → Prop
  | atEnd {u : Cursor} : Passes x ⟨none, u⟩ 0 ⟨none, u⟩
  | required {n : Node} {u : Cursor} (required : n.optional = false) :
      Passes x ⟨some n, u⟩ 0 ⟨some n, u⟩
  | steps {n m : Node} {u : Cursor} {k : Nat} {g : Hint} (optional : n.optional = true)
      (next : n.next = some m) (rest : Passes x ⟨some m, u⟩ k g) : Passes x ⟨some n, u⟩ k g
  | pulls {n : Node} {u : Cursor} {j k : Nat} {h g : Hint} (optional : n.optional = true)
      (last : n.next = none) (pull : Pulls x u j h) (rest : Passes x h k g) :
      Passes x ⟨some n, u⟩ (j + k) g

theorem Pulls.takes (hp : Pulls x u k h) : x.Takes u k h.cursor := by
  induction hp with
  | atEnd => exact .none _
  | skips take _ ih => exact .more take ih
  | finds take => exact .one take

theorem Passes.takes (hp : Passes x h k g) : x.Takes h.cursor k g.cursor := by
  induction hp with
  | atEnd => exact .none _
  | required => exact .none _
  | steps _ _ _ ih => exact ih
  | pulls _ _ pull _ ih => exact pull.takes.trans ih

theorem exists_pulls (x : Lexicon) (u : Cursor) : ∃ k, Pulls x u k (pull x u) := by
  fun_induction pull x u with
  | case1 u take => exact ⟨0, .atEnd take⟩
  | case2 u c v take ih => exact ih.imp' (· + 1) fun _ rest => .skips take rest
  | case3 u s w v take => exact ⟨1, .finds take⟩

theorem exists_passes (x : Lexicon) (h : Hint) : ∃ k, Passes x h k (h.toRequired x) := by
  fun_induction toRequired x h with
  | case1 u => exact ⟨0, .atEnd⟩
  | case2 n u optional ih =>
      -- an optional step is left for the next one, and the last one of a unit for the next unit
      obtain ⟨k, rest⟩ := ih
      rw [stepFrom] at rest ⊢
      split at rest
      · next m next => exact ⟨k, .steps optional next rest⟩
      · next last =>
          obtain ⟨j, hpull⟩ := exists_pulls x u
          exact ⟨j + k, .pulls optional last hpull rest⟩
  | case3 n u required => exact ⟨0, .required (Bool.eq_false_iff.mpr required)⟩

/-- When no step is found, the line has been read to its end. -/
theorem unread_of_toRequired (hu : h.cursor.Settled) (hend : h.node = none → h.cursor.unread = [])
    (hnone : (h.toRequired x).node = none) : (h.toRequired x).cursor.unread = [] :=
  (Due.toRequired ⟨hu, hend, rfl⟩).ended hnone

end Hint

/-! ### The loop of a player's progress -/

namespace Progress

variable {x : Lexicon} {p q : Progress} {k : Nat}

/-- The search for the next unit that asks for a key: `k` segments are taken until it is found, or
the line ends. -/
inductive Moves (x : Lexicon) : Progress → Nat → Progress → Prop
  | atEnd {p : Progress} (take : x.take p.cursor = none) :
      Moves x p 0 { p with node := none, highlighted := p.consumed }
  | skips {p q : Progress} {c : Char} {v : Cursor} {k : Nat}
      (take : x.take p.cursor = some (.skipped c, v))
      (rest : Moves x { p with cursor := v, consumed := p.consumed + 1 } k q) :
      Moves x p (k + 1) q
  | passes {p q : Progress} {s : Spelling} {w : Nat} {v : Cursor} {k : Nat}
      (take : x.take p.cursor = some (.unit s w, v)) (optional : s.head.restOptional = true)
      (rest : Moves x { p with
        cursor := v
        resolved := p.resolved + 1
        consumed := p.consumed + w
        highlighted := p.consumed
        active := []
        completed := p.completed ++ p.cursor.glyphs w } k q) :
      Moves x p (k + 1) q
  | stops {p : Progress} {s : Spelling} {w : Nat} {v : Cursor}
      (take : x.take p.cursor = some (.unit s w, v)) (asks : s.head.restOptional = false) :
      Moves x p 1 { p with
        node := some s.head
        cursor := v
        consumed := p.consumed + w
        highlighted := p.consumed
        active := p.cursor.glyphs w }

theorem Moves.takes (h : Moves x p k q) : x.Takes p.cursor k q.cursor := by
  induction h with
  | atEnd => exact .none _
  | skips take _ ih => exact .more take ih
  | passes take _ _ ih => exact .more take ih
  | stops take => exact .one take

theorem exists_moves (x : Lexicon) (p : Progress) : ∃ k, Moves x p k (moveOn x p) := by
  fun_induction moveOn x p with
  | case1 p take => exact ⟨0, .atEnd take⟩
  | case2 p c v take ih => exact ih.imp' (· + 1) fun _ rest => .skips take rest
  | case3 p s w v take glyphs optional ih =>
      exact ih.imp' (· + 1) fun _ rest => .passes take optional rest
  | case4 p s w v take glyphs asks => exact ⟨1, .stops take (Bool.eq_false_iff.mpr asks)⟩

end Progress

/-- **A line is looked at no more often than it has kana.**  Let a cursor have come to any place of
a line, with the kana `kana` left.  Nothing is taken exactly when there are none.  Otherwise the
longest of the units known is taken, of one to three kana, or a kana is skipped, exactly when none
is known; the kana after it are left.  Takes in a row are no more than the kana they read.  So the
loops that search for the next unit, for the next step that is not optional, and for the next unit
that asks for a key all come to an end, whatever the table; and the second one stops on a step that
is not optional, or at the end of the line. -/
theorem Lexicon.takes_bounded {t : Table} {x : Lexicon} (h : ofTable t = .ok x) (l : Lyric)
    (ms : List Cursor.Move) :
    let u := l.cursor.walk ms
    let kana := l.kana.drop (Cursor.Move.total ms)
    u.unread = kana ∧ (x.take u = none ↔ kana.length = 0) ∧
      (∀ s w v, x.take u = some (.unit s w, v) →
        1 ≤ w ∧ w ≤ min 3 kana.length ∧ IsGreatest (x.known kana) w ∧
          x.find (kana.take w) = some s ∧ v.unread = kana.drop w) ∧
      (∀ c v, x.take u = some (.skipped c, v) → v.unread = kana.drop 1) ∧
      ((∃ c v, x.take u = some (.skipped c, v)) ↔ 0 < kana.length ∧ x.known kana = ∅) ∧
      (∀ k v, x.Takes u k v → k + v.unread.length ≤ kana.length) ∧
      (∃ k, Hint.Pulls x u k (Hint.pull x u) ∧
        k + (Hint.pull x u).cursor.unread.length ≤ kana.length) ∧
      (∀ n : Option Node, (n = none → kana = []) → let g := Hint.toRequired x ⟨n, u⟩
        (∃ k, Hint.Passes x ⟨n, u⟩ k g ∧ k + g.cursor.unread.length ≤ kana.length) ∧
          (g.node = none ∧ g.cursor.unread = [] ∨
            ∃ m, g.node = some m ∧ m.optional = false)) ∧
      ∀ p : Progress, p.cursor = u → ∃ k, Progress.Moves x p k (p.moveOn x) ∧
        k + (p.moveOn x).cursor.unread.length ≤ kana.length := by
  intro u kana
  have hat : u = l.cursor.advanceBy (Cursor.Move.total ms) := l.cursor.walk_eq_advanceBy ms
  have hu : u.Settled := hat ▸ l.settled_cursor.advanceBy _
  have hkana : u.unread = kana := hat ▸ l.unread_advanceBy _
  have hbound : ∀ k v, x.Takes u k v → k + v.unread.length ≤ kana.length := fun k v htakes =>
    hkana ▸ htakes.add_length_le hu
  rw [← hkana] at hbound ⊢
  refine ⟨rfl, ?_, fun s w v => take_eq_unit h hu, fun c v ht => ?_,
    exists_take_eq_skipped_iff h hu, hbound, ?_, fun n hn => ?_, fun p hp => ?_⟩
  · rw [take_eq_none_iff hu, List.length_eq_zero_iff]
  · obtain ⟨rfl, -⟩ := take_spec hu ht
    exact hu.unread_advanceBy 1
  · obtain ⟨k, hpulls⟩ := Hint.exists_pulls x u
    exact ⟨k, hpulls, hbound k _ hpulls.takes⟩
  · intro g
    obtain ⟨k, hpasses⟩ := Hint.exists_passes x ⟨n, u⟩
    refine ⟨⟨k, hpasses, hbound k _ hpasses.takes⟩, ?_⟩
    cases hg : g.node with
    | none => exact .inl ⟨rfl, Hint.unread_of_toRequired hu hn hg⟩
    | some m => exact .inr ⟨m, rfl, Hint.optional_of_toRequired x _ m hg⟩
  · obtain ⟨k, hmoves⟩ := Progress.exists_moves x p
    exact ⟨k, hmoves, hbound k _ (hp ▸ hmoves.takes)⟩

/-- Two kana into `しゃゐー`: the kana there is skipped, the mark after it is an optional step alone,
and from there no step is found that is not optional. -/
theorem Lexicon.takes_bounded_sample :
    let l : Lyric := .ofPlain ['し', 'ゃ', 'ゐ', 'ー']
    let u := l.cursor.walk [.many 2]
    let n : Node := ⟨[], ⟨.key '-', true⟩, []⟩
    let h : Hint := ⟨some n, l.cursor.walk [.many 4]⟩
    sample.known ['ゐ', 'ー'] = ∅ ∧ (∃ k ≤ 2, Hint.Pulls sample u k h) ∧
      (h.toRequired sample).node = none ∧ (h.toRequired sample).cursor.unread = [] := by
  intro l u n h
  have hkana : l.kana.drop 2 = ['ゐ', 'ー'] := by decide +kernel
  have htake : sample.take u = some (.skipped 'ゐ', u.advance) := by decide +kernel
  have hpull : Hint.pull sample u = h := by decide +kernel
  have hnone : (h.toRequired sample).node = none := by
    have hstep : Hint.stepFrom sample n h.cursor = ⟨none, h.cursor⟩ := by decide +kernel
    have hoptional : n.optional = true := rfl
    rw [Hint.toRequired, if_pos hoptional, hstep, Hint.toRequired]
  obtain ⟨-, -, -, -, hskipped, -, ⟨k, hpulls, hk⟩, -⟩ := takes_bounded ofTable_sample l [.many 2]
  obtain ⟨-, -, -, -, -, -, -, hrequired, -⟩ := takes_bounded ofTable_sample l [.many 4]
  refine ⟨(hkana ▸ hskipped.mp ⟨_, _, htake⟩).2, ⟨k, ?_, hpull ▸ hpulls⟩, hnone, ?_⟩
  · exact Nat.le_trans (Nat.le_add_right _ _) hk
  · have hsome : h.node ≠ none := Option.some_ne_none n
    obtain ⟨-, hunread⟩ | ⟨m, hm, -⟩ := (hrequired h.node fun hn => absurd hn hsome).2
    · exact hunread
    · cases hnone.symm.trans hm

end KanaTyping
