import KanaTyping.Play.Replay
import KanaTyping.Proofs.Play.Hints
import KanaTyping.Proofs.Play.Words

/-!
# Play — what a replay reports

A replay puts together what three walkers along a line say: the state after the keys, the hint taken
from it, and the score of the strokes.  They agree.

* `Progress.typedSteps`: the steps that keys type, one for each key that hits.
* `Coherent.due_eq_append`: the keys shown for the steps typed, and then those still due, are the
  keys that were due.
* `tallies_replay` and `enterAllIn_replay`: the score of a replay is that of its strokes and of the
  keys left untyped, and machines come to the end with it.
* `replay_consistent`: the parts of a replay against each other, and against the guide of the line.
-/

namespace KanaTyping

/-! ### Keys due in part of a list of steps -/

namespace Step

theorem length_due_le (ss : List Step) : (due ss).length ≤ ss.length := by
  rw [due, List.length_map]
  exact List.length_filter_le _ _

/-- Every step has a key due when none is optional. -/
theorem length_due_eq_iff {ss : List Step} :
    (due ss).length = ss.length ↔ ∀ s ∈ ss, s.optional = false := by
  rw [due, List.length_map, List.length_filter_eq_length_iff]
  simp

end Step

namespace Progress

variable {x : Lexicon} {p : Progress} {key : Char}

/-- The step that a key types, if it hits. -/
def typedStep (p : Progress) (key : Char) : Option Node :=
  p.node.bind (·.reach key.toUpper)

/-- The steps that the keys type, one after the other. -/
def typedSteps (x : Lexicon) (p : Progress) : (keys : List Char) → List Node
  | [] => []
  | key :: keys => (p.typedStep key).toList ++ (p.press x key).2.typedSteps x keys

theorem typedStep_of_miss (h : (p.press x key).1 = .miss) : p.typedStep key = none := by
  obtain ⟨stroke, q, e, hp⟩ := press_spec x p key
  rw [e] at h
  cases hp with
  | finished hn => rw [typedStep, hn, Option.bind_none]
  | refused hn hm => rw [typedStep, hn, Option.bind_some, hm]
  | within | completes => cases h

theorem exists_typedStep_of_hit (h : (p.press x key).1 = .hit) :
    ∃ n m, p.node = some n ∧ n.reach key.toUpper = some m ∧ p.typedStep key = some m := by
  obtain ⟨n, m, hn, hm⟩ := exists_reach_of_hit h
  exact ⟨n, m, hn, hm, by rw [typedStep, hn, Option.bind_some, hm]⟩

/-- Each key that hits types one step. -/
theorem length_typedSteps (x : Lexicon) (p : Progress) (keys : List Char) :
    (p.typedSteps x keys).length = (p.pressAll x keys).1.count .hit := by
  induction keys generalizing p with
  | nil => rfl
  | cons key keys ih =>
      rw [typedSteps, pressAll_cons, List.length_append, ih]
      cases hs : (p.press x key).1 with
      | miss =>
          rw [typedStep_of_miss hs, List.count_cons_of_ne (by decide)]
          exact Nat.zero_add _
      | hit =>
          obtain ⟨n, m, -, -, hm⟩ := exists_typedStep_of_hit hs
          rw [hm, List.count_cons_self]
          exact Nat.add_comm _ _

/-- The keys shown for the steps typed, and then the keys still due, are the keys that were due. -/
theorem Coherent.due_eq_append (h : Coherent x p) (keys : List Char) :
    p.due x =
      Step.due ((p.typedSteps x keys).map Node.step) ++ (p.pressAll x keys).2.due x := by
  induction keys generalizing p with
  | nil => rfl
  | cons key keys ih =>
      have hrest := ih (h.press key)
      rw [typedSteps, pressAll_cons, List.map_append, Step.due_append, List.append_assoc, ← hrest]
      cases hs : (p.press x key).1 with
      | miss =>
          rw [typedStep_of_miss hs, press_of_miss hs]
          rfl
      | hit =>
          obtain ⟨n, m, hn, hm, hstep⟩ := exists_typedStep_of_hit hs
          have hdue : Step.due [m.step] = if m.optional then [] else [m.shown] := by
            rw [Step.due_cons, show Step.due [] = [] from rfl, List.append_nil]
            rfl
          rw [hstep, Option.toList_some, List.map_singleton, hdue]
          exact (h.due_of_reach hn hm).2

theorem Coherent.remaining_eq_add (h : Coherent x p) (keys : List Char) :
    p.remaining x = (Step.due ((p.typedSteps x keys).map Node.step)).length +
      (p.pressAll x keys).2.remaining x := by
  rw [h.remaining_eq, (h.pressAll keys).remaining_eq, h.due_eq_append keys, List.length_append]

theorem length_pressAll (x : Lexicon) (p : Progress) (keys : List Char) :
    (p.pressAll x keys).1.length = keys.length := by
  induction keys generalizing p with
  | nil => rfl
  | cons key keys ih => rw [pressAll_cons, List.length_cons, List.length_cons, ih]

end Progress

/-- What a replay enters in its score: the strokes, and then the keys left untyped. -/
def Replay.entries (a : Replay) : List Score.Entry :=
  (a.keys.map Prod.snd).map .stroke ++ [.untyped a.unfinished]

theorem Replay.word_entries (a : Replay) :
    Score.word a.entries = a.keys.map Prod.snd ++ List.replicate a.unfinished .miss := by
  rw [entries, Score.word, List.flatMap_append, ← Score.word, Score.word_map_stroke]
  exact congrArg (_ ++ ·) (List.append_nil _)

namespace TimedLyric

variable {x : Lexicon} {r : ScoreRules} {t : TimedLyric} {keys : List Char}

/-- The keys of a replay are those given, with what they were. -/
theorem keys_replay (x : Lexicon) (r : ScoreRules) (t : TimedLyric) (keys : List Char) :
    (t.replay x r keys).keys.map Prod.fst = keys ∧
      (t.replay x r keys).keys.map Prod.snd =
        ((Progress.start x t.lyric).pressAll x keys).1 := by
  have hlength := Progress.length_pressAll x (Progress.start x t.lyric) keys
  exact ⟨List.map_fst_zip (Nat.le_of_eq hlength.symm), List.map_snd_zip (Nat.le_of_eq hlength)⟩

theorem score_replay :
    (t.replay x r keys).score = Score.zero.enterAll r (t.replay x r keys).entries := by
  rw [Replay.entries, (keys_replay x r t keys).2, Score.enterAll, List.foldl_append]
  exact congrArg (Score.charge r · _) (Score.enterAll_map_stroke r _ _).symm

theorem length_word_replay :
    (Score.word (t.replay x r keys).entries).length =
      keys.length + (t.replay x r keys).unfinished := by
  have hlength := congrArg List.length (keys_replay x r t keys).1
  rw [List.length_map] at hlength
  rw [Replay.word_entries, List.length_append, List.length_map, List.length_replicate, hlength]

/-- The score of a replay is that of its strokes, with a miss for every key left untyped, as long as
the counts stay below their limit. -/
theorem tallies_replay
    (fits : keys.length + (t.replay x r keys).unfinished ≤ Score.countLimit) :
    Score.Tallies r
      ((t.replay x r keys).keys.map Prod.snd ++
        List.replicate (t.replay x r keys).unfinished .miss)
      (t.replay x r keys).score := by
  rw [← Replay.word_entries, score_replay]
  exact (Score.tallies_zero r).enterAll _ (length_word_replay.trans_le fits)

/-- Machines come to the end of a replay with its score, as long as what is worked out on the way
fits. -/
theorem enterAllIn_replay (fits : keys.length + (t.replay x r keys).unfinished ≤ Score.countLimit)
    (hcomputed : ∀ v ∈ Score.computedAll r .zero (t.replay x r keys).entries, Score.Fits v)
    (m : Score.Overflow) :
    Score.zero.enterAllIn m r (t.replay x r keys).entries = some (t.replay x r keys).score := by
  rw [score_replay]
  exact Score.enterAllIn_eq_some m Score.fits_zero
    (fun n => (Score.tallies_zero r).le_of_mem_countedAll (length_word_replay.trans_le fits))
    hcomputed

/-- The keys left untyped break no run of hits before them. -/
theorem maxCombo_replay (x : Lexicon) (r : ScoreRules) (t : TimedLyric) (keys : List Char) :
    IsGreatest {n | List.replicate n Stroke.hit <:+: (t.replay x r keys).keys.map Prod.snd}
      (t.replay x r keys).score.maxCombo := by
  have hstrokes := (Score.tallies_zero r).foldl ((Progress.start x t.lyric).pressAll x keys).1
  have hmax : (t.replay x r keys).score.maxCombo = _ := Score.maxCombo_charge r _ _
  rw [(keys_replay x r t keys).2, hmax]
  exact hstrokes.maxCombo

/-- The kana of the line are parted where the state after the keys has it. -/
theorem length_typed_replay (x : Lexicon) (r : ScoreRules) (t : TimedLyric) (keys : List Char) :
    (t.replay x r keys).typed.length =
      ((Progress.start x t.lyric).pressAll x keys).2.highlighted := by
  have hstands := (Progress.stands_restart x .idle t.lyric).pressAll keys
  exact List.length_take.trans (Nat.min_eq_left hstands.highlighted_le_length)

/-- A replay is finished when no key is left untyped. -/
theorem finished_replay_iff_unfinished (x : Lexicon) (r : ScoreRules) (t : TimedLyric)
    (keys : List Char) :
    (t.replay x r keys).finished = true ↔ (t.replay x r keys).unfinished = 0 := by
  have hp : Progress.Coherent x ((Progress.start x t.lyric).pressAll x keys).2 :=
    (Progress.coherent_restart x .idle t.lyric).pressAll keys
  have hdue := hp.due_eq_nil_iff
  rw [← List.length_eq_zero_iff, ← hp.remaining_eq] at hdue
  exact Option.isNone_iff_eq_none.trans hdue.symm

/-- A replay is finished when no kana is left. -/
theorem finished_replay_iff_pending (x : Lexicon) (r : ScoreRules) (t : TimedLyric)
    (keys : List Char) :
    (t.replay x r keys).finished = true ↔ (t.replay x r keys).pending = [] := by
  have hstands := (Progress.stands_restart x .idle t.lyric).pressAll keys
  have hall := hstands.highlighted_eq_length_iff
  refine Option.isNone_iff_eq_none.trans (hall.symm.trans (Iff.trans ?_ List.drop_eq_nil_iff.symm))
  exact ⟨fun heq => Nat.le_of_eq heq.symm, Nat.le_antisymm hstands.highlighted_le_length⟩

/-- The guide of a line shows the keys of the steps typed that are not optional, and the keys left
untyped. -/
theorem length_keys_guide (x : Lexicon) (r : ScoreRules) (t : TimedLyric) (keys : List Char) :
    (t.guide x).keys.length =
      (Step.due (((Progress.start x t.lyric).typedSteps x keys).map Node.step)).length +
        (t.replay x r keys).unfinished := by
  have hstart : Progress.Coherent x (Progress.start x t.lyric) :=
    Progress.coherent_restart x .idle t.lyric
  have hdue : (Progress.start x t.lyric).due x = x.due t.lyric.kana := by
    rw [← t.lyric.unread_cursor]
    exact Progress.due_moveOn x _ t.lyric.settled_cursor
  have hguide : (t.guide x).keys.length = (Progress.start x t.lyric).remaining x := by
    rw [hstart.remaining_eq, hdue, ← Hint.keys_ofLyric]
    rfl
  rw [hguide]
  exact hstart.remaining_eq_add keys

/-- **A replay holds together.**  As long as the counts stay below their limit: the keys of a replay
are those given; its two pieces of kana make up the line, parted where the state after the keys has
it; it is finished when no key is left untyped, and when no kana is left; the misses are the keys
that missed and those left untyped; the points are those for the hits less those for the misses; the
longest run of hits and the share of hits are those of the keys; and the hits and the keys left
untyped are together no fewer than the keys of the line's guide, and as many when no optional step
has been typed.  The score is the one that machines have that keep the points in words, as long as
everything worked out for the points fits. -/
theorem replay_consistent (x : Lexicon) (r : ScoreRules) (t : TimedLyric) (keys : List Char)
    (fits : keys.length + (t.replay x r keys).unfinished ≤ Score.countLimit) :
    let p := (Progress.start x t.lyric).pressAll x keys
    let a := t.replay x r keys
    let strokes := a.keys.map Prod.snd
    let hits := strokes.count .hit
    a.keys.map Prod.fst = keys ∧ strokes = p.1 ∧
      a.typed ++ a.pending = t.lyric.kana ∧ a.typed.length = p.2.highlighted ∧
      (a.finished = true ↔ a.unfinished = 0) ∧ (a.finished = true ↔ a.pending = []) ∧
      a.score.misses = strokes.count .miss + a.unfinished ∧
      a.score.points = r.hit * hits - r.miss * a.score.misses ∧
      IsGreatest {n | List.replicate n Stroke.hit <:+: strokes} a.score.maxCombo ∧
      a.score.accuracy = (if hits + a.score.misses = 0 then 1.0
        else Float.ofNat hits / Float.ofNat (hits + a.score.misses)) ∧
      (t.guide x).keys.length ≤ hits + a.unfinished ∧
      (hits + a.unfinished = (t.guide x).keys.length ↔
        ∀ n ∈ (Progress.start x t.lyric).typedSteps x keys, n.optional = false) ∧
      ((∀ v ∈ Score.computedAll r .zero a.entries, Score.Fits v) →
        ∀ m, Score.zero.enterAllIn m r a.entries = some a.score) := by
  intro p a strokes hits
  obtain ⟨hkeys, hstrokes⟩ := keys_replay x r t keys
  have htally : Score.Tallies r (strokes ++ List.replicate a.unfinished .miss) a.score :=
    tallies_replay fits
  -- the counts of the strokes, with the keys left untyped
  have hhits : (strokes ++ List.replicate a.unfinished Stroke.miss).count .hit = hits := by
    rw [List.count_append, List.count_replicate]
    rfl
  have hmisses : a.score.misses = strokes.count .miss + a.unfinished := by
    rw [htally.misses, List.count_append, List.count_replicate_self]
  have hlength : (strokes ++ List.replicate a.unfinished Stroke.miss).length =
      hits + a.score.misses := by
    rw [hmisses, List.length_append, List.length_replicate,
      ← Stroke.count_hit_add_count_miss strokes, Nat.add_assoc]
  have hpoints : a.score.points = r.hit * hits - r.miss * a.score.misses := by
    rw [htally.points, hhits, htally.misses]
  have haccuracy := htally.accuracy_eq
  rw [hhits, hlength] at haccuracy
  -- the steps typed, one for each hit, against the keys of the guide
  let typed := ((Progress.start x t.lyric).typedSteps x keys).map Node.step
  have hguide : (t.guide x).keys.length = (Step.due typed).length + a.unfinished :=
    length_keys_guide x r t keys
  have htyped : hits = typed.length := by
    have hsteps := Progress.length_typedSteps x (Progress.start x t.lyric) keys
    rw [← hstrokes] at hsteps
    rw [List.length_map, hsteps]
  refine ⟨hkeys, hstrokes, List.take_append_drop _ _, length_typed_replay x r t keys,
    finished_replay_iff_unfinished x r t keys, finished_replay_iff_pending x r t keys, hmisses,
    hpoints, maxCombo_replay x r t keys, haccuracy, ?_, ?_, enterAllIn_replay fits⟩
  · rw [hguide, htyped]
    exact Nat.add_le_add_right (Step.length_due_le typed) _
  · rw [hguide, htyped, Nat.add_right_cancel_iff, eq_comm, Step.length_due_eq_iff,
      List.forall_mem_map]
    rfl

/-- On the line `しーんし`, of which the guide shows `SINSI`, the keys `shxin` hit four times, once
on an optional step, and leave two keys untyped. -/
theorem replay_consistent_sample :
    let t : TimedLyric := ⟨1000, .ofPlain ['し', 'ー', 'ん', 'し']⟩
    let a := t.replay .sample ⟨311, 601⟩ ['s', 'h', 'x', 'i', 'n']
    a.unfinished = 2 ∧ a.score.misses = 3 ∧
      a.score.points = 311 * 4 - 601 * 3 ∧ a.finished = false ∧
      (t.guide .sample).keys.length < 4 + a.unfinished := by
  intro t a
  let p := (Progress.start .sample t.lyric).pressAll .sample ['s', 'h', 'x', 'i', 'n']
  have hp : Progress.Coherent .sample p.2 :=
    ((Progress.Reachable.start _ _).pressAll _).coherent
  have hdue : p.2.due .sample = ['S', 'I'] := by decide +kernel
  have hunfinished : a.unfinished = 2 := by
    have hremaining := hp.remaining_eq
    rw [hdue] at hremaining
    exact hremaining
  have hcounts : p.1.count .hit = 4 ∧ p.1.count .miss = 1 := by decide +kernel
  have hoptional : ¬ ∀ n ∈ (Progress.start .sample t.lyric).typedSteps .sample
      ['s', 'h', 'x', 'i', 'n'], n.optional = false := by
    decide +kernel
  have fits : 5 + a.unfinished ≤ Score.countLimit := by
    rw [hunfinished]
    decide
  obtain ⟨hkeys, hstrokes, -, -, -, hpending, hmisses, hpoints, -, -, hle, hiff, -⟩ :=
    replay_consistent .sample ⟨311, 601⟩ t ['s', 'h', 'x', 'i', 'n'] fits
  have hpieces : a.pending = ['し'] := by decide +kernel
  rw [hstrokes, hcounts.2, hunfinished] at hmisses
  rw [hstrokes, hcounts.1, hmisses] at hpoints
  rw [hstrokes, hcounts.1] at hle hiff
  refine ⟨hunfinished, hmisses, hpoints, ?_, ?_⟩
  · rw [Bool.eq_false_iff, ne_eq, hpending, hpieces]
    decide
  · exact Nat.lt_of_le_of_ne hle fun heq => hoptional (hiff.mp heq.symm)

end TimedLyric

end KanaTyping
