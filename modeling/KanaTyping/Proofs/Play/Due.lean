import KanaTyping.Play.Hint
import KanaTyping.Proofs.Kana.Sources
import KanaTyping.Proofs.Play.Transitions

/-!
# Play — the keys that are due

A hint walks through the units of a line with loops of its own.  What it shows can be read off the
segmentation: the keys *due* are those shown for the steps that are not optional, in the spelling
being typed from its node on, and in the units after it.

* `Progress.Coherent.keys_hint`: the keys of the hint are the keys due.
* `Progress.Coherent.due_of_reach`: a key that hits takes the first key due away if the step it
  types is not optional, and none if it is.
* `hint_after_key`: what one key does to the hint of any state that a player can bring about, and
  that the hint is empty exactly when the line is finished.
-/

namespace KanaTyping

/-! ### Keys due in a list of steps and in a list of kana -/

/-- The keys shown for the steps that are not optional. -/
def Step.due (ss : List Step) : List Char :=
  (ss.filter (!·.optional)).map (·.atom.shown)

/-- The keys shown for a spelling. -/
def Spelling.due (s : Spelling) : List Char :=
  Step.due s.steps

/-- The keys shown for the units of a list of kana. -/
def Lexicon.due (x : Lexicon) (kana : List Char) : List Char :=
  (Segment.spellings (x.segments kana)).flatMap Spelling.due

namespace Step

theorem due_append (ss ts : List Step) : due (ss ++ ts) = due ss ++ due ts := by
  rw [due, List.filter_append, List.map_append]
  rfl

theorem due_cons (s : Step) (ss : List Step) :
    due (s :: ss) = (if s.optional then [] else [s.atom.shown]) ++ due ss := by
  cases h : s.optional <;> simp [due, h]

theorem due_eq_nil_iff {ss : List Step} : due ss = [] ↔ ∀ s ∈ ss, s.optional = true := by
  simp [due]

end Step

/-- Segments that ask for no key add none. -/
theorem Segment.due_of_effortless {gs : List Segment} (h : ∀ g ∈ gs, g.effortless = true) :
    (spellings gs).flatMap Spelling.due = [] := by
  induction gs with
  | nil => rfl
  | cons g gs ih =>
      rw [List.forall_mem_cons] at h
      cases g with
      | skipped c => exact ih h.2
      | unit s n =>
          have hs : s.due = [] := Step.due_eq_nil_iff.mpr (List.all_eq_true.mp h.1)
          rw [spellings_cons_unit, List.flatMap_cons, hs, ih h.2]
          rfl

/-! ### Keys of a hint -/

namespace Hint

variable {x : Lexicon} {h : Hint} {ks : List Char}

/-- The hint stands between units or on a step, with the keys `ks` due. -/
structure Due (x : Lexicon) (h : Hint) (ks : List Char) : Prop where
  settled : h.cursor.Settled
  ended : h.node = none → h.cursor.unread = []
  keys : ks = (h.node.elim [] fun n => Step.due n.remaining) ++ x.due h.cursor.unread

theorem due_pull (x : Lexicon) {u : Cursor} (hu : u.Settled) :
    Due x (pull x u) (x.due u.unread) := by
  fun_induction pull x u with
  | case1 u h =>
      have hnil := (Lexicon.take_eq_none_iff hu).mp h
      exact ⟨hu, fun _ => hnil, rfl⟩
  | case2 u c v h ih =>
      obtain ⟨rfl, hl⟩ := Lexicon.take_spec hu h
      have : x.due u.unread = x.due (u.advanceBy 1).unread := by
        rw [Lexicon.due, hl]; rfl
      exact this ▸ ih (hu.advanceBy _)
  | case3 u s n v h =>
      obtain ⟨rfl, hl⟩ := Lexicon.take_spec hu h
      refine ⟨hu.advanceBy _, by simp, ?_⟩
      rw [Lexicon.due, hl]
      rfl

theorem due_stepFrom (x : Lexicon) (n : Node) {u : Cursor} (hu : u.Settled) :
    Due x (stepFrom x n u) (Step.due n.ahead ++ x.due u.unread) := by
  rw [stepFrom]
  cases hm : n.next with
  | none =>
      rw [Node.next_eq_none_iff.mp hm]
      exact due_pull x hu
  | some m =>
      refine ⟨hu, by simp, ?_⟩
      rw [Node.remaining_of_next hm]
      rfl

/-- Optional steps are passed over without a key. -/
theorem Due.toRequired (hd : Due x h ks) : Due x (h.toRequired x) ks := by
  fun_induction Hint.toRequired x h generalizing ks with
  | case1 => exact hd
  | case2 n u ho ih =>
      obtain ⟨hu, -, rfl⟩ := hd
      have hn : Step.due n.remaining = Step.due n.ahead := by
        rw [Node.remaining, Step.due_cons, if_pos (show n.step.optional = true from ho)]
        rfl
      simp only [Option.elim_some, hn]
      exact ih (due_stepFrom x n hu)
  | case3 => exact hd

theorem optional_of_toRequired (x : Lexicon) (h : Hint) :
    ∀ n, (h.toRequired x).node = some n → n.optional = false := by
  fun_induction Hint.toRequired x h with
  | case1 => simp
  | case2 n u _ ih => exact ih
  | case3 n u ho =>
      rintro m e
      cases e
      exact Bool.eq_false_iff.mpr ho

/-- The keys of a hint on a step that is not optional are the keys due. -/
theorem Due.keys_eq (hd : Due x h ks) (hn : ∀ n, h.node = some n → n.optional = false) :
    h.keys x = ks := by
  fun_induction Hint.keys x h generalizing ks with
  | case1 u =>
      obtain ⟨-, he, rfl⟩ := hd
      simp only [he rfl, Option.elim_none, Lexicon.due, Lexicon.segments_nil]
      rfl
  | case2 n u ih =>
      -- the key of this step, and then those of the hint at the next step that is not optional
      obtain ⟨hu, -, rfl⟩ := hd
      have hreq : n.step.optional = false := hn n rfl
      rw [ih (due_stepFrom x n hu).toRequired (optional_of_toRequired x _)]
      simp [Node.remaining, Step.due_cons, hreq, Node.shown]

/-- Between units the keys of the hint are the keys due in the kana unread. -/
theorem keys_ofNode_none (x : Lexicon) {u : Cursor} (hu : u.Settled) :
    (ofNode x none u).keys x = x.due u.unread :=
  (due_pull x hu).toRequired.keys_eq (optional_of_toRequired x _)

end Hint

namespace Progress

variable {x : Lexicon} {p : Progress} {key : Char}

/-- The keys due from a state on. -/
def due (x : Lexicon) (p : Progress) : List Char :=
  (p.node.elim [] fun n => Step.due n.remaining) ++ x.due p.cursor.unread

/-- The keys of the hint are the keys due. -/
theorem Coherent.keys_hint (h : Coherent x p) : (p.hint x).keys x = p.due x := by
  cases hn : p.node with
  | none =>
      rw [hint, due, hn]
      exact Hint.keys_ofNode_none x h.settled
  | some n =>
      have hd : Hint.Due x ⟨some n, p.cursor⟩
          (Step.due n.remaining ++ x.due p.cursor.unread) :=
        ⟨h.settled, by simp, rfl⟩
      rw [hint, due, hn]
      exact hd.toRequired.keys_eq (Hint.optional_of_toRequired x _)

theorem Coherent.remaining_eq (h : Coherent x p) : p.remaining x = (p.due x).length := by
  rw [remaining, h.keys_hint]

/-- Moving on loses no key due. -/
theorem due_moveOn (x : Lexicon) (p : Progress) (hu : p.cursor.Settled) :
    (moveOn x p).due x = x.due p.cursor.unread := by
  have hco := coherent_moveOn x p hu
  obtain ⟨gs, hg, -, -, ⟨hn, hl, -⟩ | ⟨s, n, hn, -, hl, -, -⟩⟩ := moveOn_spec x p hu
  · rw [due, hn, hco.ended hn, Lexicon.due, Lexicon.due, hl, Segment.due_of_effortless hg]
    simp [Segment.spellings]
  · rw [due, hn, Lexicon.due, Lexicon.due, hl, Segment.spellings_append, List.flatMap_append,
      Segment.due_of_effortless hg]
    rfl

/-- A finished line is one with no key due. -/
theorem Coherent.due_eq_nil_iff (h : Coherent x p) : p.due x = [] ↔ p.node = none := by
  constructor
  · intro hd
    cases hn : p.node with
    | none => rfl
    | some n =>
        obtain ⟨s, hs, hreq⟩ := Node.restOptional_eq_false_iff.mp (h.asks n hn)
        rw [due, hn, List.append_eq_nil_iff] at hd
        rw [Step.due_eq_nil_iff.mp hd.1 s hs] at hreq
        cases hreq
  · intro hn
    rw [due, hn, h.ended hn, Lexicon.due, Lexicon.segments_nil]
    rfl

/-- A key that reaches the step `m` hits, and takes the first key due away unless `m` is
optional. -/
theorem Coherent.due_of_reach (h : Coherent x p) {n m : Node} (hn : p.node = some n)
    (hm : n.reach key.toUpper = some m) :
    (p.press x key).1 = .hit ∧
      p.due x = (if m.optional then [] else [m.shown]) ++ (p.press x key).2.due x := by
  obtain ⟨gap, hgap, hskip, -⟩ := Node.reach_eq_some_iff.mp hm
  -- the steps passed over are optional, so no key of theirs is due
  have hdue : p.due x =
      (if m.optional then [] else [m.shown]) ++ (Step.due m.ahead ++ x.due p.cursor.unread) := by
    have hnil : Step.due gap = [] := Step.due_eq_nil_iff.mpr fun s hs => (hskip s hs).1
    rw [due, hn, Option.elim_some, hgap.remaining, Step.due_append, hnil, List.nil_append,
      Node.remaining, Step.due_cons, List.append_assoc]
    rfl
  obtain ⟨o, ho, -, e⟩ | ⟨hrest, e⟩ := press_of_reach x hn hm
  · rw [e]
    refine ⟨rfl, hdue.trans ?_⟩
    rw [Node.remaining_of_next ho]
    rfl
  · have hmove : (p.completeUnit x).due x = x.due p.cursor.unread :=
      due_moveOn x _ h.settled
    rw [e]
    refine ⟨rfl, hdue.trans ?_⟩
    rw [Step.due_eq_nil_iff.mpr hrest, hmove, List.nil_append]

/-- A key that misses changes nothing. -/
theorem press_of_miss (h : (p.press x key).1 = .miss) : (p.press x key).2 = p := by
  obtain ⟨stroke, q, e, hp⟩ := press_spec x p key
  rw [e] at h ⊢
  cases hp with
  | finished | refused => rfl
  | within | completes => cases h

/-- A key that hits reaches a step. -/
theorem exists_reach_of_hit (h : (p.press x key).1 = .hit) :
    ∃ n m, p.node = some n ∧ n.reach key.toUpper = some m := by
  obtain ⟨stroke, q, e, hp⟩ := press_spec x p key
  rw [e] at h
  cases hp with
  | finished | refused => cases h
  | within hn hm | completes hn hm => exact ⟨_, _, hn, hm⟩

/-- **What a key does to the hint.**  In every state that a player can bring about: a key that
misses leaves the hint as it is; a key that hits types the first step from the current one on that
takes it, which leaves the hint as it is if that step is optional, and takes away its first key
otherwise; and the hint is empty exactly when the line is finished. -/
theorem hint_after_key (h : Reachable x p) (key : Char) :
    let q := (p.press x key).2
    let now := (p.hint x).keys x
    let after := (q.hint x).keys x
    ((p.press x key).1 = .miss → after = now) ∧
      ((p.press x key).1 = .hit → ∃ n m, p.node = some n ∧ n.reach key.toUpper = some m ∧
        n.toLast.find? (·.accepts key.toUpper) = some m ∧
        (m.optional = true → after = now) ∧
        (m.optional = false → now = m.shown :: after ∧ p.remaining x = q.remaining x + 1)) ∧
      (p.finished = true ↔ now = []) ∧ (now = [] ↔ p.remaining x = 0) := by
  intro q now after
  have hp : Coherent x p := h.coherent
  have hq : Coherent x q := hp.press key
  have hnow : now = p.due x := hp.keys_hint
  have hafter : after = q.due x := hq.keys_hint
  refine ⟨fun hmiss => ?_, fun hhit => ?_, ?_, ?_⟩
  · simp only [after, now, q, press_of_miss hmiss]
  · obtain ⟨n, m, hn, hm⟩ := exists_reach_of_hit hhit
    have hdue := (hp.due_of_reach hn hm).2
    refine ⟨n, m, hn, hm, Node.find?_toLast_of_reach hm, fun ho => ?_, fun ho => ?_⟩
    · rw [if_pos ho, List.nil_append] at hdue
      rw [hnow, hafter, hdue]
    · rw [if_neg (Bool.eq_false_iff.mp ho), List.singleton_append] at hdue
      refine ⟨by rw [hnow, hafter, hdue], ?_⟩
      rw [hp.remaining_eq, hq.remaining_eq, hdue, List.length_cons]
  · rw [hnow, hp.due_eq_nil_iff, finished, Option.isNone_iff_eq_none]
  · exact List.length_eq_zero_iff.symm

/-- After `S` of `SH?I` the key of the optional step leaves the hint as it is. -/
theorem hint_after_optional_key :
    let p := ((start .sample (.ofPlain ['し', 'ん'])).pressAll .sample ['s']).2
    Reachable .sample p ∧ (p.press .sample 'h').1 = .hit ∧
      ((p.press .sample 'h').2.hint .sample).keys .sample = (p.hint .sample).keys .sample := by
  intro p
  have hr : Reachable .sample p := (Reachable.start _ _).pressAll _
  have hhit : (p.press .sample 'h').1 = .hit := by decide +kernel
  have hopt : (p.node.bind (·.reach 'H')).map (·.optional) = some true := by decide +kernel
  refine ⟨hr, hhit, ?_⟩
  obtain ⟨-, hkey, -⟩ := hint_after_key hr 'h'
  obtain ⟨n, m, hn, hm, -, hsame, -⟩ := hkey hhit
  rw [hn, Option.bind_some, show n.reach 'H' = some m from hm] at hopt
  exact hsame (Option.some.inj hopt)

end Progress

end KanaTyping
