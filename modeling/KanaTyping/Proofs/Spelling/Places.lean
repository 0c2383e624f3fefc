import KanaTyping.Play.Progress

/-!
# Spellings — the places of a spelling and the place a key reaches

A node is a place in a spelling: one step, with the steps passed and the steps ahead.  `Over n gap
m` says that `m` is the place that comes after the steps `gap` from `n` on, and everything that
walks through a spelling is told by it:

* `mem_toLast_iff`: the places from `n` to the last are those that come after some gap;
* `reach_eq_some_iff`: a key reaches the place after a gap of optional steps that do not take it;
* `reach_eq_none_iff`: it reaches no place when no step up to the first one that is not optional
  (`Step.inReach`) takes it;
* `find?_toLast_of_reach`: the place reached is the first from `n` on that takes the key.

Nodes have an induction of their own, from the last place of a spelling backwards
(`Node.next_induction`).
-/

namespace KanaTyping

/-- The optional steps at the front of a list and the step after them: those that are in reach of
one key. -/
def Step.inReach : List Step → List Step
  | [] => []
  | s :: ss => s :: if s.optional then inReach ss else []

/-- A step is in reach over optional steps. -/
theorem Step.mem_inReach {gap rest : List Step} {t : Step} (h : ∀ s ∈ gap, s.optional = true) :
    t ∈ inReach (gap ++ t :: rest) := by
  induction gap with
  | nil => exact List.mem_cons_self
  | cons s gap ih =>
      rw [List.forall_mem_cons] at h
      rw [List.cons_append, inReach, if_pos h.1]
      exact List.mem_cons_of_mem _ (ih h.2)

theorem Atom.shown_mem_keys (a : Atom) : a.shown ∈ a.keys := by
  cases a <;> exact List.mem_cons_self

theorem Spelling.steps_injective : Function.Injective Spelling.steps := by
  rintro ⟨s, ss⟩ ⟨t, ts⟩ h
  cases h
  rfl

namespace Node

variable {n m : Node} {gap : List Step} {key : Char}

theorem accepts_iff : n.accepts key = true ↔ key ∈ n.step.atom.keys :=
  List.contains_iff_mem

theorem accepts_shown (n : Node) : n.accepts n.shown = true :=
  accepts_iff.mpr n.step.atom.shown_mem_keys

theorem restOptional_eq_false_iff :
    n.restOptional = false ↔ ∃ s ∈ n.remaining, s.optional = false := by
  simp [restOptional, List.all_eq_false]

/-- `m` is the place that comes after the steps `gap` from `n` on. -/
structure Over (n : Node) (gap : List Step) (m : Node) : Prop where
  remaining : n.remaining = gap ++ m.remaining
  passed : m.passed = gap.reverse ++ n.passed

/-! ### Going on by one step -/

theorem next_eq_none_iff : n.next = none ↔ n.ahead = [] := by
  cases h : n.ahead <;> simp [next, h]

theorem next_eq_some_iff : n.next = some m ↔ Over n [n.step] m := by
  obtain ⟨passed, s, ahead⟩ := n
  obtain ⟨passed', t, ahead'⟩ := m
  cases ahead with
  | nil =>
      refine ⟨fun h => (nomatch h), fun h => ?_⟩
      have := h.remaining
      simp [remaining] at this
  | cons a as =>
      constructor
      · intro h
        cases h
        exact ⟨rfl, rfl⟩
      · rintro ⟨hr, hp⟩
        simp only [remaining, List.cons_append, List.nil_append, List.cons.injEq] at hr
        obtain ⟨-, rfl, rfl⟩ := hr
        subst hp
        rfl

theorem remaining_of_next (h : n.next = some m) : n.ahead = m.remaining := by
  have := (next_eq_some_iff.mp h).remaining
  simpa [remaining] using this

/-- From the last place of a spelling back to the first. -/
@[elab_as_elim]
theorem next_induction {motive : Node → Prop}
    (last : ∀ n, n.next = none → motive n)
    (more : ∀ n m, n.next = some m → motive m → motive n) (n : Node) : motive n := by
  obtain ⟨passed, s, ahead⟩ := n
  induction ahead generalizing passed s with
  | nil => exact last _ rfl
  | cons t ts ih => exact more _ _ rfl (ih (s :: passed) t)

/-! ### Gaps -/

theorem over_nil_iff : Over n [] m ↔ m = n := by
  constructor
  · rintro ⟨hr, hp⟩
    obtain ⟨passed, s, ahead⟩ := n
    obtain ⟨passed', t, ahead'⟩ := m
    simp only [remaining, List.nil_append, List.cons.injEq] at hr
    obtain ⟨rfl, rfl⟩ := hr
    subst hp
    rfl
  · rintro rfl
    exact ⟨rfl, rfl⟩

theorem Over.trans {a b c : Node} {g h : List Step} (h₁ : Over a g b) (h₂ : Over b h c) :
    Over a (g ++ h) c where
  remaining := by rw [h₁.remaining, h₂.remaining, List.append_assoc]
  passed := by rw [h₂.passed, h₁.passed, List.reverse_append, List.append_assoc]

/-- A gap is empty, or begins with the step of the place and goes on from the next place. -/
theorem over_cons_iff {s : Step} :
    Over n (s :: gap) m ↔ s = n.step ∧ ∃ o, n.next = some o ∧ Over o gap m := by
  constructor
  · rintro ⟨hr, hp⟩
    simp only [remaining, List.cons_append, List.cons.injEq] at hr
    obtain ⟨rfl, ha⟩ := hr
    refine ⟨rfl, ?_⟩
    cases hn : n.next with
    | none =>
        rw [next_eq_none_iff.mp hn] at ha
        simp at ha
    | some o =>
        refine ⟨o, rfl, ?_, ?_⟩
        · rw [← remaining_of_next hn, ha, remaining]
        · rw [hp, (next_eq_some_iff.mp hn).passed]
          simp
  · rintro ⟨rfl, o, hn, ho⟩
    exact (next_eq_some_iff.mp hn).trans ho

/-- The steps of a spelling after a gap make a place. -/
theorem over_of_remaining {t : Step} {rest : List Step} (h : n.remaining = gap ++ t :: rest) :
    Over n gap ⟨gap.reverse ++ n.passed, t, rest⟩ :=
  ⟨h, rfl⟩

/-- Where a step must still be typed, there is a first such step. -/
theorem exists_over_required (h : n.restOptional = false) :
    ∃ gap m, Over n gap m ∧ (∀ s ∈ gap, s.optional = true) ∧ m.optional = false := by
  have hsome : (n.remaining.find? (!·.optional)).isSome = true := by
    simpa using restOptional_eq_false_iff.mp h
  obtain ⟨t, ht⟩ := Option.isSome_iff_exists.mp hsome
  obtain ⟨hreq, gap, rest, hsplit, hskip⟩ := List.find?_eq_some_iff_append.mp ht
  have hreq' : t.optional = false := by simpa using hreq
  exact ⟨gap, _, over_of_remaining hsplit, by simpa using hskip, hreq'⟩

/-! ### The places to the last -/

theorem toLast_of_next_none (h : n.next = none) : n.toLast = [n] := by
  obtain ⟨passed, s, ahead⟩ := n
  cases ahead with
  | nil => rfl
  | cons t ts => cases h

theorem toLast_of_next (h : n.next = some m) : n.toLast = n :: m.toLast := by
  obtain ⟨passed, s, ahead⟩ := n
  cases ahead with
  | nil => cases h
  | cons t ts => cases h; rfl

theorem mem_toLast_iff : m ∈ n.toLast ↔ ∃ gap, Over n gap m := by
  induction n using next_induction with
  | last n hn =>
      rw [toLast_of_next_none hn, List.mem_singleton]
      constructor
      · rintro rfl
        exact ⟨[], over_nil_iff.mpr rfl⟩
      · rintro ⟨_ | ⟨s, gap⟩, h⟩
        · exact over_nil_iff.mp h
        · obtain ⟨-, o, ho, -⟩ := over_cons_iff.mp h
          rw [hn] at ho
          cases ho
  | more n o ho ih =>
      rw [toLast_of_next ho, List.mem_cons, ih]
      constructor
      · rintro (rfl | ⟨gap, h⟩)
        · exact ⟨[], over_nil_iff.mpr rfl⟩
        · exact ⟨n.step :: gap, over_cons_iff.mpr ⟨rfl, o, ho, h⟩⟩
      · rintro ⟨_ | ⟨s, gap⟩, h⟩
        · exact .inl (over_nil_iff.mp h)
        · obtain ⟨-, o', ho', h⟩ := over_cons_iff.mp h
          rw [ho] at ho'
          cases ho'
          exact .inr ⟨gap, h⟩

theorem Over.mem_toLast {o : Node} (h : Over n gap m) (ho : n ∈ o.toLast) : m ∈ o.toLast := by
  obtain ⟨g, hg⟩ := mem_toLast_iff.mp ho
  exact mem_toLast_iff.mpr ⟨g ++ gap, hg.trans h⟩

/-- The step of a place of a spelling is one of its steps. -/
theorem step_mem_of_mem_toLast {s : Spelling} (h : n ∈ s.head.toLast) : n.step ∈ s.steps := by
  obtain ⟨gap, hgap⟩ := mem_toLast_iff.mp h
  have hs : s.steps = gap ++ n.remaining := hgap.remaining
  rw [hs]
  exact List.mem_append_right _ List.mem_cons_self

/-! ### The spelling of a place -/

theorem steps_spelling (n : Node) : n.spelling.steps = n.passed.reverse ++ n.remaining := by
  rw [spelling]
  split
  · next h => rw [h]; rfl
  · next s ss h => rw [h]; rfl

/-- Going on in a spelling does not leave it. -/
theorem Over.spelling_eq (h : Over n gap m) : m.spelling = n.spelling := by
  apply Spelling.steps_injective
  rw [steps_spelling, steps_spelling, h.remaining, h.passed, List.reverse_append,
    List.reverse_reverse, List.append_assoc]

/-- A place is told by its spelling and the number of its step. -/
theorem eq_of_spelling_index (hs : n.spelling = m.spelling) (hi : n.index = m.index) : n = m := by
  have hsteps : n.passed.reverse ++ n.remaining = m.passed.reverse ++ m.remaining := by
    rw [← steps_spelling, ← steps_spelling, hs]
  have hlength : n.passed.reverse.length = m.passed.reverse.length := by
    rw [List.length_reverse, List.length_reverse]
    exact hi
  obtain ⟨hpassed, hremaining⟩ := List.append_inj hsteps hlength
  have hp : n.passed = m.passed := List.reverse_inj.mp hpassed
  exact over_nil_iff.mp ⟨hremaining.symm, hp⟩

/-! ### The place a key reaches -/

theorem reach_of_next_none (h : n.next = none) :
    n.reach key = if n.accepts key then some n else none := by
  obtain ⟨passed, s, ahead⟩ := n
  cases ahead with
  | nil => rfl
  | cons t ts => cases h

theorem reach_of_next (h : n.next = some m) :
    n.reach key =
      if n.accepts key then some n else if n.optional then m.reach key else none := by
  obtain ⟨passed, s, ahead⟩ := n
  cases ahead with
  | nil => cases h
  | cons t ts => cases h; rfl

/-- A key reaches the place after a gap of optional steps that do not take it. -/
theorem reach_eq_some_iff :
    n.reach key = some m ↔
      ∃ gap, Over n gap m ∧ (∀ s ∈ gap, s.optional = true ∧ s.atom.accepts key = false) ∧
        m.accepts key = true := by
  induction n using next_induction with
  | last n hn =>
      rw [reach_of_next_none hn]
      constructor
      · intro h
        split at h
        · next hk => cases h; exact ⟨[], over_nil_iff.mpr rfl, by simp, hk⟩
        · cases h
      · rintro ⟨_ | ⟨s, gap⟩, h, -, hk⟩
        · cases over_nil_iff.mp h
          rw [if_pos hk]
        · obtain ⟨-, o, ho, -⟩ := over_cons_iff.mp h
          rw [hn] at ho
          cases ho
  | more n o ho ih =>
      rw [reach_of_next ho]
      constructor
      · intro h
        split at h
        · next hk => cases h; exact ⟨[], over_nil_iff.mpr rfl, by simp, hk⟩
        · next hk =>
          split at h
          · next hopt =>
            -- the key passes over this step, and the gap begins with it
            obtain ⟨gap, hg, hs, hm⟩ := ih.mp h
            refine ⟨n.step :: gap, over_cons_iff.mpr ⟨rfl, o, ho, hg⟩, ?_, hm⟩
            exact List.forall_mem_cons.mpr ⟨⟨hopt, Bool.eq_false_iff.mpr hk⟩, hs⟩
          · cases h
      · rintro ⟨_ | ⟨s, gap⟩, h, hs, hk⟩
        · cases over_nil_iff.mp h
          rw [if_pos hk]
        · obtain ⟨rfl, o', ho', hg⟩ := over_cons_iff.mp h
          rw [ho] at ho'
          cases ho'
          obtain ⟨⟨hopt, hno⟩, hs⟩ := List.forall_mem_cons.mp hs
          have hno' : ¬ n.accepts key = true := Bool.eq_false_iff.mp hno
          rw [if_neg hno', if_pos (show n.optional = true from hopt)]
          exact ih.mpr ⟨gap, hg, hs, hk⟩

/-- A key reaches no place when no step in reach takes it. -/
theorem reach_eq_none_iff :
    n.reach key = none ↔ ∀ s ∈ Step.inReach n.remaining, s.atom.accepts key = false := by
  induction n using next_induction with
  | last n hn =>
      rw [reach_of_next_none hn, remaining, next_eq_none_iff.mp hn]
      by_cases hk : n.step.atom.accepts key = true <;> simp [Step.inReach, accepts, hk]
  | more n o ho ih =>
      rw [reach_of_next ho, remaining, Step.inReach, remaining_of_next ho]
      by_cases hk : n.step.atom.accepts key = true
      · simp [accepts, hk]
      · by_cases hopt : n.step.optional = true
        · simpa [accepts, optional, hk, hopt] using ih
        · simp [accepts, optional, hk, hopt]

/-- The place reached is the first that takes the key. -/
theorem find?_toLast_of_reach (h : n.reach key = some m) :
    n.toLast.find? (·.accepts key) = some m := by
  induction n using next_induction with
  | last n hn =>
      rw [reach_of_next_none hn] at h
      rw [toLast_of_next_none hn]
      split at h
      · next hk => simpa only [List.find?_cons, hk] using h
      · cases h
  | more n o ho ih =>
      rw [reach_of_next ho] at h
      rw [toLast_of_next ho]
      split at h
      · next hk => simpa only [List.find?_cons, hk] using h
      · next hk =>
        simp only [List.find?_cons, Bool.eq_false_iff.mpr hk]
        split at h
        · exact ih h
        · cases h

end Node

end KanaTyping
