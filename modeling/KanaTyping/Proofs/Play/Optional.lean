import KanaTyping.Proofs.Play.Due
import KanaTyping.Proofs.Play.Stops

/-!
# Play — optional steps, typed or left out

At an optional step a player may type the key of the step or go on without it.  The key of the step
moves on by one step; without it the next key passes over the step.  The two ways meet with the next
key that the step does not take.

* `press_over`: over an optional step that does not take it, a key does what it does behind it.
* `press_optional`: the key of an optional step moves on to the next step and changes nothing else.
* `pressAll_optional`: of a run of optional steps any may be typed and the others left out
  (`Step.TypedBy`), and the key after them hits and leads to the same state.

`optional_steps_leave_no_trace` has it of every state that a player can bring about.
-/

namespace KanaTyping

/-- The keys type some of the steps, in order, with the others left out: each key is typed at the
first step on its way that takes it. -/
inductive Step.TypedBy : (steps : List Step) → (keys : List Char) → Prop
  | done (ss : List Step) : TypedBy ss []
  | typed {s : Step} {ss : List Step} {key : Char} {keys : List Char}
      (own : s.atom.accepts key.toUpper = true) (rest : TypedBy ss keys) :
      TypedBy (s :: ss) (key :: keys)
  | leftOut {s : Step} {ss : List Step} {key : Char} {keys : List Char}
      (other : s.atom.accepts key.toUpper = false) (rest : TypedBy ss (key :: keys)) :
      TypedBy (s :: ss) (key :: keys)

/-- After an optional step there is another one, if a step must still be typed. -/
theorem Node.exists_next {n : Node} (asks : n.restOptional = false) (hopt : n.optional = true) :
    ∃ m, n.next = some m ∧ m.restOptional = false := by
  have hall : n.ahead.all (·.optional) = false := by
    have hopt' : n.step.optional = true := hopt
    simpa [restOptional, remaining, hopt'] using asks
  cases hm : n.next with
  | none => rw [next_eq_none_iff.mp hm] at hall; cases hall
  | some m => exact ⟨m, rfl, by rwa [restOptional, ← remaining_of_next hm]⟩

namespace Progress

variable {x : Lexicon} {p : Progress} {n m : Node} {skipped rest : List Step} {key : Char}
variable {keys : List Char}

/-- A key that an optional step does not take hits if it does behind the step, and then leads to
the same state. -/
theorem press_over (x : Lexicon) (hn : p.node = some n) (hm : n.next = some m)
    (hopt : n.optional = true) (other : n.accepts key.toUpper = false) :
    (({ p with node := some m } : Progress).press x key).1 = (p.press x key).1 ∧
      ((p.press x key).1 = .hit →
        ({ p with node := some m } : Progress).press x key = p.press x key) := by
  have hreach : n.reach key.toUpper = m.reach key.toUpper := by
    rw [Node.reach_of_next hm, if_neg (Bool.eq_false_iff.mp other), if_pos hopt]
  cases ho : m.reach key.toUpper with
  | none => simp [press, hn, hreach, ho]
  | some o =>
      -- the unit is completed from either step alike
      have hover := Node.next_eq_some_iff.mp hm
      have hsame := (SameUnit.setNode hn hover.spelling_eq).completeUnit_eq x
      simp [press, hn, hreach, ho, afterStep, hsame]

/-- The key of an optional step moves on to the next step. -/
theorem press_optional (x : Lexicon) (hn : p.node = some n) (hm : n.next = some m)
    (asks : m.restOptional = false) (own : n.accepts key.toUpper = true) :
    p.press x key = (.hit, { p with node := some m }) := by
  have hreach : n.reach key.toUpper = some n :=
    Node.reach_eq_some_iff.mpr ⟨[], Node.over_nil_iff.mpr rfl, by simp, own⟩
  simp [press, hn, hreach, afterStep, hm, asks]

/-- Some of a run of optional steps typed and the others left out, a key that none of them takes
hits if it does without them, and leads to the same state. -/
theorem pressAll_optional (x : Lexicon) (hn : p.node = some n) (asks : n.restOptional = false)
    (hsplit : n.remaining = skipped ++ rest) (skip : ∀ s ∈ skipped, s.optional = true)
    (apart : ∀ s ∈ skipped, s.atom.accepts key.toUpper = false)
    (typed : Step.TypedBy skipped keys) (hit : (p.press x key).1 = .hit) :
    p.pressAll x (keys ++ [key]) =
      (List.replicate (keys.length + 1) .hit, (p.press x key).2) := by
  induction skipped generalizing p n keys with
  | nil => cases typed; simp [pressAll, hit]
  | cons s ss ih =>
      obtain ⟨rfl, hahead⟩ : n.step = s ∧ n.ahead = ss ++ rest := List.cons_eq_cons.mp hsplit
      rw [List.forall_mem_cons] at skip apart
      -- behind the first of the steps the key does what it does before it
      obtain ⟨m, hm, hasks⟩ := Node.exists_next asks skip.1
      obtain ⟨hstroke, hsame⟩ := press_over x hn hm skip.1 apart.1
      have hm' : m.remaining = ss ++ rest := by rw [← Node.remaining_of_next hm, hahead]
      have run {keys : List Char} (typed : Step.TypedBy ss keys) :
          ({ p with node := some m } : Progress).pressAll x (keys ++ [key]) =
            (List.replicate (keys.length + 1) .hit, (p.press x key).2) := by
        rw [← hsame hit]
        exact ih rfl hasks hm' skip.2 apart.2 typed (hstroke.trans hit)
      cases typed with
      | done => simp [pressAll, hit]
      | typed own typed =>
          rw [List.cons_append, pressAll_cons, press_optional x hn hm hasks own, run typed]
          rfl
      | @leftOut _ _ other keys hother typed =>
          -- the first key passes over the step too
          have hrun := run typed
          rw [List.cons_append, pressAll_cons] at hrun ⊢
          obtain ⟨hfirst, hmeet⟩ := press_over x hn hm skip.1 hother
          have hhit : (p.press x other).1 = .hit :=
            hfirst.symm.trans (List.cons_eq_cons.mp (congrArg Prod.fst hrun)).1
          rw [← hmeet hhit, hrun]

/-- **Optional steps leave no trace.**  In every state that a player can bring about: at an optional
step, a key of this step and then a key that is not one but hits are both hits, and lead to the same
state as the second key alone.  So of several optional steps in a row any may be typed and the
others left out: a key that none of them takes, and that hits without them, hits after them and
leads to the same state. -/
theorem optional_steps_leave_no_trace (h : Reachable x p) (hn : p.node = some n) :
    (n.optional = true → ∀ own key, n.accepts own.toUpper = true → n.accepts key.toUpper = false →
        (p.press x key).1 = .hit →
        p.pressAll x [own, key] = ([.hit, .hit], (p.press x key).2)) ∧
      ∀ skipped rest, n.remaining = skipped ++ rest → (∀ s ∈ skipped, s.optional = true) →
        ∀ keys key, Step.TypedBy skipped keys →
          (∀ s ∈ skipped, s.atom.accepts key.toUpper = false) → (p.press x key).1 = .hit →
          p.pressAll x (keys ++ [key]) =
            (List.replicate (keys.length + 1) .hit, (p.press x key).2) := by
  have asks : n.restOptional = false := h.coherent.asks n hn
  refine ⟨fun hopt own key hown hkey hit => ?_,
    fun skipped rest hsplit skip keys key typed apart hit =>
      pressAll_optional x hn asks hsplit skip apart typed hit⟩
  -- the step alone is such a run
  have hsplit : n.remaining = [n.step] ++ n.ahead := rfl
  exact pressAll_optional x hn asks hsplit (List.forall_mem_singleton.mpr hopt)
    (List.forall_mem_singleton.mpr hkey) (.typed hown (.done [])) hit

end Progress

/-- A table with a spelling of two optional steps in a row. -/
def Table.twofold : Table where
  single := [one 'し' "SH?Y?I"]
  pair := []
  triple := []

/-- The lexicon of that table. -/
def Lexicon.twofold : Lexicon :=
  match ofTable Table.twofold with
  | .ok x => x
  | .error _ => empty

/-- Behind the `S` of `SH?Y?I` any of the two optional steps may be typed before the `I`. -/
theorem Progress.optional_steps_leave_no_trace_twofold :
    let p := ((start .twofold (.ofPlain ['し', 'し'])).pressAll .twofold ['s']).2
    let q := (p.press .twofold 'i').2
    Reachable .twofold p ∧ q.resolved = 1 ∧ q.finished = false ∧
      p.pressAll .twofold ['h', 'y'] = ([.hit, .hit], (p.press .twofold 'y').2) ∧
      ∀ keys ∈ [[], ['h'], ['y'], ['h', 'y']],
        p.pressAll .twofold (keys ++ ['i']) = (List.replicate (keys.length + 1) .hit, q) := by
  intro p q
  have hp : Reachable .twofold p := (Reachable.start _ _).pressAll _
  have hn : p.node = some ⟨[⟨.key 'S', false⟩], ⟨.key 'H', true⟩,
      [⟨.key 'Y', true⟩, ⟨.key 'I', false⟩]⟩ := by decide +kernel
  have hi : (p.press .twofold 'i').1 = .hit := by decide +kernel
  obtain ⟨one, run⟩ := optional_steps_leave_no_trace hp hn
  refine ⟨hp, by decide +kernel, by decide +kernel,
    one rfl 'h' 'y' (by decide) (by decide) (by decide +kernel), fun keys hkeys => ?_⟩
  refine run [⟨.key 'H', true⟩, ⟨.key 'Y', true⟩] [⟨.key 'I', false⟩] rfl (by decide) keys 'i' ?_
    (by decide) hi
  -- `h` is the key of the first step and `y` that of the second, with the first left out or not
  have hy : Step.TypedBy [⟨.key 'Y', true⟩] ['y'] := .typed (by decide) (.done [])
  simp only [List.mem_cons, List.not_mem_nil, or_false] at hkeys
  rcases hkeys with rfl | rfl | rfl | rfl
  · exact .done _
  · exact .typed (by decide) (.done _)
  · exact .leftOut (by decide) hy
  · exact .typed (by decide) hy

end KanaTyping
