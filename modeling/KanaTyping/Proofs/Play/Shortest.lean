import Mathlib.Order.Bounds.Defs
import KanaTyping.Proofs.Play.Due
import KanaTyping.Proofs.Play.Standing
import KanaTyping.Proofs.Spelling.Ambiguity

/-!
# Play — the fewest keys to the end of a line

No key takes more than one key off those remaining (`Coherent.remaining_le_press`), so a line is
not finished with fewer.  Where the spellings keep the keys of a hint apart from those of optional
steps, the first key due hits and leaves the others due (`Coherent.press_first`), so the keys of
the hint finish the line.

`remaining_isLeast` puts the two together: what remains is the least number of keys.
-/

namespace KanaTyping

namespace Progress

variable {x : Lexicon} {t : Table} {p : Progress}

/-! ### No fewer keys -/

theorem Coherent.remaining_le_press (h : Coherent x p) (key : Char) :
    p.remaining x ≤ (p.press x key).2.remaining x + 1 := by
  cases hs : (p.press x key).1 with
  | miss =>
      rw [press_of_miss hs]
      exact Nat.le_succ _
  | hit =>
      obtain ⟨n, m, hn, hm⟩ := exists_reach_of_hit hs
      have hone : (if m.optional then [] else [m.shown]).length ≤ 1 := by
        split <;> simp
      rw [h.remaining_eq, (h.press key).remaining_eq, (h.due_of_reach hn hm).2,
        List.length_append]
      omega

theorem Coherent.remaining_le_pressAll (h : Coherent x p) (keys : List Char) :
    p.remaining x ≤ (p.pressAll x keys).2.remaining x + keys.length := by
  induction keys generalizing p with
  | nil => exact Nat.le_refl _
  | cons key keys ih =>
      have hfirst := h.remaining_le_press key
      have hrest := ih (h.press key)
      simp only [pressAll_cons, List.length_cons]
      omega

/-- A line is finished with no fewer keys than remain. -/
theorem Coherent.remaining_le_length (h : Coherent x p) {keys : List Char}
    (hf : (p.pressAll x keys).2.finished = true) : p.remaining x ≤ keys.length := by
  have hco : Coherent x (p.pressAll x keys).2 := h.pressAll keys
  have hnil : (p.pressAll x keys).2.due x = [] :=
    hco.due_eq_nil_iff.mpr (Option.isNone_iff_eq_none.mp hf)
  have hle := h.remaining_le_pressAll keys
  rwa [hco.remaining_eq, hnil, List.length_nil, Nat.zero_add] at hle

/-! ### No more keys -/

/-- The node is a place of a spelling that the lexicon holds. -/
theorem Coherent.exists_spelling (h : Coherent x p) (hx : x.DrawsOn t) {n : Node}
    (hn : p.node = some n) : ∃ s ∈ x.spellings, s.Keyed ∧ n ∈ s.head.toLast := by
  obtain ⟨word, s, hword, hmem⟩ := h.known n hn
  have hs : s ∈ x.spellings := hx.mem_of_find hword
  exact ⟨s, hs, (hx.given s hs).keyed, hmem⟩

/-- The first key due hits, and leaves the others due. -/
theorem Coherent.press_first (h : Coherent x p) (hx : x.DrawsOn t)
    (apart : ∀ s ∈ x.spellings, s.HintsApart) {c : Char} {ks : List Char}
    (hd : p.due x = c :: ks) : (p.press x c).1 = .hit ∧ (p.press x c).2.due x = ks := by
  cases hn : p.node with
  | none =>
      rw [h.due_eq_nil_iff.mpr hn] at hd
      cases hd
  | some n =>
      -- `m` is the first step that is not optional, and the key shown for it reaches it
      obtain ⟨gap, m, hgap, hskip, hm⟩ := Node.exists_over_required (h.asks n hn)
      obtain ⟨s, hs, hkeyed, hmem⟩ := h.exists_spelling hx hn
      have hreach : n.reach m.shown = some m := (apart s hs).reach hmem hgap hskip hm
      rw [← hkeyed.toUpper_of_accepts (hgap.mem_toLast hmem) m.accepts_shown] at hreach
      obtain ⟨hhit, hdue⟩ := h.due_of_reach hn hreach
      rw [hd, if_neg (Bool.eq_false_iff.mp hm), List.singleton_append] at hdue
      cases hdue
      exact ⟨hhit, rfl⟩

/-- The keys due finish the line. -/
theorem Coherent.pressAll_due (h : Coherent x p) (hx : x.DrawsOn t)
    (apart : ∀ s ∈ x.spellings, s.HintsApart) {ks : List Char} (hd : p.due x = ks) :
    (∀ stroke ∈ (p.pressAll x ks).1, stroke = .hit) ∧ (p.pressAll x ks).2.finished = true := by
  induction ks generalizing p with
  | nil =>
      refine ⟨by simp [Progress.pressAll], ?_⟩
      exact Option.isNone_iff_eq_none.mpr (h.due_eq_nil_iff.mp hd)
  | cons c ks ih =>
      obtain ⟨hhit, hdue⟩ := h.press_first hx apart hd
      obtain ⟨hhits, hfin⟩ := ih (h.press c) hdue
      rw [pressAll_cons]
      exact ⟨List.forall_mem_cons.mpr ⟨hhit, hhits⟩, hfin⟩

/-- **What remains is the least number of keys.**  After any keys on a line, no run of fewer keys
finishes it.  If no optional step takes the key shown for the next step that is not optional, then
the keys of the hint all hit, finish the line and highlight all of it, so that their number is the
least with which the line can be finished.  The built-in spellings are of that kind. -/
theorem remaining_isLeast (hx : Lexicon.ofTable t = .ok x) (l : Lyric) (keys : List Char) :
    let p := ((start x l).pressAll x keys).2
    (∀ more, (p.pressAll x more).2.finished = true → p.remaining x ≤ more.length) ∧
      ((∀ s ∈ x.spellings, s.HintsApart) →
        let r := p.pressAll x ((p.hint x).keys x)
        (∀ stroke ∈ r.1, stroke = .hit) ∧ r.2.finished = true ∧
          r.2.highlighted = l.kana.length ∧
          IsLeast {n | ∃ more, more.length = n ∧ (p.pressAll x more).2.finished = true}
            (p.remaining x)) ∧
      Lexicon.ofTable Table.builtin = .ok .builtin ∧
      ∀ s ∈ Lexicon.builtin.spellings, s.HintsApart := by
  intro p
  have hp : Coherent x p := ((Reachable.start x l).pressAll keys).coherent
  have hstands : Stands x l p := (stands_restart x idle l).pressAll keys
  refine ⟨fun more hf => hp.remaining_le_length hf, fun apart => ?_, Lexicon.ofTable_builtin,
    fun s hs => (Lexicon.unambiguous_builtin s hs).hintsApart⟩
  intro r
  obtain ⟨hhits, hfin⟩ :=
    hp.pressAll_due (Lexicon.drawsOn_of_ofTable hx) apart hp.keys_hint.symm
  have hend := (hstands.pressAll ((p.hint x).keys x)).of_node_eq_none
    (Option.isNone_iff_eq_none.mp hfin)
  refine ⟨hhits, hfin, hend.2, ⟨_, rfl, hfin⟩, ?_⟩
  rintro n ⟨more, rfl, hf⟩
  exact hp.remaining_le_length hf

/-- On the line `しーん` with its first key typed, two more keys are the least. -/
theorem remaining_isLeast_sample :
    let p := ((start .sample (.ofPlain ['し', 'ー', 'ん'])).pressAll .sample ['s']).2
    IsLeast {n | ∃ more, more.length = n ∧ (p.pressAll .sample more).2.finished = true} 2 := by
  intro p
  have apart : ∀ s ∈ Lexicon.sample.spellings, s.HintsApart := by decide +kernel
  have hp : Coherent .sample p := ((Reachable.start _ _).pressAll _).coherent
  have hdue : p.due .sample = ['I', 'N'] := by decide +kernel
  have hleast :=
    ((remaining_isLeast Lexicon.ofTable_sample (.ofPlain ['し', 'ー', 'ん']) ['s']).2.1
      apart).2.2.2
  rwa [show (pressAll _ _ _).2 = p from rfl, hp.remaining_eq, hdue] at hleast

end Progress

end KanaTyping
