import KanaTyping.Proofs.Kana.Sources
import KanaTyping.Proofs.Spelling.Places

/-!
# Spellings — keys that two steps would take

At an optional step a key may be meant for that step or for one after it, and the step takes it.
Two conditions on a spelling say that this takes nothing away from the later step: for the key
shown for the next step that is not optional (`HintsApart`), and for every key of every step in
reach (`Unambiguous`).

* `Node.reach_over`: over optional steps that do not take it, a key reaches the step that does.
* `HintsApart.reach` and `Unambiguous.reach` have it under the two conditions.
* `Unambiguous.hintsApart`: the second is the stronger.
* `unambiguous_builtin`: the built-in spellings meet it.
-/

namespace KanaTyping

/-- Over optional steps that do not take it, a key reaches the step that does. -/
theorem Node.reach_over {n m : Node} {gap : List Step} {key : Char} (h : Over n gap m)
    (skip : ∀ s ∈ gap, s.optional = true) (hm : m.accepts key = true)
    (apart : ∀ o ∈ n.toLast, o.optional = true → ∀ g, (∀ s ∈ g, s.optional = true) →
      o.ahead = g ++ m.remaining → o.accepts key = false) :
    n.reach key = some m := by
  refine reach_eq_some_iff.mpr ⟨gap, h, fun t ht => ⟨skip t ht, ?_⟩, hm⟩
  obtain ⟨g, g', rfl⟩ := List.append_of_mem ht
  -- the place of `t`, which has only optional steps between it and `m`
  have ho : Over n g ⟨g.reverse ++ n.passed, t, g' ++ m.remaining⟩ :=
    over_of_remaining (by rw [h.remaining, List.append_assoc, List.cons_append])
  exact apart _ (mem_toLast_iff.mpr ⟨g, ho⟩) (skip t ht) g'
    (fun s hs => skip s (List.mem_append_right _ (List.mem_cons_of_mem _ hs))) rfl

namespace Spelling

variable {s : Spelling} {n m : Node} {gap : List Step}

/-- No optional step takes the key shown for the next step that is not optional. -/
def HintsApart (s : Spelling) : Prop :=
  ∀ n ∈ s.head.toLast, n.optional = true →
    ∀ t ∈ n.ahead.find? (!·.optional), n.accepts t.atom.shown = false

/-- No optional step takes a key of a later step with only optional steps between the two. -/
def Unambiguous (s : Spelling) : Prop :=
  ∀ n ∈ s.head.toLast, n.optional = true →
    ∀ t ∈ Step.inReach n.ahead, ∀ c ∈ t.atom.keys, n.accepts c = false

instance : DecidablePred HintsApart := fun s =>
  inferInstanceAs <| Decidable <| ∀ n ∈ s.head.toLast, n.optional = true →
    ∀ t ∈ n.ahead.find? (!·.optional), n.accepts t.atom.shown = false

instance (n : Node) (t : Step) : Decidable (∀ c ∈ t.atom.keys, n.accepts c = false) :=
  List.decidableBAll _ _

instance : DecidablePred Unambiguous := fun s =>
  inferInstanceAs <| Decidable <| ∀ n ∈ s.head.toLast, n.optional = true →
    ∀ t ∈ Step.inReach n.ahead, ∀ c ∈ t.atom.keys, n.accepts c = false

theorem unambiguous_ofKey (c : Char) : (ofKey c).Unambiguous := by
  intro n hn hopt
  cases List.mem_singleton.mp hn
  cases hopt

/-- The key shown for the first step that is not optional reaches it. -/
theorem HintsApart.reach (hs : s.HintsApart) (hn : n ∈ s.head.toLast) (h : n.Over gap m)
    (skip : ∀ t ∈ gap, t.optional = true) (hm : m.optional = false) :
    n.reach m.shown = some m := by
  refine Node.reach_over h skip m.accepts_shown fun o ho hopt g hg ha => ?_
  obtain ⟨g', hg'⟩ := Node.mem_toLast_iff.mp ho
  have hfind : o.ahead.find? (!·.optional) = some m.step :=
    List.find?_eq_some_iff_append.mpr
      ⟨by simpa [Node.optional] using hm, g, m.ahead, ha, by simpa using hg⟩
  exact hs o (hg'.mem_toLast hn) hopt m.step hfind

/-- Every key of a step reaches it over optional steps. -/
theorem Unambiguous.reach (hs : s.Unambiguous) (hn : n ∈ s.head.toLast) (h : n.Over gap m)
    (skip : ∀ t ∈ gap, t.optional = true) {key : Char} (hm : m.accepts key = true) :
    n.reach key = some m := by
  refine Node.reach_over h skip hm fun o ho hopt g hg ha => ?_
  obtain ⟨g', hg'⟩ := Node.mem_toLast_iff.mp ho
  exact hs o (hg'.mem_toLast hn) hopt m.step (ha ▸ Step.mem_inReach hg) key
    (Node.accepts_iff.mp hm)

/-- A key that a place of a spelling takes counts as itself. -/
theorem Keyed.toUpper_of_accepts (hs : s.Keyed) (hn : n ∈ s.head.toLast) {key : Char}
    (hkey : n.accepts key = true) : key.toUpper = key :=
  hs.toUpper_eq (Node.step_mem_of_mem_toLast hn) (Node.accepts_iff.mp hkey)

theorem Unambiguous.hintsApart (hs : s.Unambiguous) : s.HintsApart := by
  intro n hn hopt t ht
  obtain ⟨ht, g, rest, ha, hg⟩ := List.find?_eq_some_iff_append.mp ht
  exact hs n hn hopt t (ha ▸ Step.mem_inReach (by simpa using hg)) _ t.atom.shown_mem_keys

end Spelling

namespace Lexicon

/-- The built-in spellings are unambiguous. -/
theorem unambiguous_builtin : ∀ s ∈ builtin.spellings, s.Unambiguous := by
  have read : ∀ g ∈ Table.builtin.grammars, ∀ s ∈ (Spelling.parse g).toOption, s.Unambiguous := by
    decide +kernel
  intro s hs
  cases (drawsOn_of_ofTable ofTable_builtin).given s hs with
  | entry mem hread => exact read _ mem s (by rw [hread]; rfl)
  | latin => exact Spelling.unambiguous_ofKey _

end Lexicon

end KanaTyping
