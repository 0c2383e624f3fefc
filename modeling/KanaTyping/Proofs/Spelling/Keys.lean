import KanaTyping.Spelling.Grammar

/-!
# Spellings — the keys that a grammar text can ask for

A grammar text names its keys by capital letters, digits and `-`, so that is all a spelling read
from one accepts (`keyed_of_parse`).  Such keys are left as they are when a keystroke is folded to
upper case (`Keyed.toUpper_eq`).
-/

namespace KanaTyping

/-- Key characters are no lower-case letters. -/
theorem toUpper_of_isKeyChar {c : Char} (h : isKeyChar c = true) : c.toUpper = c := by
  have below : c.val ≤ 'Z'.val := by
    rcases Bool.or_eq_true_iff.mp h with h | h
    · rcases Bool.or_eq_true_iff.mp h with h | h
      · have hupper : c.val ≥ 'A'.val ∧ c.val ≤ 'Z'.val := of_decide_eq_true h
        exact hupper.2
      · have hdigit : (decide (c.val ≥ '0'.val) && decide (c.val ≤ '9'.val)) = true := h
        exact UInt32.le_trans (of_decide_eq_true (Bool.and_eq_true_iff.mp hdigit).2) (by decide)
    · cases eq_of_beq h
      decide
  have hlow : ¬ (c.val ≥ 'a'.val ∧ c.val ≤ 'z'.val) := by
    intro hc
    exact absurd (UInt32.le_trans hc.1 below) (by decide)
  exact dif_neg hlow

/-- The step accepts key characters only. -/
def Step.Keyed (s : Step) : Prop :=
  ∀ c ∈ s.atom.keys, isKeyChar c = true

namespace Spelling

/-- All steps of the spelling accept key characters only. -/
def Keyed (s : Spelling) : Prop :=
  ∀ t ∈ s.steps, t.Keyed

/-- A key that a step accepts counts as itself. -/
theorem Keyed.toUpper_eq {s : Spelling} (h : s.Keyed) {t : Step} (ht : t ∈ s.steps) {c : Char}
    (hc : c ∈ t.atom.keys) : c.toUpper = c :=
  toUpper_of_isKeyChar (h t ht c hc)

theorem keyed_ofKey {c : Char} (h : isKeyChar c = true) : (ofKey c).Keyed := by
  simpa [Keyed, ofKey, steps, Step.Keyed, Atom.keys] using h

namespace Draft

/-- What has been read accepts key characters only. -/
def Keyed : Draft → Prop
  | steps done => ∀ t ∈ done, t.Keyed
  | set done _ keys => (∀ t ∈ done, t.Keyed) ∧ ∀ c ∈ keys, isKeyChar c = true

theorem Keyed.feed {d d' : Draft} {pos : Nat} {c : Char} (h : d.Keyed)
    (e : d.feed pos c = .ok d') : d'.Keyed := by
  cases d with
  | steps done =>
      simp only [Draft.feed] at e
      split at e
      · cases e
        exact ⟨h, by simp⟩
      split at e
      · split at e
        · next atom before =>
          cases e
          rw [Keyed, List.forall_mem_cons] at h
          exact List.forall_mem_cons.mpr ⟨h.1, h.2⟩
        · cases e
      split at e
      · next hk =>
        cases e
        refine List.forall_mem_cons.mpr ⟨fun k hk' => ?_, h⟩
        cases List.mem_singleton.mp hk'
        exact hk
      · cases e
  | set done start keys =>
      obtain ⟨hdone, hkeys⟩ := h
      simp only [Draft.feed] at e
      split at e
      · split at e
        · cases e
        · next k ks hrev =>
          cases e
          refine List.forall_mem_cons.mpr ⟨fun c hc => hkeys c ?_, hdone⟩
          rw [← List.mem_reverse, hrev]
          exact hc
      split at e
      · next hk =>
        cases e
        exact ⟨hdone, List.forall_mem_cons.mpr ⟨hk, hkeys⟩⟩
      · cases e

theorem Keyed.finish {d : Draft} {s : Spelling} (h : d.Keyed) (e : d.finish = .ok s) :
    s.Keyed := by
  cases d with
  | set done start keys => cases e
  | steps done =>
      simp only [Draft.finish] at e
      split at e
      · cases e
      · next t ts hrev =>
        cases e
        intro t' ht'
        refine h t' ?_
        rw [← List.mem_reverse, hrev]
        exact ht'

theorem Keyed.readAll {d : Draft} {s : Spelling} {pos : Nat} {cs : List Char} (h : d.Keyed)
    (e : d.readAll pos cs = .ok s) : s.Keyed := by
  induction cs generalizing d pos with
  | nil => exact h.finish e
  | cons c cs ih =>
      simp only [Draft.readAll] at e
      split at e
      · cases e
      · next d' hd => exact ih (h.feed hd) e

end Draft

/-- A spelling read from a grammar text accepts key characters only. -/
theorem keyed_of_parse {text : List Char} {s : Spelling} (h : parse text = .ok s) : s.Keyed :=
  Draft.Keyed.readAll (d := .steps []) (by simp [Draft.Keyed]) h

end Spelling

end KanaTyping
