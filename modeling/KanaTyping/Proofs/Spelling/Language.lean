import Mathlib.Computability.Language
import Mathlib.Data.List.DropRight
import KanaTyping.Proofs.Spelling.Places

/-!
# Spellings — the language of a spelling

A word of a spelling has one key of each of its steps, in order, and may leave optional ones out.
A unit is complete as soon as only optional steps are left of it, so the words that write it are
those of its steps up to the last one that is not optional.

* `Step.Word` and `Step.language`: the words of a list of steps.
* `nil_mem_language_iff` and `cons_mem_language_iff`: what words there are, by their first key.
-/

namespace KanaTyping

namespace Step

/-- A word of a list of steps: a key of each of them, but those left out, which are optional. -/
inductive Word : (ss : List Step) → (w : List Char) → Prop
  | nil : Word [] []
  | typed {s : Step} {ss : List Step} {c : Char} {w : List Char} (key : c ∈ s.atom.keys)
      (rest : Word ss w) : Word (s :: ss) (c :: w)
  | leftOut {s : Step} {ss : List Step} {w : List Char} (optional : s.optional = true)
      (rest : Word ss w) : Word (s :: ss) w

/-- The steps up to the last one that is not optional. -/
def toLastRequired (ss : List Step) : List Step :=
  ss.rdropWhile (·.optional)

/-- The words of a list of steps up to the last one that is not optional. -/
def language (ss : List Step) : Language Char :=
  {w | Word (toLastRequired ss) w}

variable {s : Step} {ss : List Step} {c : Char} {w : List Char}

theorem toLastRequired_of_optional (h : ∀ s ∈ ss, s.optional = true) : toLastRequired ss = [] :=
  List.rdropWhile_eq_nil_iff.mpr h

theorem toLastRequired_cons (h : ∃ t ∈ s :: ss, t.optional = false) :
    toLastRequired (s :: ss) = s :: toLastRequired ss := by
  simp only [toLastRequired, List.rdropWhile, List.reverse_cons, List.dropWhile_append]
  cases hd : ss.reverse.dropWhile (·.optional) with
  | cons t ts => simp
  | nil =>
      -- the steps after `s` are optional, so `s` itself is not
      obtain ⟨t, ht, hreq⟩ := h
      have hopt : ∀ t ∈ ss, t.optional = true := by
        simpa using List.dropWhile_eq_nil_iff.mp hd
      rcases List.mem_cons.mp ht with rfl | ht
      · simp [hreq]
      · rw [hopt t ht] at hreq
        cases hreq

theorem language_of_optional (h : ∀ s ∈ ss, s.optional = true) : language ss = 1 := by
  ext w
  rw [Language.mem_one]
  change Word (toLastRequired ss) w ↔ w = []
  rw [toLastRequired_of_optional h]
  constructor
  · intro hw
    cases hw
    rfl
  · rintro rfl
    exact .nil

theorem mem_language_cons (h : ∃ t ∈ s :: ss, t.optional = false) :
    w ∈ language (s :: ss) ↔ Word (s :: toLastRequired ss) w := by
  rw [← toLastRequired_cons h]
  rfl

/-- The empty word is one of optional steps alone. -/
theorem nil_mem_language_iff : [] ∈ language ss ↔ ∀ s ∈ ss, s.optional = true := by
  constructor
  · intro h
    induction ss with
    | nil => simp
    | cons s ss ih =>
        by_contra hnot
        have hreq : ∃ t ∈ s :: ss, t.optional = false := by
          simpa only [not_forall, exists_prop, Bool.not_eq_true] using hnot
        cases (mem_language_cons hreq).mp h with
        | leftOut hopt hrest => exact hnot (List.forall_mem_cons.mpr ⟨hopt, ih hrest⟩)
  · intro h
    rw [language_of_optional h]
    exact Language.nil_mem_one

/-- The first key of a word is one of a step with only optional steps before it, and the word goes
on with those after it. -/
theorem cons_mem_language_iff (h : ∃ s ∈ ss, s.optional = false) :
    c :: w ∈ language ss ↔ ∃ gap t rest, ss = gap ++ t :: rest ∧
      (∀ s ∈ gap, s.optional = true) ∧ c ∈ t.atom.keys ∧ w ∈ language rest := by
  induction ss with
  | nil => simp at h
  | cons s ss ih =>
      have hlater : s.optional = true → ∃ t ∈ ss, t.optional = false := by
        intro hopt
        obtain ⟨t, ht, hreq⟩ := h
        rcases List.mem_cons.mp ht with rfl | ht
        · rw [hopt] at hreq
          cases hreq
        · exact ⟨t, ht, hreq⟩
      rw [mem_language_cons h]
      constructor
      · intro hw
        cases hw with
        | typed key rest => exact ⟨[], s, ss, rfl, by simp, key, rest⟩
        | leftOut hopt rest =>
            obtain ⟨gap, t, later, rfl, hgap, hc, hw⟩ := (ih (hlater hopt)).mp rest
            exact ⟨s :: gap, t, later, rfl, List.forall_mem_cons.mpr ⟨hopt, hgap⟩, hc, hw⟩
      · rintro ⟨_ | ⟨a, gap⟩, t, rest, e, hgap, hc, hw⟩
        · cases e
          exact .typed hc hw
        · cases e
          obtain ⟨hopt, hgap⟩ := List.forall_mem_cons.mp hgap
          exact .leftOut hopt ((ih (hlater hopt)).mpr ⟨gap, t, rest, rfl, hgap, hc, hw⟩)

end Step

theorem Node.nil_notMem_language {n : Node} (h : n.restOptional = false) :
    [] ∉ Step.language n.remaining := by
  intro hnil
  obtain ⟨s, hs, hreq⟩ := restOptional_eq_false_iff.mp h
  rw [Step.nil_mem_language_iff.mp hnil s hs] at hreq
  cases hreq

/-- The first key of a word from a place on is one of a place after it, with only optional steps
between the two. -/
theorem Node.cons_mem_language_iff {n : Node} {c : Char} {w : List Char}
    (h : n.restOptional = false) :
    c :: w ∈ Step.language n.remaining ↔ ∃ gap m, Over n gap m ∧
      (∀ s ∈ gap, s.optional = true) ∧ m.accepts c = true ∧ w ∈ Step.language m.ahead := by
  rw [Step.cons_mem_language_iff (restOptional_eq_false_iff.mp h)]
  constructor
  · rintro ⟨gap, t, rest, hsplit, hskip, hkey, hw⟩
    exact ⟨gap, _, over_of_remaining hsplit, hskip, accepts_iff.mpr hkey, hw⟩
  · rintro ⟨gap, m, hgap, hskip, hkey, hw⟩
    exact ⟨gap, m.step, m.ahead, hgap.remaining, hskip, accepts_iff.mp hkey, hw⟩

/-- The words that write a unit with the spelling `s`. -/
def Spelling.language (s : Spelling) : Language Char :=
  Step.language s.steps

end KanaTyping
